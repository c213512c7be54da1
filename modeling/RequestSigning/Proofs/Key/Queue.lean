import RequestSigning.Proofs.Key.Run

/-!
# The queue of a signing-key cache

Keys are kept by slot and slots in a queue, and the two are changed one after the other.  `Holds`
says that they are in step with a queue that knows no keys: `holds_after` keeps it over one step,
and `holds_afterAll`: behind every run the cache holds the slots of `queueOf`.
-/

namespace RequestSigning

/-- What a step does to a queue of at most `capacity` slots.  A slot that is there already stays
where it is; a new one goes to the end, when the oldest ones have made room for it. -/
def CacheStep.queued (capacity : Nat) (queue : List Slot) : CacheStep → List Slot
  | .ask x =>
    if x.slot ∈ queue then queue
    else queue.drop (queue.length + 1 - capacity) ++ [x.slot]
  | .clear => []

/-- The queue behind a run that starts without slots. -/
def queueOf (capacity : Nat) (steps : List CacheStep) : List Slot :=
  steps.foldl (CacheStep.queued capacity) []

namespace KeyCache

/-- The cache behind a run. -/
def afterAll (c : KeyCache) (steps : List CacheStep) : KeyCache := steps.foldl after c

/-- The slots of the cache are those of `queue`, in its order and each of them once, and there is
one key for each. -/
structure Holds (c : KeyCache) (queue : List Slot) : Prop where
  order : c.order = queue
  slots : c.entries.map (·.1) = queue
  nodup : queue.Nodup
  bounded : queue.length ≤ c.capacity
  room : 0 < c.capacity

theorem Holds.size_eq {c : KeyCache} {queue : List Slot} (holds : c.Holds queue) :
    c.size = queue.length := by
  rw [size, ← holds.slots, List.length_map]

theorem holds_new (capacity : Nat) : (new capacity).Holds [] where
  order := rfl
  slots := rfl
  nodup := .nil
  bounded := Nat.zero_le _
  room := by
    simp only [new]
    omega

/-! ### One step -/

theorem get?_isSome_iff {c : KeyCache} {s : Slot} :
    (c.get? s).isSome ↔ s ∈ c.entries.map (·.1) := by
  simp [get?, List.find?_isSome]

/-- Dropping a slot by its name drops the first key, because no other key has that slot. -/
theorem filter_oldest {oldest : Slot} {key : Bytes} {entries : List (Slot × Bytes)}
    (alone : oldest ∉ entries.map (·.1)) :
    ((oldest, key) :: entries).filter (·.1 ≠ oldest) = entries := by
  have others : entries.filter (·.1 ≠ oldest) = entries := by
    apply List.filter_eq_self.mpr
    intro entry member
    have different : entry.1 ≠ oldest := fun same => alone (same ▸ List.mem_map_of_mem member)
    exact decide_eq_true different
  rw [List.filter_cons_of_neg (by simp), others]

theorem makeRoom_eq_drop (capacity : Nat) {order : List Slot} {entries : List (Slot × Bytes)}
    (slots : entries.map (·.1) = order) (nodup : order.Nodup) :
    makeRoom capacity order entries =
      (order.drop (order.length + 1 - capacity), entries.drop (order.length + 1 - capacity)) := by
  induction order generalizing entries with
  | nil =>
    obtain rfl := List.map_eq_nil_iff.mp slots
    simp [makeRoom]
  | cons oldest order ih =>
    obtain ⟨⟨slot, key⟩, entries, rfl, same, later⟩ := List.map_eq_cons_iff.mp slots
    obtain rfl : slot = oldest := same
    obtain ⟨alone, nodup⟩ := List.nodup_cons.mp nodup
    rw [makeRoom]
    split
    · rename_i full
      have one : (slot :: order).length + 1 - capacity = order.length + 1 - capacity + 1 := by
        rw [List.length_cons]
        omega
      rw [filter_oldest (by rwa [later]), ih later nodup, one, List.drop_succ_cons,
        List.drop_succ_cons]
    · have none : (slot :: order).length + 1 - capacity = 0 := by
        rw [List.length_cons]
        omega
      rw [none, List.drop_zero, List.drop_zero]

theorem holds_insert {c : KeyCache} {queue : List Slot} {s : Slot} (holds : c.Holds queue)
    (absent : s ∉ queue) (key : Bytes) :
    (c.insert s key).Holds (queue.drop (queue.length + 1 - c.capacity) ++ [s]) := by
  obtain ⟨rfl, slots, nodup, bounded, room⟩ := holds
  have made := makeRoom_eq_drop c.capacity slots nodup
  refine ⟨?_, ?_, ?_, ?_, room⟩
  · simp only [insert, made]
  · simp only [insert, made, List.map_append, List.map_drop, slots, List.map_cons, List.map_nil]
  · have left := nodup.sublist (List.drop_sublist (c.order.length + 1 - c.capacity) c.order)
    refine List.nodup_append.mpr ⟨left, List.pairwise_singleton _ s, ?_⟩
    rintro old member new last rfl
    rw [List.mem_singleton.mp last] at member
    exact absent (List.mem_of_mem_drop member)
  · simp only [insert, List.length_append, List.length_drop, List.length_singleton]
    omega

theorem capacity_after (c : KeyCache) (step : CacheStep) : (c.after step).capacity = c.capacity := by
  cases step with
  | clear => rfl
  | ask x =>
    cases found : c.get? x.slot with
    | some key => rw [(ask_hit found).2]
    | none =>
      rw [(ask_miss found).2]
      rfl

theorem holds_after {c : KeyCache} {queue : List Slot} (holds : c.Holds queue) (step : CacheStep) :
    (c.after step).Holds (step.queued c.capacity queue) := by
  cases step with
  | clear => exact ⟨rfl, rfl, .nil, Nat.zero_le _, holds.room⟩
  | ask x =>
    have present : (c.get? x.slot).isSome ↔ x.slot ∈ queue := by
      rw [get?_isSome_iff, holds.slots]
    rw [CacheStep.queued]
    cases found : c.get? x.slot with
    | some key =>
      rw [found] at present
      rw [if_pos (present.mp rfl), (ask_hit found).2]
      exact holds
    | none =>
      have absent : x.slot ∉ queue := by
        rw [← present, found]
        exact Bool.false_ne_true
      rw [if_neg absent, (ask_miss found).2]
      exact holds_insert holds absent x.key

/-! ### Every run -/

theorem holds_foldl {c : KeyCache} {queue : List Slot} (holds : c.Holds queue)
    (steps : List CacheStep) :
    (c.afterAll steps).Holds (steps.foldl (CacheStep.queued c.capacity) queue) ∧
      (c.afterAll steps).capacity = c.capacity := by
  induction steps generalizing c queue with
  | nil => exact ⟨holds, rfl⟩
  | cons step rest ih =>
    have later := ih (holds_after holds step)
    rw [capacity_after] at later
    exact later

/-- A slot of the queue goes with a call only if the call has a new slot, the queue is full and no
slot is older. -/
theorem pushedOut_iff {capacity : Nat} {queue : List Slot} (nodup : queue.Nodup)
    (bounded : queue.length ≤ capacity) {s : Slot} (present : s ∈ queue) (x : KeyCall) :
    s ∉ CacheStep.queued capacity queue (.ask x) ↔
      x.slot ∉ queue ∧ queue.length = capacity ∧ queue.head? = some s := by
  rw [CacheStep.queued]
  by_cases known : x.slot ∈ queue
  · simp [known, present]
  rw [if_neg known]
  have different : s ≠ x.slot := fun same => known (same ▸ present)
  obtain full | free : queue.length = capacity ∨ queue.length < capacity := by omega
  · have one : queue.length + 1 - capacity = 1 := by omega
    obtain ⟨oldest, newer, rfl⟩ := List.exists_cons_of_ne_nil (List.ne_nil_of_mem present)
    obtain ⟨alone, _⟩ := List.nodup_cons.mp nodup
    rw [one, List.drop_one, List.tail_cons]
    simp only [List.mem_append, List.mem_singleton, different, or_false, known, not_false_eq_true,
      full, List.head?_cons, Option.some.injEq, true_and]
    constructor
    · intro gone
      obtain rfl | newer := List.mem_cons.mp present
      · rfl
      · exact absurd newer gone
    · rintro rfl
      exact alone
  · have none : queue.length + 1 - capacity = 0 := by omega
    rw [none, List.drop_zero]
    simp [present, known, Nat.ne_of_lt free]

/-- Behind every run the cache is in step with a queue, first in and first out, and within its
capacity.  Two days never share a slot, and a call pushes a slot out only if its own is new, the
cache is full and no slot is older. -/
theorem holds_afterAll (requested : Nat) (steps : List CacheStep) :
    let c := (new requested).afterAll steps
    let queue := queueOf (max requested 1) steps
    c.capacity = max requested 1 ∧ c.Holds queue ∧ c.size = queue.length ∧
      (∀ x y : KeyCall, x.time.days ≠ y.time.days → x.slot ≠ y.slot) ∧
      ∀ s ∈ queue, ∀ x : KeyCall, (s ∉ (c.after (.ask x)).order ↔
        x.slot ∉ queue ∧ queue.length = max requested 1 ∧ queue.head? = some s) := by
  intro c queue
  obtain ⟨holds, capacity⟩ : c.Holds queue ∧ c.capacity = max requested 1 :=
    holds_foldl (holds_new requested) steps
  refine ⟨capacity, holds, holds.size_eq, fun x y days same => days (congrArg Slot.day same), ?_⟩
  intro s present x
  have next := holds_after holds (.ask x)
  rw [capacity] at next
  rw [next.order]
  exact pushedOut_iff holds.nodup (capacity ▸ holds.bounded) present x

end KeyCache

end RequestSigning

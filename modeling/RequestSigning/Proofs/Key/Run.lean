import RequestSigning.Proofs.Key.Slot

/-!
# Runs of a signing-key cache

Every entry of a cache is the key of a call that was made before, under the slot of that call.  So
an answer is the key of a call with the same slot, and `answers_eq_keys_iff` says when that is the
key of the call itself.
-/

namespace RequestSigning

/-- What happens to a cache. -/
inductive CacheStep
  | ask (x : KeyCall)
  | clear

namespace KeyCache

/-- The key that a call is answered with. -/
def answer (c : KeyCache) (x : KeyCall) : Bytes :=
  (c.signingKey x.secret x.time x.region x.service).1

/-- The cache behind a step. -/
def after (c : KeyCache) : CacheStep → KeyCache
  | .ask x => (c.signingKey x.secret x.time x.region x.service).2.1
  | .clear => c.clear

/-- The calls of a run with their answers. -/
def answers (c : KeyCache) : List CacheStep → List (KeyCall × Bytes)
  | [] => []
  | .ask x :: steps => (x, c.answer x) :: answers (c.after (.ask x)) steps
  | .clear :: steps => answers (c.after .clear) steps

/-! ### Where answers come from -/

/-- Every entry is the key of one of the calls. -/
def HoldsKeysOf (c : KeyCache) (calls : KeyCall → Prop) : Prop :=
  ∀ entry ∈ c.entries, ∃ x, calls x ∧ entry = (x.slot, x.key)

theorem get?_mem {c : KeyCache} {s : Slot} {key : Bytes} (found : c.get? s = some key) :
    (s, key) ∈ c.entries := by
  obtain ⟨⟨slot, value⟩, entry, rfl⟩ := Option.map_eq_some_iff.mp found
  have same := List.find?_some entry
  obtain rfl : slot = s := of_decide_eq_true same
  exact List.mem_of_find?_eq_some entry

theorem makeRoom_subset (capacity : Nat) (order : List Slot) (entries : List (Slot × Bytes)) :
    ∀ entry ∈ (makeRoom capacity order entries).2, entry ∈ entries := by
  induction order generalizing entries with
  | nil => exact fun entry member => member
  | cons oldest order ih =>
    rw [makeRoom]
    split
    · intro entry member
      exact (List.mem_filter.mp (ih _ entry member)).1
    · exact fun entry member => member

theorem mem_insert {c : KeyCache} {s : Slot} {key : Bytes} {entry : Slot × Bytes}
    (member : entry ∈ (c.insert s key).entries) : entry ∈ c.entries ∨ entry = (s, key) := by
  simp only [insert, List.mem_append, List.mem_singleton] at member
  obtain before | new := member
  · exact .inl (makeRoom_subset c.capacity c.order c.entries entry before)
  · exact .inr new

variable {c : KeyCache} {calls : KeyCall → Prop}

theorem ask_hit {x : KeyCall} {key : Bytes} (found : c.get? x.slot = some key) :
    c.answer x = key ∧ c.after (.ask x) = c := by
  rw [KeyCall.slot] at found
  simp only [answer, after, signingKey, found, and_self]

theorem ask_miss {x : KeyCall} (absent : c.get? x.slot = none) :
    c.answer x = x.key ∧ c.after (.ask x) = c.insert x.slot x.key := by
  rw [KeyCall.slot] at absent
  simp only [answer, after, signingKey, absent, KeyCall.key, KeyCall.slot, and_self]

/-- A call that is repeated is answered with the same key. -/
theorem get?_after_ask (c : KeyCache) (x : KeyCall) :
    (c.after (.ask x)).get? x.slot = some (c.answer x) := by
  cases found : c.get? x.slot with
  | some key =>
    obtain ⟨answered, unchanged⟩ := ask_hit found
    rw [unchanged, answered, found]
  | none =>
    obtain ⟨answered, inserted⟩ := ask_miss found
    rw [inserted, answered]
    have absent : ∀ entry ∈ (makeRoom c.capacity c.order c.entries).2, ¬entry.1 = x.slot := by
      intro entry member same
      have before := makeRoom_subset c.capacity c.order c.entries entry member
      have never := List.find?_eq_none.mp (Option.map_eq_none_iff.mp found) entry before
      exact never (decide_eq_true same)
    have passed : (makeRoom c.capacity c.order c.entries).2.find? (·.1 = x.slot) = none := by
      simpa using absent
    simp only [get?, insert, List.find?_append, passed, Option.none_or]
    simp

theorem holdsKeysOf_after (holds : c.HoldsKeysOf calls) {step : CacheStep}
    (asked : ∀ x, step = .ask x → calls x) : (c.after step).HoldsKeysOf calls := by
  cases step with
  | clear => exact fun entry member => absurd member List.not_mem_nil
  | ask x =>
    cases found : c.get? x.slot with
    | some key => rwa [(ask_hit found).2]
    | none =>
      rw [(ask_miss found).2]
      intro entry member
      obtain before | rfl := mem_insert member
      · exact holds entry before
      · exact ⟨x, asked x rfl, rfl⟩

/-- An answer is the key of a call with the same slot. -/
theorem answer_eq_key (holds : c.HoldsKeysOf calls) {x : KeyCall} (asked : calls x) :
    ∃ y, calls y ∧ y.slot = x.slot ∧ c.answer x = y.key := by
  cases found : c.get? x.slot with
  | none => exact ⟨x, asked, rfl, (ask_miss found).1⟩
  | some key =>
    obtain ⟨y, earlier, same⟩ := holds _ (get?_mem found)
    obtain ⟨slot, rfl⟩ := Prod.mk.inj same
    exact ⟨y, earlier, slot.symm, (ask_hit found).1⟩

theorem answers_eq_key (holds : c.HoldsKeysOf calls) {steps : List CacheStep}
    (asked : ∀ x, .ask x ∈ steps → calls x) :
    ∀ answered ∈ c.answers steps,
      calls answered.1 ∧ ∃ y, calls y ∧ y.slot = answered.1.slot ∧ answered.2 = y.key := by
  induction steps generalizing c with
  | nil => exact fun answered member => absurd member List.not_mem_nil
  | cons step rest ih =>
    have next := holdsKeysOf_after holds fun x same => asked x (same ▸ List.mem_cons_self)
    have later := ih next fun x member => asked x (List.mem_cons_of_mem step member)
    cases step with
    | clear => exact later
    | ask x =>
      have first := asked x List.mem_cons_self
      intro answered member
      obtain rfl | member := List.mem_cons.mp member
      · exact ⟨first, answer_eq_key holds first⟩
      · exact later answered member

theorem holdsKeysOf_new (capacity : Nat) (calls : KeyCall → Prop) :
    (new capacity).HoldsKeysOf calls :=
  fun _ member => absurd member List.not_mem_nil

/-! ### When answers are right -/

/-- The second of two calls with one slot is answered with the key of the first. -/
theorem answers_of_shared (capacity : Nat) {x y : KeyCall} (shared : x.slot = y.slot) :
    (new capacity).answers [.ask x, .ask y] = [(x, x.key), (y, x.key)] := by
  have first : (new capacity).answer x = x.key := (ask_miss rfl).1
  have second : ((new capacity).after (.ask x)).answer y = x.key := by
    rw [← first]
    exact (ask_hit (shared ▸ get?_after_ask (new capacity) x)).1
  simp only [answers, first, second]

/-- Two calls for different regions and services that make the same text. -/
def Confusable (x y : KeyCall) : Prop :=
  x.secret = y.secret ∧ x.time.days = y.time.days ∧ x.region ≠ y.region ∧
    x.region ++ "-" ++ x.service = y.region ++ "-" ++ y.service

/-- Runs of calls with secrets that their digests tell apart are answered right unless two of the
calls can be confused and have different keys. -/
theorem answers_eq_keys_iff {calls : KeyCall → Prop}
    (apart : ∀ x y, calls x → calls y →
      Sha256.digest (Utf8.encode x.secret) = Sha256.digest (Utf8.encode y.secret) →
        x.secret = y.secret) :
    (∀ capacity steps, (∀ x, .ask x ∈ steps → calls x) →
        ∀ answered ∈ (new capacity).answers steps, answered.2 = answered.1.key) ↔
      ∀ x y, calls x → calls y → Confusable x y → x.key = y.key := by
  constructor
  · intro right x y askedX askedY confusable
    obtain ⟨secret, day, _, names⟩ := confusable
    have shared : x.slot = y.slot := KeyCall.slot_eq_iff.mpr ⟨by rw [secret], names, day⟩
    have member : (y, x.key) ∈ (new 1).answers [.ask x, .ask y] := by
      rw [answers_of_shared 1 shared]
      exact List.mem_cons_of_mem _ List.mem_cons_self
    have asked : ∀ z, CacheStep.ask z ∈ [.ask x, .ask y] → calls z := by
      intro z member
      simp only [List.mem_cons, CacheStep.ask.injEq, List.not_mem_nil, or_false] at member
      obtain rfl | rfl := member
      · exact askedX
      · exact askedY
    exact right 1 _ asked _ member
  · intro agree capacity steps asked answered member
    obtain ⟨made, y, earlier, shared, same⟩ :=
      answers_eq_key (holdsKeysOf_new capacity calls) asked answered member
    obtain ⟨digests, names, day⟩ := KeyCall.slot_eq_iff.mp shared
    have secret := apart y answered.1 earlier made digests
    rw [same]
    by_cases region : y.region = answered.1.region
    · have service : y.service = answered.1.service := by
        rw [region] at names
        exact (String.append_right_inj _).mp names
      exact KeyCall.key_eq secret day region service
    · exact agree y answered.1 earlier made ⟨secret, day, region, names⟩

/-- The calls for one service with one secret. -/
def forStore (x : KeyCall) : Prop := x.secret = "secret" ∧ x.service = "s3"

theorem answers_eq_keys_forStore :
    (∀ x y, forStore x → forStore y →
      Sha256.digest (Utf8.encode x.secret) = Sha256.digest (Utf8.encode y.secret) →
        x.secret = y.secret) ∧
    ∀ capacity steps, (∀ x, .ask x ∈ steps → forStore x) →
      ∀ answered ∈ (new capacity).answers steps, answered.2 = answered.1.key := by
  have apart : ∀ x y, forStore x → forStore y →
      Sha256.digest (Utf8.encode x.secret) = Sha256.digest (Utf8.encode y.secret) →
        x.secret = y.secret := by
    intro x y inStore yInStore _
    rw [inStore.1, yInStore.1]
  refine ⟨apart, (answers_eq_keys_iff apart).mpr ?_⟩
  rintro x y ⟨_, service⟩ ⟨_, same⟩ ⟨_, _, regions, names⟩
  rw [service, same, String.append_left_inj, String.append_left_inj] at names
  exact absurd names regions

end KeyCache

end RequestSigning

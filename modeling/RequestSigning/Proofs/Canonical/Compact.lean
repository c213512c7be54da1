import Mathlib.Data.List.Chain
import RequestSigning.Proofs.Canonical.Fields

/-!
# Runs and compacted values

What counts in a value are its maximal runs of octets that are no whitespace.  `compact` leaves these
with one space between neighbours.  So `compact_eq_iff`: values with the same runs, and no others, are
compacted alike; and `compact_eq_self_iff`: a value stays as it is exactly if it is compact.
-/

namespace RequestSigning.Canonical

/-- Tab, line feed, form feed, carriage return and space. -/
def whitespace : List UInt8 := [0x09, 0x0A, 0x0C, 0x0D, 0x20]

theorem isSpace_iff {b : UInt8} : isSpace b = true ↔ b ∈ whitespace := by
  simp [isSpace, whitespace, or_assoc]

theorem isSpace_eq_false_iff {b : UInt8} : isSpace b = false ↔ b ∉ whitespace := by
  rw [← isSpace_iff, Bool.not_eq_true]

/-! ### Maximal runs -/

variable {bs rest before run after : Bytes} {b : UInt8} {start : Nat}

/-- Octets without whitespace that reach as far as they can to both sides. -/
structure IsRun (before run after : Bytes) : Prop where
  filled : run ≠ []
  plain : ∀ b ∈ run, b ∉ whitespace
  first : ∀ b ∈ before.getLast?, b ∈ whitespace
  last : ∀ b ∈ after.head?, b ∈ whitespace

/-- A run that stands in a value behind so many octets. -/
def IsRunAt (bs : Bytes) (start : Nat) (run : Bytes) : Prop :=
  ∃ before after, bs = before ++ run ++ after ∧ before.length = start ∧ IsRun before run after

def runAt (bs : Bytes) (start : Nat) : Bytes := (bs.drop start).takeWhile (· ∉ whitespace)

/-- Whether a run begins at a place, with nothing or whitespace before it. -/
def begins (bs : Bytes) (start : Nat) : Bool :=
  runAt bs start ≠ [] && (bs.take start).getLast?.all (· ∈ whitespace)

/-- The maximal runs, each with the place where it begins. -/
def runs (bs : Bytes) : List (Nat × Bytes) :=
  ((List.range bs.length).filter (begins bs)).map fun start => (start, runAt bs start)

theorem plain_of_mem_runAt (member : b ∈ runAt bs start) : b ∉ whitespace := by
  have kept := List.mem_takeWhile_imp member
  exact of_decide_eq_true kept

theorem runAt_zero_ne_nil (filled : bs ≠ []) (first : ∀ b ∈ bs.head?, b ∉ whitespace) :
    runAt bs 0 ≠ [] := by
  cases bs with
  | nil => exact absurd rfl filled
  | cons b rest => simp [runAt, first b rfl]

theorem IsRun.runAt_eq (isRun : IsRun before run after) :
    runAt (before ++ run ++ after) before.length = run := by
  have inside : ∀ b ∈ run, decide (b ∉ whitespace) = true := fun b member =>
    decide_eq_true (isRun.plain b member)
  have ends : after.takeWhile (· ∉ whitespace) = [] := by
    cases after with
    | nil => rfl
    | cons b rest =>
      have white := isRun.last b rfl
      exact List.takeWhile_cons_of_neg (by simpa using white)
  rw [runAt, List.append_assoc, List.drop_left, List.takeWhile_append_of_pos inside, ends,
    List.append_nil]

theorem begins_iff : begins bs start = true ↔
    runAt bs start ≠ [] ∧ ∀ b ∈ (bs.take start).getLast?, b ∈ whitespace := by
  simp [begins, Option.all_eq_true]

theorem mem_runs_iff : (start, run) ∈ runs bs ↔ IsRunAt bs start run := by
  constructor
  · intro member
    obtain ⟨place, among, same⟩ := List.mem_map.mp member
    obtain ⟨rfl, rfl⟩ := Prod.mk.inj same
    obtain ⟨inside, begun⟩ := List.mem_filter.mp among
    obtain ⟨filled, first⟩ := begins_iff.mp begun
    refine ⟨bs.take place, (bs.drop place).dropWhile (· ∉ whitespace), ?_, ?_, filled,
      fun _ => plain_of_mem_runAt, first, ?_⟩
    · rw [runAt, List.append_assoc, List.takeWhile_append_dropWhile, List.take_append_drop]
    · exact List.length_take_of_le (List.mem_range.mp inside).le
    · intro b next
      have stops := List.head?_dropWhile_not (· ∉ whitespace) (bs.drop place)
      rw [next] at stops
      simpa using stops
  · rintro ⟨before, after, rfl, rfl, isRun⟩
    have inside : before.length < (before ++ run ++ after).length := by
      have positive := List.length_pos_iff.mpr isRun.filled
      simp only [List.length_append]
      omega
    have begun : begins (before ++ run ++ after) before.length = true := by
      rw [begins_iff, isRun.runAt_eq, List.append_assoc, List.take_left]
      exact ⟨isRun.filled, isRun.first⟩
    exact List.mem_map.mpr ⟨before.length,
      List.mem_filter.mpr ⟨List.mem_range.mpr inside, begun⟩, by rw [isRun.runAt_eq]⟩

theorem isRun_of_mem_runs (member : run ∈ (runs bs).map (·.2)) :
    ∃ before after, IsRun before run after := by
  obtain ⟨⟨start, run⟩, among, rfl⟩ := List.mem_map.mp member
  obtain ⟨before, after, _, _, isRun⟩ := mem_runs_iff.mp among
  exact ⟨before, after, isRun⟩

theorem ne_nil_of_mem_runs (member : run ∈ (runs bs).map (·.2)) : run ≠ [] := by
  obtain ⟨_, _, isRun⟩ := isRun_of_mem_runs member
  exact isRun.filled

theorem plain_of_mem_runs (member : run ∈ (runs bs).map (·.2)) : ∀ b ∈ run, b ∉ whitespace := by
  obtain ⟨_, _, isRun⟩ := isRun_of_mem_runs member
  exact isRun.plain

/-- All maximal runs of a value, from left to right. -/
structure MaximalRuns (bs : Bytes) (runs : List (Nat × Bytes)) : Prop where
  mem_iff : ∀ start run, (start, run) ∈ runs ↔ IsRunAt bs start run
  ordered : runs.Pairwise fun l m => l.1 < m.1

theorem maximalRuns_runs (bs : Bytes) : MaximalRuns bs (runs bs) where
  mem_iff _ _ := mem_runs_iff
  ordered := List.pairwise_map.mpr (List.pairwise_lt_range.sublist List.filter_sublist)

/-! ### Runs and pieces -/

/-- The runs that begin behind the first octet. -/
def laterRuns : Bytes → List Bytes
  | [] => []
  | b :: rest =>
    ((List.range rest.length).filter fun start => begins (b :: rest) (start + 1)).map (runAt rest)

theorem map_snd_runs (bs : Bytes) :
    (runs bs).map (·.2) = [runAt bs 0].filter (· ≠ []) ++ laterRuns bs := by
  cases bs with
  | nil => rfl
  | cons b rest =>
    have first : begins (b :: rest) 0 = decide (runAt (b :: rest) 0 ≠ []) := by simp [begins]
    have shifted : (fun start => runAt (b :: rest) (start + 1)) = runAt rest := rfl
    rw [runs, List.length_cons, List.range_succ_eq_map, List.map_map, List.filter_cons, first,
      List.filter_map]
    by_cases filled : runAt (b :: rest) 0 ≠ [] <;>
      simp [filled, laterRuns, Function.comp_def, shifted]

theorem laterRuns_of_white (white : b ∈ whitespace) :
    laterRuns (b :: rest) = (runs rest).map (·.2) := by
  have begun : ∀ start, begins (b :: rest) (start + 1) = begins rest start := by
    intro start
    rw [begins, begins, List.take_succ_cons, List.getLast?_cons]
    cases (rest.take start).getLast? <;> simp [white, runAt]
  rw [laterRuns, runs, List.map_map, List.filter_congr fun start _ => begun start]
  rfl

theorem laterRuns_of_plain (plain : b ∉ whitespace) : laterRuns (b :: rest) = laterRuns rest := by
  cases rest with
  | nil => rfl
  | cons c rest =>
    -- The run at the front has begun already where the second octet stands.
    have first : begins (b :: c :: rest) 1 = false := by simp [begins, plain]
    have begun : ∀ start, begins (b :: c :: rest) (start + 2) = begins (c :: rest) (start + 1) := by
      intro start
      simp [begins, List.getLast?_cons_cons, runAt]
    rw [laterRuns, laterRuns, List.length_cons, List.range_succ_eq_map, List.filter_cons,
      Nat.zero_add, first, List.filter_map]
    simp [Function.comp_def, begun, runAt]

/-- The first piece is the run at the front, if there is one, and the other runs are the pieces
behind it, but for empty ones. -/
theorem splitWhen_isSpace (bs : Bytes) :
    ∃ pieces, Bytes.splitWhen isSpace bs = runAt bs 0 :: pieces ∧
      pieces.filter (· ≠ []) = laterRuns bs := by
  induction bs with
  | nil => exact ⟨[], rfl, rfl⟩
  | cons b rest ih =>
    obtain ⟨pieces, split, later⟩ := ih
    -- Whitespace closes an empty piece in front; any other octet goes into the first piece.
    by_cases white : b ∈ whitespace
    · refine ⟨runAt rest 0 :: pieces, ?_, ?_⟩
      · rw [Bytes.splitWhen, if_pos (isSpace_iff.mpr white), split]
        simp [runAt, white]
      · rw [laterRuns_of_white white, map_snd_runs, ← later, ← List.filter_append,
          List.singleton_append]
    · refine ⟨pieces, ?_, by rw [laterRuns_of_plain white, later]⟩
      rw [Bytes.splitWhen, isSpace_eq_false_iff.mpr white, split]
      simp [runAt, white]

theorem compact_eq_join (bs : Bytes) : compact bs = Bytes.join 0x20 ((runs bs).map (·.2)) := by
  obtain ⟨pieces, split, later⟩ := splitWhen_isSpace bs
  rw [compact, split, map_snd_runs, ← later, ← List.filter_append, List.singleton_append]

/-! ### Values that are compact -/

/-- No whitespace at either end, none beside other whitespace, and none but the space. -/
structure IsCompact (bs : Bytes) : Prop where
  first : ∀ b ∈ bs.head?, b ∉ whitespace
  last : ∀ b ∈ bs.getLast?, b ∉ whitespace
  apart : bs.IsChain fun b c => b ∉ whitespace ∨ c ∉ whitespace
  spaces : ∀ b ∈ bs, b ∈ whitespace → b = 0x20

theorem isCompact_of_plain (plain : ∀ b ∈ bs, b ∉ whitespace) : IsCompact bs where
  first b front := plain b (List.mem_of_mem_head? front)
  last b back := plain b (List.mem_of_mem_getLast? back)
  apart := (List.pairwise_of_forall_mem_list fun b member _ _ => .inl (plain b member)).isChain
  spaces b member white := absurd white (plain b member)

theorem IsCompact.append_space (left : IsCompact bs) (right : IsCompact rest) (filled : bs ≠ [])
    (restFilled : rest ≠ []) : IsCompact (bs ++ 0x20 :: rest) where
  first b front := by
    rw [List.head?_append_of_ne_nil _ filled] at front
    exact left.first b front
  last b back := by
    rw [List.getLast?_append_of_ne_nil _ (List.cons_ne_nil _ _), ← List.singleton_append,
      List.getLast?_append_of_ne_nil _ restFilled] at back
    exact right.last b back
  apart := by
    rw [List.isChain_append, List.isChain_cons]
    exact ⟨left.apart, ⟨fun b front => .inr (right.first b front), right.apart⟩,
      fun b back _ _ => .inl (left.last b back)⟩
  spaces b member white := by
    obtain inside | rfl | behind := (List.mem_append.mp member).imp_right List.mem_cons.mp
    · exact left.spaces b inside white
    · rfl
    · exact right.spaces b behind white

theorem isCompact_join {pieces : List Bytes} (filled : ∀ piece ∈ pieces, piece ≠ [])
    (plain : ∀ piece ∈ pieces, ∀ b ∈ piece, b ∉ whitespace) :
    IsCompact (Bytes.join 0x20 pieces) := by
  induction pieces with
  | nil => exact isCompact_of_plain fun _ member => absurd member List.not_mem_nil
  | cons piece later ih =>
    obtain ⟨pieceFilled, laterFilled⟩ := List.forall_mem_cons.mp filled
    obtain ⟨piecePlain, laterPlain⟩ := List.forall_mem_cons.mp plain
    by_cases single : later = []
    · subst single
      exact isCompact_of_plain piecePlain
    · rw [Bytes.join_cons single]
      exact (isCompact_of_plain piecePlain).append_space (ih laterFilled laterPlain) pieceFilled
        fun empty => single (Bytes.join_eq_nil laterFilled empty)

theorem isCompact_compact (bs : Bytes) : IsCompact (compact bs) := by
  rw [compact_eq_join]
  exact isCompact_join (fun _ => ne_nil_of_mem_runs) fun _ => plain_of_mem_runs

theorem nil_not_mem_tail_splitWhen (last : ∀ b ∈ bs.getLast?, b ∉ whitespace)
    (apart : bs.IsChain fun b c => b ∉ whitespace ∨ c ∉ whitespace) :
    [] ∉ (Bytes.splitWhen isSpace bs).tail := by
  induction bs with
  | nil => exact List.not_mem_nil
  | cons b rest ih =>
    obtain ⟨next, apart⟩ := List.isChain_cons.mp apart
    have ends : ∀ c ∈ rest.getLast?, c ∉ whitespace := by
      intro c back
      apply last
      rw [List.getLast?_cons, back]
      rfl
    have later := ih ends apart
    obtain ⟨pieces, split, _⟩ := splitWhen_isSpace rest
    rw [split] at later
    by_cases white : b ∈ whitespace
    -- Whitespace is not the last octet, and what follows it is none: so the next piece is filled.
    · have filled : rest ≠ [] := by
        rintro rfl
        exact last b rfl white
      have front := runAt_zero_ne_nil filled fun c there =>
        (next c there).resolve_left fun plain => plain white
      rw [Bytes.splitWhen, if_pos (isSpace_iff.mpr white), split]
      exact List.not_mem_cons_of_ne_of_not_mem front.symm later
    · rw [Bytes.splitWhen, isSpace_eq_false_iff.mpr white, split]
      exact later

theorem IsCompact.compact_eq (isCompact : IsCompact bs) : compact bs = bs := by
  by_cases empty : bs = []
  · subst empty
    rfl
  · have filled : [] ∉ Bytes.splitWhen isSpace bs := by
      obtain ⟨pieces, split, _⟩ := splitWhen_isSpace bs
      have later := nil_not_mem_tail_splitWhen isCompact.last isCompact.apart
      rw [split] at later ⊢
      have front := runAt_zero_ne_nil empty isCompact.first
      exact List.not_mem_cons_of_ne_of_not_mem front.symm later
    have kept : (Bytes.splitWhen isSpace bs).filter (· ≠ []) = Bytes.splitWhen isSpace bs :=
      List.filter_eq_self.mpr fun piece member =>
        decide_eq_true fun none => filled (none ▸ member)
    rw [compact, kept]
    exact Bytes.join_splitWhen fun b member white =>
      isCompact.spaces b member (isSpace_iff.mp white)

theorem compact_eq_self_iff : compact bs = bs ↔ IsCompact bs :=
  ⟨fun same => same ▸ isCompact_compact bs, IsCompact.compact_eq⟩

/-- Two values are compacted alike exactly if they have the same runs in the same order, whatever
stands between these.  The outcome is compact, and what is compact stays as it is. -/
theorem compact_eq_iff (v w : Bytes) :
    (compact v = compact w ↔ (runs v).map (·.2) = (runs w).map (·.2)) ∧
      MaximalRuns v (runs v) ∧ IsCompact (compact v) ∧ compact (compact v) = compact v ∧
      (compact v = v ↔ IsCompact v) := by
  refine ⟨⟨fun same => ?_, fun same => ?_⟩, maximalRuns_runs v, isCompact_compact v,
    (isCompact_compact v).compact_eq, compact_eq_self_iff⟩
  · rw [compact_eq_join, compact_eq_join] at same
    have clean : ∀ bs : Bytes, ∀ run ∈ (runs bs).map (·.2), 0x20 ∉ run :=
      fun _ _ member inside => plain_of_mem_runs member 0x20 inside (by decide)
    exact Bytes.join_inj (fun _ => ne_nil_of_mem_runs) (fun _ => ne_nil_of_mem_runs) (clean v)
      (clean w) same
  · rw [compact_eq_join, compact_eq_join, same]

example : runs [0x09, 0x61, 0x62, 0x20, 0x0A, 0x63, 0x0D] = [(1, [0x61, 0x62]), (5, [0x63])] ∧
    compact [0x09, 0x61, 0x62, 0x20, 0x0A, 0x63, 0x0D] = [0x61, 0x62, 0x20, 0x63] := by decide

end RequestSigning.Canonical

import Mathlib.Data.List.TakeWhile
import RequestSigning.Bytes

/-!
# Octets and pieces

`forall_octet`: what holds of the numbers below 256 holds of every octet, so that such a fact can be
decided.  `splitWhen_join` and `cut_append`: the two cuts find the pieces that were put together, so
that pieces without the separator are determined by what they are put together to.  `join_splitWhen`:
pieces are put together to what was split.
-/

namespace RequestSigning.Bytes

theorem forall_octet {P : UInt8 → Prop} (holds : ∀ n < 256, P (UInt8.ofNat n)) (b : UInt8) : P b := by
  rw [← UInt8.ofNat_toNat (x := b)]
  exact holds b.toNat b.toNat_lt

/-! ### Pieces between separators -/

variable {sep : UInt8} {piece other rest later : Bytes} {pieces others : List Bytes}

theorem splitWhen_of_not_mem (clean : sep ∉ piece) : splitWhen (· == sep) piece = [piece] := by
  induction piece with
  | nil => rfl
  | cons b bs ih =>
    have first := List.ne_of_not_mem_cons clean
    have later := List.not_mem_of_not_mem_cons clean
    rw [splitWhen, if_neg (by simpa using Ne.symm first), ih later]

theorem splitWhen_append (clean : sep ∉ piece) :
    splitWhen (· == sep) (piece ++ sep :: rest) = piece :: splitWhen (· == sep) rest := by
  induction piece with
  | nil => rw [List.nil_append, splitWhen, if_pos (by simp)]
  | cons b bs ih =>
    have first := List.ne_of_not_mem_cons clean
    have later := List.not_mem_of_not_mem_cons clean
    rw [List.cons_append, splitWhen, if_neg (by simpa using Ne.symm first), ih later]

theorem join_cons (present : pieces ≠ []) :
    join sep (piece :: pieces) = piece ++ sep :: join sep pieces := by
  rw [join]
  exact present

theorem join_cons_cons (b : UInt8) :
    join sep ((b :: piece) :: pieces) = b :: join sep (piece :: pieces) := by
  cases pieces with
  | nil => rfl
  | cons next later => rfl

theorem splitWhen_join (present : pieces ≠ []) (clean : ∀ piece ∈ pieces, sep ∉ piece) :
    splitWhen (· == sep) (join sep pieces) = pieces := by
  induction pieces with
  | nil => exact absurd rfl present
  | cons piece later ih =>
    have first := clean piece List.mem_cons_self
    cases later with
    | nil => exact splitWhen_of_not_mem first
    | cons next rest =>
      rw [join_cons (List.cons_ne_nil _ _), splitWhen_append first,
        ih (List.cons_ne_nil _ _) fun x member => clean x (List.mem_cons_of_mem piece member)]

/-- Where nothing but `sep` separates, the pieces are put together to the whole again. -/
theorem join_splitWhen {p : UInt8 → Bool} (only : ∀ b ∈ rest, p b = true → b = sep) :
    join sep (splitWhen p rest) = rest := by
  induction rest with
  | nil => rfl
  | cons b rest ih =>
    have later := ih fun x member => only x (List.mem_cons_of_mem b member)
    by_cases separates : p b = true
    · rw [splitWhen, if_pos separates, join_cons (splitWhen_ne_nil p rest), later,
        only b List.mem_cons_self separates, List.nil_append]
    · obtain ⟨piece, pieces, split⟩ := List.exists_cons_of_ne_nil (splitWhen_ne_nil p rest)
      rw [split] at later
      rw [splitWhen, if_neg separates, split]
      dsimp only
      rw [join_cons_cons, later]

theorem cut_of_not_mem (clean : sep ∉ piece) : cut sep piece = (piece, none) := by
  induction piece with
  | nil => rfl
  | cons b bs ih =>
    have first := List.ne_of_not_mem_cons clean
    have later := List.not_mem_of_not_mem_cons clean
    rw [cut, if_neg (Ne.symm first), ih later]

theorem cut_append (clean : sep ∉ piece) : cut sep (piece ++ sep :: rest) = (piece, some rest) := by
  induction piece with
  | nil => rw [List.nil_append, cut, if_pos rfl]
  | cons b bs ih =>
    have first := List.ne_of_not_mem_cons clean
    have later := List.not_mem_of_not_mem_cons clean
    rw [List.cons_append, cut, if_neg (Ne.symm first), ih later]

theorem takeWhile_of_not_mem (clean : sep ∉ piece) : piece.takeWhile (· ≠ sep) = piece :=
  List.takeWhile_eq_self_iff.mpr fun _ member =>
    decide_eq_true fun same => clean (same ▸ member)

theorem takeWhile_append (clean : sep ∉ piece) :
    (piece ++ sep :: rest).takeWhile (· ≠ sep) = piece := by
  have kept : ∀ x ∈ piece, decide (x ≠ sep) = true := fun x member =>
    decide_eq_true fun same => clean (same ▸ member)
  rw [List.takeWhile_append_of_pos kept]
  simp

theorem dropWhile_append (clean : sep ∉ piece) :
    (piece ++ sep :: rest).dropWhile (· ≠ sep) = sep :: rest := by
  have kept : ∀ x ∈ piece, decide (x ≠ sep) = true := fun x member =>
    decide_eq_true fun same => clean (same ▸ member)
  rw [List.dropWhile_append_of_pos kept]
  simp

theorem not_mem_takeWhile : sep ∉ rest.takeWhile (· ≠ sep) := by
  intro member
  have other := List.mem_takeWhile_imp member
  exact of_decide_eq_true other rfl

theorem append_separator_inj (clean : sep ∉ piece) (otherClean : sep ∉ other)
    (same : piece ++ sep :: rest = other ++ sep :: later) : piece = other ∧ rest = later := by
  have cuts := congrArg (cut sep) same
  rw [cut_append clean, cut_append otherClean] at cuts
  obtain ⟨pieces, rests⟩ := Prod.mk.inj cuts
  exact ⟨pieces, Option.some.inj rests⟩

theorem join_eq_nil (filled : ∀ piece ∈ pieces, piece ≠ []) (empty : join sep pieces = []) :
    pieces = [] := by
  cases pieces with
  | nil => rfl
  | cons piece later =>
    have first := filled piece List.mem_cons_self
    cases later with
    | nil => exact absurd empty first
    | cons next rest =>
      rw [join_cons (List.cons_ne_nil _ _), List.append_eq_nil_iff] at empty
      exact absurd empty.1 first

/-- No piece at all is joined to what one empty piece is joined to, so no piece may be empty. -/
theorem join_inj (filled : ∀ piece ∈ pieces, piece ≠ []) (othersFilled : ∀ piece ∈ others, piece ≠ [])
    (clean : ∀ piece ∈ pieces, sep ∉ piece) (othersClean : ∀ piece ∈ others, sep ∉ piece)
    (same : join sep pieces = join sep others) : pieces = others := by
  by_cases none : pieces = []
  · subst none
    exact (join_eq_nil othersFilled same.symm).symm
  · have present : others ≠ [] := by
      rintro rfl
      exact none (join_eq_nil filled same)
    rw [← splitWhen_join none clean, same, splitWhen_join present othersClean]

/-- What has no separator in it belongs to the first piece. -/
theorem splitWhen_append_of_plain {p : UInt8 → Bool} (plain : ∀ b ∈ piece, p b = false)
    (split : splitWhen p rest = other :: pieces) :
    splitWhen p (piece ++ rest) = (piece ++ other) :: pieces := by
  induction piece with
  | nil => exact split
  | cons b bs ih =>
    have first := plain b List.mem_cons_self
    have later := ih fun x member => plain x (List.mem_cons_of_mem b member)
    rw [List.cons_append, splitWhen, first, later]
    rfl

theorem mem_join {b : UInt8} (member : b ∈ join sep pieces) :
    b = sep ∨ ∃ piece ∈ pieces, b ∈ piece := by
  induction pieces with
  | nil => exact absurd member List.not_mem_nil
  | cons piece later ih =>
    cases later with
    | nil => exact .inr ⟨piece, List.mem_cons_self, member⟩
    | cons next rest =>
      rw [join_cons (List.cons_ne_nil _ _), List.mem_append, List.mem_cons] at member
      obtain here | rfl | there := member
      · exact .inr ⟨piece, List.mem_cons_self, here⟩
      · exact .inl rfl
      · obtain same | ⟨found, among, inside⟩ := ih there
        · exact .inl same
        · exact .inr ⟨found, List.mem_cons_of_mem piece among, inside⟩

theorem count_join {b : UInt8} (other : sep ≠ b) (once : ∀ piece ∈ pieces, piece.count b = 1) :
    (join sep pieces).count b = pieces.length := by
  induction pieces with
  | nil => rfl
  | cons piece later ih =>
    have first := once piece List.mem_cons_self
    cases later with
    | nil => exact first
    | cons next rest =>
      have counted := ih fun x member => once x (List.mem_cons_of_mem piece member)
      rw [join_cons (List.cons_ne_nil _ _), List.count_append, List.count_cons_of_ne other, first,
        counted]
      exact Nat.add_comm 1 _

end RequestSigning.Bytes

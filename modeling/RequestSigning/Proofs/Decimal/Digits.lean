import Mathlib.Algebra.Group.Nat.Defs
import RequestSigning.Decimal.Fixed
import RequestSigning.Proofs.Text.Utf8

/-!
# Reading decimal digits

`padded_injective`: zeros in front do not change the number.  `unsigned?_toString`: a number is read
as it is written.
-/

namespace RequestSigning

namespace Decimal

theorem ofDigitChars_padded (width n : Nat) :
    Nat.ofDigitChars 10 (padded width n).toList 0 = n := by
  simp [padded, Nat.ofDigitChars_append]

theorem padded_injective {width n m : Nat} (same : padded width n = padded width m) : n = m := by
  rw [← ofDigitChars_padded width n, same, ofDigitChars_padded]

theorem toString_injective {n m : Nat} (same : toString n = toString m) : n = m := by
  rw [Nat.toString_eq_ofList_toDigits, Nat.toString_eq_ofList_toDigits] at same
  rw [← Nat.ofDigitChars_ten_toDigits (n := n), String.ofList_injective same,
    Nat.ofDigitChars_ten_toDigits]

theorem isDigit_of_mem_padded {width n : Nat} {c : Char} (member : c ∈ (padded width n).toList) :
    c.isDigit = true := by
  rw [padded, String.toList_ofList] at member
  obtain zero | digit := List.mem_append.mp member
  · rw [List.eq_of_mem_replicate zero]
    decide
  · exact Nat.isDigit_of_mem_toDigits (by decide) (by decide) digit

theorem length_padded {width n : Nat} (present : 0 < width) (fits : n < 10 ^ width) :
    (padded width n).toList.length = width := by
  have short := (Nat.length_toDigits_le_iff (b := 10) (by decide) present).mpr fits
  simp [padded]
  omega

end Decimal

namespace Ascii

/-- A digit is one octet. -/
theorem encodeChar_of_isDigit {c : Char} (digit : c.isDigit = true) :
    String.utf8EncodeChar c = [UInt8.ofNat c.toNat] := by
  obtain ⟨_, most⟩ := Char.isDigit_iff_toNat.mp digit
  have low : c.toNat < 128 := Nat.lt_of_le_of_lt most (by decide)
  rw [← Utf8.encodeChar_ascii low, Char.ofNat_toNat]

theorem encode_digits {cs : List Char} (digits : ∀ c ∈ cs, c.isDigit = true) :
    Utf8.encode (String.ofList cs) = cs.map fun c => UInt8.ofNat c.toNat := by
  rw [Utf8.encode_ofList]
  induction cs with
  | nil => rfl
  | cons c cs ih =>
    rw [List.flatMap_cons, encodeChar_of_isDigit (digits c List.mem_cons_self),
      ih fun x member => digits x (List.mem_cons_of_mem c member)]
    rfl

theorem foldl_digits {cs : List Char} (digits : ∀ c ∈ cs, c.isDigit = true) (bound start : Nat) :
    (cs.map fun c => UInt8.ofNat c.toNat).foldl
        (fun n b => Nat.min bound (n * 10 + (b.toNat - 0x30))) (Nat.min bound start) =
      Nat.min bound (Nat.ofDigitChars 10 cs start) := by
  induction cs generalizing start with
  | nil => rfl
  | cons c cs ih =>
    obtain ⟨least, most⟩ := Char.isDigit_iff_toNat.mp (digits c List.mem_cons_self)
    have octet : (UInt8.ofNat c.toNat).toNat = c.toNat :=
      Utf8.toNat_octet (Nat.lt_of_le_of_lt most (by decide))
    -- Once the bound is reached, it is reached by whatever follows.
    have next : Nat.min bound (Nat.min bound start * 10 + (c.toNat - 0x30)) =
        Nat.min bound (10 * start + (c.toNat - '0'.toNat)) := by
      change min bound (min bound start * 10 + (c.toNat - 48)) =
        min bound (10 * start + (c.toNat - 48))
      omega
    rw [List.map_cons, List.foldl_cons, octet, next,
      ih fun x member => digits x (List.mem_cons_of_mem c member), Nat.ofDigitChars_cons]

theorem isDigit_of_char {c : Char} (digit : c.isDigit = true) :
    isDigit (UInt8.ofNat c.toNat) = true := by
  obtain ⟨least, most⟩ := Char.isDigit_iff_toNat.mp digit
  have octet : (UInt8.ofNat c.toNat).toNat = c.toNat :=
    Utf8.toNat_octet (Nat.lt_of_le_of_lt most (by decide))
  simp only [isDigit, Bool.and_eq_true, decide_eq_true_eq, UInt8.le_iff_toNat_le, octet]
  exact ⟨least, most⟩

theorem encode_toString (n : Nat) :
    Utf8.encode (toString n) = (Nat.toDigits 10 n).map fun c => UInt8.ofNat c.toNat := by
  rw [Nat.toString_eq_ofList_toDigits, encode_digits]
  exact fun c member => Nat.isDigit_of_mem_toDigits (by decide) (by decide) member

theorem isDigit_of_mem_toString {n : Nat} {b : UInt8} (member : b ∈ Utf8.encode (toString n)) :
    isDigit b = true := by
  rw [encode_toString] at member
  obtain ⟨c, inside, rfl⟩ := List.mem_map.mp member
  exact isDigit_of_char (Nat.isDigit_of_mem_toDigits (by decide) (by decide) inside)

/-- A number below the bound is read as it is written. -/
theorem unsigned?_toString {bound n : Nat} (small : n < bound) :
    unsigned? bound (Utf8.encode (toString n)) = some n := by
  have digits : ∀ c ∈ Nat.toDigits 10 n, c.isDigit = true := fun c member =>
    Nat.isDigit_of_mem_toDigits (by decide) (by decide) member
  have bare : (Utf8.encode (toString n)).head? ≠ some 0x2B := by
    intro plus
    have isDigit := isDigit_of_mem_toString (List.mem_of_head? plus)
    exact absurd isDigit (by decide)
  have present : Utf8.encode (toString n) ≠ [] := by
    rw [encode_toString]
    simp
  have value : valueUpTo bound (Utf8.encode (toString n)) = n := by
    have folded := foldl_digits digits bound 0
    rw [Nat.ofDigitChars_ten_toDigits, ← encode_toString, show Nat.min bound 0 = 0 by simp] at folded
    rw [valueUpTo, folded]
    exact Nat.min_eq_right (Nat.le_of_lt small)
  have all : (Utf8.encode (toString n)).all isDigit = true :=
    List.all_eq_true.mpr fun b member => isDigit_of_mem_toString member
  unfold unsigned?
  rw [if_neg bare]
  dsimp only
  rw [value, if_pos ⟨present, all, small⟩]

theorem lt_of_unsigned? {bound n : Nat} {bs : Bytes} (read : unsigned? bound bs = some n) :
    n < bound := by
  simp only [unsigned?, Option.ite_none_right_eq_some, Option.some.injEq] at read
  obtain ⟨⟨_, _, small⟩, value⟩ := read
  exact value ▸ small

/-- With any other octet in them, octets are no number. -/
theorem unsigned?_eq_none {bound : Nat} {bs : Bytes} {b : UInt8} (member : b ∈ bs)
    (foreign : isDigit b = false) (plus : b ≠ 0x2B) : unsigned? bound bs = none := by
  have inside : b ∈ if bs.head? = some 0x2B then bs.tail else bs := by
    split
    · cases bs with
      | nil => cases member
      | cons first rest =>
        rename_i signed
        refine (List.mem_cons.mp member).resolve_left fun same => plus ?_
        rw [same]
        exact Option.some.inj signed
    · exact member
  unfold unsigned?
  refine if_neg fun valid => ?_
  rw [List.all_eq_true.mp valid.2.1 b inside] at foreign
  cases foreign

end Ascii

end RequestSigning

import Mathlib.Algebra.Group.Nat.Defs
import RequestSigning.Proofs.Bytes
import RequestSigning.Proofs.Text.Utf8

/-!
# ASCII in ill-formed UTF-8

A character that octets leave open is none of ASCII, whatever octets follow: `IsProper`.  So the
ASCII characters of a text that is read from any octets are the ASCII octets among them,
`mem_decodeLossy_iff`, well-formed or not; and what stands before an ASCII octet is read for itself,
`decodeLossy_append_ascii`.
-/

namespace RequestSigning.Utf8

namespace Pending

/-- The least value that can come out. -/
def floor (p : Pending) : Nat := (p.value * 64 + (p.least.toNat - 0x80)) * 64 ^ (p.owed - 1)

/-- What every value that can come out is below. -/
def ceiling (p : Pending) : Nat :=
  (p.value * 64 + (p.greatest.toNat - 0x80) + 1) * 64 ^ (p.owed - 1)

/-- The octets that are owed are no ASCII, and neither is the character that they complete. -/
def IsProper (p : Pending) : Prop :=
  1 ≤ p.owed ∧ 0x80 ≤ p.least.toNat ∧ p.greatest.toNat ≤ 0xBF ∧ 0x80 ≤ p.floor ∧
    (p.ceiling ≤ 0xD800 ∨ 0xE000 ≤ p.floor ∧ p.ceiling ≤ 0x110000)

instance (p : Pending) : Decidable p.IsProper := inferInstanceAs (Decidable (_ ∧ _))

end Pending

variable {p q : Pending} {b : UInt8} {n : Nat}

theorem ofNat_inj {m : Nat} (valid : n.isValidChar) (other : m.isValidChar) :
    Char.ofNat n = Char.ofNat m ↔ n = m := by
  refine ⟨fun same => ?_, congrArg Char.ofNat⟩
  rw [← toNat_ofNat_of_valid valid, same, toNat_ofNat_of_valid other]

theorem isProper_of_start : ∀ b : UInt8, ∀ p ∈ (start b).2, p.IsProper :=
  Bytes.forall_octet (by decide +kernel)

namespace Pending.IsProper

/-- With each octet the values that can come out are fewer. -/
theorem next {owed : Nat} (proper : p.IsProper) (more : p.owed = owed + 2)
    (least : p.least.toNat ≤ b.toNat) (greatest : b.toNat ≤ p.greatest.toNat) :
    IsProper ⟨owed + 1, 0x80, 0xBF, p.value * 64 + (b.toNat - 0x80)⟩ := by
  obtain ⟨_, _, _, low, range⟩ := proper
  have floor : p.floor ≤ (p.value * 64 + (b.toNat - 0x80)) * 64 ^ (owed + 1) := by
    rw [Pending.floor, more]
    exact Nat.mul_le_mul_right _ (by omega)
  have ceiling : (p.value * 64 + (b.toNat - 0x80) + 1) * 64 ^ (owed + 1) ≤ p.ceiling := by
    rw [Pending.ceiling, more]
    exact Nat.mul_le_mul_right _ (by omega)
  generalize p.value * 64 + (b.toNat - 0x80) = value at floor ceiling
  have floor' : Pending.floor ⟨owed + 1, 0x80, 0xBF, value⟩ = value * 64 ^ (owed + 1) := by
    simp [Pending.floor, Nat.pow_succ', Nat.mul_assoc]
  have ceiling' : Pending.ceiling ⟨owed + 1, 0x80, 0xBF, value⟩ = (value + 1) * 64 ^ (owed + 1) :=
    calc
      _ = (value * 64 + 63 + 1) * 64 ^ owed := by simp [Pending.ceiling]
      _ = (value + 1) * 64 * 64 ^ owed := by rw [Nat.add_mul value]
      _ = (value + 1) * 64 ^ (owed + 1) := by rw [Nat.pow_succ', Nat.mul_assoc]
  refine ⟨Nat.le_add_left 1 owed, Nat.le_refl 0x80, Nat.le_refl 0xBF, ?_⟩
  rw [floor', ceiling']
  omega

/-- What the last octet completes is a character, and none of ASCII. -/
theorem last (proper : p.IsProper) (done : p.owed ≤ 1) (least : p.least.toNat ≤ b.toNat)
    (greatest : b.toNat ≤ p.greatest.toNat) :
    (p.value * 64 + (b.toNat - 0x80)).isValidChar ∧ 0x80 ≤ p.value * 64 + (b.toNat - 0x80) := by
  obtain ⟨owed, _, _, low, range⟩ := proper
  have none : p.owed - 1 = 0 := by omega
  rw [Pending.floor, none] at low range
  rw [Pending.ceiling, none] at range
  unfold Nat.isValidChar
  omega

end Pending.IsProper

/-! ### Characters that octets complete -/

theorem mem_start_iff (low : n < 128) (b : UInt8) :
    some (Char.ofNat n) ∈ (start b).1 ↔ UInt8.ofNat n = b := by
  have small : n.isValidChar := .inl (by omega)
  have same : UInt8.ofNat n = b ↔ n = b.toNat := by
    rw [← UInt8.toNat_inj, toNat_octet (by omega)]
  rw [same]
  unfold start
  by_cases ascii : b ≤ 0x7F
  · have within : b.toNat ≤ 0x7F := UInt8.le_iff_toNat_le.mp ascii
    rw [if_pos ascii, List.mem_singleton, Option.some_inj]
    exact ofNat_inj small (.inl (by omega))
  · have beyond : ¬b.toNat ≤ 0x7F := fun within => ascii (UInt8.le_iff_toNat_le.mpr within)
    rw [if_neg ascii]
    refine iff_of_false ?_ (by omega)
    repeat' split
    all_goals simp

/-- An octet completes a character of ASCII where it is that character. -/
theorem mem_step_iff (low : n < 128) {open? : Option Pending} (proper : ∀ p ∈ open?, p.IsProper)
    (b : UInt8) : some (Char.ofNat n) ∈ (step open? b).1 ↔ UInt8.ofNat n = b := by
  cases open? with
  | none => exact mem_start_iff low b
  | some p =>
    rw [step]
    split
    · rename_i inside
      simp only [UInt8.le_iff_toNat_le] at inside
      obtain ⟨least, greatest⟩ := inside
      have proper := proper p rfl
      have foreign : UInt8.ofNat n ≠ b := by
        rintro rfl
        rw [toNat_octet (by omega)] at least
        have beyond := proper.2.1
        omega
      refine iff_of_false ?_ foreign
      dsimp only
      split
      · rename_i done
        obtain ⟨valid, beyond⟩ := proper.last done least greatest
        rw [List.mem_singleton, Option.some_inj, ofNat_inj (.inl (by omega)) valid]
        omega
      · exact List.not_mem_nil
    · rw [List.mem_cons, or_iff_right (Option.some_ne_none _)]
      exact mem_start_iff low b

theorem isProper_of_step {open? : Option Pending} (proper : ∀ p ∈ open?, p.IsProper) (b : UInt8) :
    ∀ q ∈ (step open? b).2, q.IsProper := by
  cases open? with
  | none => exact isProper_of_start b
  | some p =>
    rw [step]
    split
    · rename_i inside
      simp only [UInt8.le_iff_toNat_le] at inside
      dsimp only
      split
      · rintro _ ⟨⟩
      · rename_i owed
        rintro _ ⟨⟩
        obtain ⟨more, count⟩ : ∃ more, p.owed = more + 2 := ⟨p.owed - 2, by omega⟩
        rw [count]
        exact (proper p rfl).next count inside.1 inside.2
    · exact isProper_of_start b

theorem mem_scan_iff (low : n < 128) {open? : Option Pending} (proper : ∀ p ∈ open?, p.IsProper)
    (bs : Bytes) : some (Char.ofNat n) ∈ scan open? bs ↔ UInt8.ofNat n ∈ bs := by
  induction bs generalizing open? with
  | nil => cases open? <;> simp [scan]
  | cons b rest ih =>
    have own := mem_step_iff low proper b
    have later := ih (isProper_of_step proper b)
    rw [scan, List.mem_append, List.mem_cons, own, later]

/-- Whatever is ill-formed, the ASCII characters are read as they are. -/
theorem mem_decodeLossy_iff (low : n < 128) (bs : Bytes) :
    Char.ofNat n ∈ (decodeLossy bs).toList ↔ UInt8.ofNat n ∈ bs := by
  have closed : ∀ p ∈ (none : Option Pending), p.IsProper := nofun
  have scanned := mem_scan_iff low closed bs
  rw [decodeLossy, String.toList_ofList, List.mem_map, ← scanned]
  constructor
  · rintro ⟨piece, member, read⟩
    cases piece with
    | none =>
      have replaced : n = 0xFFFD := by
        rw [← toNat_ofNat_of_valid (n := n) (.inl (by omega)), ← read]
        rfl
      omega
    | some c => exact read ▸ member
  · exact fun member => ⟨_, member, rfl⟩

/-! ### Pieces of octets -/

/-- ASCII completes no character and continues none, so it ends what is open. -/
theorem scan_append_ascii (ascii : b.toNat < 128) {open? : Option Pending}
    (proper : ∀ p ∈ open?, p.IsProper) (bs rest : Bytes) :
    scan open? (bs ++ b :: rest) = scan open? bs ++ scan none (b :: rest) := by
  induction bs generalizing open? with
  | nil =>
    cases open? with
    | none => rfl
    | some p =>
      have beyond := (proper p rfl).2.1
      have foreign : ¬(p.least ≤ b ∧ b ≤ p.greatest) := by
        rw [UInt8.le_iff_toNat_le]
        omega
      have left : step (some p) b = (none :: (start b).1, (start b).2) := if_neg foreign
      calc
        _ = (step (some p) b).1 ++ scan (step (some p) b).2 rest := rfl
        _ = none :: ((start b).1 ++ scan (start b).2 rest) := by rw [left]; rfl
  | cons first bs ih =>
    rw [List.cons_append, scan, scan, ih (isProper_of_step proper first), List.append_assoc]

theorem decodeLossy_append_ascii (ascii : b.toNat < 128) (bs rest : Bytes) :
    decodeLossy (bs ++ b :: rest) = decodeLossy bs ++ decodeLossy (b :: rest) := by
  have closed : ∀ p ∈ (none : Option Pending), p.IsProper := nofun
  rw [decodeLossy, scan_append_ascii ascii closed, List.map_append, String.ofList_append]
  rfl

/-- What stands behind a text is read for itself. -/
theorem decodeLossy_encode_append (s : String) (rest : Bytes) :
    decodeLossy (encode s ++ rest) = s ++ decodeLossy rest := by
  rw [decodeLossy, scan_encode, List.map_append, List.map_map, String.ofList_append]
  simp [decodeLossy, Function.comp_def]

end RequestSigning.Utf8

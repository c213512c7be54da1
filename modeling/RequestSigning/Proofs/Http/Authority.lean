import RequestSigning.Draft
import RequestSigning.Proofs.Http.FieldText

/-!
# Hosts as field values

An authority is checked octet by octet, so it holds nothing but visible ASCII, and
`isFieldText_hostText`: the host of a request, with its port, can be written into a field.
-/

namespace RequestSigning

namespace Http

/-- Octets that a field can hold and that are their own text. -/
def IsPlainText (bs : Bytes) : Prop := ∀ b ∈ bs, b.toNat < 128 ∧ isFieldByte b = true

/-- A scan that goes on to an end went on from some state. -/
theorem Scan.of_bind_ok {first : Except Fault Scan} {next : Scan → Except Fault Scan} {t : Scan}
    (accepted : first >>= next = .ok t) : ∃ s, first = .ok s ∧ next s = .ok t := by
  cases first with
  | error f => cases accepted
  | ok s => exact ⟨s, rfl, accepted⟩

namespace Authority

theorem plain_of_isPlainByte : ∀ b : UInt8, isPlainByte b = true →
    b.toNat < 128 ∧ isFieldByte b = true :=
  Bytes.forall_octet (by decide +kernel)

theorem plain_of_step {s t : Scan} {b : UInt8} (accepted : s.step b = .ok t) :
    b.toNat < 128 ∧ isFieldByte b = true := by
  unfold Scan.step at accepted
  by_cases mark : b = 0x3A ∨ b = 0x5B ∨ b = 0x5D ∨ b = 0x40 ∨ b = 0x25
  · obtain rfl | rfl | rfl | rfl | rfl := mark <;> decide
  · simp only [not_or] at mark
    obtain ⟨colon, opening, closing, user, percent⟩ := mark
    rw [if_neg colon, if_neg opening, if_neg closing, if_neg user, if_neg percent] at accepted
    split at accepted
    · rename_i plain
      exact plain_of_isPlainByte b plain
    · cases accepted

theorem plain_of_foldlM {bs : Bytes} {s t : Scan} (accepted : bs.foldlM Scan.step s = .ok t) :
    IsPlainText bs := by
  induction bs generalizing s with
  | nil => exact fun b member => absurd member List.not_mem_nil
  | cons first rest ih =>
    rw [List.foldlM_cons] at accepted
    obtain ⟨u, stepped, accepted⟩ := Scan.of_bind_ok accepted
    intro b member
    obtain rfl | later := List.mem_cons.mp member
    · exact plain_of_step stepped
    · exact ih accepted b later

/-- The octets of an authority are scanned to an end that may be one. -/
theorem exists_scanned (a : Authority) :
    ∃ s, a.octets.foldlM Scan.step Scan.initial = .ok s ∧ s.mayEnd = true := by
  have checked := a.isAuthority
  simp only [Http.isAuthority, authorityFault?, Bool.and_eq_true] at checked
  cases scanned : a.octets.foldlM Scan.step Scan.initial with
  | error f =>
    rw [scanned] at checked
    exact absurd checked.2 (by simp)
  | ok s =>
    rw [scanned] at checked
    refine ⟨s, rfl, ?_⟩
    cases ends : s.mayEnd with
    | true => rfl
    | false => simp [ends] at checked

theorem isPlainText_octets (a : Authority) : IsPlainText a.octets := by
  obtain ⟨s, scanned, _⟩ := a.exists_scanned
  exact plain_of_foldlM scanned

theorem mem_of_mem_afterLast {sep b : UInt8} {bs : Bytes} (member : b ∈ afterLast sep bs) :
    b ∈ bs := by
  rw [afterLast, List.mem_reverse] at member
  exact List.mem_reverse.mp ((List.takeWhile_sublist _).subset member)

theorem mem_of_mem_hostOf {b : UInt8} {bs : Bytes} (member : b ∈ hostOf bs) : b ∈ bs := by
  have behindUser : b ∈ afterLast 0x40 bs := by
    unfold hostOf at member
    dsimp only at member
    split at member
    · obtain inside | closing := List.mem_append.mp member
      · exact (List.takeWhile_sublist _).subset inside
      · exact (List.dropWhile_sublist _).subset (List.take_subset _ _ closing)
    · exact (List.takeWhile_sublist _).subset member
  exact mem_of_mem_afterLast behindUser

/-- The digits of a port. -/
theorem isPlainText_decimal (n : Nat) : IsPlainText (Utf8.encode (toString n)) := fun b member =>
  plain_of_isDigit b (Ascii.isDigit_of_mem_toString member)

end Authority

end Http

namespace Draft

open Http

theorem isPlainText_hostOctets (d : Draft) : IsPlainText d.hostOctets := by
  have host : IsPlainText d.authority.host := fun b member =>
    d.authority.isPlainText_octets b (Authority.mem_of_mem_hostOf member)
  unfold hostOctets
  split
  · rename_i port _
    split
    · exact host
    · intro b member
      obtain inHost | behind := List.mem_append.mp member
      · exact host b inHost
      · obtain rfl | inPort := List.mem_cons.mp behind
        · decide
        · exact Authority.isPlainText_decimal port b inPort
  · exact host

theorem isFieldText_hostText (d : Draft) : IsFieldText d.hostText := by
  have plain := isPlainText_hostOctets d
  rw [IsFieldText, hostText, Utf8.encode_asciiText fun b member => (plain b member).1,
    List.all_eq_true]
  exact fun b member => (plain b member).2

end Draft

end RequestSigning

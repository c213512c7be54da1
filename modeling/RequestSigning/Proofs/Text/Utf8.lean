import RequestSigning.Text.Ascii
import RequestSigning.Text.Utf8

/-!
# Reading back UTF-8

`scan_encode`: the octets of a text are read as its characters, whatever follows.  So `decode?` and
`decodeLossy` undo `encode`.
-/

namespace RequestSigning.Utf8

@[simp] theorem encode_append (s t : String) : encode (s ++ t) = encode s ++ encode t := by
  simp [encode]

theorem encode_ofList (cs : List Char) :
    encode (String.ofList cs) = cs.flatMap String.utf8EncodeChar := by
  simp [encode]

theorem encode_eq_nil {s : String} : encode s = [] ↔ s = "" := by
  rw [encode, List.flatMap_eq_nil_iff]
  constructor
  · intro none
    apply String.toList_eq_nil_iff.mp
    apply List.eq_nil_iff_forall_not_mem.mpr
    intro c member
    exact String.utf8EncodeChar_ne_nil (none c member)
  · rintro rfl
    simp

/-! ### One character -/

theorem toNat_octet {n : Nat} (small : n < 256) : (UInt8.ofNat n).toNat = n :=
  UInt8.toNat_ofNat_of_lt' small

/-- The last octet of a character. -/
theorem scan_last {p : Pending} {n : Nat} (rest : Bytes) (small : n < 256) (owed : p.owed ≤ 1)
    (least : p.least.toNat ≤ n) (greatest : n ≤ p.greatest.toNat) :
    scan (some p) (UInt8.ofNat n :: rest) =
      some (Char.ofNat (p.value * 64 + (n - 0x80))) :: scan none rest := by
  have inside : p.least ≤ UInt8.ofNat n ∧ UInt8.ofNat n ≤ p.greatest := by
    simp only [UInt8.le_iff_toNat_le, toNat_octet small]
    exact ⟨least, greatest⟩
  rw [scan, step, if_pos inside, if_pos owed, toNat_octet small]
  rfl

/-- An octet in the middle of a character. -/
theorem scan_next {p : Pending} {n : Nat} (rest : Bytes) (small : n < 256) (owed : 1 < p.owed)
    (least : p.least.toNat ≤ n) (greatest : n ≤ p.greatest.toNat) :
    scan (some p) (UInt8.ofNat n :: rest) =
      scan (some ⟨p.owed - 1, 0x80, 0xBF, p.value * 64 + (n - 0x80)⟩) rest := by
  have inside : p.least ≤ UInt8.ofNat n ∧ UInt8.ofNat n ≤ p.greatest := by
    simp only [UInt8.le_iff_toNat_le, toNat_octet small]
    exact ⟨least, greatest⟩
  rw [scan, step, if_pos inside, if_neg (by omega), toNat_octet small]
  rfl

theorem scan_ascii {n : Nat} (rest : Bytes) (low : n ≤ 0x7F) :
    scan none (UInt8.ofNat n :: rest) = some (Char.ofNat n) :: scan none rest := by
  have first : UInt8.ofNat n ≤ 0x7F := by
    simp only [UInt8.le_iff_toNat_le, toNat_octet (show n < 256 by omega)]
    exact low
  rw [scan, step, start, if_pos first, toNat_octet (by omega)]
  rfl

theorem start_two : ∀ k < 32, 2 ≤ k →
    start (UInt8.ofNat (k + 0xC0)) = ([], some ⟨1, 0x80, 0xBF, k⟩) := by
  decide

theorem start_three : ∀ k < 16, start (UInt8.ofNat (k + 0xE0)) =
    ([], some ⟨2, if k = 0 then 0xA0 else 0x80, if k = 13 then 0x9F else 0xBF, k⟩) := by
  decide

theorem start_four : ∀ k < 5, start (UInt8.ofNat (k + 0xF0)) =
    ([], some ⟨3, if k = 0 then 0x90 else 0x80, if k = 4 then 0x8F else 0xBF, k⟩) := by
  decide

/-- The first octet of a character of several octets. -/
theorem scan_first {b : UInt8} {p : Pending} (rest : Bytes) (opens : start b = ([], some p)) :
    scan none (b :: rest) = scan (some p) rest := by
  rw [scan, step, opens]
  rfl

/-- The octets of a character are read as that character. -/
theorem scan_encodeChar (c : Char) (rest : Bytes) :
    scan none (String.utf8EncodeChar c ++ rest) = some c :: scan none rest := by
  have valid : c.toNat < 0xD800 ∨ 0xDFFF < c.toNat ∧ c.toNat < 0x110000 := c.valid
  have char_eq : ∀ n, n = c.toNat → Char.ofNat n = c := fun n same => by
    rw [same, Char.ofNat_toNat]
  unfold String.utf8EncodeChar
  rw [show c.val.toNat = c.toNat from rfl]
  dsimp only
  generalize c.toNat = n at valid char_eq
  split
  · rename_i one
    rw [List.singleton_append, scan_ascii rest one, char_eq n rfl]
  split
  · rename_i _ two
    rw [List.cons_append, scan_first _ (start_two _ (by omega) (by omega)), List.cons_append,
      scan_last _ (by omega) (by simp) (by simp) (by simp; omega)]
    rw [char_eq _ (by dsimp only; omega), List.nil_append]
  split
  · rename_i _ _ three
    rw [List.cons_append, scan_first _ (start_three _ (by omega)), List.cons_append,
      scan_next _ (by omega) (by simp) (by dsimp only; split <;> simp; omega)
        (by dsimp only; split <;> simp <;> omega),
      List.cons_append, scan_last _ (by omega) (by simp) (by simp) (by simp; omega)]
    rw [char_eq _ (by dsimp only; omega), List.nil_append]
  · rename_i _ _ four
    rw [List.cons_append, scan_first _ (start_four _ (by omega)), List.cons_append,
      scan_next _ (by omega) (by simp) (by dsimp only; split <;> simp; omega)
        (by dsimp only; split <;> simp <;> omega),
      List.cons_append, scan_next _ (by omega) (by simp) (by simp) (by simp; omega),
      List.cons_append, scan_last _ (by omega) (by simp) (by simp) (by simp; omega)]
    rw [char_eq _ (by dsimp only; omega), List.nil_append]

/-! ### Texts -/

theorem scan_encode (s : String) (rest : Bytes) :
    scan none (encode s ++ rest) = s.toList.map some ++ scan none rest := by
  unfold encode
  induction s.toList with
  | nil => rfl
  | cons c cs ih => rw [List.flatMap_cons, List.append_assoc, scan_encodeChar, ih]; rfl

theorem scan_encode_end (s : String) : scan none (encode s) = s.toList.map some := by
  simpa [scan] using scan_encode s []

@[simp] theorem decode?_encode (s : String) : decode? (encode s) = some s := by
  have whole : ∀ cs : List Char, (cs.map some).mapM id = some cs := by
    intro cs
    induction cs with
    | nil => rfl
    | cons c cs ih => simp [ih]
  rw [decode?, scan_encode_end, whole, Option.map_some, String.ofList_toList]

@[simp] theorem decodeLossy_encode (s : String) : decodeLossy (encode s) = s := by
  rw [decodeLossy, scan_encode_end, List.map_map]
  simp [Function.comp_def]

theorem encode_injective {s t : String} (same : encode s = encode t) : s = t := by
  rw [← decodeLossy_encode s, same, decodeLossy_encode]

theorem encode_intercalate {sep : String} {b : UInt8} (single : encode sep = [b])
    (texts : List String) : encode (sep.intercalate texts) = Bytes.join b (texts.map encode) := by
  induction texts with
  | nil => rfl
  | cons s rest ih =>
    cases rest with
    | nil => rw [String.intercalate_singleton]; rfl
    | cons t rest =>
      rw [String.intercalate_cons_cons, encode_append, encode_append, single, ih]
      simp [Bytes.join]

theorem toNat_ofNat_of_valid {n : Nat} (valid : n.isValidChar) : (Char.ofNat n).toNat = n := by
  rw [Char.ofNat, dif_pos valid]
  rfl

theorem encodeChar_ascii {n : Nat} (low : n < 128) :
    String.utf8EncodeChar (Char.ofNat n) = [UInt8.ofNat n] := by
  have value : (Char.ofNat n).val.toNat = n := toNat_ofNat_of_valid (.inl (by omega))
  rw [String.utf8EncodeChar, value, if_pos (by omega)]

/-- An octet of a character is that character itself or no ASCII at all. -/
theorem mem_encodeChar {c : Char} {b : UInt8} (member : b ∈ String.utf8EncodeChar c) :
    b.toNat = c.toNat ∨ 128 ≤ b.toNat := by
  unfold String.utf8EncodeChar at member
  rw [show c.val.toNat = c.toNat from rfl] at member
  dsimp only at member
  split at member
  · rename_i one
    rw [List.mem_singleton.mp member]
    exact .inl (toNat_octet (by omega))
  · right
    split at member
    · simp only [List.mem_cons, List.not_mem_nil, or_false] at member
      obtain rfl | rfl := member <;> rw [toNat_octet (by omega)] <;> omega
    split at member
    · simp only [List.mem_cons, List.not_mem_nil, or_false] at member
      obtain rfl | rfl | rfl := member <;> rw [toNat_octet (by omega)] <;> omega
    · simp only [List.mem_cons, List.not_mem_nil, or_false] at member
      obtain rfl | rfl | rfl | rfl := member <;> rw [toNat_octet (by omega)] <;> omega

/-- ASCII octets are their own text. -/
theorem encode_asciiText {bs : Bytes} (ascii : ∀ b ∈ bs, b.toNat < 128) :
    encode (Ascii.text bs) = bs := by
  rw [Ascii.text, encode_ofList]
  induction bs with
  | nil => rfl
  | cons b rest ih =>
    rw [List.map_cons, List.flatMap_cons, encodeChar_ascii (ascii b List.mem_cons_self),
      ih fun x member => ascii x (List.mem_cons_of_mem b member), UInt8.ofNat_toNat]
    rfl

end RequestSigning.Utf8

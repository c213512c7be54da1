import RequestSigning.Encoding.Percent
import RequestSigning.Proofs.Bytes
import RequestSigning.Proofs.Text.Utf8

/-!
# Reading back percent encoding

`decode_encode`: a text of which only unreserved octets were kept is read back, and what it was
written as holds nothing but unreserved octets and `%`.  `decode_flatMap_octets_of_kept`: where `%`
was kept as well, the text reads as it did before.
-/

namespace RequestSigning.Percent

/-- What one octet is written as. -/
def octets (keep : UInt8 → Bool) (b : UInt8) : Bytes :=
  if keep b then [b]
  else [0x25, UInt8.ofNat (digit (b.toNat / 16)).toNat, UInt8.ofNat (digit (b.toNat % 16)).toNat]

theorem encodeChar_digit : ∀ n < 16,
    String.utf8EncodeChar (digit n) = [UInt8.ofNat (digit n).toNat] := by
  decide

variable {keep : UInt8 → Bool}

theorem encode_encodeByte (ascii : ∀ b, keep b = true → b.toNat < 128) (b : UInt8) :
    (encodeByte keep b).flatMap String.utf8EncodeChar = octets keep b := by
  have small := b.toNat_lt
  unfold encodeByte octets
  split
  · rename_i kept
    rw [List.flatMap_singleton, Utf8.encodeChar_ascii (ascii b kept), UInt8.ofNat_toNat]
  · simp only [List.flatMap_cons, List.flatMap_nil, List.append_nil,
      encodeChar_digit _ (show b.toNat / 16 < 16 by omega),
      encodeChar_digit _ (show b.toNat % 16 < 16 by omega)]
    rfl

theorem encode_encode (ascii : ∀ b, keep b = true → b.toNat < 128) (s : String) :
    Utf8.encode (encode keep s) = (Utf8.encode s).flatMap (octets keep) := by
  rw [encode, Utf8.encode_ofList, List.flatMap_assoc]
  simp only [encode_encodeByte ascii]

theorem encode_eq_empty {s : String} (ascii : ∀ b, keep b = true → b.toNat < 128) :
    encode keep s = "" ↔ s = "" := by
  rw [← Utf8.encode_eq_nil, encode_encode ascii, List.flatMap_eq_nil_iff, ← Utf8.encode_eq_nil]
  constructor
  · intro none
    apply List.eq_nil_iff_forall_not_mem.mpr
    intro b member
    have empty := none b member
    unfold octets at empty
    split at empty <;> cases empty
  · intro empty
    rw [empty]
    exact fun b member => absurd member List.not_mem_nil

/-- An octet of an encoded text. -/
def isEncodedByte (b : UInt8) : Bool := isUnreserved b || b == 0x25

theorem escape_isEncodedByte : ∀ b : UInt8,
    ([0x25, UInt8.ofNat (digit (b.toNat / 16)).toNat,
      UInt8.ofNat (digit (b.toNat % 16)).toNat].all isEncodedByte) = true :=
  Bytes.forall_octet (by decide +kernel)

/-- An octet that was not kept can only belong to an escape. -/
theorem mem_encode {s : String} {b : UInt8} (ascii : ∀ b, keep b = true → b.toNat < 128)
    (member : b ∈ Utf8.encode (encode keep s)) : keep b = true ∨ isEncodedByte b = true := by
  rw [encode_encode ascii] at member
  obtain ⟨origin, _, written⟩ := List.mem_flatMap.mp member
  unfold octets at written
  split at written
  · rename_i kept
    rw [List.mem_singleton.mp written]
    exact .inl kept
  · exact .inr (List.all_eq_true.mp (escape_isEncodedByte origin) b written)

/-! ### Reading -/

theorem decode_cons_of_ne {b : UInt8} (other : b ≠ 0x25) (rest : Bytes) :
    decode (b :: rest) = b :: decode rest := by
  cases rest with
  | nil => rfl
  | cons h rest =>
    cases rest with
    | nil => rfl
    | cons l rest => rw [decode, triple?, if_neg other]

theorem triple?_digits : ∀ b : UInt8,
    triple? 0x25 (UInt8.ofNat (digit (b.toNat / 16)).toNat)
      (UInt8.ofNat (digit (b.toNat % 16)).toNat) = some b :=
  Bytes.forall_octet (by decide +kernel)

theorem decode_octets {b : UInt8} (plain : keep b = true → b ≠ 0x25) (rest : Bytes) :
    decode (octets keep b ++ rest) = b :: decode rest := by
  unfold octets
  split
  · rename_i kept
    exact decode_cons_of_ne (plain kept) rest
  · simp only [List.cons_append, List.nil_append]
    rw [decode, triple?_digits]

theorem decode_flatMap_octets (escaped : keep 0x25 = false) (bs : Bytes) :
    decode (bs.flatMap (octets keep)) = bs := by
  have plain : ∀ b, keep b = true → b ≠ 0x25 := by
    rintro b kept rfl
    rw [escaped] at kept
    cases kept
  induction bs with
  | nil => rfl
  | cons b rest ih => rw [List.flatMap_cons, decode_octets (plain b), ih]

/-! ### Escapes that are kept

Where `%` is kept, what stands behind it decides whether it begins an escape.  An octet that is
written as an escape of its own is no digit and begins with none, so that it neither completes an
escape nor breaks one. -/

/-- The octet that two digits stand for, and what stands behind them. -/
def digits? : Bytes → Option (UInt8 × Bytes)
  | h :: l :: rest => (triple? 0x25 h l).map fun v => (v, rest)
  | _ => none

theorem digits?_cons_of_value {h : UInt8} (foreign : Hex.value? h = none) (rest : Bytes) :
    digits? (h :: rest) = none := by
  cases rest with
  | nil => rfl
  | cons l rest => simp [digits?, triple?, foreign]

theorem digits?_cons_cons_of_value {h l : UInt8} (foreign : Hex.value? l = none) (rest : Bytes) :
    digits? (h :: l :: rest) = none := by
  cases value : Hex.value? h <;> simp [digits?, triple?, foreign, value]

theorem length_of_digits? {bs rest : Bytes} {v : UInt8} (found : digits? bs = some (v, rest)) :
    rest.length < bs.length := by
  unfold digits? at found
  split at found
  · obtain ⟨_, _, same⟩ := Option.map_eq_some_iff.mp found
    cases same
    simp only [List.length_cons]
    omega
  · cases found

theorem decode_percent (bs : Bytes) :
    decode (0x25 :: bs) =
      match digits? bs with
      | some (v, rest) => v :: decode rest
      | none => 0x25 :: decode bs := by
  match bs with
  | [] => rfl
  | [_] => rfl
  | h :: l :: rest =>
    rw [decode, digits?]
    cases triple? 0x25 h l <;> rfl

/-- A digit is written as itself, and what is written for any other octet begins with no digit. -/
theorem octets_cases (digits : ∀ b, (Hex.value? b).isSome = true → keep b = true) (b : UInt8) :
    octets keep b = [b] ∨
      Hex.value? b = none ∧ ∃ later, octets keep b = 0x25 :: later := by
  unfold octets
  split
  · exact .inl rfl
  · rename_i escaped
    refine .inr ⟨?_, _, rfl⟩
    cases value : Hex.value? b with
    | none => rfl
    | some v => exact absurd (digits b (by rw [value]; rfl)) escaped

theorem digits?_flatMap_octets (digits : ∀ b, (Hex.value? b).isSome = true → keep b = true)
    (bs : Bytes) :
    digits? (bs.flatMap (octets keep)) =
      (digits? bs).map fun found => (found.1, found.2.flatMap (octets keep)) := by
  have percent : Hex.value? 0x25 = none := by decide
  match bs with
  | [] => rfl
  | h :: rest =>
    obtain first | ⟨foreign, _, first⟩ := octets_cases digits h
    · match rest with
      | [] =>
        rw [List.flatMap_singleton, first]
        rfl
      | l :: rest =>
        rw [List.flatMap_cons, List.flatMap_cons, first, List.singleton_append]
        obtain second | ⟨foreign, _, second⟩ := octets_cases digits l
        · rw [second, List.singleton_append, digits?, digits?, Option.map_map]
          rfl
        · rw [second, List.cons_append, digits?_cons_cons_of_value percent,
            digits?_cons_cons_of_value foreign]
          rfl
    · rw [List.flatMap_cons, first, List.cons_append, digits?_cons_of_value percent,
        digits?_cons_of_value foreign]
      rfl

/-- What is encoded around the escapes is read as before. -/
theorem decode_flatMap_octets_of_kept (kept : keep 0x25 = true)
    (digits : ∀ b, (Hex.value? b).isSome = true → keep b = true) (bs : Bytes) :
    decode (bs.flatMap (octets keep)) = decode bs := by
  match bs with
  | [] => rfl
  | b :: rest =>
    have later := decode_flatMap_octets_of_kept kept digits rest
    rw [List.flatMap_cons]
    by_cases percent : b = 0x25
    · subst percent
      rw [octets, if_pos kept, List.singleton_append, decode_percent, decode_percent,
        digits?_flatMap_octets digits, later]
      cases found : digits? rest with
      | none => rfl
      | some escape =>
        have shorter := length_of_digits? found
        simp only [Option.map_some]
        rw [decode_flatMap_octets_of_kept kept digits escape.2]
    · rw [decode_octets fun _ => percent, decode_cons_of_ne percent, later]
termination_by bs.length

/-- What is kept throughout is written as it is. -/
theorem encode_eq_self {s : String} (ascii : ∀ b, keep b = true → b.toNat < 128)
    (plain : ∀ b ∈ Utf8.encode s, keep b = true) : encode keep s = s := by
  apply Utf8.encode_injective
  rw [encode_encode ascii]
  generalize Utf8.encode s = bs at plain
  induction bs with
  | nil => rfl
  | cons b rest ih =>
    rw [List.flatMap_cons, octets, if_pos (plain b List.mem_cons_self),
      ih fun x member => plain x (List.mem_cons_of_mem b member)]
    rfl

/-! ### Unreserved octets -/

theorem ascii_of_isUnreserved : ∀ b : UInt8, isUnreserved b = true → b.toNat < 128 :=
  Bytes.forall_octet (by decide +kernel)

theorem decode_encode (s : String) :
    decode (Utf8.encode (encode isUnreserved s)) = Utf8.encode s := by
  rw [encode_encode ascii_of_isUnreserved, decode_flatMap_octets (by decide)]

theorem encode_injective {s t : String} (same : encode isUnreserved s = encode isUnreserved t) :
    s = t := by
  apply Utf8.encode_injective
  rw [← decode_encode, same, decode_encode]

theorem encode_isEncodedByte (s : String) :
    ∀ b ∈ Utf8.encode (encode isUnreserved s), isEncodedByte b = true := by
  intro b member
  obtain kept | encoded := mem_encode ascii_of_isUnreserved member
  · rw [isEncodedByte, kept, Bool.true_or]
  · exact encoded

end RequestSigning.Percent

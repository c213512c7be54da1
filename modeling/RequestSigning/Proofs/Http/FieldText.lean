import RequestSigning.Http.Header
import RequestSigning.Proofs.Decimal.Digits
import RequestSigning.Proofs.Encoding.Hex
import RequestSigning.Proofs.Text.Lossy
import RequestSigning.Time.Format

/-!
# Texts of header fields

`IsFieldText` are the texts that a field can hold: digests, names of fields, times, and what is put
together from such texts.
-/

namespace RequestSigning.Http

/-- A text that a header field can hold. -/
def IsFieldText (s : String) : Prop := (Utf8.encode s).all isFieldByte = true

instance (s : String) : Decidable (IsFieldText s) := inferInstanceAs (Decidable (_ = true))

theorem isFieldText_append {s t : String} :
    IsFieldText (s ++ t) ↔ IsFieldText s ∧ IsFieldText t := by
  simp [IsFieldText]

theorem hexOctets_isFieldByte : ∀ b : UInt8, (Hex.octets b).all isFieldByte = true :=
  Bytes.forall_octet (by decide +kernel)

theorem isFieldText_hex (bs : Bytes) : IsFieldText (Hex.encode bs) := by
  rw [IsFieldText, Hex.encode_encode, List.all_flatMap, List.all_eq_true]
  exact fun b _ => hexOctets_isFieldByte b

namespace HeaderName

theorem octet_of_isTokenByte : ∀ b : UInt8, isTokenByte b = true →
    b.toNat < 128 ∧ isFieldByte b = true :=
  Bytes.forall_octet (by decide +kernel)

theorem octets_isTokenByte (n : HeaderName) : ∀ b ∈ n.octets, isTokenByte b = true := by
  have token := n.isName
  simp only [isFieldName, isToken, Bool.and_eq_true] at token
  exact List.all_eq_true.mp token.1.2

theorem not_mem_octets (n : HeaderName) {b : UInt8} (foreign : isTokenByte b = false) :
    b ∉ n.octets := by
  intro member
  rw [n.octets_isTokenByte b member] at foreign
  cases foreign

theorem octets_ne_nil (n : HeaderName) : n.octets ≠ [] := by
  intro empty
  have named := n.isName
  rw [empty] at named
  cases named

theorem octets_inj {n m : HeaderName} (same : n.octets = m.octets) : n = m := by
  cases n
  cases m
  cases same
  rfl

theorem encode_text (n : HeaderName) : Utf8.encode n.text = n.octets :=
  Utf8.encode_asciiText fun b member => (octet_of_isTokenByte b (n.octets_isTokenByte b member)).1

theorem isFieldText_text (n : HeaderName) : IsFieldText n.text := by
  rw [IsFieldText, encode_text, List.all_eq_true]
  exact fun b member => (octet_of_isTokenByte b (n.octets_isTokenByte b member)).2

end HeaderName

theorem isFieldText_intercalate {sep : String} {texts : List String} (between : IsFieldText sep)
    (each : ∀ s ∈ texts, IsFieldText s) : IsFieldText (sep.intercalate texts) := by
  induction texts with
  | nil => rfl
  | cons s rest ih =>
    have first := each s List.mem_cons_self
    have later := ih fun t member => each t (List.mem_cons_of_mem s member)
    cases rest with
    | nil => simpa using first
    | cons t rest =>
      rw [String.intercalate_cons_cons, isFieldText_append, isFieldText_append]
      exact ⟨⟨first, between⟩, later⟩

/-! ### Texts that are read from octets -/

theorem isFieldByte_of_high : ∀ b : UInt8, 128 ≤ b.toNat → isFieldByte b = true :=
  Bytes.forall_octet (by decide +kernel)

/-- Only characters of ASCII can keep a text out of a field. -/
theorem isFieldText_iff {s : String} :
    IsFieldText s ↔ ∀ n < 128, Char.ofNat n ∈ s.toList → isFieldByte (UInt8.ofNat n) = true := by
  rw [IsFieldText, List.all_eq_true]
  constructor
  · intro each n low member
    refine each _ (List.mem_flatMap.mpr ⟨_, member, ?_⟩)
    rw [Utf8.encodeChar_ascii low]
    exact List.mem_singleton_self _
  · intro ascii b member
    obtain ⟨c, inside, written⟩ := List.mem_flatMap.mp member
    by_cases low : b.toNat < 128
    · have same : b.toNat = c.toNat := (Utf8.mem_encodeChar written).resolve_right (by omega)
      have plain := ascii b.toNat low
      rw [same, Char.ofNat_toNat, ← same, UInt8.ofNat_toNat] at plain
      exact plain inside
    · exact isFieldByte_of_high b (Nat.not_lt.mp low)

/-- The text of any octets can be in a field exactly where each of them can. -/
theorem isFieldText_decodeLossy_iff {bs : Bytes} :
    IsFieldText (Utf8.decodeLossy bs) ↔ ∀ b ∈ bs, isFieldByte b = true := by
  rw [isFieldText_iff]
  constructor
  · intro ascii b member
    by_cases low : b.toNat < 128
    · have plain := ascii b.toNat low
      rw [Utf8.mem_decodeLossy_iff low, UInt8.ofNat_toNat] at plain
      exact plain member
    · exact isFieldByte_of_high b (Nat.not_lt.mp low)
  · intro each n low member
    exact each _ ((Utf8.mem_decodeLossy_iff low bs).mp member)

/-! ### Numbers and times -/

theorem plain_of_isDigit : ∀ b : UInt8, Ascii.isDigit b = true →
    b.toNat < 128 ∧ isFieldByte b = true :=
  Bytes.forall_octet (by decide +kernel)

theorem isFieldText_of_digits {cs : List Char} (digits : ∀ c ∈ cs, c.isDigit = true) :
    IsFieldText (String.ofList cs) := by
  rw [IsFieldText, Ascii.encode_digits digits, List.all_map, List.all_eq_true]
  exact fun c member => (plain_of_isDigit _ (Ascii.isDigit_of_char (digits c member))).2

theorem isFieldText_toString (n : Nat) : IsFieldText (toString n) := by
  rw [IsFieldText, List.all_eq_true]
  exact fun b member => (plain_of_isDigit b (Ascii.isDigit_of_mem_toString member)).2

theorem isFieldText_padded (width n : Nat) : IsFieldText (Decimal.padded width n) := by
  rw [← String.ofList_toList (s := Decimal.padded width n)]
  exact isFieldText_of_digits fun c member => Decimal.isDigit_of_mem_padded member

theorem isFieldText_yearText (year : Int) : IsFieldText (Civil.yearText year) := by
  unfold Civil.yearText
  split
  · exact isFieldText_padded _ _
  · refine isFieldText_append.mpr ⟨?_, isFieldText_padded _ _⟩
    split <;> decide

theorem isFieldText_compact (t : Instant) : IsFieldText t.compact := by
  have mark : IsFieldText "T" := by decide
  have zone : IsFieldText "Z" := by decide
  simp only [Instant.compact, Instant.compactDate, Instant.twoDigits, isFieldText_append,
    isFieldText_yearText, isFieldText_padded, mark, zone, and_self]

namespace HeaderValue

theorem ofText?_ok {text : String} {sensitive : Bool} {v : HeaderValue}
    (h : ofText? text sensitive = .ok v) :
    v.octets = Utf8.encode text ∧ v.sensitive = sensitive := by
  unfold ofText? ofBytes? at h
  split at h
  · cases h
    exact ⟨rfl, rfl⟩
  · cases h

theorem isFieldText_of_ok {text : String} {sensitive : Bool} {v : HeaderValue}
    (h : ofText? text sensitive = .ok v) : IsFieldText text := by
  rw [IsFieldText, ← (ofText?_ok h).1]
  exact v.isValue

theorem ofText?_of_unwritable {text : String} (sensitive : Bool) (unwritable : ¬IsFieldText text) :
    ofText? text sensitive = .error .headerValue :=
  dif_neg unwritable

theorem exists_ofText? {text : String} (sensitive : Bool)
    (writable : IsFieldText text) :
    ∃ v, ofText? text sensitive = .ok v :=
  ⟨⟨Utf8.encode text, sensitive, writable⟩, dif_pos writable⟩

end HeaderValue

end RequestSigning.Http

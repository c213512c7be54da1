import RequestSigning.Proofs.Canonical.Request
import RequestSigning.Proofs.Draft.Octets

/-!
# Printed canonical requests

The text of a canonical request has the lines of the octets that are digested, and a field value is
read on its own there.  A line end closes what a value leaves open, so `text_ofDraft_eq_decodeLossy`:
the text is that of the octets as a whole, and it is the same octets exactly where each value is UTF-8.
-/

namespace RequestSigning

open Http

theorem Http.Method.encode_text (m : Method) : Utf8.encode m.text = m.octets := by
  have token := m.isToken
  simp only [Http.isToken, Bool.and_eq_true] at token
  exact Utf8.encode_asciiText fun b member =>
    (HeaderName.octet_of_isTokenByte b (List.all_eq_true.mp token.2 b member)).1

namespace CanonicalRequest

/-- The line of a field as text. -/
def lineText (f : HeaderName × Bytes) : String :=
  f.1.text ++ ":" ++ Utf8.decodeLossy f.2 ++ "\n"

theorem decodeLossy_lineEnd (rest : Bytes) :
    Utf8.decodeLossy (0x0A :: rest) = "\n" ++ Utf8.decodeLossy rest :=
  Utf8.decodeLossy_encode_append "\n" rest

theorem decodeLossy_fieldLine (f : HeaderName × Bytes) (rest : Bytes) :
    Utf8.decodeLossy (fieldLine f ++ rest) = lineText f ++ Utf8.decodeLossy rest := by
  have name : f.1.octets ++ 0x3A :: (f.2 ++ 0x0A :: rest) =
      Utf8.encode (f.1.text ++ ":") ++ (f.2 ++ 0x0A :: rest) := by
    rw [Utf8.encode_append, f.1.encode_text, List.append_assoc]
    rfl
  rw [fieldLine_append, name, Utf8.decodeLossy_encode_append,
    Utf8.decodeLossy_append_ascii (by decide), decodeLossy_lineEnd, lineText]
  simp only [String.append_assoc]

theorem decodeLossy_fieldLines (fs : List (HeaderName × Bytes)) (rest : Bytes) :
    Utf8.decodeLossy (fs.flatMap fieldLine ++ rest) =
      String.join (fs.map lineText) ++ Utf8.decodeLossy rest := by
  induction fs with
  | nil => simp
  | cons f fs ih =>
    rw [List.flatMap_cons, List.append_assoc, decodeLossy_fieldLine, ih, List.map_cons,
      String.join_cons, String.append_assoc]

/-- The octets are those of a text, but for the field lines in the middle. -/
theorem toBytes_eq_encode (c : CanonicalRequest) :
    c.toBytes = Utf8.encode (c.method.text ++ "\n" ++ c.path ++ "\n" ++ c.query ++ "\n") ++
      (c.fields.flatMap fieldLine ++
        Utf8.encode ("\n" ++ c.signedText ++ "\n" ++ c.contentHash)) := by
  have lineEnd : Utf8.encode "\n" = [0x0A] := rfl
  rw [toBytes_eq]
  simp only [Utf8.encode_append, lineEnd, Method.encode_text, List.append_assoc, List.cons_append,
    List.nil_append]

theorem text_eq_lineTexts (c : CanonicalRequest) :
    c.text = c.method.text ++ "\n" ++ c.path ++ "\n" ++ c.query ++ "\n" ++
      (String.join (c.fields.map lineText) ++
        ("\n" ++ c.signedText ++ "\n" ++ c.contentHash)) := by
  unfold text lineText
  simp only [String.append_assoc]

theorem text_eq_decodeLossy (c : CanonicalRequest) : c.text = Utf8.decodeLossy c.toBytes := by
  rw [toBytes_eq_encode, Utf8.decodeLossy_encode_append, decodeLossy_fieldLines,
    Utf8.decodeLossy_encode, text_eq_lineTexts]

/-- The request as its text says it is: values are the octets that they are read as. -/
def asRead (c : CanonicalRequest) : CanonicalRequest :=
  { c with fields := c.fields.map fun f => (f.1, Utf8.encode (Utf8.decodeLossy f.2)) }

theorem encode_lineText (f : HeaderName × Bytes) :
    Utf8.encode (lineText f) = fieldLine (f.1, Utf8.encode (Utf8.decodeLossy f.2)) := by
  have colon : Utf8.encode ":" = [0x3A] := rfl
  have lineEnd : Utf8.encode "\n" = [0x0A] := rfl
  rw [lineText, fieldLine]
  simp only [Utf8.encode_append, HeaderName.encode_text, colon, lineEnd, List.append_assoc,
    List.cons_append, List.nil_append]

theorem encode_lineTexts (fs : List (HeaderName × Bytes)) :
    Utf8.encode (String.join (fs.map lineText)) =
      (fs.map fun f => (f.1, Utf8.encode (Utf8.decodeLossy f.2))).flatMap fieldLine := by
  induction fs with
  | nil => rfl
  | cons f fs ih =>
    rw [List.map_cons, String.join_cons, Utf8.encode_append, ih, encode_lineText, List.map_cons,
      List.flatMap_cons]

theorem encode_text_eq (c : CanonicalRequest) : Utf8.encode c.text = c.asRead.toBytes := by
  rw [text_eq_lineTexts, toBytes_eq_encode, Utf8.encode_append _ (String.join _ ++ _),
    Utf8.encode_append (String.join _), encode_lineTexts]
  rfl

/-- Reading a value brings no line end into it. -/
theorem isLined_asRead {c : CanonicalRequest} (lined : c.IsLined) : c.asRead.IsLined := by
  refine ⟨lined.path, lined.query, fun f member => ?_⟩
  obtain ⟨g, among, rfl⟩ := List.mem_map.mp member
  refine Target.not_mem_encode (by decide) fun ch inside same => lined.fields g among ?_
  rw [← Char.ofNat_toNat ch, same] at inside
  exact (Utf8.mem_decodeLossy_iff (by decide) g.2).mp inside

theorem asRead_eq_iff {c : CanonicalRequest} :
    c.asRead = c ↔ ∀ f ∈ c.fields, Utf8.IsText f.2 := by
  calc
    _ ↔ (c.fields.map fun f => (f.1, Utf8.encode (Utf8.decodeLossy f.2))) = c.fields.map id := by
      rw [List.map_id]
      exact ⟨congrArg fields, fun same => by rw [asRead, same]⟩
    _ ↔ ∀ f ∈ c.fields, (f.1, Utf8.encode (Utf8.decodeLossy f.2)) = f := List.map_inj_left
    _ ↔ _ := by simp only [Utf8.isText_iff, Prod.ext_iff, true_and]

theorem encode_text_eq_iff {c : CanonicalRequest} (lined : c.IsLined) :
    Utf8.encode c.text = c.toBytes ↔ ∀ f ∈ c.fields, Utf8.IsText f.2 := by
  rw [encode_text_eq, ← asRead_eq_iff]
  exact ⟨toBytes_inj (isLined_asRead lined) lined, congrArg toBytes⟩

/-- What is shown of a request is the text of what is digested, with U+FFFD for what is none, and so
it is what is digested if and only if each compacted field value is UTF-8. -/
theorem text_ofDraft_eq_decodeLossy (d : Draft) (contentHash : String) (double : Bool) :
    (ofDraft d contentHash double).text =
        Utf8.decodeLossy (ofDraft d contentHash double).toBytes ∧
      (Utf8.encode (ofDraft d contentHash double).text =
          (ofDraft d contentHash double).toBytes ↔
        ∀ f ∈ Canonical.fields d.headers, Utf8.IsText f.2) :=
  ⟨text_eq_decodeLossy _, encode_text_eq_iff (isLined_ofDraft d contentHash double)⟩

end CanonicalRequest

end RequestSigning

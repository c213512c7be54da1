import RequestSigning.Canonical.Request
import RequestSigning.Proofs.Canonical.Compact
import RequestSigning.Proofs.Canonical.Query

/-!
# Canonical requests are unambiguous

The octets of a canonical request are lines: three of them, one for each field, an empty one, the
signed names, and the content hash up to the end.  What a request puts into a line has no line end,
and no field makes an empty line.  So `toBytes_ofDraft_eq_iff`: equal octets have equal parts, whatever
stands in path, query, field values or content hash.
-/

namespace RequestSigning

open Http

namespace Http.Method

theorem not_mem_octets (m : Method) {b : UInt8} (foreign : isTokenByte b = false) :
    b ∉ m.octets := by
  intro member
  have token := m.isToken
  simp only [Http.isToken, Bool.and_eq_true] at token
  rw [List.all_eq_true.mp token.2 b member] at foreign
  cases foreign

theorem octets_inj {m k : Method} (same : m.octets = k.octets) : m = k := by
  cases m
  cases k
  cases same
  rfl

end Http.Method

namespace Canonical

theorem ascii_of_keepsPath : ∀ b : UInt8, keepsPath b = true → b.toNat < 128 :=
  Bytes.forall_octet (by decide +kernel)

theorem ascii_of_keepsEncodedPath : ∀ b : UInt8, keepsEncodedPath b = true → b.toNat < 128 :=
  Bytes.forall_octet (by decide +kernel)

theorem lineEnd_not_mem_path (text : String) (double : Bool) :
    0x0A ∉ Utf8.encode (path text double) := by
  intro member
  unfold path at member
  split at member
  · exact absurd member (by decide)
  · dsimp only at member
    split at member
    · obtain kept | encoded := Percent.mem_encode ascii_of_keepsEncodedPath member
      · exact absurd kept (by decide)
      · exact absurd encoded (by decide)
    · obtain kept | encoded := Percent.mem_encode ascii_of_keepsPath member
      · exact absurd kept (by decide)
      · exact absurd encoded (by decide)

theorem lineEnd_not_mem_query (pairs : List (String × String)) :
    0x0A ∉ Utf8.encode (query pairs) := by
  intro member
  rw [query, Utf8.encode_intercalate rfl] at member
  obtain separator | ⟨piece, among, inside⟩ := Bytes.mem_join member
  · exact absurd separator (by decide)
  · obtain ⟨text, written, rfl⟩ := List.mem_map.mp among
    obtain ⟨encoded, sorted, rfl⟩ := List.mem_map.mp written
    obtain ⟨pair, _, rfl⟩ := List.mem_map.mp (List.mem_mergeSort.mp sorted)
    rw [Utf8.encode_append, Utf8.encode_append, List.mem_append, List.mem_append] at inside
    obtain (key | equals) | value := inside
    · exact Draft.not_mem_encode pair.1 (by decide) key
    · exact absurd equals (by decide)
    · exact Draft.not_mem_encode pair.2 (by decide) value

end Canonical

namespace CanonicalRequest

/-- What is to stand in a line has no line end. -/
structure IsLined (c : CanonicalRequest) : Prop where
  path : 0x0A ∉ Utf8.encode c.path
  query : 0x0A ∉ Utf8.encode c.query
  fields : ∀ f ∈ c.fields, 0x0A ∉ f.2

theorem isLined_ofDraft (d : Draft) (contentHash : String) (double : Bool) :
    (ofDraft d contentHash double).IsLined := by
  refine ⟨Canonical.lineEnd_not_mem_path d.path double, Canonical.lineEnd_not_mem_query d.query, ?_⟩
  intro f member
  obtain ⟨n, _, values⟩ := List.mem_flatMap.mp member
  obtain ⟨v, _, rfl⟩ := List.mem_map.mp values
  intro inside
  have space := (Canonical.isCompact_compact v.octets).spaces 0x0A inside (by decide)
  exact absurd space (by decide)

/-- The line of a field. -/
def fieldLine (f : HeaderName × Bytes) : Bytes := f.1.octets ++ 0x3A :: f.2 ++ [0x0A]

theorem toBytes_eq (c : CanonicalRequest) : c.toBytes = c.method.octets ++ 0x0A ::
    (Utf8.encode c.path ++ 0x0A :: (Utf8.encode c.query ++ 0x0A ::
      (c.fields.flatMap fieldLine ++ 0x0A ::
        (Utf8.encode c.signedText ++ 0x0A :: Utf8.encode c.contentHash)))) := rfl

theorem fieldLine_append (f : HeaderName × Bytes) (rest : Bytes) :
    fieldLine f ++ rest = f.1.octets ++ 0x3A :: (f.2 ++ 0x0A :: rest) := by
  simp [fieldLine]

/-- A field has a name, so that its line is not the empty one. -/
theorem fieldLine_ne_lineEnd (f : HeaderName × Bytes) (rest later : Bytes) :
    fieldLine f ++ rest ≠ 0x0A :: later := by
  intro same
  rw [fieldLine_append] at same
  cases written : f.1.octets with
  | nil => exact f.1.octets_ne_nil written
  | cons b bs =>
    rw [written] at same
    obtain ⟨first, _⟩ := List.cons.inj same
    have member : (0x0A : UInt8) ∈ f.1.octets := by
      rw [written, first]
      exact List.mem_cons_self
    exact f.1.not_mem_octets (by decide) member

theorem fieldLine_append_inj {f g : HeaderName × Bytes} {rest later : Bytes} (left : 0x0A ∉ f.2)
    (right : 0x0A ∉ g.2) (same : fieldLine f ++ rest = fieldLine g ++ later) :
    f = g ∧ rest = later := by
  rw [fieldLine_append, fieldLine_append] at same
  obtain ⟨names, same⟩ := Bytes.append_separator_inj (f.1.not_mem_octets (by decide))
    (g.1.not_mem_octets (by decide)) same
  obtain ⟨values, rests⟩ := Bytes.append_separator_inj left right same
  exact ⟨Prod.ext (HeaderName.octets_inj names) values, rests⟩

/-- The block of field lines ends at the first empty line. -/
theorem fieldLines_append_inj {fs gs : List (HeaderName × Bytes)} {rest later : Bytes}
    (left : ∀ f ∈ fs, 0x0A ∉ f.2) (right : ∀ g ∈ gs, 0x0A ∉ g.2)
    (same : fs.flatMap fieldLine ++ 0x0A :: rest = gs.flatMap fieldLine ++ 0x0A :: later) :
    fs = gs ∧ rest = later := by
  induction fs generalizing gs with
  | nil =>
    cases gs with
    | nil => exact ⟨rfl, (List.cons.inj same).2⟩
    | cons g gs =>
      rw [List.flatMap_cons, List.append_assoc] at same
      exact absurd same.symm (fieldLine_ne_lineEnd g _ _)
  | cons f fs ih =>
    cases gs with
    | nil =>
      rw [List.flatMap_cons, List.append_assoc] at same
      exact absurd same (fieldLine_ne_lineEnd f _ _)
    | cons g gs =>
      rw [List.flatMap_cons, List.flatMap_cons, List.append_assoc, List.append_assoc] at same
      obtain ⟨first, blocks⟩ := fieldLine_append_inj (left f List.mem_cons_self)
        (right g List.mem_cons_self) same
      obtain ⟨fields, rests⟩ := ih (fun x member => left x (List.mem_cons_of_mem f member))
        (fun x member => right x (List.mem_cons_of_mem g member)) blocks
      rw [first, fields]
      exact ⟨rfl, rests⟩

theorem encode_signedText (c : CanonicalRequest) :
    Utf8.encode c.signedText = Bytes.join 0x3B (c.names.map (·.octets)) := by
  rw [signedText, Utf8.encode_intercalate rfl, List.map_map]
  exact congrArg _ (List.map_congr_left fun n _ => n.encode_text)

theorem not_mem_signedText (c : CanonicalRequest) {b : UInt8} (other : b ≠ 0x3B)
    (foreign : isTokenByte b = false) : b ∉ Utf8.encode c.signedText := by
  intro member
  rw [encode_signedText] at member
  obtain separator | ⟨piece, among, inside⟩ := Bytes.mem_join member
  · exact other separator
  · obtain ⟨n, _, rfl⟩ := List.mem_map.mp among
    exact n.not_mem_octets foreign inside

theorem lineEnd_not_mem_signedText (c : CanonicalRequest) : 0x0A ∉ Utf8.encode c.signedText :=
  c.not_mem_signedText (by decide) (by decide)

theorem names_eq_of_signedText {c d : CanonicalRequest} (same : c.signedText = d.signedText) :
    c.names = d.names := by
  have filled : ∀ names : List HeaderName, ∀ piece ∈ names.map (·.octets), piece ≠ [] := by
    intro names piece among
    obtain ⟨n, _, rfl⟩ := List.mem_map.mp among
    exact n.octets_ne_nil
  have clean : ∀ names : List HeaderName, ∀ piece ∈ names.map (·.octets), 0x3B ∉ piece := by
    intro names piece among
    obtain ⟨n, _, rfl⟩ := List.mem_map.mp among
    exact n.not_mem_octets (by decide)
  have joined : Bytes.join 0x3B (c.names.map (·.octets)) =
      Bytes.join 0x3B (d.names.map (·.octets)) := by
    rw [← encode_signedText, same, encode_signedText]
  have pieces := Bytes.join_inj (filled _) (filled _) (clean _) (clean _) joined
  exact (List.map_inj_right fun _ _ => HeaderName.octets_inj).mp pieces

theorem toBytes_inj {c d : CanonicalRequest} (left : c.IsLined) (right : d.IsLined)
    (same : c.toBytes = d.toBytes) : c = d := by
  rw [toBytes_eq, toBytes_eq] at same
  obtain ⟨method, same⟩ := Bytes.append_separator_inj (c.method.not_mem_octets (by decide))
    (d.method.not_mem_octets (by decide)) same
  obtain ⟨path, same⟩ := Bytes.append_separator_inj left.path right.path same
  obtain ⟨query, same⟩ := Bytes.append_separator_inj left.query right.query same
  obtain ⟨fields, same⟩ := fieldLines_append_inj left.fields right.fields same
  obtain ⟨names, hash⟩ := Bytes.append_separator_inj (lineEnd_not_mem_signedText c)
    (lineEnd_not_mem_signedText d) same
  have names := names_eq_of_signedText (Utf8.encode_injective names)
  have method := Method.octets_inj method
  have path := Utf8.encode_injective path
  have query := Utf8.encode_injective query
  have hash := Utf8.encode_injective hash
  cases c
  cases d
  simp only at method path query fields names hash
  rw [method, path, query, fields, names, hash]

/-- Two requests with the same octets to digest have every part in common. -/
theorem toBytes_ofDraft_eq_iff (d e : Draft) (hash otherHash : String) (double otherDouble : Bool) :
    (ofDraft d hash double).toBytes = (ofDraft e otherHash otherDouble).toBytes ↔
      d.method = e.method ∧
      Canonical.path d.path double = Canonical.path e.path otherDouble ∧
      Canonical.query d.query = Canonical.query e.query ∧
      Canonical.fields d.headers = Canonical.fields e.headers ∧
      Canonical.signedNames d.headers = Canonical.signedNames e.headers ∧
      hash = otherHash := by
  have parts := toBytes_inj (isLined_ofDraft d hash double) (isLined_ofDraft e otherHash otherDouble)
  constructor
  · intro same
    obtain ⟨method, path, query, fields, names, hashes⟩ := CanonicalRequest.mk.inj (parts same)
    exact ⟨method, path, query, fields, names, hashes⟩
  · rintro ⟨method, path, query, fields, names, rfl⟩
    simp only [ofDraft, method, path, query, fields, names]

end CanonicalRequest

end RequestSigning

import RequestSigning.Draft
import RequestSigning.Proofs.Encoding.Form

/-!
# Queries of drafts

`rawPairs_queryText`: the query of a draft is read back octet by octet, but a pair of two empty
texts is written as nothing and passed over.
-/

namespace RequestSigning.Draft

/-- The pair that is lost: nothing is written for it. -/
def emptyPair : String × String := ("", "")

theorem filter_eq_self {pairs : List (String × String)} :
    pairs.filter (· ≠ emptyPair) = pairs ↔ emptyPair ∉ pairs := by
  rw [List.filter_eq_self]
  constructor
  · intro kept member
    exact absurd rfl (of_decide_eq_true (kept emptyPair member))
  · intro absent pair member
    exact decide_eq_true fun same => absent (same ▸ member)

theorem encode_pairText (pair : String × String) :
    Utf8.encode (pairText pair) =
      Utf8.encode (Percent.encode Percent.isUnreserved pair.1) ++
        if pair.2 = "" then []
        else 0x3D :: Utf8.encode (Percent.encode Percent.isUnreserved pair.2) := by
  have equals : Utf8.encode "=" = [0x3D] := rfl
  unfold pairText
  split
  · rw [List.append_nil]
  · rw [Utf8.encode_append, Utf8.encode_append, equals, List.append_assoc, List.singleton_append]

/-- The octets of a query. -/
theorem mem_encode_pairText {pair : String × String} {b : UInt8}
    (member : b ∈ Utf8.encode (pairText pair)) : Percent.isEncodedByte b = true ∨ b = 0x3D := by
  rw [encode_pairText, List.mem_append] at member
  obtain inKey | inValue := member
  · exact .inl (Percent.encode_isEncodedByte pair.1 b inKey)
  · split at inValue
    · cases inValue
    · obtain rfl | later := List.mem_cons.mp inValue
      · exact .inr rfl
      · exact .inl (Percent.encode_isEncodedByte pair.2 b later)

theorem not_mem_encode {b : UInt8} (s : String) (foreign : Percent.isEncodedByte b = false) :
    b ∉ Utf8.encode (Percent.encode Percent.isUnreserved s) := by
  intro member
  rw [Percent.encode_isEncodedByte s b member] at foreign
  cases foreign

theorem encode_pairText_eq_nil {pair : String × String} :
    Utf8.encode (pairText pair) = [] ↔ pair = emptyPair := by
  have key := Percent.encode_eq_empty (s := pair.1) Percent.ascii_of_isUnreserved
  rw [encode_pairText, List.append_eq_nil_iff, Utf8.encode_eq_nil, key, emptyPair, Prod.mk.injEq]
  split <;> simp_all

theorem rawPairOf_pairText (pair : String × String) :
    Form.rawPairOf (Utf8.encode (pairText pair)) = (Utf8.encode pair.1, Utf8.encode pair.2) := by
  have clean := not_mem_encode (b := 0x3D) pair.1 (by decide)
  rw [encode_pairText, Form.rawPairOf]
  split
  · rename_i valueless
    have nothing : Utf8.encode pair.2 = [] := Utf8.encode_eq_nil.mpr valueless
    rw [List.append_nil, Bytes.cut_of_not_mem clean, nothing]
    simp only [Form.decodeBytes_encode]
    rfl
  · rw [Bytes.cut_append clean]
    simp only [Option.getD_some, Form.decodeBytes_encode]

theorem encode_queryText (d : Draft) :
    Utf8.encode d.queryText =
      Bytes.join 0x26 (d.query.map fun pair => Utf8.encode (pairText pair)) := by
  rw [queryText, Utf8.encode_intercalate rfl, List.map_map]
  rfl

theorem rawPairs_queryText (d : Draft) :
    Form.rawPairs (Utf8.encode d.queryText) =
      (d.query.filter (· ≠ emptyPair)).map fun pair =>
        (Utf8.encode pair.1, Utf8.encode pair.2) := by
  have clean : ∀ piece ∈ d.query.map fun pair => Utf8.encode (pairText pair), 0x26 ∉ piece := by
    intro piece among member
    obtain ⟨pair, _, rfl⟩ := List.mem_map.mp among
    obtain encoded | equals := mem_encode_pairText member
    · exact absurd encoded (by decide)
    · exact absurd equals (by decide)
  have written : ∀ pair ∈ d.query,
      decide (Utf8.encode (pairText pair) ≠ []) = decide (pair ≠ emptyPair) := fun pair _ =>
    decide_eq_decide.mpr (not_congr encode_pairText_eq_nil)
  rw [encode_queryText, Form.rawPairs_join clean, List.filter_map, List.map_map]
  calc
    _ = (d.query.filter fun pair => decide (Utf8.encode (pairText pair) ≠ [])).map
          fun pair => (Utf8.encode pair.1, Utf8.encode pair.2) :=
      List.map_congr_left fun pair _ => rawPairOf_pairText pair
    _ = _ := congrArg (List.map _) (List.filter_congr written)

theorem parse_queryText (d : Draft) :
    Form.parse (Utf8.encode d.queryText) = d.query.filter (· ≠ emptyPair) := by
  rw [Form.parse, rawPairs_queryText, List.map_map]
  refine (List.map_congr_left (g := id) ?_).trans (List.map_id _)
  intro pair _
  exact Prod.ext (Utf8.decodeLossy_encode pair.1) (Utf8.decodeLossy_encode pair.2)

theorem mem_encode_queryText {d : Draft} {b : UInt8} (member : b ∈ Utf8.encode d.queryText) :
    Percent.isEncodedByte b = true ∨ b = 0x3D ∨ b = 0x26 := by
  rw [encode_queryText] at member
  obtain separator | ⟨piece, among, inside⟩ := Bytes.mem_join member
  · exact .inr (.inr separator)
  · obtain ⟨pair, _, rfl⟩ := List.mem_map.mp among
    obtain encoded | equals := mem_encode_pairText inside
    · exact .inl encoded
    · exact .inr (.inl equals)

end RequestSigning.Draft

import RequestSigning.Proofs.Draft.Restore

/-!
# Octets of a query

A query is taken as texts and written again.  `rawPairs_restore_iff`: the octets that its escapes
stand for come back if and only if they are the octets of texts, and no pair is lost.
-/

namespace RequestSigning

open Http

/-- The octets of the keys and the values in the query. -/
def Http.Uri.rawPairs (u : Uri) : List (Bytes × Bytes) :=
  ((u.target?.bind (·.query)).map fun q => Form.rawPairs (Utf8.encode q)).getD []

/-- The octets are those of a text. -/
def Utf8.IsText (bs : Bytes) : Prop := ∃ s, Utf8.encode s = bs

theorem Utf8.isText_iff {bs : Bytes} : IsText bs ↔ encode (decodeLossy bs) = bs := by
  constructor
  · rintro ⟨s, rfl⟩
    rw [decodeLossy_encode]
  · exact fun same => ⟨_, same⟩

namespace Draft

theorem query_ofUri_eq (head : Head) (authority : Authority) :
    (ofUri head authority).query =
      head.uri.rawPairs.map fun pair => (Utf8.decodeLossy pair.1, Utf8.decodeLossy pair.2) := by
  unfold ofUri Uri.rawPairs
  cases head.uri.target? with
  | none => rfl
  | some target =>
    simp only [Option.getD_some, Option.bind_some]
    cases target.query with
    | none => rfl
    | some query => rfl

theorem rawPairs_queryOf (d : Draft) :
    ((queryOf d.query).map fun q => Form.rawPairs (Utf8.encode q)).getD [] =
      (d.query.filter (· ≠ emptyPair)).map fun pair =>
        (Utf8.encode pair.1, Utf8.encode pair.2) := by
  rw [← rawPairs_queryText, queryOf, ← queryText]
  split
  · rename_i empty
    rw [empty]
    rfl
  · rfl

/-- What is sent of a query: its pairs as texts, without those of two empty ones. -/
theorem rawPairs_of_restore {head into sent : Head} {authority : Authority}
    (restored : (ofUri head authority).restore into = (.ok (), sent)) :
    sent.uri.rawPairs = ((ofUri head authority).query.filter (· ≠ emptyPair)).map
      fun pair => (Utf8.encode pair.1, Utf8.encode pair.2) := by
  obtain ⟨t, _, query, _, rfl⟩ := (restore_ok_iff (hasTargetPath_ofUri head authority)).mp restored
  rw [← rawPairs_queryOf, ← query]
  rfl

/-- Pairs that are read as texts, and written without the empty ones. -/
theorem written_eq_iff (pairs : List (Bytes × Bytes)) :
    ((pairs.map fun pair => (Utf8.decodeLossy pair.1, Utf8.decodeLossy pair.2)).filter
        (· ≠ emptyPair)).map (fun pair => (Utf8.encode pair.1, Utf8.encode pair.2)) = pairs ↔
      (∀ pair ∈ pairs, Utf8.IsText pair.1 ∧ Utf8.IsText pair.2) ∧ ([], []) ∉ pairs := by
  generalize read :
    (pairs.map fun pair => (Utf8.decodeLossy pair.1, Utf8.decodeLossy pair.2)) = texts
  have again : (texts.map fun pair => (Utf8.encode pair.1, Utf8.encode pair.2)) = pairs ↔
      ∀ pair ∈ pairs, Utf8.IsText pair.1 ∧ Utf8.IsText pair.2 := by
    calc
      _ ↔ (pairs.map fun pair => (Utf8.encode (Utf8.decodeLossy pair.1),
            Utf8.encode (Utf8.decodeLossy pair.2))) = pairs.map id := by
        rw [← read, List.map_map, List.map_id]
        rfl
      _ ↔ ∀ pair ∈ pairs, (Utf8.encode (Utf8.decodeLossy pair.1),
            Utf8.encode (Utf8.decodeLossy pair.2)) = pair := List.map_inj_left
      _ ↔ _ := by simp only [Utf8.isText_iff, Prod.ext_iff]
  constructor
  · intro same
    have whole : texts.filter (· ≠ emptyPair) = texts := by
      have size : texts.length = pairs.length := by rw [← read, List.length_map]
      have lengths := congrArg List.length same
      rw [List.length_map, ← size] at lengths
      exact List.filter_eq_self.mpr (List.length_filter_eq_length_iff.mp lengths)
    rw [whole] at same
    refine ⟨again.mp same, fun member => filter_eq_self.mp whole ?_⟩
    rw [← read]
    exact List.mem_map.mpr ⟨_, member, rfl⟩
  · rintro ⟨texted, absent⟩
    have whole : texts.filter (· ≠ emptyPair) = texts := by
      refine filter_eq_self.mpr fun member => ?_
      rw [← again.mpr texted] at absent
      exact absent (List.mem_map.mpr ⟨_, member, rfl⟩)
    rw [whole]
    exact again.mpr texted

/-- Signing keeps the octets of a query if and only if each key and each value is UTF-8 and none of
its pieces says nothing.  A piece with a key says something. -/
theorem rawPairs_restore_iff {head into sent : Head} {authority : Authority}
    (named : head.uri.authority? = some authority)
    (restored : (ofUri head authority).restore into = (.ok (), sent)) :
    (take head).1 = .ok (ofUri head authority) ∧
      (sent.uri.rawPairs = head.uri.rawPairs ↔
        (∀ pair ∈ head.uri.rawPairs, Utf8.IsText pair.1 ∧ Utf8.IsText pair.2) ∧
          ([], []) ∉ head.uri.rawPairs) := by
  refine ⟨by rw [take, named], ?_⟩
  rw [rawPairs_of_restore restored, query_ofUri_eq]
  exact written_eq_iff head.uri.rawPairs

/-- A search with characters of three octets, written with escapes and without, a flag, a plus sign
and an empty piece. -/
def search : Head where
  method := .get
  uri := .absolute .https (.named "search.example.net")
    ⟨"/a", some "prefix=%E4%BD%A0%2f&acl&a+b=%2B&&你=x", by decide⟩
  headers := .empty

theorem rawPairs_restore_iff_search : search.uri.authority? = some (.named "search.example.net") ∧
    ∃ sent, (ofUri search (.named "search.example.net")).restore .initial = (.ok (), sent) ∧
      sent.uri.text = "https://search.example.net/a?prefix=%E4%BD%A0%2F&acl&a%20b=%2B&%E4%BD%A0=x" ∧
      sent.uri.rawPairs = search.uri.rawPairs := by
  have restored : (ofUri search (.named "search.example.net")).restore .initial =
      (.ok (), ((ofUri search (.named "search.example.net")).restore .initial).2) := rfl
  have texts : ∀ pair ∈ search.uri.rawPairs, Utf8.IsText pair.1 ∧ Utf8.IsText pair.2 := by
    simp only [Utf8.isText_iff]
    decide +kernel
  have kept := (rawPairs_restore_iff rfl restored).2.mpr ⟨texts, by decide +kernel⟩
  exact ⟨rfl, _, restored, by decide +kernel, kept⟩

/-- A query with an octet that stands in no text. -/
def strayOctet : Head where
  method := .get
  uri := .absolute .https (.named "search.example.net") ⟨"/", some "k=%FF", by decide⟩
  headers := .empty

/-- The key is not empty, but the octet of the value is replaced by those of U+FFFD. -/
theorem rawPairs_restore_strayOctet :
    ∃ d sent, take strayOctet = (.ok d, .initial) ∧ d.restore .initial = (.ok (), sent) ∧
      sent.uri.text = "https://search.example.net/?k=%EF%BF%BD" ∧
      strayOctet.uri.rawPairs = [([0x6B], [0xFF])] ∧
      sent.uri.rawPairs = [([0x6B], [0xEF, 0xBF, 0xBD])] :=
  ⟨_, _, rfl, rfl, by decide +kernel, by decide +kernel, by decide +kernel⟩

end Draft

end RequestSigning

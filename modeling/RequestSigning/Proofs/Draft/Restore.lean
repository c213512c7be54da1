import RequestSigning.Proofs.Canonical.Query
import RequestSigning.Proofs.Http.Target

/-!
# Taking a restored draft again

What a signer does to a draft keeps its path a path.  So `take_restore`: a restored draft is taken
again as it was, but for the pairs of two empty texts in its query.
-/

namespace RequestSigning

open Http

/-- The decoded pairs of the query. -/
def Http.Target.pairs (t : Target) : List (String × String) :=
  (t.query.map fun q => Form.parse (Utf8.encode q)).getD []

/-- A change that a signer makes. -/
inductive Edit
  | push (key value : String)
  | insert (name : HeaderName) (value : String) (sensitive : Bool)

namespace Edit

/-- A field value that cannot be written changes nothing. -/
def apply : Edit → Draft → Draft
  | push key value, d => d.addPairs [(key, value)]
  | insert name value sensitive, d => (d.setHeader name value sensitive).toOption.getD d

end Edit

namespace Draft

/-- The draft behind some changes. -/
def edited (d : Draft) (edits : List Edit) : Draft := edits.foldl (fun d edit => edit.apply d) d

/-- The path is one that a uri can have. -/
def HasTargetPath (d : Draft) : Prop := ∃ query, isTarget d.path query = true

theorem hasTargetPath_ofUri (head : Head) (authority : Authority) :
    (ofUri head authority).HasTargetPath :=
  ⟨_, (head.uri.target?.getD .root).isTarget⟩

theorem path_apply (edit : Edit) (d : Draft) : (edit.apply d).path = d.path := by
  cases edit with
  | push key value => rfl
  | insert name value sensitive =>
    rw [Edit.apply, setHeader]
    cases HeaderValue.ofText? value sensitive <;> rfl

theorem hasTargetPath_edited {d : Draft} (edits : List Edit) (rooted : d.HasTargetPath) :
    (d.edited edits).HasTargetPath := by
  induction edits generalizing d with
  | nil => exact rooted
  | cons edit rest ih =>
    apply ih
    obtain ⟨query, target⟩ := rooted
    exact ⟨query, (path_apply edit d).symm ▸ target⟩

/-! ### What is written is read -/

theorem isQueryChar_of_octet : ∀ b : UInt8,
    Percent.isEncodedByte b = true ∨ b = 0x3D ∨ b = 0x26 →
      b.toNat < 128 ∧ isQueryChar (Char.ofNat b.toNat) = true :=
  Bytes.forall_octet (by decide +kernel)

theorem isQueryChar_queryText (d : Draft) : ∀ c ∈ d.queryText.toList, isQueryChar c = true := by
  intro c member
  obtain ⟨b, first⟩ := List.exists_mem_of_ne_nil _ (String.utf8EncodeChar_ne_nil (c := c))
  have inside : b ∈ Utf8.encode d.queryText := List.mem_flatMap.mpr ⟨c, member, first⟩
  obtain ⟨low, allowed⟩ := isQueryChar_of_octet b (mem_encode_queryText inside)
  obtain same | high := Utf8.mem_encodeChar first
  · rwa [same, Char.ofNat_toNat] at allowed
  · omega

/-- The query that is written for these pairs, if anything is. -/
def queryOf (pairs : List (String × String)) : Option String :=
  let text := "&".intercalate (pairs.map pairText)
  if text = "" then none else some text

theorem targetText_eq (d : Draft) :
    d.targetText = d.path ++ (queryOf d.query).elim "" fun q => "?" ++ q := by
  by_cases empty : d.queryText = ""
  · rw [targetText, if_pos empty, queryOf, ← queryText, if_pos empty, Option.elim_none,
      String.append_empty]
  · rw [targetText, if_neg empty, queryOf, ← queryText, if_neg empty, Option.elim_some,
      String.append_assoc]

theorem queryOf_isQueryChar (d : Draft) : ∀ q ∈ queryOf d.query, ∀ c ∈ q.toList,
    isQueryChar c = true := by
  intro q written
  unfold queryOf at written
  dsimp only at written
  split at written
  · cases written
  · cases written
    exact isQueryChar_queryText d

/-- Path and query of a draft are a target, unless a query stands behind the star. -/
theorem isTarget_queryOf {d : Draft} (rooted : d.HasTargetPath) :
    isTarget d.path (queryOf d.query) = true ∨
      d.path = "*" ∧ ∃ q, queryOf d.query = some q := by
  obtain ⟨query, target⟩ := rooted
  obtain ⟨star, _⟩ | ⟨root, inPath, _⟩ := Target.isTarget_cases target
  · cases written : queryOf d.query with
    | none => rw [star]; exact .inl rfl
    | some q => exact .inr ⟨star, q, rfl⟩
  · left
    have inQuery : ((queryOf d.query).getD "").toList.all isQueryChar = true := by
      cases written : queryOf d.query with
      | none => rfl
      | some q => exact List.all_eq_true.mpr (queryOf_isQueryChar d q written)
    simp [isTarget, root, List.all_eq_true.mpr inPath, inQuery]

theorem parse?_star_query (text : String) (target : Target) :
    Target.parse? (Utf8.encode ("*" ++ ("?" ++ text))) ≠ .ok target := by
  have octets : Utf8.encode ("*" ++ ("?" ++ text)) = 0x2A :: 0x3F :: Utf8.encode text := by
    rw [Utf8.encode_append, Utf8.encode_append]
    rfl
  intro read
  rw [octets, Target.parse?, if_neg (List.cons_ne_nil _ _)] at read
  split at read <;> cases read

/-- Path and query of a draft are read back as they are, if they are no more than a uri may hold. -/
theorem parse?_targetText_ok_iff {d : Draft} {t : Target} (rooted : d.HasTargetPath) :
    Target.parse? (Utf8.encode d.targetText) = .ok t ↔
      t.path = d.path ∧ t.query = queryOf d.query ∧
        (Utf8.encode t.text).length ≤ maxUriLength := by
  rw [targetText_eq]
  obtain target | ⟨star, q, written⟩ := isTarget_queryOf rooted
  · rw [show (d.path ++ (queryOf d.query).elim "" fun q => "?" ++ q) =
      (Target.mk d.path (queryOf d.query) target).text from rfl, Target.parse?_text_ok_iff]
    constructor
    · rintro ⟨rfl, short⟩
      exact ⟨rfl, rfl, short⟩
    · rintro ⟨path, query, short⟩
      cases t
      cases path
      cases query
      exact ⟨rfl, short⟩
  · rw [star, written, Option.elim_some]
    constructor
    · intro read
      exact absurd read (parse?_star_query q t)
    · rintro ⟨path, query, _⟩
      obtain ⟨_, none⟩ | ⟨root, _⟩ := Target.isTarget_cases t.isTarget
      · rw [none] at query
        cases query
      · rw [path] at root
        exact absurd root (by decide)

theorem restore_ok_iff {d : Draft} {into sent : Head} (rooted : d.HasTargetPath) :
    d.restore into = (.ok (), sent) ↔
      ∃ t : Target, t.path = d.path ∧ t.query = queryOf d.query ∧
        (Utf8.encode t.text).length ≤ maxUriLength ∧
        sent = ⟨d.method, .absolute d.scheme d.authority t, d.headers⟩ := by
  unfold restore
  dsimp only
  cases read : Target.parse? (Utf8.encode d.targetText) with
  | error fault =>
    have unread : ∀ t, Target.parse? (Utf8.encode d.targetText) ≠ .ok t := by
      intro t same
      rw [read] at same
      cases same
    constructor
    · intro restored
      cases restored
    · rintro ⟨t, path, query, short, _⟩
      exact absurd ((parse?_targetText_ok_iff rooted).mpr ⟨path, query, short⟩) (unread t)
  | ok target =>
    obtain ⟨path, query, short⟩ := (parse?_targetText_ok_iff rooted).mp read
    constructor
    · intro restored
      cases restored
      exact ⟨target, path, query, short, rfl⟩
    · rintro ⟨t, samePath, sameQuery, fits, rfl⟩
      have same := (parse?_targetText_ok_iff rooted).mpr ⟨samePath, sameQuery, fits⟩
      rw [read] at same
      cases same
      rfl

theorem parse_queryOf (d : Draft) :
    ((queryOf d.query).map fun q => Form.parse (Utf8.encode q)).getD [] =
      d.query.filter (· ≠ emptyPair) := by
  rw [← parse_queryText, queryOf, ← queryText]
  split
  · rename_i empty
    rw [empty]
    rfl
  · rfl

theorem take_of_restore {d : Draft} {into sent : Head} (rooted : d.HasTargetPath)
    (restored : d.restore into = (.ok (), sent)) :
    (take sent).1 = .ok { d with query := d.query.filter (· ≠ emptyPair) } := by
  obtain ⟨t, path, query, _, rfl⟩ := (restore_ok_iff rooted).mp restored
  simp only [take, Uri.authority?, ofUri, Uri.target?, Uri.scheme?, Option.getD_some, path, query,
    parse_queryOf]

/-- `sent` is what was made of the draft `d`: it is taken as `d` without the pairs of two empty
texts, and so as another draft, with another canonical query, if and only if there is one. -/
structure SentAs (d : Draft) (sent : Head) : Prop where
  taken : (take sent).1 = .ok { d with query := d.query.filter (· ≠ ("", "")) }
  same_iff : (take sent).1 = .ok d ↔ ("", "") ∉ d.query
  canonical_iff : ∀ e, (take sent).1 = .ok e →
    (Canonical.query e.query = Canonical.query d.query ↔ ("", "") ∉ d.query)

/-- Whatever a signer changes, what is sent is what was signed unless a pair of two empty texts is
among the query. -/
theorem take_restore {head : Head} {authority : Authority}
    (named : head.uri.authority? = some authority) :
    (take head).1 = .ok (ofUri head authority) ∧
      ∀ edits into sent, ((ofUri head authority).edited edits).restore into = (.ok (), sent) →
        SentAs ((ofUri head authority).edited edits) sent := by
  refine ⟨by rw [take, named], ?_⟩
  intro edits into sent restored
  have rooted := hasTargetPath_edited edits (hasTargetPath_ofUri head authority)
  have taken := take_of_restore rooted restored
  refine ⟨taken, ?_, ?_⟩
  · rw [taken, Except.ok.injEq, ← emptyPair, ← filter_eq_self]
    exact ⟨congrArg Draft.query, fun kept => by rw [kept]⟩
  · intro e same
    rw [taken] at same
    cases same
    exact Canonical.query_filter_eq_iff _

/-- A listing with a flag, a plus sign, an empty piece and a second key. -/
def listing : Head where
  method := .get
  uri := .absolute .https (.named "example.com") ⟨"/a%20b", some "acl&a+b=%2B&&a%20b=", by decide⟩
  headers := .empty

/-- A pair with separators in it, a field, and a field that cannot be written. -/
def listingEdits : List Edit :=
  [.push "é&" "=", .insert .host "example.com" false, .insert .date "\n" true]

theorem take_restore_listing : listing.uri.authority? = some (.named "example.com") ∧
    ∃ sent, ((ofUri listing (.named "example.com")).edited listingEdits).restore .initial =
        (.ok (), sent) ∧
      SentAs ((ofUri listing (.named "example.com")).edited listingEdits) sent := by
  have restored : ((ofUri listing (.named "example.com")).edited listingEdits).restore .initial =
      (.ok (), (((ofUri listing (.named "example.com")).edited listingEdits).restore .initial).2) :=
    rfl
  exact ⟨rfl, _, restored, (take_restore rfl).2 listingEdits .initial _ restored⟩

/-- A query of one piece in which nothing stands but the `=`. -/
def bareEquals : Head where
  method := .get
  uri := .absolute .https (.named "example.com") ⟨"/", some "=", by decide⟩
  headers := .empty

/-- The pair of two empty texts is signed, but the restored uri has no query. -/
theorem take_restore_bareEquals :
    ∃ d sent e, take bareEquals = (.ok d, .initial) ∧ d.query = [("", "")] ∧
      d.restore .initial = (.ok (), sent) ∧ sent.uri.text = "https://example.com/" ∧
      (take sent).1 = .ok e ∧ e ≠ d ∧ Canonical.query e.query ≠ Canonical.query d.query := by
  refine ⟨_, _, _, rfl, rfl, rfl, by decide +kernel, rfl, by decide +kernel, ?_⟩
  intro same
  exact (Canonical.query_filter_eq_iff [emptyPair]).mp same List.mem_cons_self

end Draft

end RequestSigning

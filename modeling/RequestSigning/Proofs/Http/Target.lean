import RequestSigning.Http.Uri
import RequestSigning.Proofs.Bytes
import RequestSigning.Proofs.Text.Utf8

/-!
# Reading back targets

`parse?_encode_text`: what is written for path and query is read as that path and that query, unless
it is too long.
-/

namespace RequestSigning.Http.Target

theorem not_mem_encode {s : String} {b : UInt8} (low : b.toNat < 128)
    (foreign : ∀ c ∈ s.toList, c.toNat ≠ b.toNat) : b ∉ Utf8.encode s := by
  intro member
  obtain ⟨c, inside, written⟩ := List.mem_flatMap.mp member
  obtain same | high := Utf8.mem_encodeChar written
  · exact foreign c inside same.symm
  · omega

theorem toNat_of_isPathChar {c : Char} (allowed : isPathChar c = true) :
    c.toNat ≠ 0x3F ∧ c.toNat ≠ 0x23 := by
  simp only [isPathChar, Bool.or_eq_true, Bool.and_eq_true, beq_iff_eq, decide_eq_true_eq] at allowed
  omega

theorem toNat_of_isQueryChar {c : Char} (allowed : isQueryChar c = true) : c.toNat ≠ 0x23 := by
  simp only [isQueryChar, Bool.or_eq_true, Bool.and_eq_true, beq_iff_eq, decide_eq_true_eq] at allowed
  omega

/-- A target is the star, or a path from the root with or without a query. -/
theorem isTarget_cases {path : String} {query : Option String}
    (target : Http.isTarget path query = true) :
    (path = "*" ∧ query = none) ∨
      (path.toList.head? = some '/' ∧ (∀ c ∈ path.toList, isPathChar c = true) ∧
        ∀ q ∈ query, ∀ c ∈ q.toList, isQueryChar c = true) := by
  simp only [Http.isTarget, Bool.or_eq_true, Bool.and_eq_true, beq_iff_eq, Option.isNone_iff_eq_none,
    List.all_eq_true] at target
  obtain star | ⟨⟨root, inPath⟩, inQuery⟩ := target
  · exact .inl star
  · refine .inr ⟨root, inPath, fun q present => ?_⟩
    rw [show query = some q from present] at inQuery
    exact inQuery

theorem encode_text (t : Target) :
    Utf8.encode t.text = Utf8.encode t.path ++ t.query.elim [] fun q => 0x3F :: Utf8.encode q := by
  rw [text, Utf8.encode_append]
  cases t.query with
  | none => rfl
  | some q => rw [Option.elim_some, Utf8.encode_append]; rfl

theorem cut_text {path : String} {query : Option String} (clean : 0x3F ∉ Utf8.encode path) :
    Bytes.cut 0x3F (Utf8.encode path ++ query.elim [] fun q => 0x3F :: Utf8.encode q) =
      (Utf8.encode path, query.map Utf8.encode) := by
  cases query with
  | none => rw [Option.elim_none, List.append_nil, Bytes.cut_of_not_mem clean]; rfl
  | some q => rw [Option.elim_some, Bytes.cut_append clean]; rfl

theorem not_mem_encode_text {t : Target} (inPath : ∀ c ∈ t.path.toList, isPathChar c = true)
    (inQuery : ∀ q ∈ t.query, ∀ c ∈ q.toList, isQueryChar c = true) :
    0x23 ∉ Utf8.encode t.text := by
  have notInPath : 0x23 ∉ Utf8.encode t.path :=
    not_mem_encode (by decide) fun c member => (toNat_of_isPathChar (inPath c member)).2
  rw [encode_text, List.mem_append]
  rintro (here | there)
  · exact notInPath here
  · cases present : t.query with
    | none => simp [present] at there
    | some q =>
      have notInQuery : 0x23 ∉ Utf8.encode q :=
        not_mem_encode (by decide) fun c member =>
          toNat_of_isQueryChar (inQuery q present c member)
      rw [present, Option.elim_some, List.mem_cons] at there
      obtain same | there := there
      · exact absurd same (by decide)
      · exact notInQuery there

theorem ofBytes?_text (t : Target) (root : t.path.toList.head? = some '/')
    (inPath : ∀ c ∈ t.path.toList, isPathChar c = true)
    (inQuery : ∀ q ∈ t.query, ∀ c ∈ q.toList, isQueryChar c = true) :
    ofBytes? (Utf8.encode t.text) = .ok t := by
  have noMark : 0x3F ∉ Utf8.encode t.path :=
    not_mem_encode (by decide) fun c member => (toNat_of_isPathChar (inPath c member)).1
  have shown : (Utf8.encode t.text).takeWhile (· ≠ 0x23) = Utf8.encode t.text :=
    Bytes.takeWhile_of_not_mem (not_mem_encode_text inPath inQuery)
  have rooted : t.path ≠ "" := by
    intro empty
    rw [empty] at root
    cases root
  have whole : ofText? t.path t.query = .ok t := dif_pos t.isTarget
  rw [ofBytes?, shown, encode_text, cut_text noMark]
  cases present : t.query with
  | none =>
    simp only [Utf8.decode?_encode, Option.map_none, if_neg rooted]
    rw [← present, whole]
  | some q =>
    simp only [Utf8.decode?_encode, Option.map_some, if_neg rooted]
    rw [← present, whole]

theorem parse?_encode_text (t : Target) :
    parse? (Utf8.encode t.text) =
      if maxUriLength < (Utf8.encode t.text).length then .error .uriTooLong else .ok t := by
  obtain ⟨path, query⟩ | ⟨root, inPath, inQuery⟩ := isTarget_cases t.isTarget
  · have same : t = star := by
      cases t
      cases path
      cases query
      rfl
    subst same
    rfl
  · obtain ⟨rest, begins⟩ := List.head?_eq_some_iff.mp root
    have first : Utf8.encode t.text = 0x2F :: (rest.flatMap String.utf8EncodeChar ++
        t.query.elim [] fun q => 0x3F :: Utf8.encode q) := by
      rw [encode_text, Utf8.encode, begins]
      rfl
    have present : Utf8.encode t.text ≠ [] := by
      rw [first]
      exact List.cons_ne_nil _ _
    have notStar : Utf8.encode t.text ≠ [0x2A] := by
      rw [first]
      intro same
      cases same
    have opens : [0x2F, 0x3F, 0x23].contains ((Utf8.encode t.text).headD 0) = true := by
      rw [first]
      rfl
    rw [parse?, if_neg present, if_neg notStar, if_pos opens,
      ofBytes?_text t root inPath inQuery]

theorem parse?_text_ok_iff {t u : Target} :
    parse? (Utf8.encode t.text) = .ok u ↔
      u = t ∧ (Utf8.encode t.text).length ≤ maxUriLength := by
  rw [parse?_encode_text]
  split
  · rename_i long
    simp only [reduceCtorEq, false_iff, not_and]
    intro _
    omega
  · rename_i short
    rw [Except.ok.injEq, eq_comm]
    exact ⟨fun same => ⟨same, by omega⟩, And.left⟩

/-- Behind one path, what is written tells the queries apart. -/
theorem eq_of_text {t u : Target} (path : t.path = u.path) (text : t.text = u.text) : t = u := by
  cases t with
  | mk _ left _ =>
    cases u with
    | mk _ right _ =>
      cases path
      simp only [Target.text, String.append_right_inj] at text
      have same : left = right := by
        cases left <;> cases right <;> simp_all
      cases same
      rfl

end RequestSigning.Http.Target

namespace RequestSigning.Http

/-- Behind a host the target is read as on its own. -/
theorem Uri.parse?_http_text (t : Target) (root : t.path.toList.head? = some '/')
    (short : (Utf8.encode ("http://h" ++ t.text)).length ≤ maxUriLength) :
    Uri.parse? (Utf8.encode ("http://h" ++ t.text)) = .ok (.absolute .http (.named "h") t) := by
  rw [Utf8.encode_append] at short ⊢
  have readable : Target.parse? (Utf8.encode t.text) = .ok t := by
    rw [List.length_append] at short
    exact Target.parse?_text_ok_iff.mpr ⟨rfl, by omega⟩
  obtain ⟨rest, begins⟩ : ∃ rest, Utf8.encode t.text = 0x2F :: rest := by
    obtain ⟨later, begins⟩ := List.head?_eq_some_iff.mp root
    rw [Target.encode_text, Utf8.encode, begins]
    exact ⟨_, rfl⟩
  rw [begins] at short readable ⊢
  have scheme : Scheme.detect? (Utf8.encode "http://h" ++ 0x2F :: rest) =
      .ok (some (.http, 0x68 :: 0x2F :: rest)) := rfl
  have parts : Authority.span (0x68 :: 0x2F :: rest) = ([0x68], 0x2F :: rest) := rfl
  have remote : parseRemote? .http (0x68 :: 0x2F :: rest) =
      .ok (.absolute .http (.named "h") t) := by
    rw [parseRemote?, parts]
    change Target.parse? (0x2F :: rest) >>= _ = _
    rw [readable]
    rfl
  rw [parse?, if_neg (Nat.not_lt.mpr short)]
  change Scheme.detect? (Utf8.encode "http://h" ++ 0x2F :: rest) >>= _ = _
  rw [scheme]
  exact remote

end RequestSigning.Http

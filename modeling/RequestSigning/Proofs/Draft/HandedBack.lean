import RequestSigning.Proofs.Draft.Restore
import RequestSigning.Proofs.Http.Header

/-!
# Requests that are handed back

`HandedBack` relates a head to one that was restored from its draft.  `handedBack_fields_iff` says
which drafts with other fields are restored to the head; with a pair more in the query none is.
-/

namespace RequestSigning

open Http

namespace Http

/-- The path; a uri without a target has none. -/
def Uri.path (u : Uri) : String := (u.target?.map (·.path)).getD ""

/-- The decoded pairs of the query. -/
def Uri.pairs (u : Uri) : List (String × String) := (u.target?.map Target.pairs).getD []

/-- The second head is the first one, but for the way its query is encoded. -/
structure Head.HandedBack (before after : Head) : Prop where
  method : after.method = before.method
  scheme : after.uri.scheme? = before.uri.scheme?
  authority : after.uri.authority? = before.uri.authority?
  path : after.uri.path = before.uri.path
  pairs : after.uri.pairs = before.uri.pairs
  headers : ∀ n, after.headers.octets n = before.headers.octets n

end Http

namespace Draft

/-- Path and query, as they are written, are the target of a uri. -/
def HasTarget (d : Draft) : Prop :=
  ∃ t : Target, t.path = d.path ∧ t.query = queryOf d.query ∧
    (Utf8.encode t.text).length ≤ maxUriLength

theorem uri_of_restore_error {d : Draft} {left after : Head} {e : Error}
    (failed : d.restore left = (.error e, after)) : after.uri = .root := by
  unfold restore at failed
  dsimp only at failed
  split at failed <;> cases failed
  rfl

theorem headers_of_restore {d : Draft} {left sent : Head} {r : Except Error Unit}
    (restored : d.restore left = (r, sent)) : sent.headers = d.headers := by
  unfold restore at restored
  dsimp only at restored
  split at restored <;> cases restored <;> rfl

theorem pairs_of_restore {d : Draft} {left sent : Head} (rooted : d.HasTargetPath)
    (restored : d.restore left = (.ok (), sent)) :
    sent.uri.pairs = d.query.filter (· ≠ emptyPair) := by
  obtain ⟨t, _, query, _, rfl⟩ := (restore_ok_iff rooted).mp restored
  rw [← parse_queryOf, ← query]
  rfl

/-- A pair that is added last, and says something, is sent last. -/
theorem getLast?_pairs_of_restore {d : Draft} {left sent : Head} {pair : String × String}
    (rooted : d.HasTargetPath) (filled : pair ≠ ("", ""))
    (restored : (d.addPairs [pair]).restore left = (.ok (), sent)) :
    sent.uri.pairs.getLast? = some pair := by
  have kept : [pair].filter (· ≠ emptyPair) = [pair] :=
    List.filter_eq_self.mpr fun x member => by
      rw [List.mem_singleton.mp member]
      exact decide_eq_true filled
  have rooted : (d.addPairs [pair]).HasTargetPath := rooted
  rw [pairs_of_restore rooted restored, addPairs, List.filter_append, kept, List.getLast?_concat]

/-- A uri that was lost names no server. -/
theorem restore_ok_of_handedBack {head left : Head} {authority : Authority} {d : Draft}
    (named : head.uri.authority? = some authority)
    (handed : head.HandedBack (d.restore left).2) :
    d.restore left = (.ok (), (d.restore left).2) := by
  cases restored : d.restore left with
  | mk result after =>
    rw [restored] at handed
    cases result with
    | error e =>
      have lost := handed.authority
      rw [uri_of_restore_error restored, named] at lost
      cases lost
    | ok _ => rfl

/-- What a draft with some query and fields is restored to is the head that was taken. -/
theorem handedBack_restore_iff {head : Head} {authority : Authority}
    (named : head.uri.authority? = some authority) (left : Head) (pairs : List (String × String))
    (h : Headers) :
    head.HandedBack
        (({ ofUri head authority with query := pairs, headers := h } : Draft).restore left).2 ↔
      head.uri.scheme?.isSome = true ∧ pairs.filter (· ≠ emptyPair) = head.uri.pairs ∧
        ({ ofUri head authority with query := pairs, headers := h } : Draft).HasTarget ∧
        ∀ n, h.octets n = head.headers.octets n := by
  have rooted : ({ ofUri head authority with query := pairs, headers := h } : Draft).HasTargetPath :=
    hasTargetPath_ofUri head authority
  have read := parse_queryOf { ofUri head authority with query := pairs, headers := h }
  constructor
  · intro handed
    obtain ⟨t, path, query, short, sent⟩ :=
      (restore_ok_iff rooted).mp (restore_ok_of_handedBack named handed)
    rw [sent] at handed
    refine ⟨?_, ?_, ⟨t, path, query, short⟩, handed.headers⟩
    · rw [← handed.scheme]
      rfl
    · rw [← handed.pairs, ← read, ← query]
      rfl
  · rintro ⟨schemed, kept, ⟨t, path, query, short⟩, headers⟩
    rw [(restore_ok_iff rooted).mpr ⟨t, path, query, short, rfl⟩]
    cases written : head.uri with
    | empty | relative _ | remote _ =>
      rw [written] at schemed
      cases schemed
    | absolute scheme server target =>
      rw [written] at named kept
      cases named
      rw [ofUri, written] at path
      refine ⟨rfl, ?_, ?_, ?_, ?_, headers⟩
      · rw [ofUri, written]
        rfl
      · rw [written]
        rfl
      · rw [written]
        exact path
      · rw [written, ← kept, ← read, ← query]
        rfl

/-- A head that is itself again when its draft is restored at once. -/
structure IsRestorable (head : Head) (authority : Authority) : Prop where
  named : head.uri.authority? = some authority
  schemed : head.uri.scheme?.isSome = true
  pairs : ("", "") ∉ head.uri.pairs
  target : (ofUri head authority).HasTarget

theorem query_ofUri {head : Head} {authority : Authority}
    (schemed : head.uri.scheme?.isSome = true) :
    (ofUri head authority).query = head.uri.pairs := by
  cases written : head.uri with
  | empty | relative _ | remote _ =>
    rw [written] at schemed
    cases schemed
  | absolute scheme server target =>
    rw [ofUri, written]
    rfl

/-- Where the query is the one of the draft that was taken, the fields decide. -/
theorem handedBack_fields_iff {head : Head} {authority : Authority}
    (named : head.uri.authority? = some authority) (left : Head) (h : Headers) :
    head.HandedBack (({ ofUri head authority with headers := h } : Draft).restore left).2 ↔
      IsRestorable head authority ∧ ∀ n, h.octets n = head.headers.octets n := by
  have taken := handedBack_restore_iff named left (ofUri head authority).query h
  constructor
  · intro handed
    obtain ⟨schemed, kept, target, headers⟩ := taken.mp handed
    rw [query_ofUri schemed] at kept
    exact ⟨⟨named, schemed, filter_eq_self.mp kept, target⟩, headers⟩
  · rintro ⟨restorable, headers⟩
    have kept := filter_eq_self.mpr restorable.pairs
    rw [← query_ofUri restorable.schemed] at kept
    exact taken.mpr ⟨restorable.schemed, kept.trans (query_ofUri restorable.schemed),
      restorable.target, headers⟩

/-- A pair that was added and says something stays. -/
theorem not_handedBack_of_added {head left : Head} {authority : Authority}
    (named : head.uri.authority? = some authority) {added : List (String × String)}
    {pair : String × String} (member : pair ∈ added) (filled : pair ≠ ("", "")) (h : Headers) :
    ¬head.HandedBack (({ ofUri head authority with
      query := (ofUri head authority).query ++ added, headers := h } : Draft).restore left).2 := by
  intro handed
  obtain ⟨schemed, kept, _⟩ := (handedBack_restore_iff named left _ h).mp handed
  rw [query_ofUri schemed] at kept
  -- The query has no empty pair, for it comes out of a filter; so the filter keeps all of it.
  have clean : emptyPair ∉ head.uri.pairs := by
    rw [← kept]
    intro inside
    exact absurd rfl (of_decide_eq_true (List.mem_filter.mp inside).2)
  rw [List.filter_append, filter_eq_self.mpr clean, List.append_right_eq_self] at kept
  exact List.filter_eq_nil_iff.mp kept pair member (decide_eq_true filled)

end Draft

end RequestSigning

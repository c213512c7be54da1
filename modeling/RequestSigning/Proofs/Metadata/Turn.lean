import RequestSigning.Metadata.Client
import RequestSigning.Proofs.Http.Header

/-!
# Requests to the metadata service and their answers

A conversation with the service is a list of turns, each a request with its outcome.  What an
attempt makes of an outcome depends on its status and its body alone: `answer_eq_ok_iff`,
`Rejects.of_answer`.  `exists_tokenRequest`: a token can be asked for wherever its url is one.
-/

namespace RequestSigning

namespace Http.Transport

/-- Send requests one after the other: their outcomes, and the transport afterwards. -/
def sendAll : Transport → List Request → List (Except Error Response) × Transport
  | t, [] => ([], t)
  | t, r :: later =>
    let rest := (t.send r).2.sendAll later
    ((t.send r).1.outcome :: rest.1, rest.2)

theorem sendAll_append (t : Transport) (rs later : List Request) :
    t.sendAll (rs ++ later) =
      ((t.sendAll rs).1 ++ ((t.sendAll rs).2.sendAll later).1,
        ((t.sendAll rs).2.sendAll later).2) := by
  induction rs generalizing t with
  | nil => rfl
  | cons r rs ih => simp only [List.cons_append, sendAll, ih]

end Http.Transport

namespace Metadata

open Http

abbrev Outcome := Except Error Response

namespace Outcome

/-- A response of success with this text, which is not empty. -/
def Brings (o : Outcome) (text : String) : Prop :=
  ∃ r, o = .ok r ∧ (200 ≤ r.status.code ∧ r.status.code < 300) ∧ r.text = text ∧ text ≠ ""

def HasStatus (o : Outcome) (code : Nat) : Prop := ∃ r, o = .ok r ∧ r.status.code = code

def IsLost (o : Outcome) : Prop := ∃ e, o = .error e

/-- Another attempt could mend it: throttling, an error of the server, a failed transport. -/
def IsTransient (o : Outcome) : Prop :=
  o.IsLost ∨ o.HasStatus 429 ∨ ∃ code, 500 ≤ code ∧ code < 600 ∧ o.HasStatus code

/-- The error that an attempt makes of it. -/
structure Rejects (o : Outcome) (e : Error) : Prop where
  retryable : e.retryable = true ↔ o.IsTransient
  throttled : e.kind = .throttled ↔ o.HasStatus 429
  lost : o.IsLost → e.kind = .unexpected
  sent : e.kind ≠ .requestInvalid

theorem hasStatus_ok {r : Response} {code : Nat} :
    HasStatus (.ok r) code ↔ r.status.code = code := by
  simp [HasStatus]

theorem not_isLost_ok (r : Response) : ¬IsLost (.ok r) := nofun

theorem isTransient_ok {r : Response} :
    IsTransient (.ok r) ↔ r.status.code = 429 ∨ 500 ≤ r.status.code ∧ r.status.code < 600 := by
  simp only [IsTransient, not_isLost_ok, false_or, hasStatus_ok]
  refine or_congr_right ⟨?_, fun range => ⟨_, range.1, range.2, rfl⟩⟩
  rintro ⟨code, least, most, rfl⟩
  exact ⟨least, most⟩

theorem Brings.unique {o : Outcome} {text other : String} (brings : o.Brings text)
    (too : o.Brings other) : text = other := by
  obtain ⟨r, rfl, _, read, _⟩ := brings
  obtain ⟨_, same, _, read', _⟩ := too
  cases same
  exact read.symm.trans read'

theorem Brings.not_isTransient {o : Outcome} {text : String} (brings : o.Brings text) :
    ¬o.IsTransient := by
  obtain ⟨r, rfl, range, _⟩ := brings
  rw [isTransient_ok]
  omega

/-- Another attempt with the same token could not mend it where the token is not accepted. -/
theorem IsTransient.not_unauthorized {o : Outcome} (transient : o.IsTransient) :
    ¬o.HasStatus 401 := by
  rintro ⟨r, rfl, status⟩
  rw [isTransient_ok] at transient
  omega

theorem IsLost.not_hasStatus {o : Outcome} {code : Nat} (lost : o.IsLost) : ¬o.HasStatus code := by
  obtain ⟨e, rfl⟩ := lost
  exact nofun

end Outcome

/-- A request that was sent, and what it came to. -/
structure Turn where
  request : Request
  outcome : Outcome

/-- A transport has these turns, one after the other, and is left as `u`. -/
def Answers (t : Transport) (turns : List Turn) (u : Transport) : Prop :=
  t.sendAll (turns.map (·.request)) = (turns.map (·.outcome), u)

theorem Answers.append {t u w : Transport} {turns later : List Turn} (first : Answers t turns u)
    (second : Answers u later w) : Answers t (turns ++ later) w := by
  rw [Answers, List.map_append, List.map_append, Transport.sendAll_append, first, second]

theorem answers_cons_iff {t u : Transport} {turn : Turn} {later : List Turn} :
    Answers t (turn :: later) u ↔
      (t.send turn.request).1.outcome = turn.outcome ∧ Answers (t.send turn.request).2 later u := by
  simp only [Answers, List.map_cons, Transport.sendAll, Prod.ext_iff, List.cons.injEq, and_assoc]

theorem Answers.send (t : Transport) (r : Request) :
    Answers t [⟨r, (t.send r).1.outcome⟩] (t.send r).2 := rfl

/-! ### Answers -/

theorem isSuccess_iff {s : Status} : s.isSuccess = true ↔ 200 ≤ s.code ∧ s.code < 300 := by
  simp [Status.isSuccess]

theorem answer_eq_ok_iff {op : Operation} {o : Outcome} {text : String} :
    answer op o = .ok text ↔ o.Brings text := by
  cases o with
  | error e => exact ⟨nofun, nofun⟩
  | ok r =>
    rw [show answer op (.ok r) = body op r from rfl, body]
    split
    · rename_i success
      split
      · rename_i empty
        refine ⟨nofun, ?_⟩
        rintro ⟨_, same, _, read, nonempty⟩
        cases same
        exact absurd (read.symm.trans empty) nonempty
      · rename_i nonempty
        constructor
        · rintro ⟨⟩
          exact ⟨r, rfl, isSuccess_iff.mp success, rfl, nonempty⟩
        · rintro ⟨_, same, _, read, _⟩
          cases same
          rw [read]
    · rename_i failure
      refine ⟨nofun, ?_⟩
      rintro ⟨_, same, range, _⟩
      cases same
      exact absurd (isSuccess_iff.mpr range) failure

theorem not_brings_of_answer {op : Operation} {o : Outcome} {e : Error}
    (failed : answer op o = .error e) (text : String) : ¬o.Brings text := by
  intro brings
  rw [answer_eq_ok_iff.mpr brings] at failed
  cases failed

theorem kind_refused (op : Operation) (s : Status) (text : String) :
    (refused op s text).kind = if s.code = 429 then .throttled else .unexpected := by
  unfold refused
  by_cases throttled : s.code = 429 <;> by_cases empty : text = "" <;>
    simp [throttled, empty, Error.new, Error.withContext, Error.setRetryable]

theorem retryable_refused (op : Operation) (s : Status) (text : String) :
    (refused op s text).retryable = true ↔ s.code = 429 ∨ 500 ≤ s.code ∧ s.code < 600 := by
  unfold refused
  by_cases throttled : s.code = 429 <;> by_cases empty : text = "" <;>
    simp [throttled, empty, Error.new, Error.withContext, Error.setRetryable,
      Status.isServerError]

theorem Outcome.Rejects.of_refused {r : Response} (op : Operation) :
    Outcome.Rejects (.ok r) (refused op r.status r.text) where
  retryable := (retryable_refused _ _ _).trans isTransient_ok.symm
  throttled := by
    rw [kind_refused, hasStatus_ok]
    split <;> simp_all
  lost lost := absurd lost (not_isLost_ok r)
  sent := by
    rw [kind_refused]
    split <;> decide

/-- An empty body counts as no answer, and another attempt would not mend it. -/
theorem Outcome.Rejects.of_emptyBody {r : Response} (op : Operation)
    (range : 200 ≤ r.status.code ∧ r.status.code < 300) :
    Outcome.Rejects (.ok r) (emptyBody op r.status) where
  retryable := by
    rw [isTransient_ok]
    exact ⟨nofun, fun failed => by omega⟩
  throttled := by
    rw [hasStatus_ok]
    exact ⟨nofun, fun failed => by omega⟩
  lost lost := absurd lost (not_isLost_ok r)
  sent := nofun

theorem Outcome.Rejects.of_answer {op : Operation} {o : Outcome} {e : Error}
    (failed : answer op o = .error e) : o.Rejects e := by
  cases o with
  | error cause =>
    cases failed
    have lost : IsLost (.error cause) := ⟨cause, rfl⟩
    exact ⟨⟨fun _ => .inl lost, fun _ => rfl⟩,
      ⟨nofun, fun status => absurd status lost.not_hasStatus⟩, fun _ => rfl, nofun⟩
  | ok r =>
    rw [show answer op (.ok r) = body op r from rfl, body] at failed
    split at failed
    · rename_i success
      split at failed
      · cases failed
        exact .of_emptyBody op (isSuccess_iff.mp success)
      · cases failed
    · cases failed
      exact .of_refused op

theorem isUnauthorized_iff {o : Outcome} : isUnauthorized o = true ↔ o.HasStatus 401 := by
  cases o with
  | error e => exact ⟨nofun, nofun⟩
  | ok r => rw [Outcome.hasStatus_ok, isUnauthorized, beq_iff_eq]

/-! ### Requests -/

def withField (h : Headers) (field : HeaderName × String) : Except Fault Headers := do
  let value ← HeaderValue.ofText? field.2 false
  return h.append field.1 value

theorem withField_ok {h k : Headers} {field : HeaderName × String}
    (written : withField h field = .ok k) (n : HeaderName) :
    k.octets n = h.octets n ++ if field.1 = n then [Utf8.encode field.2] else [] := by
  unfold withField at written
  cases value : HeaderValue.ofText? field.2 false with
  | error fault =>
    rw [value] at written
    cases written
  | ok v =>
    rw [value] at written
    cases written
    rw [Headers.octets, Headers.values_append, ← (HeaderValue.ofText?_ok value).1]
    split
    · exact List.map_append
    · exact (List.append_nil _).symm

theorem exists_withField (h : Headers) {field : HeaderName × String}
    (writable : IsFieldText field.2) : ∃ k, withField h field = .ok k := by
  obtain ⟨v, value⟩ := HeaderValue.exists_ofText? false writable
  exact ⟨h.append field.1 v, by rw [withField, value]; rfl⟩

theorem octets_of_fields {fields : List (HeaderName × String)} {h k : Headers}
    (written : fields.foldlM withField h = .ok k) (n : HeaderName) :
    k.octets n = h.octets n ++ (fields.filter (·.1 = n)).map fun field => Utf8.encode field.2 := by
  induction fields generalizing h with
  | nil =>
    cases written
    exact (List.append_nil _).symm
  | cons field later ih =>
    rw [List.foldlM_cons] at written
    cases first : withField h field with
    | error fault =>
      rw [first] at written
      cases written
    | ok between =>
      rw [first] at written
      rw [ih written, withField_ok first, List.append_assoc, List.filter_cons]
      by_cases same : field.1 = n <;> simp [same]

theorem exists_fields {fields : List (HeaderName × String)} (h : Headers)
    (writable : ∀ field ∈ fields, IsFieldText field.2) :
    ∃ k, fields.foldlM withField h = .ok k := by
  induction fields generalizing h with
  | nil => exact ⟨h, rfl⟩
  | cons field later ih =>
    obtain ⟨first, rest⟩ := List.forall_mem_cons.mp writable
    obtain ⟨between, written⟩ := exists_withField h first
    obtain ⟨k, written'⟩ := ih between rest
    exact ⟨k, by rw [List.foldlM_cons, written]; exact written'⟩

theorem request?_ok {method : Method} {url : String} {fields : List (HeaderName × String)}
    {r : Request} (built : request? method url fields = .ok r) :
    r.head.method = method ∧ Uri.parse? (Utf8.encode url) = .ok r.head.uri ∧
      ∀ n, r.head.headers.octets n =
        (fields.filter (·.1 = n)).map fun field => Utf8.encode field.2 := by
  unfold request? at built
  cases parsed : Uri.parse? (Utf8.encode url) with
  | error fault =>
    rw [parsed] at built
    cases built
  | ok uri =>
    rw [parsed] at built
    cases written : fields.foldlM withField Headers.empty with
    | error fault =>
      change (fields.foldlM withField Headers.empty >>= _) = _ at built
      rw [written] at built
      cases built
    | ok headers =>
      change (fields.foldlM withField Headers.empty >>= _) = _ at built
      rw [written] at built
      cases built
      exact ⟨rfl, rfl, octets_of_fields written⟩

theorem exists_request? {url : String} {fields : List (HeaderName × String)}
    (method : Method) (valid : ∃ uri, Uri.parse? (Utf8.encode url) = .ok uri)
    (writable : ∀ field ∈ fields, IsFieldText field.2) :
    ∃ r, request? method url fields = .ok r := by
  obtain ⟨uri, parsed⟩ := valid
  obtain ⟨headers, written⟩ := exists_fields Headers.empty writable
  refine ⟨⟨⟨method, uri, headers⟩, []⟩, ?_⟩
  unfold request?
  rw [parsed]
  change (fields.foldlM withField Headers.empty >>= _) = _
  rw [written]
  rfl

theorem of_unwritable {built : Except Fault Request} {what url : String} {e : Error}
    (failed : built.mapError (unwritable what url) = .error e) :
    e.kind = .requestInvalid ∧ e.retryable = false := by
  cases built with
  | error fault =>
    cases failed
    exact ⟨rfl, rfl⟩
  | ok r => cases failed

theorem ok_of_mapError {built : Except Fault Request} {blame : Fault → Error} {r : Request}
    (ok : built.mapError blame = .ok r) : built = .ok r := by
  cases built with
  | error fault => cases ok
  | ok r =>
    cases ok
    rfl

/-- A token can be asked for wherever its url is one. -/
theorem exists_tokenRequest {endpoint : String} (ttl : Duration)
    (valid : ∃ uri, Uri.parse? (Utf8.encode (tokenUrl endpoint)) = .ok uri) :
    ∃ r, tokenRequest endpoint ttl = .ok r := by
  have writable : ∀ field ∈ [(HeaderName.contentLength, "0"),
      (HeaderName.metadataTokenTtl, toString ttl.seconds)], IsFieldText field.2 :=
    List.forall_mem_cons.mpr
      ⟨by decide, List.forall_mem_singleton.mpr (isFieldText_toString ttl.seconds)⟩
  obtain ⟨r, built⟩ := exists_request? .put valid writable
  exact ⟨r, by rw [tokenRequest, built]; rfl⟩

theorem tokenRequest_ok {endpoint : String} {ttl : Duration} {r : Request}
    (built : tokenRequest endpoint ttl = .ok r) :
    r.head.method = .put ∧ Uri.parse? (Utf8.encode (tokenUrl endpoint)) = .ok r.head.uri := by
  obtain ⟨method, uri, _⟩ := request?_ok (ok_of_mapError built)
  exact ⟨method, uri⟩

/-- A value can be asked for wherever its url is one and a field can hold the token. -/
theorem exists_valueRequest {endpoint path token : String}
    (valid : ∃ uri, Uri.parse? (Utf8.encode (valueUrl endpoint path)) = .ok uri)
    (writable : IsFieldText token) : ∃ r, valueRequest endpoint path token = .ok r := by
  have held : ∀ field ∈ [(HeaderName.metadataToken, token)], IsFieldText field.2 :=
    List.forall_mem_singleton.mpr writable
  obtain ⟨r, built⟩ := exists_request? .get valid held
  exact ⟨r, by rw [valueRequest, built]; rfl⟩

theorem valueRequest_ok {endpoint path token : String} {r : Request}
    (built : valueRequest endpoint path token = .ok r) :
    r.head.method = .get ∧ r.head.headers.octets .metadataToken = [Utf8.encode token] := by
  obtain ⟨method, _, fields⟩ := request?_ok (ok_of_mapError built)
  exact ⟨method, fields .metadataToken⟩

theorem isFieldText_of_valueRequest {endpoint path token : String} {r : Request}
    (built : valueRequest endpoint path token = .ok r) : IsFieldText token := by
  refine Headers.isFieldText_of_mem_octets (h := r.head.headers) (n := .metadataToken) ?_
  rw [(valueRequest_ok built).2]
  exact List.mem_singleton_self _

end Metadata

end RequestSigning

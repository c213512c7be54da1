import RequestSigning.Proofs.Http.Target
import RequestSigning.Proofs.Metadata.Reading

/-!
# Tokens that cannot be renewed

The url of tokens may be too long where the one of a value is not.  `get_of_unrenewable`: a call
whose cached token becomes stale between two attempts ends there without another request, so even
behind a clock that never goes back its error need not tell the last outcome of all.
-/

namespace RequestSigning.Metadata

open Http

variable {c : Client} {ctx : Surroundings} {path : String} {v w : Visit}
  {r : Except Failure String}

/-! ### One attempt -/

theorem Fetches.of_built {text : String} {get : Option Turn}
    (fetches : Fetches c ctx path text v get r w) {request : Request}
    (built : valueRequest (c.endpointText ctx.environment) path text = .ok request) :
    let turn : Turn := ⟨request, (v.transport.send request).1.outcome⟩
    get = some turn ∧ w = { v with
      token := keptToken v.token turn.outcome, transport := (v.transport.send request).2 } := by
  cases fetches with
  | unbuilt failed =>
    rw [built] at failed
    cases failed
  | @answered turn t own sent =>
    obtain ⟨asked, outcome⟩ := turn
    cases built.symm.trans own
    obtain ⟨rfl, left⟩ : (v.transport.send asked).1.outcome = outcome ∧ _ :=
      answers_cons_iff.mp sent
    cases left
    exact ⟨rfl, rfl⟩

/-- An answer that another attempt could mend leaves the token in the cache. -/
theorem attempt_of_fresh {token : SessionToken} {request : Request}
    (fresh : v.IsFresh ctx.clock token)
    (built : valueRequest (c.endpointText ctx.environment) path token.text = .ok request)
    (transient : Outcome.IsTransient (v.transport.send request).1.outcome) (start : Nat) :
    (c.attempt ctx path start v).Retries ∧ (c.attempt ctx path start v).state =
      ⟨some token, (v.transport.send request).2, v.readings + 1⟩ := by
  obtain ⟨get, fetches⟩ := fetches_of_fresh (c := c) fresh path start
  have ends := (Attempted.asked (.reused fresh) fetches).ends
  have kept : keptToken (some token) (v.transport.send request).1.outcome = some token :=
    if_neg fun unauthorized => transient.not_unauthorized (isUnauthorized_iff.mp unauthorized)
  rw [← v.transport_checked] at transient kept ⊢
  obtain ⟨rfl, left⟩ := fetches.of_built built
  refine ⟨ends.retries_iff.mpr ⟨_, rfl, transient⟩, left.trans ?_⟩
  rw [v.token_checked, fresh.1, kept, Visit.checked, fresh.1]
  rfl

/-- Without a fresh token, and where none can be asked for, an attempt sends nothing. -/
theorem attempt_of_unrenewable (stale : ∀ token, ¬v.IsFresh ctx.clock token) {e : Error}
    (failed : tokenRequest (c.endpointText ctx.environment) c.ttl = .error e) (path : String)
    (start : Nat) : (c.attempt ctx path start v).result = .error (.error e) ∧
      (c.attempt ctx path start v).state.transport = v.transport := by
  have unasked {turn : Turn} :
      tokenRequest (c.endpointText ctx.environment) c.ttl ≠ .ok turn.request := by
    rw [failed]
    exact nofun
  obtain ⟨k, attempted⟩ := attempted_attempt c ctx path start v
  generalize (c.attempt ctx path start v).result = r, (c.attempt ctx path start v).state = w
    at attempted ⊢
  cases attempted with
  | stopped loads =>
    cases loads with
    | unbuilt _ same =>
      cases failed.symm.trans same
      exact ⟨rfl, v.transport_checked⟩
    | refused _ built | overflowed _ built => exact absurd built unasked
  | asked loads =>
    cases loads with
    | reused fresh => exact absurd fresh (stale _)
    | renewed _ built => exact absurd built unasked

/-! ### The whole call -/

/-- The first attempt uses the cached token and gets an answer that another one could mend.  Behind
it the token is stale and no new one can be asked for: the second attempt ends the call. -/
theorem get_of_unrenewable (path : String) (transport : Transport) (readings now : Nat)
    {token : SessionToken} {request : Request} {e : Error}
    (enabled : c.isDisabled ctx.environment = false) (untimed : c.policy.timeout = none)
    (again : 1 < c.policy.maxAttempts) (cached : c.token = some token)
    (fresh : (ctx.clock readings).before token.refreshAt = true)
    (stale : (ctx.clock (readings + 1)).before token.refreshAt = false)
    (built : valueRequest (c.endpointText ctx.environment) path token.text = .ok request)
    (failed : tokenRequest (c.endpointText ctx.environment) c.ttl = .error e)
    (transient : Outcome.IsTransient (transport.send request).1.outcome) :
    let r := c.get ctx path transport readings now
    r.visit.transport = (transport.send request).2 ∧
      ∃ f, r.result = .error (.error f) ∧ f.kind = .requestInvalid := by
  intro r
  obtain ⟨made, start, v, ⟨calls, retried, _, exhausted⟩, visit, result⟩ :=
    exists_tries enabled untimed path transport readings now
  obtain ⟨invalid, final⟩ := of_unwritable failed
  have mended := attempt_of_fresh (v := ⟨c.token, transport, readings⟩) ⟨cached, fresh⟩ built
    transient
  have replaced : ∀ other, ¬Visit.IsFresh ⟨some token, (transport.send request).2, readings + 1⟩
      ctx.clock other := by
    rintro _ ⟨⟨⟩, before⟩
    exact Bool.false_ne_true (stale.symm.trans before)
  have stuck := attempt_of_unrenewable replaced failed path
  -- There is a second attempt, since the first one is tried again, and no third one behind it.
  cases calls with
  | nil =>
    have none := exhausted (mended start).1
    rw [List.length_nil] at none
    omega
  | @cons first _ _ later rest =>
    rw [(mended first).2] at rest
    cases rest with
    | nil =>
      obtain ⟨ended, left⟩ := stuck start
      obtain ⟨f, told, kind⟩ := told_error path (1 + 1) e
      refine ⟨by rw [visit, left], f, ?_, kind.trans invalid⟩
      rw [result, ended]
      exact told
    | cons rest =>
      obtain ⟨f, ended, retryable⟩ := retried _ (List.mem_cons_of_mem _ List.mem_cons_self)
      cases (stuck _).1.symm.trans ended
      exact absurd (final.symm.trans retryable) Bool.false_ne_true

/-! ### Long endpoints -/

theorem dropTrailingSlashes_of_getLast? {s : String} (clean : s.toList.getLast? ≠ some '/') :
    dropTrailingSlashes s = s := by
  have same : s.toList.reverse.dropWhile (· = '/') = s.toList.reverse := by
    cases reversed : s.toList.reverse with
    | nil => rfl
    | cons last rest =>
      rw [← List.head?_reverse, reversed] at clean
      exact List.dropWhile_cons_of_neg (by simpa using clean)
  rw [dropTrailingSlashes, same, List.reverse_reverse, String.ofList_toList]

/-- A path of so many letters. -/
def longPath (n : Nat) : String := String.ofList ('/' :: List.replicate n 'a')

def longUrl (n : Nat) : String := "http://h" ++ longPath n

theorem encode_longPath (n : Nat) :
    Utf8.encode (longPath n) = 0x2F :: List.replicate n 0x61 := by
  have letter : String.utf8EncodeChar 'a' = [0x61] := by decide
  rw [longPath, Utf8.encode_ofList, List.flatMap_cons, List.flatMap_replicate, letter,
    List.flatten_replicate_singleton]
  rfl

theorem length_encode_longUrl (n : Nat) (rest : String) :
    (Utf8.encode (longUrl n ++ rest)).length = n + 9 + (Utf8.encode rest).length := by
  have host : (Utf8.encode "http://h").length = 8 := rfl
  rw [longUrl, Utf8.encode_append, Utf8.encode_append, encode_longPath, List.length_append,
    List.length_append, host, List.length_cons, List.length_replicate]
  omega

theorem tokenRequest_longUrl {n : Nat} (long : maxUriLength < n + 26) (ttl : Duration) :
    ∃ e, tokenRequest (longUrl n) ttl = .error e := by
  have length : (Utf8.encode (tokenUrl (longUrl n))).length = n + 26 :=
    length_encode_longUrl n "/latest/api/token"
  have refused : Uri.parse? (Utf8.encode (tokenUrl (longUrl n))) = .error .uriTooLong :=
    if_pos (length ▸ long)
  refine ⟨unwritable "token" (tokenUrl (longUrl n)) .uriTooLong, ?_⟩
  rw [tokenRequest, request?, refused]
  rfl

theorem isTarget_longPath (n : Nat) : isTarget (longPath n ++ "/x") none = true := by
  have path : (longPath n ++ "/x").toList = '/' :: List.replicate n 'a' ++ ['/', 'x'] := by
    rw [String.toList_append, longPath, String.toList_ofList]
    rfl
  have inPath : ('/' :: List.replicate n 'a' ++ ['/', 'x']).all isPathChar = true := by
    rw [List.all_append, List.all_cons, List.all_replicate]
    simp +decide
  refine Bool.or_eq_true_iff.mpr (.inr ?_)
  rw [path, inPath]
  rfl

/-- What stands below such a path. -/
def longTarget (n : Nat) : Target := ⟨longPath n ++ "/x", none, isTarget_longPath n⟩

theorem valueRequest_longUrl {n : Nat} (short : n + 11 ≤ maxUriLength) :
    ∃ r, valueRequest (longUrl n) "x" "t" = .ok r := by
  have url : valueUrl (longUrl n) "x" = "http://h" ++ (longTarget n).text := by
    rw [valueUrl, longUrl, longTarget, Target.text, Option.elim_none, String.append_empty,
      String.append_assoc, String.append_assoc]
    rfl
  have fits : (Utf8.encode ("http://h" ++ (longTarget n).text)).length ≤ maxUriLength := by
    rw [← url, valueUrl, String.append_assoc, length_encode_longUrl]
    exact short
  have root : (longTarget n).path.toList.head? = some '/' := by
    change (longPath n ++ "/x").toList.head? = some '/'
    rw [longPath, String.toList_append, String.toList_ofList]
    rfl
  have parsed := Uri.parse?_http_text (longTarget n) root fits
  rw [← url] at parsed
  exact exists_valueRequest ⟨_, parsed⟩ (by decide)

/-- Its endpoint leaves room for the url of a value, but not for the one of tokens. -/
def cramped : Client := { hourly with
  endpoint := some (longUrl 65510)
  token := some ⟨"t", ⟨15, 0, by decide⟩⟩ }

/-- A clock that goes on behind its first reading. -/
def goingOn : Surroundings := { calm .epoch with
  clock
    | 0 => .epoch
    | _ + 1 => ⟨30, 0, by decide⟩ }

theorem goingOn_not_before : ∀ i j, i ≤ j → (goingOn.clock j).before (goingOn.clock i) = false
  | 0, 0, _ | 0, _ + 1, _ | _ + 1, _ + 1, _ => rfl
  | _ + 1, 0, later => absurd later (Nat.not_succ_le_zero _)

theorem endpointText_cramped (env : Environment) : cramped.endpointText env = longUrl 65510 := by
  have last : (longPath (65509 + 1)).toList.getLast? = some 'a' := by
    rw [longPath, String.toList_ofList, List.replicate_succ', ← List.cons_append,
      List.getLast?_concat]
  refine dropTrailingSlashes_of_getLast? ?_
  change ("http://h" ++ longPath (65509 + 1)).toList.getLast? ≠ some '/'
  rw [String.toList_append, List.getLast?_append, last]
  decide

/-- The clock never goes back, and still the error does not tell the last outcome of all. -/
theorem get_unthrottled_cramped :
    let r := cramped.get goingOn "x" throttling 0 0
    cramped.isDisabled goingOn.environment = false ∧ cramped.policy.timeout = none ∧
      (∀ i j, i ≤ j → (goingOn.clock j).before (goingOn.clock i) = false) ∧
      ∃ turn e, Answers throttling [turn] r.visit.transport ∧ r.result = .error (.error e) ∧
        ¬(e.kind = .throttled ↔ turn.outcome.HasStatus 429) := by
  intro r
  have enabled : cramped.isDisabled goingOn.environment = false := by decide +kernel
  have endpoint := endpointText_cramped goingOn.environment
  obtain ⟨request, built⟩ := valueRequest_longUrl (n := 65510) (by decide)
  obtain ⟨e, failed⟩ := tokenRequest_longUrl (n := 65510) (by decide) cramped.ttl
  rw [← endpoint] at built failed
  have throttled : Outcome.HasStatus (throttling.send request).1.outcome 429 := ⟨_, rfl, rfl⟩
  obtain ⟨left, f, result, kind⟩ := get_of_unrenewable "x" throttling 0 0 enabled rfl (by decide)
    rfl (by decide) (by decide) built failed (.inr (.inl throttled))
  refine ⟨enabled, rfl, goingOn_not_before, _, f, left ▸ Answers.send throttling request, result,
    fun same => ?_⟩
  have other := kind.symm.trans (same.mpr throttled)
  cases other

end RequestSigning.Metadata

import RequestSigning.Proofs.Metadata.Refresh
import RequestSigning.Proofs.Retry.Calls

/-!
# The life cycle of a session token

`Cycle` is what each attempt does with the token: it asks for a new one exactly where none is fresh,
asks for the value with a token that it may use, and changes the cached one only on the answers.
`after_cycle`: so does every attempt of every call, one after the other from the token that the
calls before have left.
-/

namespace RequestSigning.Metadata

open Http

/-- What is cached behind the request for a token, if there was one. -/
inductive Cached (ttl : Duration) (time : Instant) (found : Option SessionToken) :
    Option Turn → Option SessionToken → Prop
  | unasked : Cached ttl time found none found
  | refused {put : Turn} (refused : ∀ text, ¬put.outcome.Brings text) :
      Cached ttl time found (some put) found
  | renewed {put : Turn} {text : String} {refreshAt : Instant} (brings : put.outcome.Brings text)
      (sum : time.add? (ttl.sub (refreshWindow.min ttl)) = some refreshAt) :
      Cached ttl time found (some put) (some ⟨text, refreshAt⟩)
  | unrepresentable {put : Turn} {text : String} {kept : Option SessionToken}
      (brings : put.outcome.Brings text) (sum : time.add? (ttl.sub (refreshWindow.min ttl)) = none)
      (either : kept = found ∨ kept = some ⟨text, time⟩) : Cached ttl time found (some put) kept

/-- What an attempt that finds `v` and leaves `w` does with the token. -/
structure Cycle (endpoint : String) (ttl : Duration) (clock : Nat → Instant) (v : Visit)
    (k : Conversation) (w : Visit) : Prop where
  sent : Answers v.transport k.turns w.transport
  asks : k.put.isSome = true ↔ ∀ token, ¬v.IsFresh clock token
  put : ∀ put ∈ k.put, put.request.head.method = .put ∧
    Uri.parse? (Utf8.encode (tokenUrl endpoint)) = .ok put.request.head.uri
  /-- The value is asked for with the token that is cached and fresh, or with the one that this
  attempt has asked for. -/
  carries : ∀ get ∈ k.get, get.request.head.method = .get ∧ ∃ text,
    get.request.head.headers.octets .metadataToken = [Utf8.encode text] ∧
      (k.put = none ∧ (∃ token, v.IsFresh clock token ∧ token.text = text) ∨
        ∃ put, k.put = some put ∧ put.outcome.Brings text)
  dropped : ∀ get ∈ k.get, get.outcome.HasStatus 401 → w.token = none
  cached : (∀ get ∈ k.get, ¬get.outcome.HasStatus 401) →
    Cached ttl (clock v.checked.readings) v.token k.put w.token

/-! ### What is cached behind an answer -/

theorem Cached.of_refreshTime? {ttl : Duration} {time refreshAt : Instant}
    {found : Option SessionToken} {put : Turn} {text : String} (brings : put.outcome.Brings text)
    (refresh : refreshTime? time ttl = some refreshAt) :
    Cached ttl time found (some put) (some ⟨text, refreshAt⟩) := by
  cases sum : time.add? (ttl.sub (refreshWindow.min ttl)) with
  | some other =>
    rw [refreshTime?_of_add? sum] at refresh
    cases refresh
    exact .renewed brings sum
  | none =>
    refine .unrepresentable brings sum (.inr ?_)
    rw [refreshTime?_eq] at refresh
    split at refresh
    · cases sum.symm.trans refresh
    · cases refresh
      rfl

theorem Cached.of_overflow {ttl : Duration} {time : Instant}
    {found : Option SessionToken} {put : Turn} {text : String} (brings : put.outcome.Brings text)
    (refresh : refreshTime? time ttl = none) : Cached ttl time found (some put) found := by
  cases sum : time.add? (ttl.sub (refreshWindow.min ttl)) with
  | some refreshAt =>
    rw [refreshTime?_of_add? sum] at refresh
    cases refresh
  | none => exact .unrepresentable brings sum (.inl rfl)

/-! ### One attempt -/

variable {c : Client} {ctx : Surroundings} {v w : Visit} {r : Except Failure String}

theorem Loads.cached {put : Option Turn} (loads : Loads c ctx v put r w) :
    Cached c.ttl (ctx.clock v.checked.readings) v.token put w.token := by
  cases loads with
  | reused | unbuilt => rw [Visit.token_checked]; exact .unasked
  | refused _ _ _ rejected =>
    exact Visit.token_checked v ▸ .refused (not_brings_of_answer rejected)
  | overflowed _ _ _ brings refresh =>
    exact Visit.token_checked v ▸ .of_overflow brings refresh
  | renewed _ _ _ brings refresh => exact .of_refreshTime? brings refresh

theorem Attempted.cycle {path : String} {k : Conversation}
    (attempted : Attempted c ctx path v k r w)
    (valid : ∃ uri,
      Uri.parse? (Utf8.encode (tokenUrl (c.endpointText ctx.environment))) = .ok uri) :
    Cycle (c.endpointText ctx.environment) c.ttl ctx.clock v k w := by
  have sent := attempted.sent
  cases attempted with
  | stopped loads =>
    exact {
      sent
      asks := loads.isSome_put_iff valid
      put := fun put asked => tokenRequest_ok (loads.built put asked)
      carries := fun _ => nofun
      dropped := fun _ => nofun
      cached := fun _ => loads.cached }
  | asked loads fetches =>
    obtain ⟨dropped, kept⟩ := fetches.kept
    refine {
      sent
      asks := loads.isSome_put_iff valid
      put := fun put asked => tokenRequest_ok (loads.built put asked)
      carries := ?carries
      dropped
      cached := fun accepted => kept accepted ▸ loads.cached }
    case carries =>
      intro get asked
      obtain ⟨method, carried⟩ := valueRequest_ok (fetches.built get asked)
      exact ⟨method, _, carried, loads.text⟩

/-! ### Calls of `get`, one after the other -/

/-- One call, with all that it finds but for the client. -/
structure Query where
  surroundings : Surroundings
  path : String
  transport : Transport
  readings : Nat
  now : Nat

namespace Client

def serve (c : Client) (q : Query) : Reading :=
  c.get q.surroundings q.path q.transport q.readings q.now

def after (c : Client) (earlier : List Query) : Client :=
  earlier.foldl (fun c q => (c.serve q).client) c

/-- What the first attempt of a call finds. -/
def found (c : Client) (q : Query) : Visit := ⟨c.token, q.transport, q.readings⟩

/-- Two clients are set up alike; their limiters and their cached tokens may differ. -/
structure Alike (c d : Client) : Prop where
  endpoint : d.endpoint = c.endpoint
  disabled : d.disabled = c.disabled
  ttl : d.ttl = c.ttl
  timeout : d.policy.timeout = c.policy.timeout

theorem Alike.trans {c d e : Client} (first : Alike c d) (second : Alike d e) : Alike c e where
  endpoint := second.endpoint.trans first.endpoint
  disabled := second.disabled.trans first.disabled
  ttl := second.ttl.trans first.ttl
  timeout := second.timeout.trans first.timeout

theorem alike_serve (c : Client) (q : Query) : Alike c (c.serve q).client := by
  unfold serve get
  split
  · exact ⟨rfl, rfl, rfl, rfl⟩
  · refine ⟨rfl, rfl, rfl, ?_⟩
    dsimp only
    unfold Policy.run
    split <;> rfl

theorem alike_after (c : Client) (earlier : List Query) : Alike c (c.after earlier) := by
  induction earlier generalizing c with
  | nil => exact ⟨rfl, rfl, rfl, rfl⟩
  | cons q later ih => exact (c.alike_serve q).trans (ih (c.serve q).client)

theorem token_serve (c : Client) (q : Query) :
    (c.serve q).client.token = (c.serve q).visit.token := by
  unfold serve get
  split <;> rfl

theorem calls_serve (c : Client) (q : Query) :
    ∃ made, Calls (c.attempt q.surroundings q.path) (c.found q) made (c.serve q).visit ∧
      (c.isDisabled q.surroundings.environment = false → c.policy.timeout = none → made ≠ []) := by
  unfold serve get
  split
  · rename_i disabled
    refine ⟨[], .nil _, fun enabled => ?_⟩
    rw [enabled] at disabled
    cases disabled
  · obtain ⟨made, calls, some⟩ := Policy.calls_run c.policy (c.attempt q.surroundings q.path)
      q.surroundings.limiterClock q.surroundings.jitter q.surroundings.timer q.now (c.found q)
    exact ⟨made, calls, fun _ => some⟩

end Client

/-- In every sequence of calls, whatever the service answers and the clocks show: the attempts of a
call start from the token that the call before has left, each goes on from the one before it, and
each follows the cycle.  A call makes an attempt unless it is disabled or can run out of time. -/
theorem after_cycle (c : Client) (earlier : List Query) (q : Query)
    (valid : ∃ uri, Uri.parse?
      (Utf8.encode (tokenUrl (c.endpointText q.surroundings.environment))) = .ok uri) :
    let d := c.after earlier
    let r := d.serve q
    ∃ made, Calls (d.attempt q.surroundings q.path) ⟨d.token, q.transport, q.readings⟩ made
        r.visit ∧
      (c.isDisabled q.surroundings.environment = false → c.policy.timeout = none → made ≠ []) ∧
      r.client.token = r.visit.token ∧
      ∀ start v, (start, v) ∈ made → ∃ k,
        Cycle (c.endpointText q.surroundings.environment) c.ttl q.surroundings.clock v k
          (d.attempt q.surroundings q.path start v).state := by
  intro d r
  have alike := c.alike_after earlier
  obtain ⟨made, calls, some⟩ := d.calls_serve q
  refine ⟨made, calls, fun enabled untimed => some ?_ (alike.timeout.trans untimed),
    d.token_serve q, fun start v _ => ?_⟩
  · rw [Client.isDisabled, alike.disabled]
    exact enabled
  · obtain ⟨k, attempted⟩ := attempted_attempt d q.surroundings q.path start v
    have endpoint : d.endpointText q.surroundings.environment =
        c.endpointText q.surroundings.environment := by
      rw [Client.endpointText, alike.endpoint, Client.endpointText]
    rw [← endpoint] at valid ⊢
    rw [← alike.ttl]
    exact ⟨k, attempted.cycle valid⟩

/-- A call that leaves a token for fifty minutes. -/
def firstQuery : Query :=
  ⟨calm .epoch, "a", replies [(okay, "token-1"), (okay, "a")], 0, 0⟩

/-- Fifty minutes later. -/
def secondQuery : Query :=
  ⟨calm ⟨3000, 0, by decide⟩, "b", replies [(okay, "token-2"), (okay, "b")], 0, 0⟩

theorem after_cycle_renewal :
    (∃ uri, Uri.parse? (Utf8.encode
      (tokenUrl (hourly.endpointText secondQuery.surroundings.environment))) = .ok uri) ∧
    (hourly.after [firstQuery]).token = some ⟨"token-1", ⟨3000, 0, by decide⟩⟩ ∧
    ∃ k w, k.put.isSome = true ∧
      Cycle (hourly.endpointText secondQuery.surroundings.environment) hourly.ttl
        secondQuery.surroundings.clock ((hourly.after [firstQuery]).found secondQuery) k w := by
  have valid : ∃ uri, Uri.parse? (Utf8.encode
      (tokenUrl (hourly.endpointText secondQuery.surroundings.environment))) = .ok uri := ⟨_, rfl⟩
  have token : (hourly.after [firstQuery]).token = some ⟨"token-1", ⟨3000, 0, by decide⟩⟩ := by
    decide +kernel
  obtain ⟨made, calls, some, _, each⟩ := after_cycle hourly [firstQuery] secondQuery valid
  obtain ⟨start, member⟩ := calls.mem_of_ne_nil (some (by decide +kernel) rfl)
  obtain ⟨k, cycle⟩ := each start _ member
  refine ⟨valid, token, k, _, cycle.asks.mpr ?_, cycle⟩
  rintro _ ⟨cached, fresh⟩
  cases cached.symm.trans token
  exact absurd fresh (by decide)

end RequestSigning.Metadata

import RequestSigning.Settings
import RequestSigning.Metadata.Answer

/-!
# Metadata client

Values of the instance metadata service.  Each attempt takes a session token, the cached one or a
new one, and asks for the value with it; both requests count as one attempt of the retry policy.
-/

namespace RequestSigning.Metadata

open Http

structure Client where
  endpoint : Option String
  disabled : Bool
  ttl : Duration
  policy : Policy
  token : Option SessionToken

def defaultEndpoint : String := "http://169.254.169.254"

/-- What an attempt works on: the cached token, the transport, and how often the clock was read. -/
structure Visit where
  token : Option SessionToken
  transport : Transport
  readings : Nat

/-- What a client finds around it.  `clock` gives the readings one after the other;
`limiterClock` is the clock of the rate limiter by elapsed milliseconds, and `timer` ends what takes
time. -/
structure Surroundings where
  environment : Environment
  clock : Nat → Instant
  limiterClock : Nat → Instant
  jitter : Jitter
  timer : Timer

namespace Visit

def read (v : Visit) (clock : Nat → Instant) : Instant × Visit :=
  (clock v.readings, { v with readings := v.readings + 1 })

def send (v : Visit) (r : Request) (timer : Timer) (now : Nat) :
    Except Error Response × Nat × Visit :=
  let sent := v.transport.send r
  (sent.1.outcome, timer now sent.1.takes, { v with transport := sent.2 })

end Visit

namespace Client

def new (now : Instant) : Client :=
  ⟨none, false, defaultTtl,
    { Policy.default with limiter := some (Limiter.new (RateNumber.ofInstant now)) }, none⟩

def ofSettings (c : Settings) (now : Instant) : Client :=
  { new now with
    endpoint := c.metadataEndpoint
    disabled := c.metadataDisabled
    policy := c.policy now }

def endpointText (c : Client) (env : Environment) : String :=
  dropTrailingSlashes
    (c.endpoint.getD ((env.get? "AWS_EC2_METADATA_SERVICE_ENDPOINT").getD defaultEndpoint))

def tokenEntry (t : SessionToken) : Log.Entry :=
  .debug ("fetched IMDS token, refresh after " ++ t.refreshAt.spaced)

def requestToken (c : Client) (ctx : Surroundings) (now : Nat) (v : Visit) :
    Attempt Visit String :=
  match tokenRequest (c.endpointText ctx.environment) c.ttl with
  | .error e => ⟨.error (.error e), now, v, []⟩
  | .ok request =>
    let (outcome, now, v) := v.send request ctx.timer now
    match answer .token outcome with
    | .error e => ⟨.error (.error e), now, v, []⟩
    | .ok text =>
      let (time, v) := v.read ctx.clock
      match refreshTime? time c.ttl with
      | none => ⟨.error .timeOverflow, now, v, []⟩
      | some refreshAt =>
        let token : SessionToken := ⟨text, refreshAt⟩
        ⟨.ok text, now, { v with token := some token }, [tokenEntry token]⟩

/-- The token to use: the cached one while it is fresh, or else a new one. -/
def obtainToken (c : Client) (ctx : Surroundings) (now : Nat) (v : Visit) : Attempt Visit String :=
  match v.token with
  | none => c.requestToken ctx now v
  | some cached =>
    let (time, v) := v.read ctx.clock
    match fresh? (some cached) time with
    | some text => ⟨.ok text, now, v, []⟩
    | none => c.requestToken ctx now v

/-- Ask for the value at a path.  A token that is not accepted is no longer cached. -/
def requestValue (c : Client) (ctx : Surroundings) (path token : String) (now : Nat) (v : Visit) :
    Attempt Visit String :=
  match valueRequest (c.endpointText ctx.environment) path token with
  | .error e => ⟨.error (.error e), now, v, []⟩
  | .ok request =>
    let (outcome, now, v) := v.send request ctx.timer now
    let v := { v with token := keptToken v.token outcome }
    ⟨(answer .value outcome).mapError .error, now, v, []⟩

/-- One attempt: a token, then the value. -/
def attempt (c : Client) (ctx : Surroundings) (path : String) (now : Nat) (v : Visit) :
    Attempt Visit String :=
  let loaded := c.obtainToken ctx now v
  match loaded.result with
  | .error failure => { loaded with result := .error failure }
  | .ok token =>
    let asked := c.requestValue ctx path token loaded.finish loaded.state
    { asked with log := loaded.log ++ asked.log }

def disabledError : Error :=
  (Error.new .configInvalid "instance metadata service is disabled").withContext
    "hint: unset AWS_EC2_METADATA_DISABLED"

def isDisabled (c : Client) (env : Environment) : Bool :=
  c.disabled || env.get? "AWS_EC2_METADATA_DISABLED" == some "true"

/-- An error, with the path that was asked for. -/
def withPath (path : String) : Failure → Failure
  | .error e => .error (e.withContext ("path: " ++ path))
  | .timeOverflow => .timeOverflow

end Client

structure Reading where
  result : Except Failure String
  client : Client
  visit : Visit
  now : Nat
  log : List Log.Entry

def Client.get (c : Client) (ctx : Surroundings) (path : String) (transport : Transport)
    (readings now : Nat) : Reading :=
  if c.isDisabled ctx.environment then
    ⟨.error (.error Client.disabledError), c, ⟨c.token, transport, readings⟩, now, []⟩
  else
    let run := c.policy.run (c.attempt ctx path) ctx.limiterClock ctx.jitter ctx.timer none now
      ⟨c.token, transport, readings⟩
    ⟨run.result.mapError (Client.withPath path),
      { c with policy := run.policy, token := run.state.token }, run.state, run.now, run.log⟩

end RequestSigning.Metadata

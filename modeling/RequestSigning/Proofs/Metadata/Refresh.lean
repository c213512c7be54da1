import RequestSigning.Proofs.Metadata.Attempt
import RequestSigning.Proofs.Time.Instant

/-!
# When a session token is to be replaced

A token is used for its lifetime less ten minutes, and is to be replaced at the instant so long after
the one at which it came.  `obtainToken_stores_iff`: a new token is cached if and only if there is
such an instant, or the span is too long to be counted at all and the token is never fresh.
-/

namespace RequestSigning.Metadata

open Http

/-- How long a token is used. -/
def usedFor (ttl : Duration) : Duration := ttl.sub (refreshWindow.min ttl)

/-- There is an instant at which a token that came at this time is to be replaced. -/
def CanRefresh (time : Instant) (ttl : Duration) : Prop :=
  Duration.maxSigned < ttl.nanos - refreshWindow.nanos ∨
    time.elapsed + (ttl.nanos - refreshWindow.nanos : Nat) ≤ Instant.last.elapsed

instance (time : Instant) (ttl : Duration) : Decidable (CanRefresh time ttl) :=
  inferInstanceAs (Decidable (_ ∨ _))

variable {time refreshAt : Instant} {ttl : Duration}

theorem nanos_usedFor (ttl : Duration) :
    (usedFor ttl).nanos = ttl.nanos - refreshWindow.nanos :=
  calc
    (usedFor ttl).nanos = ttl.nanos - (refreshWindow.min ttl).nanos := rfl
    _ = ttl.nanos - min refreshWindow.nanos ttl.nanos :=
      congrArg (ttl.nanos - ·) (Duration.nanos_min refreshWindow ttl)
    _ = ttl.nanos - refreshWindow.nanos := by omega

theorem refreshTime?_eq (time : Instant) (ttl : Duration) :
    refreshTime? time ttl = if (usedFor ttl).nanos ≤ Duration.maxSigned then
      time.add? (usedFor ttl) else some time := rfl

theorem refreshTime?_of_add? (sum : time.add? (usedFor ttl) = some refreshAt) :
    refreshTime? time ttl = some refreshAt := by
  rw [refreshTime?_eq, if_pos (Instant.le_maxSigned_of_add? sum), sum]

theorem refreshTime?_eq_none_iff : refreshTime? time ttl = none ↔ ¬CanRefresh time ttl := by
  have sum := Instant.add?_eq_none_iff (t := time) (d := usedFor ttl)
  rw [nanos_usedFor] at sum
  rw [refreshTime?_eq, nanos_usedFor, CanRefresh]
  split
  · rw [sum]
    omega
  · simp only [reduceCtorEq, false_iff]
    omega

theorem not_before_of_refreshTime? (refresh : refreshTime? time ttl = some refreshAt) :
    refreshAt.before time = false := by
  rw [refreshTime?_eq] at refresh
  split at refresh
  · exact Instant.not_before_of_add? refresh
  · cases refresh
    exact Instant.not_before_self _

/-- The token is at hand, and cached until a time that is not earlier than this one. -/
def Stores (time : Instant) (text : String) (done : Attempt Visit String) : Prop :=
  done.result = .ok text ∧
    ∃ refreshAt, done.state.token = some ⟨text, refreshAt⟩ ∧ refreshAt.before time = false

/-- A token that the service gives is stored, unless its lifetime ends beyond the last instant and
can be counted yet; then the call ends there, and what was cached stays. -/
theorem obtainToken_stores_iff {c : Client} {ctx : Surroundings} {v : Visit} {request : Request}
    {text : String} (stale : ∀ token, ¬v.IsFresh ctx.clock token)
    (built : tokenRequest (c.endpointText ctx.environment) c.ttl = .ok request)
    (brings : Outcome.Brings (v.transport.send request).1.outcome text) (now : Nat) :
    let time := ctx.clock v.checked.readings
    let done := c.obtainToken ctx now v
    (Stores time text done ↔ CanRefresh time c.ttl) ∧
      (¬CanRefresh time c.ttl → done.result = .error .timeOverflow ∧ done.state.token = v.token) := by
  intro time done
  obtain ⟨put, loads⟩ := loads_obtainToken c ctx now v
  change Loads c ctx v put done.result done.state at loads
  generalize result : done.result = r, left : done.state = w at loads
  have outcome {turn : Turn} {t : Transport}
      (made : tokenRequest (c.endpointText ctx.environment) c.ttl = .ok turn.request)
      (sent : Answers v.transport [turn] t) : turn.outcome.Brings text := by
    cases built.symm.trans made
    exact (answers_cons_iff.mp sent).1 ▸ brings
  unfold Stores
  rw [result, left]
  cases loads with
  | reused fresh => exact absurd fresh (stale _)
  | unbuilt _ failed => cases built.symm.trans failed
  | refused _ made sent rejected =>
    exact absurd (outcome made sent) (not_brings_of_answer rejected text)
  | overflowed _ _ _ _ refresh =>
    have beyond := refreshTime?_eq_none_iff.mp refresh
    exact ⟨iff_of_false (fun stored => nomatch stored.1) beyond,
      fun _ => ⟨rfl, v.token_checked⟩⟩
  | renewed _ made sent own refresh =>
    cases own.unique (outcome made sent)
    have within : CanRefresh time c.ttl := by
      refine Decidable.not_not.mp fun beyond => ?_
      cases refresh.symm.trans (refreshTime?_eq_none_iff.mpr beyond)
    exact ⟨iff_of_true ⟨rfl, _, rfl, not_before_of_refreshTime? refresh⟩ within,
      fun beyond => absurd within beyond⟩

/-- Its tokens are used until the last instant when they come in 1970. -/
def lifelong : Client := { hourly with ttl := .ofNanosClamped 8210266877399999999999 }

/-- A service that gives a token. -/
def giving : Transport := replies [(okay, "token")]

theorem obtainToken_stores_lifelong :
    let v : Visit := ⟨none, giving, 0⟩
    (∀ token, ¬v.IsFresh (calm .epoch).clock token) ∧
    ∃ request, tokenRequest (lifelong.endpointText .empty) lifelong.ttl = .ok request ∧
      Outcome.Brings (giving.send request).1.outcome "token" ∧
      Stores .epoch "token" (lifelong.obtainToken (calm .epoch) 0 v) := by
  intro v
  have stale : ∀ token, ¬v.IsFresh (calm .epoch).clock token := fun _ => nofun
  obtain ⟨request, built⟩ : ∃ request,
      tokenRequest (lifelong.endpointText .empty) lifelong.ttl = .ok request := ⟨_, rfl⟩
  have brings : Outcome.Brings (giving.send request).1.outcome "token" :=
    ⟨_, rfl, by decide, by decide +kernel, by decide⟩
  obtain ⟨stores, _⟩ := obtainToken_stores_iff (c := lifelong) stale built brings 0
  exact ⟨stale, request, built, brings, stores.mpr (by decide)⟩

/-- Its tokens last longer than the calendar. -/
def overlong : Client := { hourly with ttl := .ofNanosClamped 10000000000000000000000 }

/-- A token that comes in 1970 and lasts for ten million million seconds is lost. -/
theorem obtainToken_overlong :
    let done := overlong.obtainToken (calm .epoch) 0 ⟨none, giving, 0⟩
    Instant.epoch.seconds + Instant.secondsPerDay ≤ Instant.maxSeconds ∧
      done.result = .error .timeOverflow ∧ done.state.token = none ∧
      done.state.transport.sent.length = 1 :=
  ⟨by decide, rfl, rfl, rfl⟩

end RequestSigning.Metadata

import Mathlib.Tactic.Linarith
import RequestSigning.Proofs.Retry.Bounds

/-!
# Tokens are given away once

`Served` is what a bucket does with one request after the other: it grants each in view of all that
it has granted before, which shows as a debt.  So `sentBy_le_supply`: what may be sent up to a time
was in the bucket or has been filled into it by then, and requests are sent in the order they were
made.
-/

namespace RequestSigning

variable {K : Type} [Field K]

/-- The tokens that a request takes. -/
def LimiterCall.cost : LimiterCall K → K
  | .token => 1
  | .acquire cost => cost
  | .sample _ => 0

/-- When a request may be sent that is granted at `now`. -/
def Grant.sentAt (now : K) : Grant K → K
  | .atOnce => now
  | .after wait => now + wait

/-- When a request may be sent, if it was granted. -/
def LimiterEntry.sentAt? (entry : LimiterEntry K) : Option K :=
  match entry.answer with
  | .granted grant => some (grant.sentAt entry.now)
  | _ => none

/-- The tokens of all requests that were granted. -/
def reserved (run : List (LimiterEntry K)) : K :=
  ((run.filter (·.sentAt?.isSome)).map (·.call.cost)).sum

variable [LinearOrder K]

/-- The tokens of the requests that may be sent up to a time. -/
def sentBy (time : K) (run : List (LimiterEntry K)) : K :=
  ((run.filter (·.sentAt?.any (· ≤ time))).map (·.call.cost)).sum

/-- Requests to a bucket that has `level` tokens at `time`: each is refused or, when the bucket has
at most `found` tokens, granted at once or as soon as it has enough. -/
inductive Served (rate : K) : (level time : K) → List (LimiterEntry K) → Prop
  | nil {level time : K} : Served rate level time []
  | refused {level time : K} {entry : LimiterEntry K} {later : List (LimiterEntry K)}
    (negative : entry.call.cost < 0) (unsent : entry.sentAt? = none)
    (rest : Served rate level time later) : Served rate level time (entry :: later)
  | granted {level time found sent : K} {entry : LimiterEntry K}
    {later : List (LimiterEntry K)} (cost : 0 ≤ entry.call.cost)
    (at? : entry.sentAt? = some sent) (filled : found ≤ level + rate * (entry.now - time))
    (enough : sent = entry.now ∧ entry.call.cost ≤ found ∨
      entry.now ≤ sent ∧ entry.call.cost = found + rate * (sent - entry.now))
    (rest : Served rate (found - entry.call.cost) entry.now later) :
    Served rate level time (entry :: later)

/-! ### What a bucket gives away -/

section

variable {entry : LimiterEntry K} {later : List (LimiterEntry K)}

theorem sentBy_cons_of_unsent (unsent : entry.sentAt? = none) (moment : K) :
    sentBy moment (entry :: later) = sentBy moment later := by
  rw [sentBy, List.filter_cons, unsent]
  rfl

theorem sentBy_cons_of_sent {sent : K} (at? : entry.sentAt? = some sent) (moment : K) :
    sentBy moment (entry :: later) =
      (if sent ≤ moment then entry.call.cost else 0) + sentBy moment later := by
  rw [sentBy, List.filter_cons, at?, Option.any_some]
  by_cases due : sent ≤ moment
  · rw [if_pos (decide_eq_true due), if_pos due, List.map_cons, List.sum_cons]
    rfl
  · rw [if_neg (by simpa using due), if_neg due, zero_add]
    rfl

omit [LinearOrder K] in
theorem reserved_cons_of_unsent (unsent : entry.sentAt? = none) :
    reserved (entry :: later) = reserved later := by
  rw [reserved, List.filter_cons, unsent]
  rfl

omit [LinearOrder K] in
theorem reserved_cons_of_sent {sent : K} (at? : entry.sentAt? = some sent) :
    reserved (entry :: later) = entry.call.cost + reserved later := by
  rw [reserved, List.filter_cons, at?]
  rfl

end

namespace Limiter

variable [FloorRing K] (root : K → K) {s : Limiter K} {filledAt : K}

/-- A request is granted exactly if it can cost what it is said to. -/
theorem exact_respond (enabled : s.enabled = true) (filled : s.filledAt = some filledAt)
    (now : K) {call : LimiterCall K} (request : call.isSample = false) :
    let answered := @respond K (.ofField root) s now call
    0 ≤ call.cost ∧ answered.1 = .granted (s.grantAt filledAt now call.cost) ∧
        answered.2.1 = s.spent filledAt now call.cost ∨
      call.cost < 0 ∧ answered.1 = .refused ∧ answered.2.1 = s := by
  cases call with
  | token =>
    have one : LimiterCall.token.cost = ((1 : Int) : K) := Int.cast_one.symm
    obtain ⟨grant, left⟩ := exact_take root enabled filled now ((1 : Int) : K)
    rw [one]
    exact .inl ⟨one ▸ zero_le_one, congrArg _ grant, left⟩
  | acquire cost =>
    by_cases good : 0 ≤ cost
    · obtain ⟨grant, left⟩ := exact_take root enabled filled now cost
      rw [@respond_of_isCost K (.ofField root) cost s now
        ((RateNumber.exact_isCost root).mpr good)]
      exact .inl ⟨good, congrArg _ grant, left⟩
    · rw [@respond_of_not_isCost K (.ofField root) cost s now
        (mt (RateNumber.exact_isCost root).mp good)]
      exact .inr ⟨not_le.mp good, rfl, rfl⟩
  | sample _ => cases request

variable [IsStrictOrderedRing K]

omit [FloorRing K] in
theorem sentAt_grantAt (positive : 0 < s.fillRate) (now cost : K) :
    let level := s.levelAt filledAt now
    let sent := (s.grantAt filledAt now cost).sentAt now
    sent = now ∧ cost ≤ level ∨ now ≤ sent ∧ cost = level + s.fillRate * (sent - now) := by
  unfold grantAt
  dsimp only
  split
  · rename_i short
    right
    have wait : 0 ≤ (cost - s.levelAt filledAt now) / s.fillRate :=
      div_nonneg (sub_nonneg.mpr short.le) positive.le
    refine ⟨le_add_of_nonneg_right wait, ?_⟩
    rw [Grant.sentAt, add_sub_cancel_left, mul_div_cancel₀ _ positive.ne']
    exact (add_sub_cancel _ _).symm
  · rename_i full
    exact .inl ⟨rfl, not_lt.mp full⟩

/-- An enabled limiter serves requests as a bucket does. -/
theorem served_history {calls : List (K × LimiterCall K)} (enabled : s.enabled = true)
    (filled : s.filledAt = some filledAt) (positive : 0 < s.fillRate)
    (requests : ∀ call ∈ calls, call.2.isSample = false) :
    Served s.fillRate s.capacity filledAt (@history K (.ofField root) s calls) := by
  induction calls generalizing s filledAt with
  | nil => exact .nil
  | cons call later ih =>
    obtain ⟨request, others⟩ := List.forall_mem_cons.mp requests
    unfold history
    dsimp only
    obtain ⟨cost, answer, left⟩ | ⟨negative, answer, left⟩ :=
      exact_respond root enabled filled call.1 request
    · have running : (s.spent filledAt call.1 call.2.cost).enabled = true := enabled
      have rest := ih running rfl positive others
      rw [answer, left]
      exact .granted cost rfl (levelAt_le s filledAt call.1)
        (sentAt_grantAt positive call.1 call.2.cost) rest
    · rw [answer, left]
      exact .refused negative rfl (ih enabled filled positive others)

end Limiter

namespace Served

variable {rate level time : K} {run : List (LimiterEntry K)}

/-- A granted request finds its tokens by the time it is sent. -/
theorem covered {found sent : K} {entry : LimiterEntry K}
    (enough : sent = entry.now ∧ entry.call.cost ≤ found ∨
      entry.now ≤ sent ∧ entry.call.cost = found + rate * (sent - entry.now)) :
    entry.call.cost ≤ found + rate * (sent - entry.now) := by
  obtain ⟨rfl, there⟩ | ⟨_, exact⟩ := enough
  · rwa [sub_self, mul_zero, add_zero]
  · exact exact.le

/-- A request is refused only where it cannot cost what it is said to. -/
theorem isSome_sentAt_iff (served : Served rate level time run) {entry : LimiterEntry K}
    (member : entry ∈ run) : entry.sentAt?.isSome = true ↔ 0 ≤ entry.call.cost := by
  induction served with
  | nil => cases member
  | refused negative unsent _ ih =>
    obtain rfl | later := List.mem_cons.mp member
    · rw [unsent]
      exact ⟨nofun, fun cost => absurd negative cost.not_gt⟩
    · exact ih later
  | granted cost at? _ _ _ ih =>
    obtain rfl | later := List.mem_cons.mp member
    · rw [at?]
      exact ⟨fun _ => cost, fun _ => rfl⟩
    · exact ih later

variable [IsStrictOrderedRing K]

/-- What may be sent up to a time was in the bucket or has been filled into it. -/
theorem sentBy_le (served : Served rate level time run) (positive : 0 < rate) (moment : K) :
    sentBy moment run ≤ max 0 (level + rate * (moment - time)) := by
  induction served with
  | nil => exact le_max_left _ _
  | refused _ unsent _ ih => rwa [sentBy_cons_of_unsent unsent]
  | @granted level time found sent entry later cost at? filled enough _ ih =>
    rw [sentBy_cons_of_sent at?]
    have covered := covered enough
    split
    · rename_i due
      apply le_max_of_le_right
      have flow : 0 ≤ rate * (moment - sent) := mul_nonneg positive.le (sub_nonneg.mpr due)
      obtain none | some := le_max_iff.mp ih <;> linarith
    · rw [zero_add]
      exact ih.trans (max_le_max le_rfl (by linarith))

/-- A request waits for the tokens of all requests before it and for its own. -/
theorem reserved_le (served : Served rate level time run) {before after : List (LimiterEntry K)}
    {entry : LimiterEntry K} {sent : K} (parts : run = before ++ entry :: after)
    (at? : entry.sentAt? = some sent) :
    reserved before + entry.call.cost ≤ level + rate * (sent - time) := by
  induction served generalizing before with
  | nil => exact absurd parts (by simp)
  | refused _ unsent _ ih =>
    cases before with
    | nil =>
      obtain ⟨rfl, _⟩ := List.cons.inj parts
      exact absurd (unsent.symm.trans at?) nofun
    | cons first before =>
      obtain ⟨rfl, later⟩ := List.cons.inj parts
      rw [reserved_cons_of_unsent unsent]
      exact ih later
  | granted cost first? filled enough _ ih =>
    have covered := covered enough
    cases before with
    | nil =>
      obtain ⟨rfl, _⟩ := List.cons.inj parts
      obtain rfl := Option.some.inj (first?.symm.trans at?)
      change 0 + _ ≤ _
      linarith
    | cons first before =>
      obtain ⟨rfl, later⟩ := List.cons.inj parts
      rw [reserved_cons_of_sent first?]
      linarith [ih later]

/-- No request is sent before it is made, nor before the debt is paid. -/
theorem le_sent (served : Served rate level time run) {entry : LimiterEntry K} {sent : K}
    (member : entry ∈ run) (at? : entry.sentAt? = some sent) :
    entry.now ≤ sent ∧ 0 ≤ level + rate * (sent - time) := by
  induction served with
  | nil => cases member
  | refused _ unsent _ ih =>
    obtain rfl | later := List.mem_cons.mp member
    · exact absurd (unsent.symm.trans at?) nofun
    · exact ih later
  | granted cost first? filled enough _ ih =>
    have covered := covered enough
    obtain rfl | later := List.mem_cons.mp member
    · obtain rfl := Option.some.inj (first?.symm.trans at?)
      exact ⟨enough.elim (fun now => now.1.ge) And.left, by linarith⟩
    · obtain ⟨made, paid⟩ := ih later
      exact ⟨made, by linarith⟩

/-- Requests are sent in the order they were made in. -/
theorem pairwise_sent (served : Served rate level time run) (positive : 0 < rate)
    (ordered : (run.map (·.now)).Pairwise (· ≤ ·)) :
    (run.filterMap (·.sentAt?)).Pairwise (· ≤ ·) := by
  induction served with
  | nil => exact .nil
  | refused _ unsent _ ih =>
    rw [List.filterMap_cons_none unsent]
    exact ih ordered.of_cons
  | @granted level time found sent entry later cost at? filled enough rest ih =>
    rw [List.map_cons, List.pairwise_cons] at ordered
    rw [List.filterMap_cons_some at?, List.pairwise_cons]
    refine ⟨fun next member => ?_, ih ordered.2⟩
    obtain ⟨other, among, next?⟩ := List.mem_filterMap.mp member
    obtain ⟨made, paid⟩ := rest.le_sent among next?
    obtain ⟨rfl, _⟩ | ⟨_, exact⟩ := enough
    · exact (ordered.1 _ (List.mem_map_of_mem among)).trans made
    · have later : rate * (sent - entry.now) ≤ rate * (next - entry.now) := by linarith
      linarith [le_of_mul_le_mul_left later positive]

end Served

namespace Limiter

theorem map_now_history {α : Type} [RateNumber α] (s : Limiter α)
    (calls : List (α × LimiterCall α)) : (s.history calls).map (·.now) = calls.map (·.1) := by
  induction calls generalizing s with
  | nil => rfl
  | cons call later ih => rw [history, List.map_cons, ih, List.map_cons]

variable [FloorRing K] [IsStrictOrderedRing K] (root : K → K)

/-- For every limiter that a run can leave enabled and all requests to it up to the next sample: who
asks for no negative amount is granted it, and the tokens of the requests that may be sent up to a
time are no more than the bucket had when it was filled last and what has been filled into it since.
Each request waits for the tokens of all those before it, so that nothing is given away twice, and
where the clock does not go back the requests are sent in their order. -/
theorem sentBy_le_supply (start : K) (earlier calls : List (K × LimiterCall K))
    (enabled : (reached root start earlier).enabled = true)
    (requests : ∀ call ∈ calls, call.2.isSample = false) :
    let s := reached root start earlier
    let run := @history K (.ofField root) s calls
    ∃ filledAt, s.filledAt = some filledAt ∧
      (∀ entry ∈ run, entry.sentAt?.isSome = true ↔ 0 ≤ entry.call.cost) ∧
      (∀ moment, sentBy moment run ≤ max 0 (s.capacity + s.fillRate * (moment - filledAt))) ∧
      (∀ before entry after sent, run = before ++ entry :: after → entry.sentAt? = some sent →
        reserved before + entry.call.cost ≤ s.capacity + s.fillRate * (sent - filledAt)) ∧
      ((calls.map (·.1)).Pairwise (· ≤ ·) → (run.filterMap (·.sentAt?)).Pairwise (· ≤ ·)) := by
  intro s run
  obtain ⟨filledAt, filled⟩ := reached_filledAt root enabled
  have positive : 0 < s.fillRate := (isBounded_reached root start earlier).fillRate_pos
  have served := served_history root enabled filled positive requests
  refine ⟨filledAt, filled, fun entry => served.isSome_sentAt_iff, served.sentBy_le positive,
    fun before entry after sent => served.reserved_le, fun ordered => ?_⟩
  apply served.pairwise_sent positive
  rwa [@map_now_history K (.ofField root)]

/-- Two tokens asked for at once, and one six seconds later. -/
def threeTokens : List (Rat × LimiterCall Rat) := [(0, .token), (0, .token), (6, .token)]

/-- A throttled sample leaves an empty bucket, which then gives away a token every two seconds. -/
theorem sentBy_le_supply_floor :
    let s := reached id 0 [(0, .sample true)]
    let run := @history Rat (.ofField id) s threeTokens
    s.enabled = true ∧ (∀ call ∈ threeTokens, call.2.isSample = false) ∧
      (∀ moment, sentBy moment run ≤ max 0 (0 + 1 / 2 * (moment - 0))) ∧ sentBy 4 run = 2 ∧
      run.map (·.sentAt?) = [some 2, some 4, some 6] := by
  intro s run
  have enabled : s.enabled = true := by decide +kernel
  have requests : ∀ call ∈ threeTokens, call.2.isSample = false := by decide
  obtain ⟨filledAt, filled, _, bound, _⟩ :=
    sentBy_le_supply id (0 : Rat) [(0, .sample true)] threeTokens enabled requests
  have start : s.filledAt = some 0 := by decide +kernel
  have level : s.capacity = 0 := by decide +kernel
  have rate : s.fillRate = 1 / 2 := by decide +kernel
  obtain rfl := Option.some.inj (filled.symm.trans start)
  refine ⟨enabled, requests, fun moment => ?_, by decide +kernel, by decide +kernel⟩
  have supply : _ ≤ max 0 (s.capacity + s.fillRate * (moment - 0)) := bound moment
  rwa [level, rate] at supply

end Limiter

end RequestSigning

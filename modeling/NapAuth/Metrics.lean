import Mathlib.Algebra.BigOperators.Intervals
import NapAuth.Budget

/-!
# The counters

`withMetrics` of `packages/nap-server/src/metrics.ts` derives most counters from the audit events
that the server logs. A completion should add one to one of `auth_success_total`,
`auth_failure_total` and `auth_rate_limited_total`. One exit adds two: `recordChallengeFailure` logs
that the failure budget is used up, and its caller logs the failure. `metrics_conserved_iff` says
that this is the only exception, and what it does to the totals of a run.

The proof follows a completion once. `Pending` holds until the exit: the request is counted, and
every verdict so far is one that `recordChallengeFailure` has logged.
-/

namespace NapAuth

open Interleaving

/-! ## What an event increments -/

/-- `COUNTER_BY_OUTCOME`. -/
def counterByOutcome : AuditOutcome → NapCounter
  | .success => .authSuccessTotal
  | .failure => .authFailureTotal
  | .rateLimited => .authRateLimitedTotal

/-- `COUNTER_BY_CODE`. -/
def counterByCode : AuditCode → Option NapCounter
  | .error .completeExpiredChallenge => some .challengeExpiredTotal
  | .error .completeUrlMismatch => some .audienceMismatchTotal
  | .error .completePayloadMismatch => some .payloadMismatchTotal
  | _ => none

/-- `event.details?.retry === true`. -/
def isRetry (event : AuditEvent) : Bool :=
  (event.details.getD []).lookup "retry" == some (.bool true)

/-- The counters that the logger of `withMetrics` increments for an audit event. -/
def withMetrics (event : AuditEvent) : List NapCounter :=
  counterByOutcome event.outcome :: ((counterByCode event.code).toList ++
    if event.code = .completeSuccess then
      [if isRetry event then .challengeRetryHitTotal else .challengeRedeemedTotal]
    else [])

/-- The counters that an event increments. -/
def increments : Event Res → List NapCounter
  | ⟨.count counter, _⟩ => [counter]
  | ⟨.log event, _⟩ => withMetrics event
  | _ => []

/-- What some events add to a counter. -/
def tally (counter : NapCounter) (xs : List (Event Res)) : ℕ :=
  (xs.map fun ev => (increments ev).count counter).sum

/-- What some events add to the counters of successes, failures and rate-limited requests. -/
def verdicts (xs : List (Event Res)) : ℕ :=
  tally .authSuccessTotal xs + tally .authFailureTotal xs + tally .authRateLimitedTotal xs

/-- Whether an event is a failure that has ended its challenge. -/
def isLastFailure : Event Res → Bool
  | ⟨.recordFailure _ _ _, answer⟩ => answer.any fun result => result.state = .failedTerminal
  | _ => false

@[simp] theorem tally_nil (counter : NapCounter) : tally counter [] = 0 := rfl

@[simp] theorem tally_append (counter : NapCounter) (xs ys : List (Event Res)) :
    tally counter (xs ++ ys) = tally counter xs + tally counter ys := by
  simp [tally]

@[simp] theorem verdicts_nil : verdicts [] = 0 := rfl

@[simp] theorem verdicts_append (xs ys : List (Event Res)) :
    verdicts (xs ++ ys) = verdicts xs + verdicts ys := by
  unfold verdicts
  rw [tally_append, tally_append, tally_append]
  omega

/-- The counter of an audit event's code is none of those of the outcomes. -/
theorem counterByCode_ne (code : AuditCode) (outcome : AuditOutcome) :
    counterByOutcome outcome ∉ (counterByCode code).toList := by
  unfold counterByCode
  split <;> cases outcome <;> simp [counterByOutcome]

/-- Every audit event adds one to the counter of its outcome. -/
theorem tally_log (event : AuditEvent) (outcome : AuditOutcome) :
    tally (counterByOutcome outcome) [⟨.log event, ()⟩] = if event.outcome = outcome then 1 else 0 := by
  have hspecific : ((counterByCode event.code).toList).count (counterByOutcome outcome) = 0 :=
    List.count_eq_zero.mpr (counterByCode_ne _ _)
  have hsuccess : (if event.code = .completeSuccess then
      [if isRetry event then NapCounter.challengeRetryHitTotal else .challengeRedeemedTotal]
      else []).count (counterByOutcome outcome) = 0 := by
    rw [List.count_eq_zero]
    split
    · cases isRetry event <;> cases outcome <;> simp [counterByOutcome]
    · simp
  have hinjective : (counterByOutcome event.outcome == counterByOutcome outcome) =
      decide (event.outcome = outcome) := by
    cases event.outcome <;> cases outcome <;> rfl
  show (withMetrics event).count (counterByOutcome outcome) + 0 = _
  unfold withMetrics
  rw [List.count_cons, List.count_append, hspecific, hsuccess, hinjective]
  simp

/-- So it adds one verdict. -/
@[simp] theorem verdicts_log (event : AuditEvent) : verdicts [⟨.log event, ()⟩] = 1 := by
  have hlog := tally_log event
  unfold verdicts
  show tally (counterByOutcome .success) _ + tally (counterByOutcome .failure) _ +
    tally (counterByOutcome .rateLimited) _ = 1
  rw [hlog, hlog, hlog]
  cases event.outcome <;> rfl

/-- It does not count a completion. -/
@[simp] theorem complete_log (event : AuditEvent) :
    tally .authCompleteTotal [⟨.log event, ()⟩] = 0 := by
  have hcode : (counterByCode event.code).toList.count .authCompleteTotal = 0 := by
    unfold counterByCode
    split <;> rfl
  have hsuccess : (if event.code = .completeSuccess then
      [if isRetry event then NapCounter.challengeRetryHitTotal else .challengeRedeemedTotal]
      else []).count .authCompleteTotal = 0 := by
    split
    · cases isRetry event <;> rfl
    · rfl
  show (withMetrics event).count .authCompleteTotal + 0 = 0
  unfold withMetrics
  rw [List.count_cons, List.count_append, hcode, hsuccess]
  cases event.outcome <;> rfl

/-! ## One completion -/

variable {P : Platform} {O : NapServerOptions} {input : VerifyCompletionInput}
  {xs : List (Event Res)}

/-- A completion before its exit: it is counted, and has logged no verdict but that of a failure
that has ended its challenge. -/
structure Pending (xs : List (Event Res)) : Prop where
  /-- It is counted once. -/
  counted : tally .authCompleteTotal xs = 1
  /-- It has no other verdict. -/
  logged : verdicts xs = xs.countP isLastFailure

/-- What a completion has counted when it returns. The limiter and the resolver of the model return, so
only a session store that throws keeps it from its verdict. -/
def Settled (P : Platform) (input : VerifyCompletionInput) (xs : List (Event Res)) :
    Outcome → Prop
  | .threw => True
  | _ => tally .authCompleteTotal xs = 1 ∧
    verdicts xs = (if parseAuthCompleteRequest P input.rawBody = none then 0 else 1) +
      xs.countP isLastFailure

/-- An operation that counts nothing leaves a completion pending. -/
theorem Pending.answer (h : Pending xs) {op : Op} {r : Res op} (hnone : increments ⟨op, r⟩ = [])
    (hlast : isLastFailure ⟨op, r⟩ = false) : Pending (xs ++ [⟨op, r⟩]) := by
  have htally : ∀ counter, tally counter [⟨op, r⟩] = 0 := by
    intro counter
    show (increments ⟨op, r⟩).count counter + 0 = 0
    rw [hnone]
    rfl
  constructor
  · rw [tally_append, h.counted, htally]
  · rw [verdicts_append, h.logged, verdicts, htally, htally, htally, List.countP_append,
      List.countP_singleton, hlast]
    simp

/-- The exit of a completion with a verdict. -/
theorem Pending.settled (h : Pending xs) {body : AuthCompleteRequest}
    (hparsed : parseAuthCompleteRequest P input.rawBody = some body) (event : AuditEvent)
    {outcome : Outcome} : Settled P input (xs ++ [⟨.log event, ()⟩]) outcome := by
  have hboth : ∀ ys, ys = xs ++ [⟨.log event, ()⟩] → tally .authCompleteTotal ys = 1 ∧
      verdicts ys = (if parseAuthCompleteRequest P input.rawBody = none then 0 else 1) +
        ys.countP isLastFailure := by
    rintro ys rfl
    constructor
    · rw [tally_append, h.counted, complete_log]
    · have hlast : isLastFailure ⟨.log event, ()⟩ = false := rfl
      rw [verdicts_append, verdicts_log, h.logged, hparsed, List.countP_append,
        List.countP_singleton, hlast]
      simp
      omega
  cases outcome <;> first | exact trivial | exact hboth _ rfl

section Exits

variable {body : AuthCompleteRequest} {Φ : List (Event Res) → Op → Prop}

/-- A completion that fails. -/
theorem fail_settled (hΦ : ∀ ys op, Φ ys op) (h : Pending xs)
    (hparsed : parseAuthCompleteRequest P input.rawBody = some body) (code : NapErrorCode)
    (details : AuditDetails) : (fail code details).Sat Φ (Settled P input) xs :=
  Prog.sat_op_bind.mpr ⟨hΦ _ _, fun _ => h.settled hparsed _⟩

/-- A completion that is rate-limited. -/
theorem refuse_settled (hΦ : ∀ ys op, Φ ys op) (h : Pending xs)
    (hparsed : parseAuthCompleteRequest P input.rawBody = some body) (code : NapErrorCode)
    (pubkey : Option String) (details : AuditDetails) (retryAfterSeconds : Option ℤ) :
    (refuse code pubkey details retryAfterSeconds).Sat Φ (Settled P input) xs :=
  Prog.sat_op_bind.mpr ⟨hΦ _ _, fun _ => h.settled hparsed _⟩

/-- A failure that is counted on the challenge. The verdict that it logs before its own is that of
the last failure. -/
theorem failCounted_settled (hΦ : ∀ ys op, Φ ys op) (h : Pending xs)
    (hparsed : parseAuthCompleteRequest P input.rawBody = some body) (challenge : ChallengeRecord)
    (now : ℤ) (code : NapErrorCode) :
    (failCounted O challenge now code).Sat Φ (Settled P input) xs := by
  refine Prog.Sat.bind ?_
  unfold recordChallengeFailure
  dsimp only
  split
  · exact fail_settled hΦ h hparsed _ _
  · refine Prog.sat_op_bind.mpr ⟨hΦ _ _, fun result => ?_⟩
    cases result with
    | none => exact fail_settled hΦ (h.answer rfl rfl) hparsed _ _
    | some result =>
      dsimp only
      split
      · rename_i hstate
        refine Prog.sat_op_bind.mpr ⟨hΦ _ _, fun _ => fail_settled hΦ ?_ hparsed _ _⟩
        have hlast : isLastFailure ⟨.recordFailure challenge.challengeId now
            (O.maxFailuresPerChallenge.getD 5), some result⟩ = true := decide_eq_true hstate
        have hlog : ∀ event, isLastFailure ⟨.log event, ()⟩ = false := fun _ => rfl
        constructor
        · rw [tally_append, tally_append, h.counted, complete_log]
          rfl
        · rw [verdicts_append, verdicts_append, verdicts_log, h.logged, List.countP_append,
            List.countP_append, List.countP_singleton, List.countP_singleton, hlast, hlog]
          rfl
      · rename_i hstate
        have hlast : isLastFailure ⟨.recordFailure challenge.challengeId now
            (O.maxFailuresPerChallenge.getD 5), some result⟩ = false := decide_eq_false hstate
        exact fail_settled hΦ (h.answer rfl hlast) hparsed _ _

/-- The end of a completion whose challenge was redeemed before. -/
theorem answerRepeated_settled (hΦ : ∀ ys op, Φ ys op) (h : Pending xs)
    (hparsed : parseAuthCompleteRequest P input.rawBody = some body)
    (proof : VerifiedNip98Completion) (now : ℤ) (challenge : ChallengeRecord) :
    (answerRepeated proof now challenge).Sat Φ (Settled P input) xs := by
  refine Prog.sat_op_bind.mpr ⟨hΦ _ _, fun record => ?_⟩
  cases record with
  | none => exact fail_settled hΦ (h.answer rfl rfl) hparsed _ _
  | some record =>
    dsimp only
    split
    · refine Prog.sat_op_bind.mpr ⟨hΦ _ _, fun session => ?_⟩
      cases session with
      | none => exact fail_settled hΦ ((h.answer rfl rfl).answer rfl rfl) hparsed _ _
      | some session =>
        have hpending : Pending (xs ++ [⟨.challengeGet challenge.challengeId, some record⟩] ++
          [⟨.getBySessionId (record.redeemedSessionId.getD ""), some session⟩]) :=
            (h.answer rfl rfl).answer rfl rfl
        exact Prog.sat_op_bind.mpr ⟨hΦ _ _, fun _ => hpending.settled hparsed _⟩
    · exact fail_settled hΦ (h.answer rfl rfl) hparsed _ _

/-- A completion from the redemption on. -/
theorem redeemSession_settled (hΦ : ∀ ys op, Φ ys op) (h : Pending xs)
    (hparsed : parseAuthCompleteRequest P input.rawBody = some body)
    (proof : VerifiedNip98Completion) (now : ℤ) (challenge : ChallengeRecord)
    (session : SessionRecord) :
    (redeemSession O proof now challenge session).Sat Φ (Settled P input) xs := by
  refine Prog.sat_op_bind.mpr ⟨hΦ _ _, fun status => ?_⟩
  have hredeem : Pending (xs ++ [⟨.redeem challenge.challengeId (redeemParams O proof session now),
    status⟩]) := h.answer rfl rfl
  cases status with
  | redeemed => exact Prog.sat_op_bind.mpr ⟨hΦ _ _, fun _ => hredeem.settled hparsed _⟩
  | expired => exact fail_settled hΦ hredeem hparsed _ _
  | notFound => exact fail_settled hΦ hredeem hparsed _ _
  | alreadyRedeemed => exact answerRepeated_settled hΦ hredeem hparsed _ _ _

/-- A completion from the loaded challenge on. -/
theorem completeChallenge_settled (hΦ : ∀ ys op, Φ ys op) (h : Pending xs)
    (hparsed : parseAuthCompleteRequest P input.rawBody = some body)
    (proof : VerifiedNip98Completion) (now : ℤ) (challenge : ChallengeRecord) :
    (completeChallenge O body proof now challenge).Sat Φ (Settled P input) xs := by
  unfold completeChallenge
  split
  · exact fail_settled hΦ h hparsed _ _
  split
  · exact fail_settled hΦ h hparsed _ _
  split
  · exact fail_settled hΦ h hparsed _ _
  split
  · exact failCounted_settled hΦ h hparsed _ _ _
  split
  · exact failCounted_settled hΦ h hparsed _ _ _
  refine Prog.sat_op_bind.mpr ⟨hΦ _ _, fun (decision, resolvedAt) => ?_⟩
  have hresolved : Pending (xs ++ [⟨.resolve challenge.npub challenge.pubkey
    ⟨body.voucher, now, none⟩, (decision, resolvedAt)⟩]) := h.answer rfl rfl
  dsimp only
  split
  · exact fail_settled hΦ hresolved hparsed _ _
  refine Prog.sat_op_bind.mpr ⟨hΦ _ _, fun session => ?_⟩
  cases session with
  | none => exact trivial
  | some session => exact redeemSession_settled hΦ (hresolved.answer rfl rfl) hparsed _ _ _ _

/-- A completion has settled its counters when it returns. -/
theorem verifyCompletion_settled (hΦ : ∀ ys op, Φ ys op) :
    (verifyCompletion P O input).Sat Φ (Settled P input) [] := by
  refine Prog.sat_op_bind.mpr ⟨hΦ _ _, fun _ => ?_⟩
  cases hparsed : parseAuthCompleteRequest P input.rawBody with
  | none =>
    refine ⟨rfl, ?_⟩
    rw [hparsed]
    rfl
  | some body =>
  have hcounted : Pending ([] ++ [⟨.count .authCompleteTotal, ()⟩]) := ⟨rfl, rfl⟩
  refine Prog.sat_op_bind.mpr ⟨hΦ _ _, fun (rateLimit, now) => ?_⟩
  have hlimited : Pending ([] ++ [⟨.count .authCompleteTotal, ()⟩] ++
    [⟨.checkRateLimit ⟨.complete, none, none, input.clientIp⟩, (rateLimit, now)⟩]) :=
      hcounted.answer rfl rfl
  dsimp only
  split
  · exact refuse_settled hΦ hlimited hparsed _ _ _ _
  cases verifyNip98Completion P (proofInput O input body now) with
  | error e => exact Prog.sat_op_bind.mpr ⟨hΦ _ _, fun _ => hlimited.settled hparsed _⟩
  | ok proof =>
  refine Prog.sat_op_bind.mpr ⟨hΦ _ _, fun provenRateLimit => ?_⟩
  have hproven : Pending ([] ++ [⟨.count .authCompleteTotal, ()⟩] ++
    [⟨.checkRateLimit ⟨.complete, none, none, input.clientIp⟩, (rateLimit, now)⟩] ++
    [⟨.checkRateLimit ⟨.complete, none, some proof.event.pubkey, none⟩, provenRateLimit⟩]) :=
      hlimited.answer rfl rfl
  split
  · exact refuse_settled hΦ hproven hparsed _ _ _ _
  refine Prog.sat_op_bind.mpr ⟨hΦ _ _, fun challenge => ?_⟩
  cases challenge with
  | none => exact fail_settled hΦ (hproven.answer rfl rfl) hparsed _ _
  | some challenge => exact completeChallenge_settled hΦ (hproven.answer rfl rfl) hparsed _ _ _

end Exits

/-! ## Runs -/

variable {cb sb : Backend} {h h' pre : History cb sb} {c c0 : (server P O cb sb).Config}

/-- Either store ends a challenge with the last failure that it allows. -/
theorem recordFailure_last (b : Backend) {s : b.challengeStore.State} (hwf : b.ChallengesWF s)
    (id : String) (now maxFailures : ℤ) :
    (b.challengeStore.recordFailure id now maxFailures s).1.any
        (fun result => result.state = .failedTerminal) = true ↔
      ∃ r, b.challengeStore.get id s = some r ∧ r.state = .issued ∧
        maxFailures ≤ r.failureCount.getD 0 + 1 := by
  have hcount : ∀ {answer : Option RecordChallengeFailureResult} {found : Option ChallengeRecord}
      {count : ChallengeRecord → RecordChallengeFailureResult},
      answer = (found.filter fun r => r.state = .issued).map count →
      (∀ r, (count r).state = (r.fail maxFailures).state) →
      (answer.any (fun result => result.state = .failedTerminal) = true ↔
      ∃ r, found = some r ∧ r.state = .issued ∧ maxFailures ≤ r.failureCount.getD 0 + 1) := by
    intro answer found count hanswer hstate
    rw [hanswer, Option.any_map, Option.any_eq_true]
    simp only [Option.filter_eq_some_iff, decide_eq_true_eq, hstate, ChallengeRecord.fail]
    constructor
    · rintro ⟨r, ⟨hr, hissued⟩, hfailed⟩
      refine ⟨r, hr, hissued, ?_⟩
      by_contra hlt
      rw [if_neg (by omega), hissued] at hfailed
      cases hfailed
    · rintro ⟨r, hr, hissued, hle⟩
      exact ⟨r, ⟨hr, hissued⟩, if_pos hle⟩
  cases b with
  | memory => exact hcount (MemoryChallenges.recordFailure_answer s id now maxFailures) fun _ => rfl
  | postgres =>
    exact hcount (PostgresChallenges.recordFailure_answer hwf id now maxFailures) fun _ => rfl

/-- A call counts the last failure that a challenge allows: at its `recordFailure`, the challenge is
issued and one failure short of the bound. -/
def Exhausts (h : History cb sb) (tid : ℕ) : Prop :=
  ∃ pre e id now maxFailures r, Occurs h pre e ∧ e.tid = tid ∧
    e.op = .recordFailure id now maxFailures ∧ challengeAt pre id = some r ∧ r.state = .issued ∧
    maxFailures ≤ r.failureCount.getD 0 + 1

/-- It does so when one of its events is the last failure of a challenge. -/
theorem exhausts_iff (hv : (server P O cb sb).Valid h) (tid : ℕ) :
    Exhausts h tid ↔ ∃ ev ∈ (machine cb sb).own tid h, isLastFailure ev = true := by
  constructor
  · rintro ⟨pre, e, id, now, maxFailures, r, ho, htid, hop, hr⟩
    have hwf := (sound_of_valid (hv.restrict ho.before)).challenges_wf
    refine ⟨_, mem_own.mpr ⟨pre, e, ho, htid, Machine.event_eq_iff _ |>.mpr ⟨hop, rfl⟩⟩, ?_⟩
    exact (recordFailure_last cb hwf id now maxFailures).mpr ⟨r, hr⟩
  · rintro ⟨⟨op, answer⟩, hev, hlast⟩
    obtain ⟨pre, e, ho, htid, hevent⟩ := mem_own.mp hev
    obtain ⟨hop, hanswer⟩ := Machine.event_eq_iff _ |>.mp hevent
    have hwf := (sound_of_valid (hv.restrict ho.before)).challenges_wf
    cases op with
    | recordFailure id now maxFailures =>
      subst hanswer
      obtain ⟨r, hr⟩ := (recordFailure_last cb hwf id now maxFailures).mp hlast
      exact ⟨pre, e, id, now, maxFailures, r, ho, htid, hop, hr⟩
    | _ => cases hlast

/-- A completion that has returned has settled its counters. -/
theorem settled (hc : (server P O cb sb).Reachable c) {tid : ℕ} {outcome : Outcome}
    (hr : Returned c tid (.verifyCompletion input) outcome) (halive : outcome ≠ .aborted) :
    Settled P input ((machine cb sb).own tid c.history) outcome := by
  obtain ⟨th, hth, hcall, hprog⟩ := hr
  have hbody : ((server P O cb sb).body th.call).Sat (fun _ _ => True) (Settled P input) [] := by
    rw [hcall]
    exact verifyCompletion_settled fun _ _ => trivial
  exact (hc.sat hth hbody hprog).resolve_left halive

/-- What it has counted, if no store has thrown. -/
theorem settled_of_returned (hc : (server P O cb sb).Reachable c) {tid : ℕ} {outcome : Outcome}
    (hr : Returned c tid (.verifyCompletion input) outcome) (halive : outcome ≠ .aborted)
    (hstored : outcome ≠ .threw) :
    tally .authCompleteTotal ((machine cb sb).own tid c.history) = 1 ∧
    verdicts ((machine cb sb).own tid c.history) =
      (if parseAuthCompleteRequest P input.rawBody = none then 0 else 1) +
        ((machine cb sb).own tid c.history).countP isLastFailure := by
  have hsettled := settled hc hr halive
  cases outcome <;> first | exact hsettled | exact absurd rfl hstored

/-- Whether a call is a completion with a malformed body. -/
def isMalformed (P : Platform) : Call → Bool
  | .verifyCompletion input => (parseAuthCompleteRequest P input.rawBody).isNone
  | _ => false

/-- From the configuration `c0`, where every call has returned, to `c` there are only completions.
Each has returned, and no store has thrown. -/
structure CompletionRun (c0 c : (server P O cb sb).Config) : Prop where
  /-- `c0` is a configuration of a run. -/
  reachable : (server P O cb sb).Reachable c0
  /-- The run goes on to `c`. -/
  reaches : (server P O cb sb).Reaches c0 c
  /-- The calls of `c0` have returned. -/
  quiet : ∀ (tid : ℕ) (th : Thread Res Call Outcome), c0.threads[tid]? = some th →
    ∃ outcome, th.prog = .pure outcome
  /-- The other calls are completions that have returned. -/
  completions : ∀ tid, c0.threads.length ≤ tid → tid < c.threads.length → ∃ input outcome,
    Returned c tid (.verifyCompletion input) outcome ∧ outcome ≠ .aborted ∧ outcome ≠ .threw

/-- The events after the first configuration. -/
def since (c0 c : (server P O cb sb).Config) : List (Event Res) :=
  ((machine cb sb).events c.history).drop c0.history.length

namespace CompletionRun

/-- The new events add up to what those of the new calls do. -/
theorem sum_since (hrun : CompletionRun c0 c) (f : Event Res → ℕ) :
    ((since c0 c).map f).sum = ∑ tid ∈ Finset.Ico c0.threads.length c.threads.length,
      (((machine cb sb).own tid c.history).map f).sum := by
  have hc : (server P O cb sb).Reachable c := hrun.reachable.trans hrun.reaches
  have hle := hrun.reaches.threads_le
  -- The first events are those of `c0`, and its calls have no others.
  have htake : ((machine cb sb).events c.history).take c0.history.length =
      (machine cb sb).events c0.history := by
    have hp := (machine cb sb).events_mono hrun.reaches.history_mono
    rw [List.prefix_iff_eq_take, Machine.events_length] at hp
    exact hp.symm
  have hsame : ∀ tid ∈ Finset.range c0.threads.length,
      (((machine cb sb).own tid c.history).map f).sum =
        (((machine cb sb).own tid c0.history).map f).sum := by
    intro tid htid
    have hth := List.getElem?_eq_getElem (Finset.mem_range.mp htid)
    obtain ⟨outcome, hprog⟩ := hrun.quiet tid _ hth
    exact congrArg (fun xs => (xs.map f).sum) (hrun.reaches.own_eq hth hprog)
  have hsplit : (((machine cb sb).events c.history).map f).sum =
      (((machine cb sb).events c0.history).map f).sum + ((since c0 c).map f).sum := by
    rw [← htake, ← List.sum_append, ← List.map_append, since, List.take_append_drop]
  rw [(machine cb sb).sum_events f hrun.reachable.coherent.tid_lt,
    (machine cb sb).sum_events f hc.coherent.tid_lt, ← Finset.sum_range_add_sum_Ico _ hle,
    Finset.sum_congr rfl hsame] at hsplit
  omega

/-- So do their verdicts. -/
theorem verdicts_since (hrun : CompletionRun c0 c) : verdicts (since c0 c) =
    ∑ tid ∈ Finset.Ico c0.threads.length c.threads.length,
      verdicts ((machine cb sb).own tid c.history) := by
  unfold verdicts
  rw [Finset.sum_add_distrib, Finset.sum_add_distrib]
  exact congrArg₂ (· + ·) (congrArg₂ (· + ·) (hrun.sum_since _) (hrun.sum_since _))
    (hrun.sum_since _)

/-- Every completion is counted, and the verdicts and the malformed bodies fall short of the
completions by nothing but the last failures. -/
theorem counted (hrun : CompletionRun c0 c) :
    tally .authCompleteTotal (since c0 c) +
        ∑ tid ∈ Finset.Ico c0.threads.length c.threads.length,
          ((machine cb sb).own tid c.history).countP isLastFailure =
      ((Finset.Ico c0.threads.length c.threads.length).filter
        fun tid => (c.calls[tid]?).any (isMalformed P)).card + verdicts (since c0 c) := by
  have hc : (server P O cb sb).Reachable c := hrun.reachable.trans hrun.reaches
  have htally : tally .authCompleteTotal (since c0 c) = _ := hrun.sum_since _
  rw [htally, hrun.verdicts_since, Finset.card_filter, ← Finset.sum_add_distrib,
    ← Finset.sum_add_distrib]
  refine Finset.sum_congr rfl fun tid htid => ?_
  rw [Finset.mem_Ico] at htid
  obtain ⟨input, outcome, hr, halive, hstored⟩ := hrun.completions tid htid.1 htid.2
  obtain ⟨hcounted, hverdicts⟩ := settled_of_returned hc hr halive hstored
  have hcall : c.calls[tid]? = some (.verifyCompletion input) := by
    obtain ⟨th, hth, hcall, -⟩ := hr
    rw [System.Config.calls, List.getElem?_map, hth, ← hcall]
    rfl
  have hmalformed : (c.calls[tid]?).any (isMalformed P) =
      (parseAuthCompleteRequest P input.rawBody).isNone := by
    rw [hcall]
    rfl
  show tally .authCompleteTotal ((machine cb sb).own tid c.history) + _ = _
  rw [hcounted, hverdicts, hmalformed]
  cases parseAuthCompleteRequest P input.rawBody with
  | none => simp
  | some body => simp

end CompletionRun

/-- A completion with a well-formed body adds one to one of the three counters, unless it counts the
last failure that its challenge allows; then it adds two. Over a run of completions the total is
that of the malformed bodies and the three counters just when no completion does that. -/
theorem metrics_conserved_iff :
    (∀ {c : (server P O cb sb).Config} {tid input body outcome},
      (server P O cb sb).Reachable c → Returned c tid (.verifyCompletion input) outcome →
      outcome ≠ .aborted → outcome ≠ .threw →
      parseAuthCompleteRequest P input.rawBody = some body →
      (verdicts ((machine cb sb).own tid c.history) = 1 ↔ ¬ Exhausts c.history tid)) ∧
    ∀ {c0 c : (server P O cb sb).Config}, CompletionRun c0 c →
      (tally .authCompleteTotal (since c0 c) =
        ((Finset.Ico c0.threads.length c.threads.length).filter
          fun tid => (c.calls[tid]?).any (isMalformed P)).card +
        (tally .authSuccessTotal (since c0 c) + tally .authFailureTotal (since c0 c) +
          tally .authRateLimitedTotal (since c0 c)) ↔
      ∀ tid, c0.threads.length ≤ tid → ¬ Exhausts c.history tid) := by
  have hnone : ∀ {c : (server P O cb sb).Config}, (server P O cb sb).Reachable c → ∀ tid,
      (((machine cb sb).own tid c.history).countP isLastFailure = 0 ↔ ¬ Exhausts c.history tid) := by
    intro c hc tid
    rw [exhausts_iff (System.Valid.of_reachable hc), List.countP_eq_zero]
    push Not
    rfl
  constructor
  · intro c tid input body outcome hc hr halive hstored hparsed
    obtain ⟨-, hverdicts⟩ := settled_of_returned hc hr halive hstored
    rw [hparsed, if_neg (by simp)] at hverdicts
    rw [← hnone hc tid, hverdicts]
    omega
  · intro c0 c hrun
    have hc : (server P O cb sb).Reachable c := hrun.reachable.trans hrun.reaches
    have hcounted := hrun.counted
    have hiff : (∑ tid ∈ Finset.Ico c0.threads.length c.threads.length,
        ((machine cb sb).own tid c.history).countP isLastFailure = 0) ↔
        ∀ tid, c0.threads.length ≤ tid → ¬ Exhausts c.history tid := by
      rw [Finset.sum_eq_zero_iff]
      constructor
      · intro hzero tid hle
        rw [← hnone hc tid]
        rcases lt_or_ge tid c.threads.length with hlt | hge
        · exact hzero tid (Finset.mem_Ico.mpr ⟨hle, hlt⟩)
        · -- There is no such call.
          rw [System.own_eq_nil fun e he => (hc.coherent.tid_lt e he).trans_le hge]
          rfl
      · intro hall tid htid
        exact (hnone hc tid).mpr (hall tid (Finset.mem_Ico.mp htid).1)
    rw [← hiff]
    show tally .authCompleteTotal (since c0 c) = _ + verdicts (since c0 c) ↔ _
    omega

/-! ## Two logins -/

namespace Sample

/-- Whether a call has returned. -/
def hasReturned (th : Thread Res Call Outcome) : Bool :=
  match th.prog with
  | .pure _ => true
  | .call _ _ => false

/-- Whether it is a completion that has returned, and no store has thrown. -/
def hasCompleted (th : Thread Res Call Outcome) : Bool :=
  match th.call, th.prog with
  | .verifyCompletion _, .pure outcome => decide (outcome ≠ .aborted ∧ outcome ≠ .threw)
  | _, .pure _ => false
  | _, .call _ _ => false

/-- A run of completions, as a test. -/
theorem completionRun_of_all (hc0 : (server P O cb sb).Reachable c0)
    (hreach : (server P O cb sb).Reaches c0 c) (hquiet : c0.threads.all hasReturned = true)
    (hrest : (c.threads.drop c0.threads.length).all hasCompleted = true) : CompletionRun c0 c where
  reachable := hc0
  reaches := hreach
  quiet tid th hth := by
    have hreturned := List.all_eq_true.mp hquiet th (List.mem_of_getElem? hth)
    unfold hasReturned at hreturned
    split at hreturned
    · rename_i outcome hprog
      exact ⟨outcome, hprog⟩
    · cases hreturned
  completions tid hle hlt := by
    have hth := List.getElem?_eq_getElem hlt
    have hmem : c.threads[tid] ∈ c.threads.drop c0.threads.length := by
      rw [List.mem_iff_getElem?]
      refine ⟨tid - c0.threads.length, ?_⟩
      rw [List.getElem?_drop, Nat.add_sub_cancel' hle, hth]
    have hcompleted := List.all_eq_true.mp hrest _ hmem
    unfold hasCompleted at hcompleted
    split at hcompleted
    · rename_i input outcome hcall hprog
      obtain ⟨halive, hstored⟩ := of_decide_eq_true hcompleted
      exact ⟨input, outcome, ⟨_, hth, hcall, hprog⟩, halive, hstored⟩
    · cases hcompleted
    · cases hcompleted

end Sample

open Sample in
/-- A login in time. Its completion succeeds and uses up nothing. -/
theorem metrics_conserved_login : ∃ c0 c : (server platform options .memory .memory).Config,
    CompletionRun c0 c ∧ tally .authSuccessTotal (since c0 c) = 1 ∧
    verdicts ((machine .memory .memory).own 1 c.history) = 1 ∧
    ∀ tid, c0.threads.length ≤ tid → ¬ Exhausts c.history tid := by
  obtain ⟨c0, c, hc0, hreach, hcalls0, hcalls, hp⟩ := exists_run_append
    (turn (issue none) 0 4 (env 1000 0)) (turn (complete false none) 1 8 (env 1010 1))
    [issue none] [complete false none]
    (fun c0 c : (server platform options .memory .memory).Config =>
      c0.threads.all hasReturned && (c.threads.drop c0.threads.length).all hasCompleted &&
        (session? c 1).isSome &&
        decide (tally .authCompleteTotal (since c0 c) = 1 ∧
          tally .authSuccessTotal (since c0 c) = 1 ∧ tally .authFailureTotal (since c0 c) = 0 ∧
          tally .authRateLimitedTotal (since c0 c) = 0))
    rfl rfl (computed_login rfl false) (by decide +kernel)
  simp only [Bool.and_eq_true, decide_eq_true_eq, Option.isSome_iff_exists] at hp
  obtain ⟨⟨⟨hquiet, hrest⟩, s, hs⟩, hcomplete, hsuccess, hfailure, hlimited⟩ := hp
  have hrun := completionRun_of_all hc0 hreach hquiet hrest
  obtain ⟨hone, htotal⟩ := @metrics_conserved_iff platform options .memory .memory
  have hwellformed : (Finset.Ico c0.threads.length c.threads.length).filter
      (fun tid => (c.calls[tid]?).any (isMalformed platform)) = ∅ := by
    refine Finset.filter_eq_empty_iff.mpr fun tid _ => ?_
    rw [hcalls]
    rcases tid with _ | _ | tid
    · exact Bool.false_ne_true
    · show ¬ (parseAuthCompleteRequest platform (request false).rawBody).isNone = true
      rw [(reads_request false).body]
      exact Bool.false_ne_true
    · exact Bool.false_ne_true
  have hnone := (htotal hrun).mp (by rw [hcomplete, hsuccess, hfailure, hlimited, hwellformed]; rfl)
  refine ⟨c0, c, hrun, hsuccess, ?_, hnone⟩
  refine (hone (hc0.trans hreach) (returned_of_session hcalls rfl hs) (by simp) (by simp)
    (reads_request false).body).mpr (hnone 1 (le_of_eq ?_))
  have hlength := congrArg List.length hcalls0
  rwa [System.Config.calls, List.length_map] at hlength

open Sample in
/-- A challenge that is issued long after the event was made, and that allows one failure. The only
attempt adds two failures, and the total is one. -/
theorem metrics_unconserved : ∃ c0 c : (server platform oneFailure .memory .memory).Config,
    CompletionRun c0 c ∧
    (∃ input body outcome, Returned c 1 (.verifyCompletion input) outcome ∧ outcome ≠ .aborted ∧
      outcome ≠ .threw ∧ parseAuthCompleteRequest platform input.rawBody = some body ∧
      tally .authFailureTotal ((machine .memory .memory).own 1 c.history) = 2) ∧
    tally .authCompleteTotal (since c0 c) <
      tally .authSuccessTotal (since c0 c) + tally .authFailureTotal (since c0 c) +
        tally .authRateLimitedTotal (since c0 c) := by
  obtain ⟨c0, c, hc0, hreach, hcalls0, hcalls, hp⟩ := exists_run_append
    (turn (issue none) 0 4 (env 1040 0)) (turn (complete false none) 1 7 (env 1045 1))
    [issue none] [complete false none]
    (fun c0 c : (server platform oneFailure .memory .memory).Config =>
      c0.threads.all hasReturned && (c.threads.drop c0.threads.length).all hasCompleted &&
        decide (c.returned? 1 = some (.failed (failure .completeCreatedAtOutOfRange))) &&
        decide (tally .authFailureTotal ((machine .memory .memory).own 1 c.history) = 2 ∧
          tally .authCompleteTotal (since c0 c) < tally .authSuccessTotal (since c0 c) +
            tally .authFailureTotal (since c0 c) + tally .authRateLimitedTotal (since c0 c)))
    rfl rfl (computed_login rfl false) (by decide +kernel)
  simp only [Bool.and_eq_true, decide_eq_true_eq] at hp
  obtain ⟨⟨⟨hquiet, hrest⟩, hout⟩, htwo, hlt⟩ := hp
  exact ⟨c0, c, completionRun_of_all hc0 hreach hquiet hrest, ⟨_, _, _,
    returned_of_run hcalls rfl hout, by simp, by simp, (reads_request false).body, htwo⟩, hlt⟩

end NapAuth

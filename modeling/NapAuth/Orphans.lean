import NapAuth.Completion
import NapAuth.Refresh
import NapAuth.Server.Warrant

/-!
# Sessions of refused redemptions

`verifyCompletion` creates the session before it redeems the challenge, and nothing removes the
session when the redemption is refused. So a session that is held when every call has returned is on
record as the session of its challenge, or its challenge is gone, or it is an orphan: the completion
that has created it attempted a redemption with it and found a challenge that could not be redeemed
any more, and no completion has answered with it (`recorded_or_orphaned`).

`Answered` follows a completion: every session that it has been given went into a redemption that
was refused. Only a completion that has just been given a session, or has redeemed it, is without
it.
-/

namespace NapAuth

open Interleaving

variable {P : Platform} {O : NapServerOptions} {cb sb : Backend} {h pre : History cb sb}
  {e : Step (machine cb sb)} {id : String} {input : VerifyCompletionInput} {s : SessionRecord}

/-! ## Redemptions -/

/-- A challenge that a redemption accepts: it is issued and has not ended. The Postgres store takes
it for ended one second earlier. -/
def Backend.Redeemable (b : Backend) (r : ChallengeRecord) (now : ℤ) : Prop :=
  r.state = .issued ∧ match b with
    | memory => now ≤ r.expiresAt
    | postgres => now < r.expiresAt

/-- Either store redeems a challenge that can be redeemed, and no other. -/
theorem redeem_redeemed_iff (b : Backend) {s : b.challengeStore.State} (hwf : b.ChallengesWF s)
    (id : String) (params : RedeemParams) : (b.challengeStore.redeem id params s).1 = .redeemed ↔
      ∃ r, b.challengeStore.get id s = some r ∧ b.Redeemable r params.now := by
  cases b with
  | memory =>
    have hstatus := MemoryChallenges.redeem_status s id params
    change (MemoryChallenges.redeem id params s).1 = _ ↔
      ∃ r, MemoryChallenges.get id s = some r ∧ r.state = .issued ∧ params.now ≤ r.expiresAt
    rw [hstatus]
    cases MemoryChallenges.get id s with
    | none => simp
    | some r =>
      simp only [Option.some.injEq, exists_eq_left']
      have hsplit : ∀ {p q : Prop} [Decidable p] [Decidable q],
          (if p then RedeemStatus.expired else if q then .redeemed else .alreadyRedeemed) =
            .redeemed ↔ ¬ p ∧ q := by
        intro p q _ _
        split_ifs <;> simp_all
      rw [hsplit]
      constructor
      · rintro ⟨hnot, hissued⟩
        exact ⟨hissued, by push Not at hnot; exact hnot.1⟩
      · rintro ⟨hissued, halive⟩
        refine ⟨?_, hissued⟩
        rw [hissued]
        simpa using halive
  | postgres =>
    have hstatus := PostgresChallenges.redeem_status hwf id params
    change (PostgresChallenges.redeem id params s).1 = _ ↔
      ∃ r, PostgresChallenges.get id s = some r ∧ r.state = .issued ∧ params.now < r.expiresAt
    rw [hstatus]
    cases PostgresChallenges.get id s with
    | none => simp
    | some r =>
      simp only [Option.some.injEq, exists_eq_left']
      split_ifs <;> simp_all

/-! ## One completion -/

section Completion

variable {xs : List (Event Res)} {Φ : List (Event Res) → Op → Prop}

/-- Every session that a completion has been given went into a redemption that was refused. -/
def Answered (xs : List (Event Res)) : Prop :=
  ∀ draft session, ⟨.createForChallenge draft, some session⟩ ∈ xs →
    ∃ (params : RedeemParams) (status : RedeemStatus),
      ⟨.redeem draft.challenge.challengeId params, status⟩ ∈ xs ∧
        params.sessionId = session.sessionId ∧ status ≠ .redeemed

/-- What has become of the sessions that a completion has been given, when it returns: they went
into a redemption. If it fails, that was refused. -/
def Attempted (xs : List (Event Res)) : Outcome → Prop
  | .ok _ => ∀ draft session, ⟨.createForChallenge draft, some session⟩ ∈ xs →
      ∃ (params : RedeemParams) (status : RedeemStatus),
        ⟨.redeem draft.challenge.challengeId params, status⟩ ∈ xs ∧
          params.sessionId = session.sessionId
  | _ => Answered xs

/-- A completion that has been given no session. -/
theorem answered_nil : Answered [] := fun _ _ hmem => by cases hmem

/-- Only a session that is given needs an answer. -/
theorem Answered.answer (h : Answered xs) {ev : Event Res}
    (hnone : ∀ draft session, ev ≠ ⟨.createForChallenge draft, some session⟩) :
    Answered (xs ++ [ev]) := by
  intro draft session hmem
  have hold : ⟨.createForChallenge draft, some session⟩ ∈ xs := by
    rcases List.mem_append.mp hmem with hmem | hmem
    · exact hmem
    · exact absurd (List.mem_singleton.mp hmem).symm (hnone draft session)
  obtain ⟨params, status, hredeem, hrest⟩ := h draft session hold
  exact ⟨params, status, List.mem_append_left _ hredeem, hrest⟩

/-- A completion that has answered for its sessions may return anything. -/
theorem Answered.attempted (h : Answered xs) (outcome : Outcome) : Attempted xs outcome := by
  have hok : ∀ draft session, ⟨.createForChallenge draft, some session⟩ ∈ xs →
      ∃ (params : RedeemParams) (status : RedeemStatus),
        ⟨.redeem draft.challenge.challengeId params, status⟩ ∈ xs ∧
          params.sessionId = session.sessionId := by
    intro draft session hmem
    obtain ⟨params, status, hredeem, hid, -⟩ := h draft session hmem
    exact ⟨params, status, hredeem, hid⟩
  cases outcome <;> first | exact hok | exact h

/-- A completion that fails. -/
theorem fail_attempted (hΦ : ∀ ys op, Φ ys op) (h : Answered xs) (code : NapErrorCode)
    (details : AuditDetails) : (fail code details).Sat Φ Attempted xs :=
  Prog.sat_op_bind.mpr ⟨hΦ _ _, fun _ => (h.answer (by simp)).attempted _⟩

/-- A completion that is rate-limited. -/
theorem refuse_attempted (hΦ : ∀ ys op, Φ ys op) (h : Answered xs) (code : NapErrorCode)
    (pubkey : Option String) (details : AuditDetails) (retryAfterSeconds : Option ℤ) :
    (refuse code pubkey details retryAfterSeconds).Sat Φ Attempted xs :=
  Prog.sat_op_bind.mpr ⟨hΦ _ _, fun _ => (h.answer (by simp)).attempted _⟩

/-- A failure that is counted on the challenge. -/
theorem failCounted_attempted (hΦ : ∀ ys op, Φ ys op) (h : Answered xs)
    (challenge : ChallengeRecord) (now : ℤ) (code : NapErrorCode) :
    (failCounted O challenge now code).Sat Φ Attempted xs := by
  refine Prog.Sat.bind ?_
  unfold recordChallengeFailure
  dsimp only
  split
  · exact fail_attempted hΦ h _ _
  · refine Prog.sat_op_bind.mpr ⟨hΦ _ _, fun result => ?_⟩
    cases result with
    | none => exact fail_attempted hΦ (h.answer (by simp)) _ _
    | some result =>
      dsimp only
      split
      · exact Prog.sat_op_bind.mpr ⟨hΦ _ _, fun _ =>
          fail_attempted hΦ ((h.answer (by simp)).answer (by simp)) _ _⟩
      · exact fail_attempted hΦ (h.answer (by simp)) _ _

/-- The end of a completion whose challenge was redeemed before. -/
theorem answerRepeated_attempted (hΦ : ∀ ys op, Φ ys op) (h : Answered xs)
    (proof : VerifiedNip98Completion) (now : ℤ) (challenge : ChallengeRecord) :
    (answerRepeated proof now challenge).Sat Φ Attempted xs := by
  refine Prog.sat_op_bind.mpr ⟨hΦ _ _, fun record => ?_⟩
  have hread : Answered (xs ++ [⟨.challengeGet challenge.challengeId, record⟩]) :=
    h.answer (by simp)
  cases record with
  | none => exact fail_attempted hΦ hread _ _
  | some record =>
    dsimp only
    split
    · refine Prog.sat_op_bind.mpr ⟨hΦ _ _, fun session => ?_⟩
      cases session with
      | none => exact fail_attempted hΦ (hread.answer (by simp)) _ _
      | some session =>
        exact Prog.sat_op_bind.mpr ⟨hΦ _ _, fun _ =>
          ((hread.answer (by simp)).answer (by simp)).attempted _⟩
    · exact fail_attempted hΦ hread _ _

/-- A completion from the session on. -/
theorem redeemSession_attempted (hΦ : ∀ ys op, Φ ys op) (h : Answered xs) (draft : SessionDraft)
    (proof : VerifiedNip98Completion) (now : ℤ) (session : SessionRecord) :
    (redeemSession O proof now draft.challenge session).Sat Φ Attempted
      (xs ++ [⟨.createForChallenge draft, some session⟩]) := by
  refine Prog.sat_op_bind.mpr ⟨hΦ _ _, fun status => ?_⟩
  -- The redemption answers for the new session, and the others have their answers.
  have hnew : ∀ ys draft' session', ⟨.createForChallenge draft', some session'⟩ ∈
      xs ++ [⟨.createForChallenge draft, some session⟩] ++
        ⟨.redeem draft.challenge.challengeId (redeemParams O proof session now), status⟩ :: ys →
      (∀ ev ∈ ys, ev ≠ ⟨.createForChallenge draft', some session'⟩) →
      ∃ (params : RedeemParams) (status' : RedeemStatus),
        ⟨.redeem draft'.challenge.challengeId params, status'⟩ ∈
          xs ++ [⟨.createForChallenge draft, some session⟩] ++
            ⟨.redeem draft.challenge.challengeId (redeemParams O proof session now), status⟩ :: ys ∧
          params.sessionId = session'.sessionId ∧ (status' = .redeemed → status = .redeemed) := by
    intro ys draft' session' hmem hys
    simp only [List.mem_append, List.mem_cons, List.not_mem_nil, or_false] at hmem
    rcases hmem with (hmem | heq) | heq | hmem
    · obtain ⟨params, status', hredeem, hid, hrefused⟩ := h draft' session' hmem
      exact ⟨params, status', List.mem_append_left _ (List.mem_append_left _ hredeem), hid,
        fun heq => absurd heq hrefused⟩
    · injection heq with hop hanswer
      injection hop with hdraft
      subst hdraft
      obtain rfl := Option.some.inj hanswer
      exact ⟨_, status, List.mem_append_right _ List.mem_cons_self, rfl, id⟩
    · injection heq with hop
      cases hop
    · exact absurd rfl (hys _ hmem)
  have hrefused : status ≠ .redeemed → Answered (xs ++ [⟨.createForChallenge draft, some session⟩] ++
      [⟨.redeem draft.challenge.challengeId (redeemParams O proof session now), status⟩]) := by
    intro hne draft' session' hmem
    obtain ⟨params, status', hredeem, hid, himp⟩ := hnew [] draft' session' hmem (by simp)
    exact ⟨params, status', hredeem, hid, fun heq => hne (himp heq)⟩
  cases status with
  | redeemed =>
    refine Prog.sat_op_bind.mpr ⟨hΦ _ _, fun _ draft' session' hmem => ?_⟩
    rw [List.append_assoc _ [_] [_]] at hmem ⊢
    obtain ⟨params, status', hredeem, hid, -⟩ := hnew _ draft' session' hmem (by simp)
    exact ⟨params, status', hredeem, hid⟩
  | expired => exact fail_attempted hΦ (hrefused (by simp)) _ _
  | notFound => exact fail_attempted hΦ (hrefused (by simp)) _ _
  | alreadyRedeemed => exact answerRepeated_attempted hΦ (hrefused (by simp)) _ _ _

/-- A completion has attempted a redemption with every session that it has been given. -/
theorem verifyCompletion_attempted (hΦ : ∀ ys op, Φ ys op) :
    (verifyCompletion P O input).Sat Φ Attempted [] := by
  refine Prog.sat_op_bind.mpr ⟨hΦ _ _, fun _ => ?_⟩
  have hcounted : Answered ([] ++ [⟨.count .authCompleteTotal, ()⟩]) :=
    answered_nil.answer (by simp)
  cases parseAuthCompleteRequest P input.rawBody with
  | none => exact hcounted.attempted _
  | some body =>
  refine Prog.sat_op_bind.mpr ⟨hΦ _ _, fun (rateLimit, now) => ?_⟩
  have hlimited : Answered ([] ++ [⟨.count .authCompleteTotal, ()⟩] ++
    [⟨.checkRateLimit ⟨.complete, none, none, input.clientIp⟩, (rateLimit, now)⟩]) :=
      hcounted.answer (by simp)
  dsimp only
  split
  · exact refuse_attempted hΦ hlimited _ _ _ _
  cases verifyNip98Completion P (proofInput O input body now) with
  | error e => exact Prog.sat_op_bind.mpr ⟨hΦ _ _, fun _ => (hlimited.answer (by simp)).attempted _⟩
  | ok proof =>
  refine Prog.sat_op_bind.mpr ⟨hΦ _ _, fun provenRateLimit => ?_⟩
  have hproven : Answered ([] ++ [⟨.count .authCompleteTotal, ()⟩] ++
    [⟨.checkRateLimit ⟨.complete, none, none, input.clientIp⟩, (rateLimit, now)⟩] ++
    [⟨.checkRateLimit ⟨.complete, none, some proof.event.pubkey, none⟩, provenRateLimit⟩]) :=
      hlimited.answer (by simp)
  split
  · exact refuse_attempted hΦ hproven _ _ _ _
  refine Prog.sat_op_bind.mpr ⟨hΦ _ _, fun challenge => ?_⟩
  have hread := @Answered.answer _ hproven ⟨.challengeGet proof.challengeId, challenge⟩ (by simp)
  cases challenge with
  | none => exact fail_attempted hΦ hread _ _
  | some challenge =>
  dsimp only [completeChallenge]
  split
  · exact fail_attempted hΦ hread _ _
  split
  · exact fail_attempted hΦ hread _ _
  split
  · exact fail_attempted hΦ hread _ _
  split
  · exact failCounted_attempted hΦ hread _ _ _
  split
  · exact failCounted_attempted hΦ hread _ _ _
  refine Prog.sat_op_bind.mpr ⟨hΦ _ _, fun (decision, resolvedAt) => ?_⟩
  have hresolved := @Answered.answer _ hread ⟨.resolve challenge.npub challenge.pubkey
    ⟨body.voucher, now, none⟩, (decision, resolvedAt)⟩ (by simp)
  dsimp only
  split
  · exact fail_attempted hΦ hresolved _ _
  refine Prog.sat_op_bind.mpr ⟨hΦ _ _, fun session => ?_⟩
  cases session with
  | none => exact (hresolved.answer (by simp)).attempted _
  | some session =>
    exact redeemSession_attempted hΦ hresolved (completionDraft O body now challenge decision) _ _ _

end Completion

/-! ## Runs -/

variable {c : (server P O cb sb).Config} {tid : ℕ}

/-- A session is on record as the one of its challenge, which one step has redeemed. -/
def Recorded (h : History cb sb) (s : SessionRecord) : Prop :=
  ∃ pre e params r, Occurs h pre e ∧
    (machine cb sb).event pre e = ⟨.redeem s.challengeId params, .redeemed⟩ ∧
    params.sessionId = s.sessionId ∧
    challengeAt h s.challengeId = some r ∧ r.RedeemedBy params ∧
    ∀ pre' e' params', Occurs h pre' e' →
      (machine cb sb).event pre' e' = ⟨.redeem s.challengeId params', .redeemed⟩ →
      pre' = pre ∧ e' = e

/-- A call has attempted a redemption with the session, and the challenge was not held or could not
be redeemed any more. -/
def Refused (h : History cb sb) (tid : ℕ) (s : SessionRecord) : Prop :=
  ∃ pre e params, Occurs h pre e ∧ e.tid = tid ∧ e.op = .redeem s.challengeId params ∧
    params.sessionId = s.sessionId ∧
    ∀ r, challengeAt pre s.challengeId = some r → ¬ cb.Redeemable r params.now

/-- A session that no redemption was granted for. -/
structure Orphaned (c : (server P O cb sb).Config) (s : SessionRecord) : Prop where
  /-- The completion that has created it attempted one. -/
  refused : ∃ pre e draft, Occurs c.history pre e ∧ (machine cb sb).event pre e =
    ⟨.createForChallenge draft, some (createSessionRecord draft e.env.draws)⟩ ∧
    s.asCreated = (createSessionRecord draft e.env.draws).asCreated ∧ Refused c.history e.tid s
  /-- Nobody else has redeemed the challenge with it. -/
  unredeemed : ∀ pre e params, Occurs c.history pre e →
    (machine cb sb).event pre e = ⟨.redeem s.challengeId params, .redeemed⟩ →
    params.sessionId ≠ s.sessionId
  /-- No completion has answered with it. -/
  unreturned : ∀ tid input s', Returned c tid (.verifyCompletion input) (.ok s') →
    s'.sessionId ≠ s.sessionId

/-- No call is in flight, and none has died. -/
def Quiet (c : (server P O cb sb).Config) : Prop :=
  ∀ (tid : ℕ) (th : Thread Res Call Outcome), c.threads[tid]? = some th →
    ∃ outcome, th.prog = .pure outcome ∧ outcome ≠ .aborted

/-- An attempt that was not granted has found a challenge that could not be redeemed. -/
theorem not_redeemable (hv : (server P O cb sb).Valid h) (ho : Occurs h pre e)
    {params : RedeemParams} {status : RedeemStatus}
    (hev : (machine cb sb).event pre e = ⟨.redeem id params, status⟩) (hne : status ≠ .redeemed)
    {r : ChallengeRecord} (hr : challengeAt pre id = some r) : ¬ cb.Redeemable r params.now := by
  intro hred
  obtain ⟨-, hanswer⟩ := Machine.event_eq_iff _ |>.mp hev
  refine hne (hanswer.symm.trans ?_)
  exact (redeem_redeemed_iff cb (sound_of_valid (hv.restrict ho.before)).challenges_wf id
    params).mpr ⟨r, hr, hred⟩

/-- A session that a challenge was redeemed with is on record, as long as the challenge is held. -/
theorem recorded_of_redeem (hv : (server P O cb sb).Valid h) (ho : Occurs h pre e)
    {params : RedeemParams}
    (hev : (machine cb sb).event pre e = ⟨.redeem s.challengeId params, .redeemed⟩)
    (hid : params.sessionId = s.sessionId) :
    challengeAt h s.challengeId = none ∨ Recorded h s := by
  cases hr : challengeAt h s.challengeId with
  | none => exact Or.inl rfl
  | some r =>
    refine Or.inr ⟨pre, e, params, r, ho, hev, hid, hr, redeemed_persists hv ho hev hr, ?_⟩
    intro pre' e' params' ho' hev'
    obtain ⟨rfl, rfl⟩ := redeem_unique hv ho ho' hev hev'
    exact ⟨rfl, rfl⟩

/-- A completion that has returned has attempted a redemption with every session that it has been
given. -/
theorem attempted (hc : (server P O cb sb).Reachable c) {outcome : Outcome}
    (hr : Returned c tid (.verifyCompletion input) outcome) (halive : outcome ≠ .aborted) :
    Attempted ((machine cb sb).own tid c.history) outcome := by
  obtain ⟨th, hth, hcall, hprog⟩ := hr
  have hbody : ((server P O cb sb).body th.call).Sat (fun _ _ => True) Attempted [] := by
    rw [hcall]
    exact verifyCompletion_attempted fun _ _ => trivial
  exact (hc.sat hth hbody hprog).resolve_left halive

/-- When no call is in flight, every session in the store is the one that is on record for its
challenge, or the challenge is gone, or the session is an orphan; and a completion that has failed
has created no session but one for which it was refused a redemption. -/
theorem recorded_or_orphaned (hc : (server P O cb sb).Reachable c) (hquiet : Quiet c) :
    (∀ id s, rowsAt c.history id = some s →
      challengeAt c.history s.challengeId = none ∨ Recorded c.history s ∨ Orphaned c s) ∧
    (∀ tid input f pre e draft, Returned c tid (.verifyCompletion input) (.failed f) →
      Occurs c.history pre e → e.tid = tid → (machine cb sb).event pre e =
        ⟨.createForChallenge draft, some (createSessionRecord draft e.env.draws)⟩ →
      Refused c.history tid (createSessionRecord draft e.env.draws)) := by
  have hv := System.Valid.of_reachable hc
  constructor
  · intro id s hr
    obtain ⟨pre, e, draft, ho, hev, hcreated⟩ := exists_createForChallenge hv hr
    have hcid : s.challengeId = draft.challenge.challengeId :=
      (congrArg SessionRecord.challengeId hcreated :)
    have hsid : s.sessionId = (createSessionRecord draft e.env.draws).sessionId :=
      (congrArg SessionRecord.sessionId hcreated :)
    -- The completion that has created the session has attempted a redemption with it.
    obtain ⟨th, input, -, hth, hcall, -⟩ := create_warrant hc ho (op_of_event hev)
    obtain ⟨outcome, hprog, halive⟩ := hquiet e.tid th hth
    have hattempted := attempted hc ⟨th, hth, hcall, hprog⟩ halive
    have hmem := mem_own.mpr ⟨pre, e, ho, rfl, hev⟩
    obtain ⟨params, status, hredeem, hid⟩ : ∃ (params : RedeemParams) (status : RedeemStatus),
        ⟨.redeem draft.challenge.challengeId params, status⟩ ∈
          (machine cb sb).own e.tid c.history ∧
        params.sessionId = (createSessionRecord draft e.env.draws).sessionId := by
      cases outcome with
      | ok s => exact hattempted _ _ hmem
      | _ =>
        obtain ⟨params, status, hredeem, hid, -⟩ := hattempted _ _ hmem
        exact ⟨params, status, hredeem, hid⟩
    rw [← hcid] at hredeem
    rw [← hsid] at hid
    obtain ⟨pre1, e1, ho1, htid1, hev1⟩ := mem_own.mp hredeem
    by_cases hgranted : ∃ pre e params, Occurs c.history pre e ∧
        (machine cb sb).event pre e = ⟨.redeem s.challengeId params, .redeemed⟩ ∧
        params.sessionId = s.sessionId
    · obtain ⟨pre2, e2, params2, ho2, hev2, hid2⟩ := hgranted
      exact (recorded_of_redeem hv ho2 hev2 hid2).imp_right Or.inl
    · push Not at hgranted
      have hne : status ≠ .redeemed := by
        rintro rfl
        exact hgranted pre1 e1 params ho1 hev1 hid
      refine Or.inr (Or.inr ⟨⟨pre, e, draft, ho, hev, hcreated, pre1, e1, params, ho1, htid1,
        op_of_event hev1, hid, fun r hr => not_redeemable hv ho1 hev1 hne hr⟩, hgranted, ?_⟩)
      -- An answer with the session would have come of a redemption with it.
      intro tid input s' hreturned heq
      obtain ⟨j, ha⟩ := (explained hc hreturned).resolve_left (by simp)
      obtain ⟨pre2, e2, params2, ho2, hev2, -, hid2⟩ := ha.redeem hv
      have hrow : rowsAt c.history params2.sessionId = some s := by
        rw [hid2, heq, rowsAt_id hv hr]
        exact hr
      have hsame := challengeId_of_redeem hv ho2 (op_of_event hev2) List.prefix_rfl hrow
      rw [← hsame] at hev2
      exact hgranted pre2 e2 params2 ho2 hev2 (hid2.trans heq)
  · rintro tid input f pre e draft hreturned ho rfl hev
    have hanswered : Answered ((machine cb sb).own e.tid c.history) :=
      attempted hc hreturned (by simp)
    obtain ⟨params, status, hredeem, hid, hne⟩ :=
      hanswered _ _ (mem_own.mpr ⟨pre, e, ho, rfl, hev⟩)
    obtain ⟨pre1, e1, ho1, htid1, hev1⟩ := mem_own.mp hredeem
    exact ⟨pre1, e1, params, ho1, htid1, op_of_event hev1, hid,
      fun r hr => not_redeemable hv ho1 hev1 hne hr⟩

/-! ## A challenge that is marked too early -/

namespace Sample

/-- Whether no call is in flight, and none has died. -/
def isQuiet (c : (server platform O cb sb).Config) : Bool :=
  c.threads.all fun th => match th.prog with
    | .pure outcome => decide (outcome ≠ .aborted)
    | .call _ _ => false

theorem quiet_of_isQuiet {c : (server platform O cb sb).Config} (h : isQuiet c = true) :
    Quiet c := by
  intro tid th hth
  have hth' := List.all_eq_true.mp h th (List.mem_of_getElem? hth)
  split at hth'
  · rename_i outcome hprog
    exact ⟨outcome, hprog, of_decide_eq_true hth'⟩
  · cases hth'

/-- The principal completes the login in the last second of the challenge, and the timer marks the
challenge before the session is created. -/
def markedTooEarly : List client1.Label :=
  turn (issue none) 0 4 (env 1000 0) ++ turn (complete false none) 1 4 (env 1060 1) ++
    turn .markChallengesExpired 2 2 (env 1061 2) ++ List.replicate 4 (.run 1 (env 1061 1))

/-- Whether the login has failed and left a session that nothing has redeemed. -/
def leavesSession (c : client1.Config) : Bool :=
  isQuiet c && decide (c.returned? 1 = some (.failed (failure .completeExpiredChallenge))) &&
    (rowsAt c.history (sessionId 1)).any fun s : SessionRecord => decide (s.revokedAt = none) &&
      (challengeAt c.history s.challengeId).any fun r => decide (r.redeemedSessionId = none)

/-- The login fails, and leaves a session that nothing has redeemed. -/
theorem exists_markedTooEarly : ∃ (c : client1.Config) (s : SessionRecord) (r : ChallengeRecord),
    client1.Reachable c ∧ Quiet c ∧
    c.calls = [issue none, complete false none, .markChallengesExpired] ∧
    c.returned? 1 = some (.failed (failure .completeExpiredChallenge)) ∧
    rowsAt c.history (sessionId 1) = some s ∧ s.revokedAt = none ∧
    challengeAt c.history s.challengeId = some r ∧ r.redeemedSessionId = none := by
  have hcomputed : ∀ call ∈ [issue none, complete false none, .markChallengesExpired],
      Computed options call := by
    intro call hcall
    rcases List.mem_cons.mp hcall with rfl | hcall
    · rfl
    rcases List.mem_pair.mp hcall with rfl | rfl
    · exact computed_complete rfl false none
    · rfl
  obtain ⟨c, hc, hcalls, hp⟩ := exists_run markedTooEarly
    [issue none, complete false none, .markChallengesExpired] leavesSession rfl hcomputed
    (by decide +kernel)
  simp only [leavesSession, Bool.and_eq_true, Option.any_eq_true, decide_eq_true_eq] at hp
  obtain ⟨⟨hquiet, hout⟩, s, hs, hnone, r, hr, hunredeemed⟩ := hp
  exact ⟨c, s, r, hc, quiet_of_isQuiet hquiet, hcalls, hout, hs, hnone, hr, hunredeemed⟩

end Sample

open Sample in
/-- The session that such a login leaves is an orphan, and the login was refused. -/
theorem orphan_of_markedTooEarly : ∃ (c : client1.Config) (s created : SessionRecord),
    rowsAt c.history s.sessionId = some s ∧ Orphaned c s ∧ Refused c.history 1 created ∧
      created.sessionId = s.sessionId := by
  obtain ⟨c, s, r, hc, hquiet, hcalls, hout, hs, -, hr, hnone⟩ := exists_markedTooEarly
  have hv := System.Valid.of_reachable hc
  obtain ⟨hheld, hfailed⟩ := recorded_or_orphaned hc hquiet
  have horphaned : Orphaned c s := by
    rcases hheld _ s hs with hgone | ⟨pre, e, params, r', -, -, -, hr', hred, -⟩ | horphaned
    · rw [hr] at hgone
      cases hgone
    · obtain rfl := Option.some.inj (hr.symm.trans hr')
      rw [hred.sessionId] at hnone
      cases hnone
    · exact horphaned
  -- The only completion has created it.
  obtain ⟨pre, e, draft, ho, hev, hcreated⟩ := exists_createForChallenge hv hs
  obtain ⟨th, input, -, hth, hcall, -⟩ := create_warrant hc ho (op_of_event hev)
  have htid : e.tid = 1 := by
    have hcall' : c.calls[e.tid]? = some (.verifyCompletion input) := by
      rw [System.Config.calls, List.getElem?_map, hth, Option.map_some, hcall]
    rw [hcalls] at hcall'
    -- The other calls do not complete a login.
    generalize e.tid = tid at hcall'
    rcases tid with _ | _ | _ | tid
    · simp [issue] at hcall'
    · rfl
    · simp at hcall'
    · simp at hcall'
  have hrefused := hfailed 1 _ _ pre e draft (returned_of_run hcalls rfl hout) ho htid hev
  refine ⟨c, s, _, ?_, horphaned, hrefused, (congrArg SessionRecord.sessionId hcreated :).symm⟩
  rw [rowsAt_id hv hs]
  exact hs

open Sample in
/-- No call is in flight and the only completion has failed, but its session is in the store, not
revoked, and its challenge is held and not redeemed. -/
theorem failed_completion_leaves_session : ∃ (c : client1.Config) (s : SessionRecord)
    (r : ChallengeRecord) (input : VerifyCompletionInput) (f : VerifyCompleteFailure),
    client1.Reachable c ∧ Quiet c ∧ Returned c 1 (.verifyCompletion input) (.failed f) ∧
    rowsAt c.history s.sessionId = some s ∧ s.revokedAt = none ∧
    challengeAt c.history s.challengeId = some r ∧ r.redeemedSessionId ≠ some s.sessionId := by
  obtain ⟨c, s, r, hc, hquiet, hcalls, hout, hs, hnone, hr, hunredeemed⟩ := exists_markedTooEarly
  refine ⟨c, s, r, _, _, hc, hquiet, returned_of_run hcalls rfl hout, ?_, hnone, hr, ?_⟩
  · rw [rowsAt_id (System.Valid.of_reachable hc) hs]
    exact hs
  · rw [hunredeemed]
    simp

end NapAuth

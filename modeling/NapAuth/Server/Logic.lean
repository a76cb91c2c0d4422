import NapAuth.Server.Comparison

/-!
# What the server's functions do

One result on each function, proved by following its program: which events justify the operations
that matter (`Justified`), and which events explain what it returns (`Explained`). `body_sat`
collects them. The results about runs use these, and no program is unfolded there again.

The explanation of a success is the list of the call's events. `Judgement` is what a completion has
read and decided before it creates a session, and `Accepted` lists the events of a completion that
succeeded.
-/

namespace NapAuth

open Interleaving

/-! ## The clock -/

/-- The clock reading in an event. -/
def reading? : Event Res → Option ℤ
  | ⟨.nowUnix, now⟩ => some now
  | ⟨.checkRateLimit _, answer⟩ => some answer.2
  | ⟨.resolve _ _ _, answer⟩ => some answer.2
  | ⟨.getByAccessToken _, answer⟩ => some answer.2
  | ⟨.getByRefreshToken _, answer⟩ => some answer.2
  | _ => none

/-- Some event of a call has read the clock as `t`. -/
def HasRead (xs : List (Event Res)) (t : ℤ) : Prop := ∃ ev ∈ xs, reading? ev = some t

/-- The time of a request: its first clock reading. -/
def requestTime (xs : List (Event Res)) : Option ℤ := xs.findSome? reading?

/-! ## Operations -/

variable (P : Platform) (O : NapServerOptions)

/-- What justifies an operation: the events that its call has seen. -/
def Justified (xs : List (Event Res)) : Op → Prop
  | .createForChallenge draft => ∃ id, ⟨.challengeGet id, some draft.challenge⟩ ∈ xs
  | .redeem id params =>
    HasRead xs params.now ∧
    (∃ id' challenge, ⟨.challengeGet id', some challenge⟩ ∈ xs ∧ challenge.challengeId = id ∧
      params.now ≤ challenge.expiresAt) ∧
    ∃ draft session, ⟨.createForChallenge draft, some session⟩ ∈ xs ∧
      draft.challenge.challengeId = id ∧ params.sessionId = session.sessionId
  | .revokeBySessionId _ now => HasRead xs now
  | .revokeByPrincipal _ now => HasRead xs now
  | .rotateRefreshToken id draft =>
    truthyInt O.refreshTtlSeconds = true ∧ draft.expectedRefreshToken ≠ "" ∧
    ∃ session now, ⟨.getByRefreshToken draft.expectedRefreshToken, (some session, now)⟩ ∈ xs ∧
      session.sessionId = id
  | _ => True

/-! ## Completions -/

/-- What a completion has read and decided when it turns to the session store. -/
structure Judgement where
  body : AuthCompleteRequest
  /-- The rate limiter's verdict on the request. -/
  rateLimit : RateLimitDecision
  now : ℤ
  proof : VerifiedNip98Completion
  /-- The rate limiter's verdict on the proven key, and the clock after it. -/
  provenRateLimit : RateLimitDecision × ℤ
  challenge : ChallengeRecord
  decision : AclDecision
  /-- The clock after the ACL resolver's verdict. -/
  resolvedAt : ℤ

namespace Judgement

variable (input : VerifyCompletionInput) (j : Judgement)

/-- The events of a completion up to the ACL resolver's verdict. -/
def opening : List (Event Res) :=
  [⟨.count .authCompleteTotal, ()⟩,
    ⟨.checkRateLimit ⟨.complete, none, none, input.clientIp⟩, (j.rateLimit, j.now)⟩,
    ⟨.checkRateLimit ⟨.complete, none, some j.proof.event.pubkey, none⟩, j.provenRateLimit⟩,
    ⟨.challengeGet j.proof.challengeId, some j.challenge⟩,
    ⟨.resolve j.challenge.npub j.challenge.pubkey ⟨j.body.voucher, j.now, none⟩,
      (j.decision, j.resolvedAt)⟩]

/-- What a completion makes a session of. -/
def draft : SessionDraft := completionDraft O j.body j.now j.challenge j.decision

/-- The parameters of the completion's `redeem`. -/
def redeemParams (session : SessionRecord) : RedeemParams :=
  NapAuth.redeemParams O j.proof session j.now

/-- The checks that a completion has passed. -/
structure Holds : Prop where
  /-- The body is well-formed. -/
  parsed : parseAuthCompleteRequest P input.rawBody = some j.body
  /-- The proof is valid. -/
  proven : Nip98Valid P (proofInput O input j.body j.now) j.proof
  /-- The challenge has not ended. -/
  alive : j.now ≤ j.challenge.expiresAt
  /-- It has not been marked as expired. -/
  not_expired : j.challenge.state ≠ .expired
  /-- It has not failed. -/
  not_failed : j.challenge.state ≠ .failedTerminal
  /-- It was issued to the key that has signed the proof. -/
  principal : j.challenge.pubkey = j.proof.event.pubkey
  /-- It is the one that the proof quotes. -/
  quoted : j.challenge.challenge = j.proof.challenge
  /-- The proof was made within the challenge's lifetime. -/
  fresh : validateChallengeBoundCreatedAt j.proof.event.createdAt j.challenge.issuedAt
    j.challenge.expiresAt (O.lowerBoundGraceSeconds.getD 30) (O.upperBoundGraceSeconds.getD 5) = true
  /-- The principal may have a session. -/
  allowed : j.decision.allowed = true

end Judgement

/-- The events of a completion that succeeded with the session `s`. -/
inductive Accepted (input : VerifyCompletionInput) (j : Judgement) (s : SessionRecord) :
    List (Event Res) → Prop
  /-- It has redeemed the challenge. -/
  | redeemed (holds : j.Holds P O input) : Accepted input j s (j.opening input ++
      [⟨.createForChallenge (j.draft O), some s⟩,
        ⟨.redeem j.challenge.challengeId (j.redeemParams O s), .redeemed⟩,
        ⟨.log (successEvent j.challenge.challengeId s.sessionId false), ()⟩])
  /-- The challenge was redeemed before, by the same event. -/
  | repeated {created : SessionRecord} {record : ChallengeRecord} (holds : j.Holds P O input)
      (repeats : repeatable record j.proof j.now = true) : Accepted input j s (j.opening input ++
      [⟨.createForChallenge (j.draft O), some created⟩,
        ⟨.redeem j.challenge.challengeId (j.redeemParams O created), .alreadyRedeemed⟩,
        ⟨.challengeGet j.challenge.challengeId, some record⟩,
        ⟨.getBySessionId (record.redeemedSessionId.getD ""), some s⟩,
        ⟨.log (successEvent j.challenge.challengeId s.sessionId true), ()⟩])

/-- What explains the outcome of a completion: the events of a success, a session store that threw,
or a body that is no request. -/
def CompletionExplained (input : VerifyCompletionInput) (xs : List (Event Res)) : Outcome → Prop
  | .ok s => ∃ j, Accepted P O input j s xs
  | .threw => ∃ ys draft, xs = ys ++ [⟨.createForChallenge draft, none⟩]
  | .malformed => parseAuthCompleteRequest P input.rawBody = none
  | .failed _ => True
  | _ => False

section Completion

variable {P O} {input : VerifyCompletionInput} {xs : List (Event Res)}
  {Ψ : List (Event Res) → Outcome → Prop}

/-- A call that fails. -/
theorem fail_sat {code : NapErrorCode} {details : AuditDetails}
    (h : ∀ ys, Ψ ys (.failed (failure code))) : (fail code details).Sat (Justified O) Ψ xs :=
  Prog.sat_op_bind.mpr ⟨trivial, fun _ => h _⟩

/-- A call that is refused. -/
theorem refuse_sat {code : NapErrorCode} {pubkey : Option String}
    {details : AuditDetails} {retryAfterSeconds : Option ℤ}
    (h : ∀ ys f, Ψ ys (.failed f)) :
    (refuse code pubkey details retryAfterSeconds).Sat (Justified O) Ψ xs :=
  Prog.sat_op_bind.mpr ⟨trivial, fun _ => h _ _⟩

/-- The end of a completion whose challenge was redeemed before. -/
theorem answerRepeated_sat {j : Judgement} {created : SessionRecord} (holds : j.Holds P O input) :
    (answerRepeated j.proof j.now j.challenge).Sat (Justified O) (CompletionExplained P O input)
      (j.opening input ++ [⟨.createForChallenge (j.draft O), some created⟩,
        ⟨.redeem j.challenge.challengeId (j.redeemParams O created), .alreadyRedeemed⟩]) := by
  refine Prog.sat_op_bind.mpr ⟨trivial, fun record => ?_⟩
  cases record with
  | none => exact fail_sat fun _ => trivial
  | some record =>
    dsimp only
    split
    · rename_i repeats
      refine Prog.sat_op_bind.mpr ⟨trivial, fun session => ?_⟩
      cases session with
      | none => exact fail_sat fun _ => trivial
      | some session =>
        refine Prog.sat_op_bind.mpr ⟨trivial, fun _ => ⟨j, ?_⟩⟩
        simpa using Accepted.repeated holds repeats
    · exact fail_sat fun _ => trivial

/-- A completion from the redemption on. -/
theorem redeemSession_sat {j : Judgement} {session : SessionRecord} (holds : j.Holds P O input) :
    (redeemSession O j.proof j.now j.challenge session).Sat (Justified O)
      (CompletionExplained P O input)
      (j.opening input ++ [⟨.createForChallenge (j.draft O), some session⟩]) := by
  refine Prog.sat_op_bind.mpr ⟨⟨?_, ?_, ?_⟩, fun status => ?_⟩
  · exact ⟨⟨.checkRateLimit ⟨.complete, none, none, input.clientIp⟩, (j.rateLimit, j.now)⟩,
      by simp [Judgement.opening], rfl⟩
  · exact ⟨j.proof.challengeId, j.challenge, by simp [Judgement.opening], rfl, holds.alive⟩
  · exact ⟨j.draft O, session, by simp, rfl, rfl⟩
  · cases status with
    | redeemed =>
      refine Prog.sat_op_bind.mpr ⟨trivial, fun _ => ⟨j, ?_⟩⟩
      simpa [Judgement.redeemParams] using Accepted.redeemed holds
    | expired => exact fail_sat fun _ => trivial
    | notFound => exact fail_sat fun _ => trivial
    | alreadyRedeemed =>
      simpa [Judgement.redeemParams] using @answerRepeated_sat P O input j session holds

/-- A failure that is counted on the challenge. -/
theorem failCounted_sat {challenge : ChallengeRecord} {now : ℤ} {code : NapErrorCode} :
    (failCounted O challenge now code).Sat (Justified O) (CompletionExplained P O input) xs := by
  refine Prog.Sat.bind ?_
  unfold recordChallengeFailure
  dsimp only
  split
  · exact fail_sat fun _ => trivial
  · refine Prog.sat_op_bind.mpr ⟨trivial, fun result => ?_⟩
    cases result with
    | none => exact fail_sat fun _ => trivial
    | some result =>
      dsimp only
      split
      · exact Prog.sat_op_bind.mpr ⟨trivial, fun _ => fail_sat fun _ => trivial⟩
      · exact fail_sat fun _ => trivial

/-- `verifyCompletion` explains what it returns. -/
theorem verifyCompletion_sat :
    (verifyCompletion P O input).Sat (Justified O) (CompletionExplained P O input) [] := by
  refine Prog.sat_op_bind.mpr ⟨trivial, fun _ => ?_⟩
  cases parsed : parseAuthCompleteRequest P input.rawBody with
  | none => exact parsed
  | some body =>
  refine Prog.sat_op_bind.mpr ⟨trivial, fun (rateLimit, now) => ?_⟩
  dsimp only
  split
  · exact refuse_sat fun _ _ => trivial
  cases proven : verifyNip98Completion P (proofInput O input body now) with
  | error e => exact Prog.sat_op_bind.mpr ⟨trivial, fun _ => trivial⟩
  | ok proof =>
  refine Prog.sat_op_bind.mpr ⟨trivial, fun provenRateLimit => ?_⟩
  split
  · exact refuse_sat fun _ _ => trivial
  refine Prog.sat_op_bind.mpr ⟨trivial, fun challenge => ?_⟩
  cases challenge with
  | none => exact fail_sat fun _ => trivial
  | some challenge =>
  -- The checks on the challenge, in their order.
  dsimp only [completeChallenge]
  split
  · exact fail_sat fun _ => trivial
  rename_i hended
  split
  · exact fail_sat fun _ => trivial
  rename_i hfailed
  split
  · exact fail_sat fun _ => trivial
  rename_i hprincipal
  split
  · exact failCounted_sat
  rename_i hquoted
  split
  · exact failCounted_sat
  rename_i hfresh
  refine Prog.sat_op_bind.mpr ⟨trivial, fun (decision, resolvedAt) => ?_⟩
  dsimp only
  split
  · exact fail_sat fun _ => trivial
  rename_i hallowed
  refine Prog.sat_op_bind.mpr ⟨⟨proof.challengeId, by simp [completionDraft]⟩, fun session => ?_⟩
  cases session with
  | none => exact ⟨_, _, rfl⟩
  | some session =>
    let j : Judgement :=
      ⟨body, rateLimit, now, proof, provenRateLimit, challenge, decision, resolvedAt⟩
    have holds : j.Holds P O input := by
      push Not at hended hprincipal hquoted
      exact ⟨parsed, verifyNip98Completion_ok.mp proven, hended.1, hended.2, hfailed, hprincipal,
        hquoted, by simpa using hfresh, by simpa using hallowed⟩
    exact redeemSession_sat holds

end Completion

/-! ## Refreshes -/

/-- The events of a refresh that succeeded with the session `s`. -/
inductive Refreshed (input : RefreshSessionInput) (s : SessionRecord) : List (Event Res) → Prop
  /-- It has rotated the session of a current token. -/
  | rotated {token : String} {verdict : RateLimitDecision × ℤ} {session : SessionRecord} {now : ℤ}
      {decision : AclDecision} {resolvedAt : ℤ} (presented : input.refreshToken = some token)
      (current : session.refreshToken = some token) (unrevoked : session.revoked = false)
      (allowed : decision.allowed = true) :
      Refreshed input s
        [⟨.checkRateLimit ⟨.refresh, none, none, input.clientIp⟩, verdict⟩,
          ⟨.getByRefreshToken token, (some session, now)⟩,
          ⟨.resolve session.principalNpub session.principalPubkey
            ⟨none, now, some (session.roles, session.permissions)⟩, (decision, resolvedAt)⟩,
          ⟨.rotateRefreshToken session.sessionId
            (rotateDraft O (O.refreshTtlSeconds.getD 0) token session now decision), some s⟩,
          ⟨.log ⟨.refreshSuccess, some s.principalPubkey, .success, sessionDetails s.sessionId⟩, ()⟩]

/-- What explains the outcome of a refresh: the events of a success. -/
def RefreshExplained (input : RefreshSessionInput) (xs : List (Event Res)) : Outcome → Prop
  | .ok s => Refreshed O input s xs
  | .failed _ => True
  | _ => False

section Refresh

variable {P O} {input : RefreshSessionInput}

/-- `refreshSession` explains what it returns. -/
theorem refreshSession_sat :
    (refreshSession O input).Sat (Justified O) (RefreshExplained O input) [] := by
  unfold refreshSession
  dsimp only
  split
  · exact fail_sat fun _ => trivial
  rename_i hconfigured
  refine Prog.sat_op_bind.mpr ⟨trivial, fun verdict => ?_⟩
  split
  · exact refuse_sat fun _ _ => trivial
  split
  · exact fail_sat fun _ => trivial
  rename_i hpresented
  obtain ⟨token, htoken, hne⟩ := truthyString_iff.mp (by simpa using hpresented)
  rw [htoken, Option.getD_some]
  refine Prog.sat_op_bind.mpr ⟨trivial, fun (found, now) => ?_⟩
  cases found with
  | none => exact fail_sat fun _ => trivial
  | some session =>
  -- The checks on the session, in their order.
  dsimp only [refreshLoaded]
  have hread : (⟨.getByRefreshToken token, (some session, now)⟩ : Event Res) ∈
      ([⟨.checkRateLimit ⟨.refresh, none, none, input.clientIp⟩, verdict⟩,
        ⟨.getByRefreshToken token, (some session, now)⟩] : List (Event Res)) := by simp
  split
  · refine Prog.sat_op_bind.mpr ⟨⟨_, hread, rfl⟩, fun _ => ?_⟩
    exact Prog.sat_op_bind.mpr ⟨trivial, fun _ => trivial⟩
  split
  · exact fail_sat fun _ => trivial
  rename_i hcurrent
  split
  · exact fail_sat fun _ => trivial
  rename_i hrevoked
  split
  · exact fail_sat fun _ => trivial
  split
  · exact fail_sat fun _ => trivial
  refine Prog.sat_op_bind.mpr ⟨trivial, fun (decision, resolvedAt) => ?_⟩
  dsimp only
  split
  · split
    · refine Prog.sat_op_bind.mpr ⟨⟨_, List.mem_append_left _ hread, rfl⟩, fun _ => ?_⟩
      exact fail_sat fun _ => trivial
    · exact fail_sat fun _ => trivial
  rename_i hallowed
  refine Prog.sat_op_bind.mpr ⟨⟨by simpa using hconfigured, hne, session, now, by simp [rotateDraft],
    rfl⟩, fun rotated => ?_⟩
  cases rotated with
  | none => exact fail_sat fun _ => trivial
  | some rotated =>
    refine Prog.sat_op_bind.mpr ⟨trivial, fun _ => ?_⟩
    simp only [not_or, Bool.not_eq_false] at hcurrent
    obtain ⟨current, hcur, -⟩ := truthyString_iff.mp hcurrent.1
    rw [hcur, Option.getD_some, constantTimeEquals_iff] at hcurrent
    exact Refreshed.rotated htoken (hcurrent.2 ▸ hcur) (by simpa using hrevoked)
      (by simpa using hallowed)

end Refresh

/-! ## Guards -/

/-- The session that a guard admits, for what it has found and the time. -/
def admitted : Option SessionRecord × ℤ → Option SessionRecord
  | (none, _) => none
  | (some session, now) => if session.revoked ∨ session.expiresAt ≤ now then none else some session

/-- The session that a guard acts for. -/
def GuardContext.session? : GuardContext → Option SessionRecord
  | noSession => none
  | aclDenied session => some session
  | ok session _ _ => some session

/-- What explains the decision of a guard: the session that it has found, if a token was
presented. -/
def GuardExplained (req : GuardRequest) (xs : List (Event Res)) : Outcome → Prop
  | .guarded context =>
    (presentedToken req = none ∧ xs = [] ∧ context.session? = none) ∨
    ∃ token found ys, presentedToken req = some token ∧
      xs = ⟨.getByAccessToken token, found⟩ :: ys ∧ context.session? = admitted found
  | _ => False

section Guards

variable {P O} {req : GuardRequest}

/-- `resolveEffectiveAcl` issues what it may. -/
theorem resolveEffectiveAcl_sat {session : SessionRecord} {xs : List (Event Res)}
    {Ψ : List (Event Res) → Option (List String × List String) → Prop}
    (h : ∀ ys acl, Ψ (xs ++ ys) acl) :
    (resolveEffectiveAcl session).Sat (Justified O) Ψ xs := by
  refine Prog.sat_op_bind.mpr ⟨trivial, fun now => ?_⟩
  refine Prog.sat_op_bind.mpr ⟨trivial, fun (decision, now') => ?_⟩
  dsimp only
  split
  · split
    · refine Prog.sat_op_bind.mpr ⟨⟨_, List.mem_append_right _ List.mem_cons_self, rfl⟩, fun _ => ?_⟩
      rw [List.append_assoc, List.append_assoc]
      exact h _ _
    · rw [List.append_assoc]
      exact h _ _
  · rw [List.append_assoc]
    exact h _ _

/-- `loadSession` finds the session that it admits. -/
theorem loadSession_sat {Ψ : List (Event Res) → Option SessionRecord → Prop}
    (hnone : presentedToken req = none → Ψ [] none)
    (hsome : ∀ token found, presentedToken req = some token →
      Ψ [⟨.getByAccessToken token, found⟩] (admitted found)) :
    (loadSession req).Sat (Justified O) Ψ [] := by
  unfold loadSession
  cases htoken : presentedToken req with
  | none => exact hnone htoken
  | some token =>
    refine Prog.sat_op_bind.mpr ⟨trivial, fun (found, now) => ?_⟩
    have hfound := hsome token (found, now) htoken
    cases found with
    | none => exact hfound
    | some session =>
      dsimp only [admitted] at hfound ⊢
      split
      · rename_i hout
        rwa [if_pos hout] at hfound
      · rename_i hin
        rwa [if_neg hin] at hfound

/-- `loadGuardContext` explains what it returns. -/
theorem loadGuardContext_sat {hasResolver : Bool} :
    (loadGuardContext req hasResolver).Sat (Justified O) (GuardExplained req) [] := by
  refine Prog.Sat.bind (loadSession_sat (fun htoken => ?_) fun token found htoken => ?_)
  · exact Or.inl ⟨htoken, rfl, rfl⟩
  · cases hcontext : admitted found with
    | none => exact Or.inr ⟨token, found, [], htoken, rfl, hcontext.symm⟩
    | some session =>
      dsimp only
      split
      · refine Prog.Sat.bind (resolveEffectiveAcl_sat fun ys acl => ?_)
        cases acl with
        | none => exact Or.inr ⟨token, found, ys, htoken, rfl, hcontext.symm⟩
        | some acl => exact Or.inr ⟨token, found, ys, htoken, rfl, hcontext.symm⟩
      · exact Or.inr ⟨token, found, [], htoken, rfl, hcontext.symm⟩

end Guards

/-! ## Every call -/

/-- What explains the outcome of a call. -/
def Explained : Call → List (Event Res) → Outcome → Prop
  | .verifyCompletion input => CompletionExplained P O input
  | .refreshSession input => RefreshExplained O input
  | .loadGuardContext req _ => GuardExplained req
  | _ => fun _ _ => True

variable {P O}

/-- A count needs no justification. -/
theorem countUnderCap_sat {applies : Bool} {filter : OutstandingChallengeFilter}
    {xs : List (Event Res)} {Ψ : List (Event Res) → ℕ → Prop} (h : ∀ ys n, Ψ ys n) :
    (countUnderCap applies filter).Sat (Justified O) Ψ xs := by
  unfold countUnderCap
  split
  · exact ⟨trivial, fun n => h _ n⟩
  · exact h _ _

/-- `findExceededOutstandingCap` only counts. -/
theorem findExceededOutstandingCap_sat {npub : String} {clientIp : Option String} {now : ℤ}
    {xs : List (Event Res)} {Ψ : List (Event Res) → Option String → Prop} (h : ∀ ys cap, Ψ ys cap) :
    (findExceededOutstandingCap O npub clientIp now).Sat (Justified O) Ψ xs := by
  refine Prog.Sat.bind (countUnderCap_sat fun ys npubCount => ?_)
  refine Prog.Sat.bind (countUnderCap_sat fun zs ipCount => ?_)
  split_ifs <;> exact h _ _

theorem issueChallenge_sat {input : IssueChallengeInput} :
    (issueChallenge P O input).Sat (Justified O) (fun _ _ => True) [] := by
  unfold issueChallenge
  cases resolveChallengeTtl O with
  | none => exact trivial
  | some ttl =>
  refine Prog.sat_op_bind.mpr ⟨trivial, fun _ => ?_⟩
  refine Prog.sat_op_bind.mpr ⟨trivial, fun (rateLimit, now) => ?_⟩
  dsimp only
  split
  · exact refuse_sat fun _ _ => trivial
  cases decodeNpub P input.npub with
  | none => exact fail_sat fun _ => trivial
  | some pubkey =>
  dsimp only
  split
  · exact fail_sat fun _ => trivial
  refine Prog.Sat.bind (findExceededOutstandingCap_sat fun ys exceeded => ?_)
  cases exceeded with
  | some cap => exact refuse_sat fun _ _ => trivial
  | none =>
    refine Prog.sat_op_bind.mpr ⟨trivial, fun created => ?_⟩
    cases created with
    | none => exact fail_sat fun _ => trivial
    | some record => exact trivial

/-- `POST /auth/logout` revokes at a time that it has read. -/
theorem logout_sat {req : GuardRequest} :
    (logout req).Sat (Justified O) (fun _ _ => True) [] := by
  refine Prog.Sat.bind (loadSession_sat (fun _ => trivial) fun token found _ => ?_)
  cases admitted found with
  | none => exact trivial
  | some session =>
    refine Prog.sat_op_bind.mpr ⟨trivial, fun now => ?_⟩
    exact Prog.sat_op_bind.mpr ⟨⟨_, List.mem_append_right _ List.mem_cons_self, rfl⟩,
      fun _ => trivial⟩

/-- Every call issues what it may, and its outcome is explained. -/
theorem body_sat (call : Call) : (body P O call).Sat (Justified O) (Explained P O call) [] := by
  cases call with
  | issueChallenge input => exact issueChallenge_sat
  | verifyCompletion input => exact verifyCompletion_sat
  | refreshSession input => exact refreshSession_sat
  | loadGuardContext req hasResolver => exact loadGuardContext_sat
  | logout req => exact logout_sat
  | revokeSession sessionId =>
    refine Prog.sat_op_bind.mpr ⟨trivial, fun now => ?_⟩
    exact Prog.sat_op_bind.mpr ⟨⟨_, List.mem_cons_self, rfl⟩, fun _ => trivial⟩
  | revokePrincipal pubkey =>
    refine Prog.sat_op_bind.mpr ⟨trivial, fun now => ?_⟩
    exact Prog.sat_op_bind.mpr ⟨⟨_, List.mem_cons_self, rfl⟩, fun _ => trivial⟩
  | markChallengesExpired =>
    refine Prog.sat_op_bind.mpr ⟨trivial, fun now => ?_⟩
    exact Prog.sat_op_bind.mpr ⟨trivial, fun _ => trivial⟩

end NapAuth

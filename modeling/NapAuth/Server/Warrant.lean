import NapAuth.Server.Runs

/-!
# What warrants an operation

`Justified` says of an operation what its call must have seen, whatever call it is. For some results
that is too little: they depend on which request has issued the operation, and on the checks that
the request has passed before. `Warranted` says this for the operations that change a challenge and
for those that create or rotate a session. All of them are issued by one function of the server
each.

`warranted` carries it to the steps of a run.
-/

namespace NapAuth

open Interleaving

variable (P : Platform) (O : NapServerOptions)

/-! ## Warrants -/

/-- The address that a challenge is recorded for, if it has one. -/
def ChallengeDraft.issuedTo (draft : ChallengeDraft) : Option String :=
  if truthyString draft.clientIp then draft.clientIp else none

/-- A challenge is made at a time that the call has read, and within the caps that the call has
found not to be exceeded at that time. -/
structure CreateWarrant (xs : List (Event Res)) (draft : ChallengeDraft) : Prop where
  /-- The time has been read. -/
  read : HasRead xs draft.now
  /-- The challenges of the principal, at the caller's address if that is known, have been
  counted. -/
  perNpub : 0 < O.maxOutstandingChallengesPerNpub.getD 10 → ∃ n : ℕ,
    ⟨.countOutstanding ⟨some draft.npub, draft.issuedTo, draft.now⟩, n⟩ ∈ xs ∧
      n < O.maxOutstandingChallengesPerNpub.getD 10
  /-- The challenges of the caller's address have been counted. -/
  perIp : 0 < O.maxOutstandingChallengesPerIp.getD 30 → ∀ ip, draft.issuedTo = some ip → ∃ n : ℕ,
    ⟨.countOutstanding ⟨none, some ip, draft.now⟩, n⟩ ∈ xs ∧
      n < O.maxOutstandingChallengesPerIp.getD 30

/-- A failure is counted on the challenge that the request has read, and whose key has signed the
request. -/
def FailureWarrant (input : VerifyCompletionInput) (xs : List (Event Res)) (id : String)
    (now maxFailures : ℤ) : Prop :=
  ∃ body proof challenge, parseAuthCompleteRequest P input.rawBody = some body ∧
    requestTime xs = some now ∧ Nip98Valid P (proofInput O input body now) proof ∧
    ⟨.challengeGet proof.challengeId, some challenge⟩ ∈ xs ∧ challenge.challengeId = id ∧
    challenge.pubkey = proof.event.pubkey ∧
    maxFailures = O.maxFailuresPerChallenge.getD 5 ∧ 0 < maxFailures

/-- A session is rotated for a refresh that has passed its checks. -/
inductive RotateWarrant (input : RefreshSessionInput) :
    List (Event Res) → String → RotateDraft → Prop
  | intro {token : String} {verdict : RateLimitDecision × ℤ} {session : SessionRecord} {now : ℤ}
      {decision : AclDecision} {resolvedAt : ℤ}
      (current : session.refreshToken = some token)
      (unrevoked : session.revoked = false)
      (unexpired : now ≤ session.refreshExpiresAt.getD 0)
      (below : ∀ ceiling, lifetimeCeiling O session = some ceiling → now < ceiling)
      (allowed : decision.allowed = true) :
      RotateWarrant input
        [⟨.checkRateLimit ⟨.refresh, none, none, input.clientIp⟩, verdict⟩,
          ⟨.getByRefreshToken token, (some session, now)⟩,
          ⟨.resolve session.principalNpub session.principalPubkey
            ⟨none, now, some (session.roles, session.permissions)⟩, (decision, resolvedAt)⟩]
        session.sessionId
        (rotateDraft O (O.refreshTtlSeconds.getD 0) token session now decision)

/-- The operations that no call issues but by a warrant. -/
def Guarded : Op → Prop
  | .challengeCreate _ => True
  | .redeem _ _ => True
  | .markExpired _ => True
  | .recordFailure _ _ _ => True
  | .createForChallenge _ => True
  | .rotateRefreshToken _ _ => True
  | _ => False

/-- What warrants an operation of a call. -/
def Warranted (call : Call) (xs : List (Event Res)) (op : Op) : Prop :=
  Guarded op → match call, op with
    | .issueChallenge _, .challengeCreate draft => CreateWarrant O xs draft
    | .verifyCompletion input, .recordFailure id now maxFailures =>
      FailureWarrant P O input xs id now maxFailures
    | .verifyCompletion input, .createForChallenge draft =>
      ∃ j : Judgement, j.Holds P O input ∧ xs = j.opening input ∧ draft = j.draft O
    | .verifyCompletion input, .redeem id params =>
      ∃ (j : Judgement) (session : SessionRecord), j.Holds P O input ∧
        xs = j.opening input ++ [⟨.createForChallenge (j.draft O), some session⟩] ∧
        id = j.challenge.challengeId ∧ params = j.redeemParams O session
    | .refreshSession input, .rotateRefreshToken id draft => RotateWarrant O input xs id draft
    | .markChallengesExpired, .markExpired _ => True
    | _, _ => False

variable {P O}

/-- An operation that needs no warrant. -/
theorem warranted_of_not_guarded {call : Call} {xs : List (Event Res)} {op : Op}
    (h : ¬ Guarded op) : Warranted P O call xs op := fun hg => absurd hg h

theorem fail_warrants {call : Call} {xs : List (Event Res)} {code : NapErrorCode}
    {details : AuditDetails} :
    (fail code details).Sat (Warranted P O call) (fun _ _ => True) xs :=
  Prog.sat_op_bind.mpr ⟨warranted_of_not_guarded id, fun _ => trivial⟩

theorem refuse_warrants {call : Call} {xs : List (Event Res)} {code : NapErrorCode}
    {pubkey : Option String} {details : AuditDetails} {retryAfterSeconds : Option ℤ} :
    (refuse code pubkey details retryAfterSeconds).Sat (Warranted P O call) (fun _ _ => True) xs :=
  Prog.sat_op_bind.mpr ⟨warranted_of_not_guarded id, fun _ => trivial⟩

/-! ## Issuing -/

/-- A count under a cap has been taken, if the cap applies. -/
theorem countUnderCap_warrants {call : Call} {applies : Bool} {filter : OutstandingChallengeFilter}
    {xs : List (Event Res)} {Ψ : List (Event Res) → ℕ → Prop}
    (hnot : applies = false → Ψ xs 0)
    (happlies : ∀ n : ℕ, applies = true → Ψ (xs ++ [⟨.countOutstanding filter, n⟩]) n) :
    (countUnderCap applies filter).Sat (Warranted P O call) Ψ xs := by
  unfold countUnderCap
  cases applies with
  | false => exact hnot rfl
  | true => exact ⟨warranted_of_not_guarded id, fun n => happlies n rfl⟩

/-- `findExceededOutstandingCap` finds no cap exceeded only where each count that applies was under
its cap. -/
theorem findExceededOutstandingCap_warrants {call : Call} {npub : String}
    {clientIp ip : Option String} {now : ℤ} {xs : List (Event Res)}
    {Ψ : List (Event Res) → Option String → Prop}
    (hip : ip = if truthyString clientIp then clientIp else none)
    (hcap : ∀ ys cap, Ψ ys (some cap))
    (hnone : ∀ ys, (∀ ev ∈ xs, ev ∈ ys) →
      (0 < O.maxOutstandingChallengesPerNpub.getD 10 → ∃ n : ℕ,
        ⟨.countOutstanding ⟨some npub, ip, now⟩, n⟩ ∈ ys ∧
          n < O.maxOutstandingChallengesPerNpub.getD 10) →
      (0 < O.maxOutstandingChallengesPerIp.getD 30 → ∀ i, ip = some i → ∃ n : ℕ,
        ⟨.countOutstanding ⟨none, some i, now⟩, n⟩ ∈ ys ∧
          n < O.maxOutstandingChallengesPerIp.getD 30) → Ψ ys none) :
    (findExceededOutstandingCap O npub clientIp now).Sat (Warranted P O call) Ψ xs := by
  unfold findExceededOutstandingCap
  dsimp only
  rw [← hip]
  generalize O.maxOutstandingChallengesPerNpub.getD 10 = perNpub at hnone ⊢
  generalize O.maxOutstandingChallengesPerIp.getD 30 = perIp at hnone ⊢
  -- The end of the function, after both counts.
  have hend : ∀ {npubCount ipCount : ℕ} {ys : List (Event Res)}, (∀ ev ∈ xs, ev ∈ ys) →
      (0 < perNpub → ⟨.countOutstanding ⟨some npub, ip, now⟩, npubCount⟩ ∈ ys) →
      (0 < perIp → ∀ i, ip = some i → ⟨.countOutstanding ⟨none, some i, now⟩, ipCount⟩ ∈ ys) →
      Prog.Sat (Warranted P O call) Ψ (if perNpub > 0 ∧ (npubCount : ℤ) ≥ perNpub then
        Pure.pure (some "npub")
        else if (ip.isSome && decide (perIp > 0)) = true ∧ (ipCount : ℤ) ≥ perIp then
          Pure.pure (some "ip")
        else Pure.pure none : Program (Option String)) ys := by
    intro npubCount ipCount ys hsub hnpub hcount
    split
    · exact hcap _ _
    rename_i hunder
    split
    · exact hcap _ _
    rename_i hunder'
    refine hnone ys hsub (fun hpos => ⟨npubCount, hnpub hpos, by omega⟩) fun hpos i hi =>
      ⟨ipCount, hcount hpos i hi, ?_⟩
    subst hi
    simp only [Option.isSome_some, Bool.true_and, decide_eq_true_eq, not_and, not_le] at hunder'
    exact hunder' hpos
  refine Prog.Sat.bind (countUnderCap_warrants (fun hn => ?_) fun n _ => ?_)
  · refine Prog.Sat.bind (countUnderCap_warrants (fun hm => ?_) fun m _ => ?_)
    · refine hend (fun _ hev => hev) (fun hpos => absurd hpos (of_decide_eq_false hn)) fun hpos i hi => ?_
      rw [hi, Option.isSome_some, Bool.true_and] at hm
      exact absurd hpos (of_decide_eq_false hm)
    · refine hend (fun _ hev => List.mem_append_left _ hev) (fun hpos => absurd hpos (of_decide_eq_false hn))
        fun _ i hi => ?_
      rw [hi]
      exact List.mem_append_right _ List.mem_cons_self
  · have hcounted : ∀ ys, ⟨.countOutstanding ⟨some npub, ip, now⟩, n⟩ ∈
        xs ++ [(⟨.countOutstanding ⟨some npub, ip, now⟩, n⟩ : Event Res)] ++ ys := fun ys =>
      List.mem_append_left _ (List.mem_append_right _ List.mem_cons_self)
    refine Prog.Sat.bind (countUnderCap_warrants (fun hm => ?_) fun m _ => ?_)
    · refine hend (fun _ hev => List.mem_append_left _ hev)
        (fun _ => List.mem_append_right _ List.mem_cons_self) fun hpos i hi => ?_
      rw [hi, Option.isSome_some, Bool.true_and] at hm
      exact absurd hpos (of_decide_eq_false hm)
    · refine hend (fun _ hev => List.mem_append_left _ (List.mem_append_left _ hev))
        (fun _ => hcounted _) fun _ i hi => ?_
      rw [hi]
      exact List.mem_append_right _ List.mem_cons_self

theorem issueChallenge_warrants {input : IssueChallengeInput} :
    (issueChallenge P O input).Sat (Warranted P O (.issueChallenge input)) (fun _ _ => True) [] := by
  unfold issueChallenge
  cases resolveChallengeTtl O with
  | none => exact trivial
  | some ttl =>
  refine Prog.sat_op_bind.mpr ⟨warranted_of_not_guarded id, fun _ => ?_⟩
  refine Prog.sat_op_bind.mpr ⟨warranted_of_not_guarded id, fun (rateLimit, now) => ?_⟩
  dsimp only
  split
  · exact refuse_warrants
  cases decodeNpub P input.npub with
  | none => exact fail_warrants
  | some pubkey =>
  dsimp only
  split
  · exact fail_warrants
  refine Prog.Sat.bind (findExceededOutstandingCap_warrants rfl (fun _ _ => refuse_warrants)
    fun ys hsub hnpub hip => ?_)
  have hread : HasRead ys now := ⟨_, hsub _ (List.mem_append_right _ List.mem_cons_self), rfl⟩
  refine Prog.sat_op_bind.mpr ⟨fun _ => ⟨hread, hnpub, hip⟩, fun created => ?_⟩
  cases created with
  | none => exact fail_warrants
  | some record => exact trivial

/-! ## Completing -/

section Completion

variable {input : VerifyCompletionInput}

/-- A failure that is counted on the challenge that the request has read. -/
theorem failCounted_warrants {xs : List (Event Res)} {challenge : ChallengeRecord} {now : ℤ}
    {code : NapErrorCode} {body : AuthCompleteRequest} {proof : VerifiedNip98Completion}
    (hparsed : parseAuthCompleteRequest P input.rawBody = some body)
    (htime : requestTime xs = some now) (hproof : Nip98Valid P (proofInput O input body now) proof)
    (hread : ⟨.challengeGet proof.challengeId, some challenge⟩ ∈ xs)
    (hprincipal : challenge.pubkey = proof.event.pubkey) :
    (failCounted O challenge now code).Sat (Warranted P O (.verifyCompletion input))
      (fun _ _ => True) xs := by
  refine Prog.Sat.bind ?_
  unfold recordChallengeFailure
  dsimp only
  split
  · exact fail_warrants
  rename_i hpos
  refine Prog.sat_op_bind.mpr ⟨fun _ => ?_, fun result => ?_⟩
  · exact ⟨body, proof, challenge, hparsed, htime, hproof, hread, rfl, hprincipal, rfl, by omega⟩
  · cases result with
    | none => exact fail_warrants
    | some result =>
      dsimp only
      split
      · exact Prog.sat_op_bind.mpr ⟨warranted_of_not_guarded id, fun _ => fail_warrants⟩
      · exact fail_warrants

/-- A completion from the redemption on. -/
theorem redeemSession_warrants {j : Judgement} {session : SessionRecord} (holds : j.Holds P O input) :
    (redeemSession O j.proof j.now j.challenge session).Sat (Warranted P O (.verifyCompletion input))
      (fun _ _ => True) (j.opening input ++ [⟨.createForChallenge (j.draft O), some session⟩]) := by
  refine Prog.sat_op_bind.mpr ⟨fun _ => ⟨j, session, holds, rfl, rfl, rfl⟩, fun status => ?_⟩
  cases status with
  | redeemed => exact Prog.sat_op_bind.mpr ⟨warranted_of_not_guarded id, fun _ => trivial⟩
  | expired => exact fail_warrants
  | notFound => exact fail_warrants
  | alreadyRedeemed =>
    refine Prog.sat_op_bind.mpr ⟨warranted_of_not_guarded id, fun record => ?_⟩
    cases record with
    | none => exact fail_warrants
    | some record =>
      dsimp only
      split
      · refine Prog.sat_op_bind.mpr ⟨warranted_of_not_guarded id, fun existing => ?_⟩
        cases existing with
        | none => exact fail_warrants
        | some existing =>
          exact Prog.sat_op_bind.mpr ⟨warranted_of_not_guarded id, fun _ => trivial⟩
      · exact fail_warrants

theorem verifyCompletion_warrants : (verifyCompletion P O input).Sat
    (Warranted P O (.verifyCompletion input)) (fun _ _ => True) [] := by
  refine Prog.sat_op_bind.mpr ⟨warranted_of_not_guarded id, fun _ => ?_⟩
  cases parsed : parseAuthCompleteRequest P input.rawBody with
  | none => exact trivial
  | some body =>
  refine Prog.sat_op_bind.mpr ⟨warranted_of_not_guarded id, fun (rateLimit, now) => ?_⟩
  dsimp only
  split
  · exact refuse_warrants
  cases proven : verifyNip98Completion P (proofInput O input body now) with
  | error e => exact Prog.sat_op_bind.mpr ⟨warranted_of_not_guarded id, fun _ => trivial⟩
  | ok proof =>
  have hproof := verifyNip98Completion_ok.mp proven
  refine Prog.sat_op_bind.mpr ⟨warranted_of_not_guarded id, fun provenRateLimit => ?_⟩
  split
  · exact refuse_warrants
  refine Prog.sat_op_bind.mpr ⟨warranted_of_not_guarded id, fun challenge => ?_⟩
  cases challenge with
  | none => exact fail_warrants
  | some challenge =>
  have hread := List.mem_append_right ([⟨.count .authCompleteTotal, ()⟩] ++
    [⟨.checkRateLimit ⟨.complete, none, none, input.clientIp⟩, (rateLimit, now)⟩] ++
    [⟨.checkRateLimit ⟨.complete, none, some proof.event.pubkey, none⟩, provenRateLimit⟩])
    (List.mem_singleton_self (⟨.challengeGet proof.challengeId, some challenge⟩ : Event Res))
  -- The checks on the challenge, in their order.
  dsimp only [completeChallenge]
  split
  · exact fail_warrants
  rename_i hended
  split
  · exact fail_warrants
  rename_i hfailed
  split
  · exact fail_warrants
  rename_i hprincipal
  push Not at hended hprincipal
  split
  · exact failCounted_warrants parsed rfl hproof hread hprincipal
  rename_i hquoted
  split
  · exact failCounted_warrants parsed rfl hproof hread hprincipal
  rename_i hfresh
  refine Prog.sat_op_bind.mpr ⟨warranted_of_not_guarded id, fun (decision, resolvedAt) => ?_⟩
  dsimp only
  split
  · exact fail_warrants
  rename_i hallowed
  let j : Judgement :=
    ⟨body, rateLimit, now, proof, provenRateLimit, challenge, decision, resolvedAt⟩
  have holds : j.Holds P O input := by
    push Not at hquoted
    exact ⟨parsed, hproof, hended.1, hended.2, hfailed, hprincipal, hquoted, by simpa using hfresh,
      by simpa using hallowed⟩
  refine Prog.sat_op_bind.mpr ⟨fun _ => ⟨j, holds, rfl, rfl⟩, fun session => ?_⟩
  cases session with
  | none => exact trivial
  | some session => exact redeemSession_warrants holds

end Completion

/-! ## Refreshing -/

theorem refreshSession_warrants {input : RefreshSessionInput} :
    (refreshSession O input).Sat (Warranted P O (.refreshSession input)) (fun _ _ => True) [] := by
  unfold refreshSession
  dsimp only
  split
  · exact fail_warrants
  refine Prog.sat_op_bind.mpr ⟨warranted_of_not_guarded id, fun verdict => ?_⟩
  split
  · exact refuse_warrants
  split
  · exact fail_warrants
  rename_i hpresented
  obtain ⟨token, htoken, -⟩ := truthyString_iff.mp (by simpa using hpresented)
  rw [htoken, Option.getD_some]
  refine Prog.sat_op_bind.mpr ⟨warranted_of_not_guarded id, fun (found, now) => ?_⟩
  cases found with
  | none => exact fail_warrants
  | some session =>
  -- The checks on the session, in their order.
  dsimp only [refreshLoaded]
  split
  · refine Prog.sat_op_bind.mpr ⟨warranted_of_not_guarded id, fun _ => ?_⟩
    exact Prog.sat_op_bind.mpr ⟨warranted_of_not_guarded id, fun _ => trivial⟩
  split
  · exact fail_warrants
  rename_i hcurrent
  split
  · exact fail_warrants
  rename_i hrevoked
  split
  · exact fail_warrants
  rename_i hexpired
  split
  · exact fail_warrants
  rename_i hceiling
  refine Prog.sat_op_bind.mpr ⟨warranted_of_not_guarded id, fun (decision, resolvedAt) => ?_⟩
  dsimp only
  split
  · split
    · exact Prog.sat_op_bind.mpr ⟨warranted_of_not_guarded id, fun _ => fail_warrants⟩
    · exact fail_warrants
  rename_i hallowed
  refine Prog.sat_op_bind.mpr ⟨fun _ => ?_, fun rotated => ?_⟩
  · simp only [not_or, Bool.not_eq_false] at hcurrent
    obtain ⟨current, hcur, -⟩ := truthyString_iff.mp hcurrent.1
    rw [hcur, Option.getD_some, constantTimeEquals_iff] at hcurrent
    refine RotateWarrant.intro (hcurrent.2 ▸ hcur) (by simpa using hrevoked) (by omega)
      (fun ceiling hc => ?_) (by simpa using hallowed)
    rw [hc] at hceiling
    simpa using hceiling
  · cases rotated with
    | none => exact fail_warrants
    | some rotated =>
      exact Prog.sat_op_bind.mpr ⟨warranted_of_not_guarded id, fun _ => trivial⟩

/-! ## Every call -/

/-- `loadSession` needs no warrant. -/
theorem loadSession_warrants {call : Call} {req : GuardRequest}
    {Ψ : List (Event Res) → Option SessionRecord → Prop} (h : ∀ ys session, Ψ ys session) :
    (loadSession req).Sat (Warranted P O call) Ψ [] := by
  unfold loadSession
  cases presentedToken req with
  | none => exact h _ _
  | some token =>
    refine Prog.sat_op_bind.mpr ⟨warranted_of_not_guarded id, fun (found, now) => ?_⟩
    cases found with
    | none => exact h _ _
    | some session =>
      dsimp only
      split
      · exact h _ _
      · exact h _ _

/-- `resolveEffectiveAcl` needs no warrant. -/
theorem resolveEffectiveAcl_warrants {call : Call} {session : SessionRecord}
    {xs : List (Event Res)} {Ψ : List (Event Res) → Option (List String × List String) → Prop}
    (h : ∀ ys acl, Ψ ys acl) : (resolveEffectiveAcl session).Sat (Warranted P O call) Ψ xs := by
  refine Prog.sat_op_bind.mpr ⟨warranted_of_not_guarded id, fun now => ?_⟩
  refine Prog.sat_op_bind.mpr ⟨warranted_of_not_guarded id, fun (decision, now') => ?_⟩
  dsimp only
  split
  · split
    · exact Prog.sat_op_bind.mpr ⟨warranted_of_not_guarded id, fun _ => h _ _⟩
    · exact h _ _
  · exact h _ _

/-- Every call has a warrant for what needs one. -/
theorem body_warrants (call : Call) :
    (body P O call).Sat (Warranted P O call) (fun _ _ => True) [] := by
  cases call with
  | issueChallenge input => exact issueChallenge_warrants
  | verifyCompletion input => exact verifyCompletion_warrants
  | refreshSession input => exact refreshSession_warrants
  | loadGuardContext req hasResolver =>
    refine Prog.Sat.bind (loadSession_warrants fun ys session => ?_)
    cases session with
    | none => exact trivial
    | some session =>
      dsimp only
      split
      · refine Prog.Sat.bind (resolveEffectiveAcl_warrants fun zs acl => ?_)
        cases acl <;> exact trivial
      · exact trivial
  | logout req =>
    refine Prog.Sat.bind (loadSession_warrants fun ys session => ?_)
    cases session with
    | none => exact trivial
    | some session =>
      refine Prog.sat_op_bind.mpr ⟨warranted_of_not_guarded id, fun now => ?_⟩
      exact Prog.sat_op_bind.mpr ⟨warranted_of_not_guarded id, fun _ => trivial⟩
  | revokeSession sessionId =>
    refine Prog.sat_op_bind.mpr ⟨warranted_of_not_guarded id, fun now => ?_⟩
    exact Prog.sat_op_bind.mpr ⟨warranted_of_not_guarded id, fun _ => trivial⟩
  | revokePrincipal pubkey =>
    refine Prog.sat_op_bind.mpr ⟨warranted_of_not_guarded id, fun now => ?_⟩
    exact Prog.sat_op_bind.mpr ⟨warranted_of_not_guarded id, fun _ => trivial⟩
  | markChallengesExpired =>
    refine Prog.sat_op_bind.mpr ⟨warranted_of_not_guarded id, fun now => ?_⟩
    exact Prog.sat_op_bind.mpr ⟨fun _ => trivial, fun _ => trivial⟩

/-- Each operation of a run that needs a warrant has one, from its own call. -/
theorem warranted {cb sb : Backend} {c : (server P O cb sb).Config}
    (hc : (server P O cb sb).Reachable c) {pre : History cb sb} {e : Step (machine cb sb)}
    (ho : Occurs c.history pre e) :
    ∃ th, c.threads[e.tid]? = some th ∧
      Warranted P O th.call ((machine cb sb).own e.tid pre) e.op := by
  obtain ⟨-, th, hth, -, k, hfol⟩ := hc.coherent.occurs pre e ho
  exact ⟨th, hth, ((body_warrants th.call).follows hfol).1⟩

section Steps

variable {cb sb : Backend} {c : (server P O cb sb).Config} {pre : History cb sb}
  {e : Step (machine cb sb)} {id : String}

/-- A session is created by a completion that has passed its checks. -/
theorem create_warrant (hc : (server P O cb sb).Reachable c) (ho : Occurs c.history pre e)
    {draft : SessionDraft} (hop : e.op = .createForChallenge draft) :
    ∃ (th : Thread Res Call Outcome) (input : VerifyCompletionInput) (j : Judgement),
      c.threads[e.tid]? = some th ∧ th.call = .verifyCompletion input ∧ j.Holds P O input ∧
      (machine cb sb).own e.tid pre = j.opening input ∧ draft = j.draft O := by
  obtain ⟨th, hth, hw⟩ := warranted hc ho
  rw [hop] at hw
  have hwarrant := hw trivial
  cases hcall : th.call with
  | verifyCompletion input =>
    rw [hcall] at hwarrant
    obtain ⟨j, hrest⟩ := hwarrant
    exact ⟨th, input, j, hth, hcall, hrest⟩
  | _ =>
    rw [hcall] at hwarrant
    exact hwarrant.elim

/-- A failure is counted by a completion. -/
theorem failure_warrant (hc : (server P O cb sb).Reachable c) (ho : Occurs c.history pre e)
    {now maxFailures : ℤ} (hop : e.op = .recordFailure id now maxFailures) :
    ∃ (th : Thread Res Call Outcome) (input : VerifyCompletionInput),
      c.threads[e.tid]? = some th ∧ th.call = .verifyCompletion input ∧
      FailureWarrant P O input ((machine cb sb).own e.tid pre) id now maxFailures := by
  obtain ⟨th, hth, hw⟩ := warranted hc ho
  rw [hop] at hw
  have hwarrant := hw trivial
  cases hcall : th.call with
  | verifyCompletion input =>
    rw [hcall] at hwarrant
    exact ⟨th, input, hth, hcall, hwarrant⟩
  | _ =>
    rw [hcall] at hwarrant
    exact hwarrant.elim

/-- A session is rotated by a refresh. -/
theorem rotate_warrant (hc : (server P O cb sb).Reachable c) (ho : Occurs c.history pre e)
    {draft : RotateDraft} (hop : e.op = .rotateRefreshToken id draft) :
    ∃ (th : Thread Res Call Outcome) (input : RefreshSessionInput),
      c.threads[e.tid]? = some th ∧ th.call = .refreshSession input ∧
      RotateWarrant O input ((machine cb sb).own e.tid pre) id draft := by
  obtain ⟨th, hth, hw⟩ := warranted hc ho
  rw [hop] at hw
  have hwarrant := hw trivial
  cases hcall : th.call with
  | refreshSession input =>
    rw [hcall] at hwarrant
    exact ⟨th, input, hth, hcall, hwarrant⟩
  | _ =>
    rw [hcall] at hwarrant
    exact hwarrant.elim

end Steps

end NapAuth

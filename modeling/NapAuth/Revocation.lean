import NapAuth.Interleaving.Footprint
import NapAuth.Refresh

/-!
# Who ends a session

A session is revoked by a logout, by the reuse of a refresh token, by an ACL that denies its principal
and says to end the sessions, or by an operator, and by nothing else. `EndWarrant` says what a call
has seen when it issues a revocation, for each function of the server and of the adapters that does.
`revocation_explained` puts it in terms of the stores: whoever has ended a session held one of the
tokens of its principal at that time, or one that had been exchanged for it before, or is the
operator.
-/

namespace NapAuth

open Interleaving

/-! ## Warrants -/

/-- The operations that end sessions. -/
def Ends : Op → Prop
  | .revokeBySessionId _ _ => True
  | .revokeByPrincipal _ _ => True
  | _ => False

/-- What warrants an operation that ends sessions: the events that its call has seen, by the call. -/
inductive EndWarrant : Call → List (Event Res) → Op → Prop
  /-- A logout has found the session by its access token, and admits it. -/
  | logout {req : GuardRequest} {token : String} {found : Option SessionRecord × ℤ}
      {session : SessionRecord} {now : ℤ} (presented : presentedToken req = some token)
      (admits : admitted found = some session) :
      EndWarrant (.logout req) [⟨.getByAccessToken token, found⟩, ⟨.nowUnix, now⟩]
        (.revokeBySessionId session.sessionId now)
  /-- A refresh has found the session by a token that it has exchanged. -/
  | reused {input : RefreshSessionInput} {token : String} {verdict : RateLimitDecision × ℤ}
      {session : SessionRecord} {now : ℤ} (presented : input.refreshToken = some token)
      (previous : session.previousRefreshToken = some token) :
      EndWarrant (.refreshSession input)
        [⟨.checkRateLimit ⟨.refresh, none, none, input.clientIp⟩, verdict⟩,
          ⟨.getByRefreshToken token, (some session, now)⟩]
        (.revokeBySessionId session.sessionId now)
  /-- A refresh has found a session by its refresh token, and the ACL denies its principal. -/
  | refreshDenied {input : RefreshSessionInput} {token : String} {verdict : RateLimitDecision × ℤ}
      {session : SessionRecord} {now : ℤ} {context : AclResolutionContext}
      {decision : AclDecision × ℤ} (presented : input.refreshToken = some token)
      (current : session.refreshToken = some token) (unrevoked : session.revoked = false)
      (denied : decision.1.allowed = false) (ends : decision.1.revokeSessions = true) :
      EndWarrant (.refreshSession input)
        [⟨.checkRateLimit ⟨.refresh, none, none, input.clientIp⟩, verdict⟩,
          ⟨.getByRefreshToken token, (some session, now)⟩,
          ⟨.resolve session.principalNpub session.principalPubkey context, decision⟩]
        (.revokeByPrincipal session.principalPubkey now)
  /-- A guard has found a session by its access token, and the ACL denies its principal. -/
  | guardDenied {req : GuardRequest} {token : String} {found : Option SessionRecord × ℤ}
      {session : SessionRecord} {now : ℤ} {context : AclResolutionContext}
      {decision : AclDecision × ℤ} (presented : presentedToken req = some token)
      (admits : admitted found = some session) (denied : decision.1.allowed = false)
      (ends : decision.1.revokeSessions = true) :
      EndWarrant (.loadGuardContext req true)
        [⟨.getByAccessToken token, found⟩, ⟨.nowUnix, now⟩,
          ⟨.resolve session.principalNpub session.principalPubkey context, decision⟩]
        (.revokeByPrincipal session.principalPubkey decision.2)
  /-- An operator ends a session. -/
  | operator {id : String} {now : ℤ} :
      EndWarrant (.revokeSession id) [⟨.nowUnix, now⟩] (.revokeBySessionId id now)
  /-- An operator ends the sessions of a principal. -/
  | operatorPrincipal {pubkey : String} {now : ℤ} :
      EndWarrant (.revokePrincipal pubkey) [⟨.nowUnix, now⟩] (.revokeByPrincipal pubkey now)

/-- A call ends sessions only on a warrant. -/
def Warrants (call : Call) (xs : List (Event Res)) (op : Op) : Prop := Ends op → EndWarrant call xs op

section Programs

variable {P : Platform} {O : NapServerOptions} {call : Call} {xs : List (Event Res)}

/-- A program that ends no session, as one operation and a rest that ends none. -/
theorem endless_op {α : Type} {o : Op} {f : Res o → Program α} (ho : ¬ Ends o)
    (hf : ∀ r, (f r).Issues (¬ Ends ·)) : (perform o >>= f).Issues (¬ Ends ·) :=
  Prog.issues_op_bind.mpr ⟨ho, hf⟩

theorem fail_endless {code : NapErrorCode} {details : AuditDetails} :
    (fail code details).Issues (¬ Ends ·) :=
  endless_op id fun _ => trivial

theorem refuse_endless {code : NapErrorCode} {pubkey : Option String} {details : AuditDetails}
    {retryAfterSeconds : Option ℤ} :
    (refuse code pubkey details retryAfterSeconds).Issues (¬ Ends ·) :=
  endless_op id fun _ => trivial

/-- Issuing a challenge ends no session. -/
theorem issueChallenge_endless {input : IssueChallengeInput} :
    (issueChallenge P O input).Issues (¬ Ends ·) := by
  unfold issueChallenge
  cases resolveChallengeTtl O with
  | none => exact trivial
  | some ttl =>
  refine endless_op id fun _ => endless_op id fun (rateLimit, now) => ?_
  dsimp only
  split
  · exact refuse_endless
  cases decodeNpub P input.npub with
  | none => exact fail_endless
  | some pubkey =>
  dsimp only
  split
  · exact fail_endless
  have hcount : ∀ applies filter, (countUnderCap applies filter).Issues (¬ Ends ·) := by
    intro applies filter
    unfold countUnderCap
    split
    · exact Prog.issues_op.mpr id
    · exact trivial
  refine Prog.Issues.bind ?_ fun exceeded => ?_
  · refine (hcount _ _).bind fun _ => (hcount _ _).bind fun _ => ?_
    split_ifs <;> exact trivial
  cases exceeded with
  | some cap => exact refuse_endless
  | none =>
    refine endless_op id fun created => ?_
    cases created with
    | none => exact fail_endless
    | some record => exact trivial

/-- A failure that is counted ends no session. -/
theorem failCounted_endless {challenge : ChallengeRecord} {now : ℤ} {code : NapErrorCode} :
    (failCounted O challenge now code).Issues (¬ Ends ·) := by
  refine Prog.Issues.bind ?_ fun _ => fail_endless
  unfold recordChallengeFailure
  dsimp only
  split
  · exact trivial
  · refine endless_op id fun result => ?_
    cases result with
    | none => exact trivial
    | some result =>
      dsimp only
      split
      · exact endless_op id fun _ => trivial
      · exact trivial

/-- A completion from the redemption on ends no session. -/
theorem redeemSession_endless {proof : VerifiedNip98Completion} {now : ℤ}
    {challenge : ChallengeRecord} {session : SessionRecord} :
    (redeemSession O proof now challenge session).Issues (¬ Ends ·) := by
  refine endless_op id fun status => ?_
  cases status with
  | redeemed => exact endless_op id fun _ => trivial
  | expired => exact fail_endless
  | notFound => exact fail_endless
  | alreadyRedeemed =>
    refine endless_op id fun record => ?_
    cases record with
    | none => exact fail_endless
    | some record =>
      dsimp only
      split
      · refine endless_op id fun existing => ?_
        cases existing with
        | none => exact fail_endless
        | some existing => exact endless_op id fun _ => trivial
      · exact fail_endless

/-- A completion ends no session. -/
theorem verifyCompletion_endless {input : VerifyCompletionInput} :
    (verifyCompletion P O input).Issues (¬ Ends ·) := by
  refine endless_op id fun _ => ?_
  cases parseAuthCompleteRequest P input.rawBody with
  | none => exact trivial
  | some body =>
  refine endless_op id fun (rateLimit, now) => ?_
  dsimp only
  split
  · exact refuse_endless
  cases verifyNip98Completion P (proofInput O input body now) with
  | error e => exact endless_op id fun _ => trivial
  | ok proof =>
  refine endless_op id fun provenRateLimit => ?_
  split
  · exact refuse_endless
  refine endless_op id fun challenge => ?_
  cases challenge with
  | none => exact fail_endless
  | some challenge =>
  dsimp only [completeChallenge]
  split_ifs
  · exact fail_endless
  · exact fail_endless
  · exact fail_endless
  · exact failCounted_endless
  · exact failCounted_endless
  refine endless_op id fun (decision, resolvedAt) => ?_
  dsimp only
  split
  · exact fail_endless
  refine endless_op id fun session => ?_
  cases session with
  | none => exact trivial
  | some session => exact redeemSession_endless

/-- A program that ends no session needs no warrant. -/
theorem warrants_of_endless {p : Program Outcome} (h : p.Issues (¬ Ends ·)) :
    p.Sat (Warrants call) (fun _ _ => True) xs :=
  h.sat fun _ _ ho hends => absurd hends ho

/-- An operation that ends no session needs no warrant. -/
theorem warrants_op {α : Type} {o : Op} {f : Res o → Program α} {Ψ : List (Event Res) → α → Prop}
    (ho : ¬ Ends o) (hf : ∀ r, (f r).Sat (Warrants call) Ψ (xs ++ [⟨o, r⟩])) :
    (perform o >>= f).Sat (Warrants call) Ψ xs :=
  Prog.sat_op_bind.mpr ⟨fun hends => absurd hends ho, hf⟩

/-- A refresh ends sessions for a token that was exchanged before, or when the ACL says so. -/
theorem refreshSession_ends {input : RefreshSessionInput} :
    (refreshSession O input).Sat (Warrants (.refreshSession input)) (fun _ _ => True) [] := by
  unfold refreshSession
  dsimp only
  split
  · exact warrants_of_endless fail_endless
  refine warrants_op id fun verdict => ?_
  split
  · exact warrants_of_endless refuse_endless
  split
  · exact warrants_of_endless fail_endless
  rename_i hpresented
  obtain ⟨token, htoken, -⟩ := truthyString_iff.mp (by simpa using hpresented)
  rw [htoken, Option.getD_some]
  refine warrants_op id fun (found, now) => ?_
  cases found with
  | none => exact warrants_of_endless fail_endless
  | some session =>
  -- The checks on the session, in their order.
  dsimp only [refreshLoaded]
  split
  · rename_i hreused
    obtain ⟨previous, hprev, -⟩ := truthyString_iff.mp hreused.1
    rw [hprev, Option.getD_some, constantTimeEquals_iff] at hreused
    refine Prog.sat_op_bind.mpr ⟨fun _ => .reused htoken (hreused.2 ▸ hprev), fun _ => ?_⟩
    exact warrants_op id fun _ => trivial
  split
  · exact warrants_of_endless fail_endless
  rename_i hcurrent
  split
  · exact warrants_of_endless fail_endless
  rename_i hrevoked
  split
  · exact warrants_of_endless fail_endless
  split
  · exact warrants_of_endless fail_endless
  refine warrants_op id fun (decision, resolvedAt) => ?_
  dsimp only
  split
  · rename_i hdenied
    split
    · rename_i hends
      simp only [not_or, Bool.not_eq_false] at hcurrent
      obtain ⟨current, hcur, -⟩ := truthyString_iff.mp hcurrent.1
      rw [hcur, Option.getD_some, constantTimeEquals_iff] at hcurrent
      refine Prog.sat_op_bind.mpr ⟨fun _ => ?_, fun _ => warrants_of_endless fail_endless⟩
      exact EndWarrant.refreshDenied htoken (hcurrent.2 ▸ hcur) (by simpa using hrevoked) hdenied
        hends
    · exact warrants_of_endless fail_endless
  refine warrants_op id fun rotated => ?_
  cases rotated with
  | none => exact warrants_of_endless fail_endless
  | some rotated => exact warrants_op id fun _ => trivial

/-- `loadSession` ends no session. What follows it has read the session by the access token. -/
theorem loadSession_ends {req : GuardRequest} {Ψ : List (Event Res) → Option SessionRecord → Prop}
    (hnone : ∀ ys, Ψ ys none)
    (hsome : ∀ token found session, presentedToken req = some token →
      admitted found = some session → Ψ [⟨.getByAccessToken token, found⟩] (some session)) :
    (loadSession req).Sat (Warrants call) Ψ [] := by
  unfold loadSession
  cases htoken : presentedToken req with
  | none => exact hnone _
  | some token =>
    refine warrants_op id fun (found, now) => ?_
    cases found with
    | none => exact hnone _
    | some session =>
      dsimp only
      split
      · exact hnone _
      · rename_i hin
        exact hsome token (some session, now) session htoken (by simp only [admitted, if_neg hin])

/-- A guard ends sessions when the ACL says so. -/
theorem loadGuardContext_ends {req : GuardRequest} {hasResolver : Bool} :
    (loadGuardContext req hasResolver).Sat (Warrants (.loadGuardContext req hasResolver))
      (fun _ _ => True) [] := by
  refine Prog.Sat.bind (loadSession_ends (fun _ => trivial) fun token found session htoken hadm => ?_)
  dsimp only
  cases hasResolver with
  | false => exact trivial
  | true =>
    refine Prog.Sat.bind (warrants_op id fun now => warrants_op id fun (decision, resolvedAt) => ?_)
    dsimp only
    split
    · rename_i hdenied
      split
      · rename_i hends
        exact Prog.sat_op_bind.mpr ⟨fun _ => .guardDenied htoken hadm hdenied hends, fun _ => trivial⟩
      · exact trivial
    · exact trivial

/-- Every call has a warrant for ending sessions. -/
theorem body_ends (call : Call) : (body P O call).Sat (Warrants call) (fun _ _ => True) [] := by
  cases call with
  | issueChallenge input => exact warrants_of_endless issueChallenge_endless
  | verifyCompletion input => exact warrants_of_endless verifyCompletion_endless
  | refreshSession input => exact refreshSession_ends
  | loadGuardContext req hasResolver => exact loadGuardContext_ends
  | logout req =>
    refine Prog.Sat.bind (loadSession_ends (fun _ => trivial) fun token found session htoken hadm => ?_)
    exact warrants_op id fun now =>
      Prog.sat_op_bind.mpr ⟨fun _ => .logout htoken hadm, fun _ => trivial⟩
  | revokeSession sessionId =>
    exact warrants_op id fun now => Prog.sat_op_bind.mpr ⟨fun _ => .operator, fun _ => trivial⟩
  | revokePrincipal pubkey =>
    exact warrants_op id fun now =>
      Prog.sat_op_bind.mpr ⟨fun _ => .operatorPrincipal, fun _ => trivial⟩
  | markChallengesExpired => exact warrants_op id fun now => warrants_op id fun _ => trivial

end Programs

/-! ## Runs -/

variable {P : Platform} {O : NapServerOptions} {cb sb : Backend} {h pre : History cb sb}
  {e : Step (machine cb sb)} {id token : String} {r s : SessionRecord}

/-- The call has asked the ACL for the principal of the session, and was told to end the sessions. -/
def DeniedByAcl (pre : History cb sb) (tid : ℕ) (s : SessionRecord) : Prop :=
  ∃ pre0 e0 context, Occurs pre pre0 e0 ∧ e0.tid = tid ∧
    e0.op = .resolve s.principalNpub s.principalPubkey context ∧ e0.env.acl.allowed = false ∧
    e0.env.acl.revokeSessions = true

/-- The call has looked the session up, and found it as `s`. -/
def LookedUp (pre : History cb sb) (tid : ℕ) (s : SessionRecord) (op : Op) (now : ℤ) : Prop :=
  ∃ pre0 e0, Occurs pre pre0 e0 ∧ e0.tid = tid ∧ e0.op = op ∧ e0.env.now = now ∧
    rowsAt pre0 s.sessionId = some s

/-- Which call ends the session `r` after a history, and by what it may. -/
inductive EndedBy (pre : History cb sb) (tid : ℕ) (r : SessionRecord) : Call → Prop
  /-- A logout that presents the access token of the session. -/
  | logout {req : GuardRequest} {s : SessionRecord} {now : ℤ}
      (presented : presentedToken req = some s.accessToken)
      (found : LookedUp pre tid s (.getByAccessToken s.accessToken) now)
      (live : s.revoked = false ∧ now < s.expiresAt) (same : s.sessionId = r.sessionId) :
      EndedBy pre tid r (.logout req)
  /-- A refresh that presents a token that a rotation of the session has exchanged before. -/
  | reused {input : RefreshSessionInput} {pre0 : History cb sb} {e0 : Step (machine cb sb)}
      {draft : RotateDraft} {s : SessionRecord}
      (presented : input.refreshToken = some draft.expectedRefreshToken)
      (exchanged : Occurs pre pre0 e0)
      (rotation : (machine cb sb).event pre0 e0 = ⟨.rotateRefreshToken r.sessionId draft, some s⟩) :
      EndedBy pre tid r (.refreshSession input)
  /-- A refresh that presents the refresh token of a session of the principal, which the ACL
  denies. -/
  | refreshDenied {input : RefreshSessionInput} {token : String} {s : SessionRecord} {now : ℤ}
      (presented : input.refreshToken = some token) (current : s.refreshToken = some token)
      (found : LookedUp pre tid s (.getByRefreshToken token) now) (live : s.revoked = false)
      (principal : s.principalPubkey = r.principalPubkey) (denied : DeniedByAcl pre tid s) :
      EndedBy pre tid r (.refreshSession input)
  /-- A guarded request that presents the access token of a session of the principal, which the ACL
  denies. -/
  | guardDenied {req : GuardRequest} {s : SessionRecord} {now : ℤ}
      (presented : presentedToken req = some s.accessToken)
      (found : LookedUp pre tid s (.getByAccessToken s.accessToken) now)
      (live : s.revoked = false ∧ now < s.expiresAt)
      (principal : s.principalPubkey = r.principalPubkey) (denied : DeniedByAcl pre tid s) :
      EndedBy pre tid r (.loadGuardContext req true)
  /-- An operator. -/
  | operator : EndedBy pre tid r (.revokeSession r.sessionId)
  /-- An operator who ends every session of the principal. -/
  | operatorPrincipal : EndedBy pre tid r (.revokePrincipal r.principalPubkey)

/-- A token that a session remembers was exchanged by a rotation of it. -/
theorem exchanged_of_previous (hv : (server P O cb sb).Valid h) (hr : rowsAt h id = some r)
    (hprev : r.previousRefreshToken = some token) : ∃ pre0 e0 draft s, Occurs h pre0 e0 ∧
      (machine cb sb).event pre0 e0 = ⟨.rotateRefreshToken id draft, some s⟩ ∧
      draft.expectedRefreshToken = token := by
  refine hv.rec_on (P := fun h => ∀ r, rowsAt h id = some r → r.previousRefreshToken = some token →
    ∃ pre0 e0 draft s, Occurs h pre0 e0 ∧
      (machine cb sb).event pre0 e0 = ⟨.rotateRefreshToken id draft, some s⟩ ∧
      draft.expectedRefreshToken = token) (fun r hr => ?_) (fun h e hv hv' ih r' hr' hprev => ?_)
    r hr hprev
  · exact absurd (sound_nil.keys_drawn id r hr r.sessionId (by simp)) (by simp)
  have hold : ∀ r, rowsAt h id = some r → r.previousRefreshToken = some token →
      ∃ pre0 e0 draft s, Occurs (h ++ [e]) pre0 e0 ∧
        (machine cb sb).event pre0 e0 = ⟨.rotateRefreshToken id draft, some s⟩ ∧
        draft.expectedRefreshToken = token := by
    intro r hr hprev
    obtain ⟨pre0, e0, draft, s, ho, hrest⟩ := ih r hr hprev
    exact ⟨pre0, e0, draft, s, ho.mono (List.prefix_append _ _), hrest⟩
  rcases rowsAt_cases hv' hr' with hr | ⟨draft, -, rfl, -⟩ | ⟨draft, r, hev, -, -⟩ |
    ⟨-, r, t, rfl, hr⟩
  · exact hold r' hr hprev
  · cases hprev
  · obtain ⟨r0, -, hcur, -, rfl, -⟩ := rotate_spec hv' hev
    exact ⟨h, e, draft, _, Occurs.last, hev, Option.some.inj (hcur.symm.trans hprev)⟩
  · exact hold r hr hprev

/-- A rotation leaves the principal. -/
theorem SessionRecord.rotate_principalPubkey (r : SessionRecord) (params : RotateRefreshTokenParams) :
    (r.rotate params).principalPubkey = r.principalPubkey := rfl

/-- A session that is revoked was revoked by some first step. -/
theorem first_revocation (hv : (server P O cb sb).Valid h) (hr : rowsAt h id = some r)
    (hrev : r.revokedAt ≠ none) : ∃ pre e r0, Occurs h pre e ∧ rowsAt pre id = some r0 ∧
      r0.revokedAt = none ∧ Revokes pre e id ∧ r0.principalPubkey = r.principalPubkey := by
  refine hv.rec_on (P := fun h => ∀ r, rowsAt h id = some r → r.revokedAt ≠ none →
    ∃ pre e r0, Occurs h pre e ∧ rowsAt pre id = some r0 ∧ r0.revokedAt = none ∧
      Revokes pre e id ∧ r0.principalPubkey = r.principalPubkey)
    (fun r hr => ?_) (fun h e hv hv' ih r' hr' hrev => ?_) r hr hrev
  · exact absurd (sound_nil.keys_drawn id r hr r.sessionId (by simp)) (by simp)
  have hold : ∀ r, rowsAt h id = some r → r.revokedAt ≠ none →
      r.principalPubkey = r'.principalPubkey → ∃ pre e0 r0, Occurs (h ++ [e]) pre e0 ∧
        rowsAt pre id = some r0 ∧ r0.revokedAt = none ∧ Revokes pre e0 id ∧
        r0.principalPubkey = r'.principalPubkey := by
    intro r hr hrev hsame
    obtain ⟨pre, e0, r0, ho, hr0, hnone, hrevokes, hpk⟩ := ih r hr hrev
    exact ⟨pre, e0, r0, ho.mono (List.prefix_append _ _), hr0, hnone, hrevokes, hpk.trans hsame⟩
  rcases rowsAt_cases hv' hr' with hr | ⟨draft, -, rfl, -⟩ | ⟨draft, r, -, rfl, hr⟩ |
    ⟨hrevokes, r, t, rfl, hr⟩
  · exact hold r' hr hrev rfl
  · simp [createSessionRecord] at hrev
  · exact hold r hr hrev (r.rotate_principalPubkey _).symm
  · by_cases hnone : r.revokedAt = none
    · exact ⟨h, e, r, Occurs.last, hr, hnone, hrevokes, rfl⟩
    · exact hold r hr hnone rfl

/-- A call that admits a session has found it by its access token, and it was live. -/
theorem lookedUp_of_admitted (hv : (server P O cb sb).Valid pre) {tid : ℕ}
    {found : Option SessionRecord × ℤ}
    (hmem : ⟨.getByAccessToken token, found⟩ ∈ (machine cb sb).own tid pre)
    (hadm : admitted found = some s) : token = s.accessToken ∧ ∃ now,
      LookedUp pre tid s (.getByAccessToken s.accessToken) now ∧ s.revoked = false ∧
      now < s.expiresAt := by
  obtain ⟨pre0, e0, ho, htid, hev⟩ := mem_own.mp hmem
  obtain ⟨hrow, rfl, hrevoked, hend⟩ := held_of_admitted (hv.restrict ho) hev hadm
  exact ⟨rfl, e0.env.now, ⟨pre0, e0, ho, htid, op_of_event hev, rfl, hrow⟩, hrevoked, hend⟩

/-- A call that has found a session by a refresh token. -/
theorem lookedUp_of_refresh (hv : (server P O cb sb).Valid pre) {tid : ℕ} {now : ℤ}
    (hmem : ⟨.getByRefreshToken token, (some s, now)⟩ ∈ (machine cb sb).own tid pre) :
    LookedUp pre tid s (.getByRefreshToken token) now := by
  obtain ⟨pre0, e0, ho, htid, hev⟩ := mem_own.mp hmem
  obtain ⟨hop, rfl, hrow, -⟩ := (getByRefreshToken_iff (hv.restrict ho.before)).mp hev
  exact ⟨pre0, e0, ho, htid, hop, rfl, hrow⟩

/-- A call that the ACL has told to end the sessions of a principal. -/
theorem deniedByAcl_of_resolve {tid : ℕ} {context : AclResolutionContext}
    {decision : AclDecision × ℤ}
    (hmem : ⟨.resolve s.principalNpub s.principalPubkey context, decision⟩ ∈
      (machine cb sb).own tid pre)
    (hdenied : decision.1.allowed = false) (hends : decision.1.revokeSessions = true) :
    DeniedByAcl pre tid s := by
  obtain ⟨pre0, e0, ho, htid, hev⟩ := mem_own.mp hmem
  obtain ⟨hop, hanswer⟩ := Machine.event_eq_iff _ |>.mp hev
  have hacl : e0.env.acl = decision.1 := congrArg Prod.fst hanswer
  exact ⟨pre0, e0, context, ho, htid, hop, hacl ▸ hdenied, hacl ▸ hends⟩

/-- A revoked session was ended by a call that may. -/
theorem revocation_ends {c : (server P O cb sb).Config} (hc : (server P O cb sb).Reachable c)
    (hr : rowsAt c.history id = some r) (hrev : r.revokedAt ≠ none) :
    ∃ pre e th, Occurs c.history pre e ∧ (∃ r0, rowsAt pre id = some r0 ∧ r0.revokedAt = none) ∧
      Revokes pre e id ∧ c.threads[e.tid]? = some th ∧ EndedBy pre e.tid r th.call := by
  have hv := System.Valid.of_reachable hc
  have hid := rowsAt_id hv hr
  obtain ⟨pre, e, r0, ho, hr0, hnone, hrevokes, hpk⟩ := first_revocation hv hr hrev
  have hvpre := hv.restrict ho.before
  obtain ⟨-, th, hth, -, k, hfol⟩ := hc.coherent.occurs pre e ho
  refine ⟨pre, e, th, ho, ⟨r0, hr0, hnone⟩, hrevokes, hth, ?_⟩
  -- The step is the revocation of this session, or of its principal's.
  obtain ⟨r1, now, hr1, hop⟩ := hrevokes
  obtain rfl := Option.some.inj (hr0.symm.trans hr1)
  have hwarrant := ((body_ends th.call).follows hfol).1
    (by rcases hop with hop | hop <;> rw [hop] <;> trivial)
  generalize hown : (machine cb sb).own e.tid pre = xs at hwarrant
  generalize hcall : th.call = call at hwarrant ⊢
  generalize e.op = op at hop hwarrant
  cases hwarrant with
  | @logout req token found session _ presented admits =>
    obtain hop | hop := hop
    · obtain ⟨hsid, -⟩ := Op.revokeBySessionId.inj hop
      obtain ⟨rfl, t, hfound, hlive⟩ :=
        lookedUp_of_admitted hvpre (hown ▸ List.mem_cons_self) admits
      exact .logout presented hfound hlive (hsid.trans hid.symm)
    · cases hop
  | @reused input token verdict session _ presented previous =>
    obtain hop | hop := hop
    · obtain ⟨hsid, -⟩ := Op.revokeBySessionId.inj hop
      have hmem : ⟨.getByRefreshToken token, (some session, _)⟩ ∈ (machine cb sb).own e.tid pre :=
        hown ▸ List.mem_cons_of_mem _ List.mem_cons_self
      obtain ⟨pre0, e0, ho0, -, hev0⟩ := mem_own.mp hmem
      obtain ⟨-, -, hrow, -⟩ := (getByRefreshToken_iff (hvpre.restrict ho0.before)).mp hev0
      obtain ⟨pre1, e1, draft, s, ho1, hev1, rfl⟩ :=
        exchanged_of_previous (hvpre.restrict ho0.before) hrow previous
      rw [hsid, ← hid] at hev1
      exact .reused presented (ho1.mono ho0.before) hev1
    · cases hop
  | @refreshDenied input token verdict session _ context decision presented current unrevoked denied
      ends =>
    obtain hop | hop := hop
    · cases hop
    · obtain ⟨hprincipal, -⟩ := Op.revokeByPrincipal.inj hop
      have hfound := lookedUp_of_refresh hvpre
        (hown ▸ List.mem_cons_of_mem _ List.mem_cons_self :
          ⟨.getByRefreshToken token, (some session, _)⟩ ∈ (machine cb sb).own e.tid pre)
      have hasked : ⟨.resolve session.principalNpub session.principalPubkey context, decision⟩ ∈
          (machine cb sb).own e.tid pre := by simp [hown]
      exact .refreshDenied presented current hfound unrevoked (hprincipal.trans hpk)
        (deniedByAcl_of_resolve hasked denied ends)
  | @guardDenied req token found session now' context decision presented admits denied ends =>
    obtain hop | hop := hop
    · cases hop
    · obtain ⟨hprincipal, -⟩ := Op.revokeByPrincipal.inj hop
      obtain ⟨rfl, t, hfound, hlive⟩ :=
        lookedUp_of_admitted hvpre (hown ▸ List.mem_cons_self) admits
      have hasked : ⟨.resolve session.principalNpub session.principalPubkey context, decision⟩ ∈
          (machine cb sb).own e.tid pre := by simp [hown]
      exact .guardDenied presented hfound hlive (hprincipal.trans hpk)
        (deniedByAcl_of_resolve hasked denied ends)
  | operator =>
    obtain hop | hop := hop
    · obtain ⟨hsid, -⟩ := Op.revokeBySessionId.inj hop
      rw [hsid, ← hid]
      exact .operator
    · cases hop
  | operatorPrincipal =>
    obtain hop | hop := hop
    · cases hop
    · obtain ⟨hprincipal, -⟩ := Op.revokeByPrincipal.inj hop
      rw [hprincipal, hpk]
      exact .operatorPrincipal

/-- Every revoked session was ended by a call that may: a logout with its access token, a refresh with
a token that it has exchanged before, a request of its principal that the ACL denies, or an operator.
It was not revoked before, and it stays revoked. -/
theorem revocation_explained {c : (server P O cb sb).Config} (hc : (server P O cb sb).Reachable c)
    (hr : rowsAt c.history id = some r) (hrev : r.revokedAt ≠ none) :
    ∃ pre e th, Occurs c.history pre e ∧ (∃ r0, rowsAt pre id = some r0 ∧ r0.revokedAt = none) ∧
      Revokes pre e id ∧ c.threads[e.tid]? = some th ∧ EndedBy pre e.tid r th.call ∧
      ∀ h r', pre ++ [e] <+: h → h <+: c.history → rowsAt h id = some r' → r'.revokedAt ≠ none := by
  have hv := System.Valid.of_reachable hc
  obtain ⟨pre, e, th, ho, hbefore, hrevokes, hth, hended⟩ := revocation_ends hc hr hrev
  refine ⟨pre, e, th, ho, hbefore, hrevokes, hth, hended, fun h r' hp hp' hr' => ?_⟩
  obtain ⟨r1, hr1, hsome⟩ := hrevokes.revokedAt (hv.restrict ho.before)
  exact revokedAt_persists (hv.restrict hp') hp hr1 hsome hr'

open Sample in
/-- A client that presents a refresh token again, and ends its session by it. -/
theorem revocation_by_reuse : ∃ (c : refresher.Config) (id : String) (r : SessionRecord)
    (pre : History .memory .memory) (e : Step (machine .memory .memory))
    (th : Thread Res Call Outcome), refresher.Reachable c ∧ rowsAt c.history id = some r ∧
    r.revokedAt ≠ none ∧ Occurs c.history pre e ∧ Revokes pre e id ∧
    EndedBy pre e.tid r th.call := by
  have hcomputed : ∀ call ∈ [issue none, complete false none, refresh 1, refresh 1],
      Computed refreshing call := by
    simp only [List.forall_mem_cons]
    exact ⟨rfl, computed_complete rfl false none, rfl, rfl, by simp⟩
  obtain ⟨c, hc, -, hp⟩ := exists_run
    (login 1000 1010 false ++ turn (refresh 1) 2 5 (env 1020 2) ++ turn (refresh 1) 3 4 (env 1030 3))
    [issue none, complete false none, refresh 1, refresh 1]
    (fun c : refresher.Config => (Backend.memory.view.rows c.state.sessions (sessionId 1)).any
      fun r => r.revokedAt.isSome) rfl hcomputed (by decide +kernel)
  obtain ⟨r, hr, hrev⟩ := (Option.any_eq_true _ _).mp hp
  rw [hc.coherent.state_eq] at hr
  have hrev : r.revokedAt ≠ none := Option.isSome_iff_ne_none.mp hrev
  obtain ⟨pre, e, th, ho, -, hrevokes, -, hended, -⟩ := revocation_explained hc hr hrev
  exact ⟨c, _, r, pre, e, th, hc, hr, hrev, ho, hrevokes, hended⟩

end NapAuth

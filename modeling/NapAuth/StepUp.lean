import NapAuth.Completion
import NapAuth.Guard
import NapAuth.Refresh
import NapAuth.Server.Warrant

/-!
# Step-up tokens

A completion that asks for a step-up makes a session with a step-up token. The token lives as long
as `stepUpTtlSeconds` from the completion's time, and the guards compare it with a second header
(`hasValidStepUpToken`). No later step writes the token or its end: both belong to what a session
keeps from its creation (`SessionRecord.asCreated`). So a request that passes the check presents the
token of a session that a completion has made which asked for it, at most that long before
(`step_up_fresh`).

The completion that has made the session need not be the one that is answered with it. A second
completion of the same challenge finds the session, redeems the challenge with it, and the first is
refused (`step_up_refused`).
-/

namespace NapAuth

open Interleaving

variable {P : Platform} {O : NapServerOptions} {cb sb : Backend} {h pre pre' : History cb sb}
  {e : Step (machine cb sb)} {id id' token : String} {s r r' : SessionRecord}

/-! ## The check -/

/-- `hasValidStepUpToken`, for the header `x-step-up-token`. -/
def hasValidStepUpToken (providedToken : Option String) (session : SessionRecord) (now : ℤ) :
    Bool :=
  truthyString providedToken && truthyString session.stepUpToken &&
    constantTimeEquals (session.stepUpToken.getD "") (providedToken.getD "") &&
    truthyInt session.stepUpExpiresAt && decide (session.stepUpExpiresAt.getD 0 > now)

/-- A token that passes is the session's, and has not ended. -/
theorem token_of_hasValidStepUpToken {providedToken : Option String} {now : ℤ}
    (hvalid : hasValidStepUpToken providedToken s now = true) :
    (∃ token, providedToken = some token ∧ s.stepUpToken = some token) ∧
      ∃ ends, s.stepUpExpiresAt = some ends ∧ now < ends := by
  simp only [hasValidStepUpToken, Bool.and_eq_true, truthyString_iff, truthyInt_iff,
    constantTimeEquals_iff, decide_eq_true_eq] at hvalid
  obtain ⟨⟨⟨⟨⟨provided, hprovided, -⟩, token, htoken, -⟩, hsame⟩, ends, hends, -⟩, hlt⟩ := hvalid
  rw [hprovided, htoken, Option.getD_some, Option.getD_some] at hsame
  rw [hends, Option.getD_some] at hlt
  subst hsame
  exact ⟨⟨token, hprovided, htoken⟩, ends, hends, hlt⟩

/-! ## The tokens of a session -/

/-- A session keeps its step-up token and the end of it. -/
theorem stepUp_agree (hv : (server P O cb sb).Valid h) (hp : pre <+: h) (hp' : pre' <+: h)
    (hr : rowsAt pre id = some r) (hr' : rowsAt pre' id = some r') :
    r'.stepUpToken = r.stepUpToken ∧ r'.stepUpExpiresAt = r.stepUpExpiresAt := by
  have hsame := asCreated_agree hv hp' hp hr' hr
  exact ⟨(congrArg SessionRecord.stepUpToken hsame :), (congrArg SessionRecord.stepUpExpiresAt hsame :)⟩

/-- A refresh token is never a step-up token, of whatever session. -/
theorem refreshToken_kind (hv : (server P O cb sb).Valid h) (hp : pre <+: h) (hp' : pre' <+: h)
    (hr : rowsAt pre id = some r) (hr' : rowsAt pre' id' = some r') (ht : r.HasRefreshToken token) :
    r'.stepUpToken ≠ some token := by
  intro ht'
  obtain ⟨p, e, ho, htoken, hdraw⟩ := ((drawn_of_valid (hv.restrict hp) hr).mono hp).refresh _ ht
  obtain ⟨p', e', ho', htoken', hdraw'⟩ :=
    ((drawn_of_valid (hv.restrict hp') hr').mono hp').stepUp _ ht'
  -- The token would have been drawn twice, and by one step as tokens of two kinds.
  have hmem : token ∈ drawnBy e := by rw [hdraw, htoken]; simp [Draws.strings]
  have hmem' : token ∈ drawnBy e' := by rw [hdraw', htoken']; simp [Draws.strings]
  obtain ⟨-, rfl⟩ := drawn_unique hv ho ho' hmem hmem'
  have hnodup := (admissible_iff.mp (hv.admissible ho)).1
  rw [hdraw] at hnodup
  simp only [Draws.strings, List.nodup_cons, List.mem_cons, List.not_mem_nil, or_false,
    not_or] at hnodup
  exact hnodup.2.2.1 (htoken'.symm.trans htoken)

/-! ## Where a step-up token comes from -/

/-- A completion has made the session, at the time `t0`, for a request that asks for a step-up. It
was proved by the session's principal and has passed every check, the ACL resolver's included. -/
def SteppedUp (c : (server P O cb sb).Config) (s : SessionRecord) (t0 : ℤ) : Prop :=
  ∃ (pre : History cb sb) (e : Step (machine cb sb)) (th : Thread Res Call Outcome)
    (input : VerifyCompletionInput) (j : Judgement),
    Occurs c.history pre e ∧ c.threads[e.tid]? = some th ∧ th.call = .verifyCompletion input ∧
    (machine cb sb).own e.tid pre = j.opening input ∧ j.Holds P O input ∧ j.now = t0 ∧
    (machine cb sb).event pre e = ⟨.createForChallenge (j.draft O),
      some (createSessionRecord (j.draft O) e.env.draws)⟩ ∧
    (createSessionRecord (j.draft O) e.env.draws).sessionId = s.sessionId ∧
    j.challenge.challengeId = s.challengeId ∧ j.proof.event.pubkey = s.principalPubkey ∧
    j.body.stepUp = true

/-- A session with a step-up token was made by a completion that asked for it, and the token ends
when its time to live has passed since. -/
theorem exists_steppedUp {c : (server P O cb sb).Config} (hc : (server P O cb sb).Reachable c)
    (hp : pre <+: c.history) (hr : rowsAt pre id = some s) {ends : ℤ}
    (hends : s.stepUpExpiresAt = some ends) :
    ∃ t0, SteppedUp c s t0 ∧ ends = t0 + O.stepUpTtlSeconds.getD 600 := by
  have hv := (System.Valid.of_reachable hc).restrict hp
  obtain ⟨pre0, e0, draft, ho, hev, hcreated⟩ := exists_createForChallenge hv hr
  obtain ⟨th, input, j, hth, hcall, holds, hown, rfl⟩ :=
    create_warrant hc (ho.mono hp) (op_of_event hev)
  have hsid : s.sessionId = (createSessionRecord (j.draft O) e0.env.draws).sessionId :=
    (congrArg SessionRecord.sessionId hcreated :)
  have hcid : s.challengeId = j.challenge.challengeId :=
    (congrArg SessionRecord.challengeId hcreated :)
  have hpubkey : s.principalPubkey = j.challenge.pubkey :=
    (congrArg SessionRecord.principalPubkey hcreated :)
  have hstepUp : s.stepUpExpiresAt =
      (if j.body.stepUp = true then some (O.stepUpTtlSeconds.getD 600) else none).map (j.now + ·) :=
    (congrArg SessionRecord.stepUpExpiresAt hcreated :)
  rw [hends] at hstepUp
  split at hstepUp
  · rename_i hasked
    exact ⟨j.now, ⟨pre0, e0, th, input, j, ho.mono hp, hth, hcall, hown, holds, rfl, hev, hsid.symm,
      hcid.symm, (hpubkey.trans holds.principal).symm, hasked⟩, Option.some.inj hstepUp⟩
  · cases hstepUp

/-- A refresh changes no step-up token and no end of one, and makes no session. -/
theorem stepUp_of_refresh {c : (server P O cb sb).Config} (hc : (server P O cb sb).Reachable c)
    (ho : Occurs c.history pre e) {th : Thread Res Call Outcome} {input : RefreshSessionInput}
    (hth : c.threads[e.tid]? = some th) (hcall : th.call = .refreshSession input)
    (hr' : rowsAt (pre ++ [e]) id = some r') :
    ∃ r, rowsAt pre id = some r ∧ r'.stepUpToken = r.stepUpToken ∧
      r'.stepUpExpiresAt = r.stepUpExpiresAt := by
  have hv := System.Valid.of_reachable hc
  cases hr : rowsAt pre id with
  | some r => exact ⟨r, rfl, stepUp_agree hv ho.before ho hr hr'⟩
  | none =>
    -- Only a completion would have made the session.
    rcases rowsAt_cases (hv.restrict ho) hr' with hsame | ⟨draft, hev, -⟩ | ⟨-, r, -, -, hold⟩ |
      ⟨-, r, -, -, hold⟩
    · cases hr.symm.trans hsame
    · obtain ⟨th', input', -, hth', hcall', -⟩ := create_warrant hc ho (op_of_event hev)
      obtain rfl := Option.some.inj (hth.symm.trans hth')
      cases hcall.symm.trans hcall'
    · cases hr.symm.trans hold
    · cases hr.symm.trans hold

/-- The session that a refresh answers with has the step-up token that it had before. -/
theorem stepUp_of_refreshed {c : (server P O cb sb).Config} (hc : (server P O cb sb).Reachable c)
    {tid : ℕ} {input : RefreshSessionInput}
    (hr : Returned c tid (.refreshSession input) (.ok s)) :
    ∃ pre r, pre <+: c.history ∧ rowsAt pre s.sessionId = some r ∧
      s.stepUpToken = r.stepUpToken ∧ s.stepUpExpiresAt = r.stepUpExpiresAt := by
  have hv := System.Valid.of_reachable hc
  obtain ⟨-, -, pre, e, session, now, draft, -, ho, -, -, -, -, hev, -⟩ := exists_rotate_of_ok hc hr
  obtain ⟨r, hrow, -, -, -, hrow'⟩ := rotate_spec (hv.restrict ho) hev
  rw [rowsAt_id (hv.restrict ho) hrow']
  exact ⟨pre, r, ho.before, hrow, stepUp_agree hv ho.before ho hrow hrow'⟩

/-- A request passes the step-up check only with the step-up token of its own session, which its
guard has found unrevoked and before its end, and only within the step-up TTL of the completion that
has made the session: one of the session's challenge that was proved by the session's principal,
asked for a step-up and has passed every check. No refresh makes, changes or extends a step-up
token, and no step-up token is accepted by a guard as an access token or by a refresh. -/
theorem step_up_fresh {c : (server P O cb sb).Config} (hc : (server P O cb sb).Reachable c) :
    (∀ tid req hasResolver context s providedToken t,
      Returned c tid (.loadGuardContext req hasResolver) (.guarded context) →
      context.session? = some s → hasValidStepUpToken providedToken s t = true →
      (∃ token, providedToken = some token ∧ s.stepUpToken = some token) ∧
      (∃ pre e, Occurs c.history pre e ∧ e.tid = tid ∧ e.op = .getByAccessToken s.accessToken ∧
        presentedToken req = some s.accessToken ∧ rowsAt pre s.sessionId = some s ∧
        s.revoked = false ∧ e.env.now < s.expiresAt) ∧
      ∃ t0, SteppedUp c s t0 ∧ t < t0 + O.stepUpTtlSeconds.getD 600) ∧
    (∀ pre e th input id r', Occurs c.history pre e → c.threads[e.tid]? = some th →
      th.call = .refreshSession input → rowsAt (pre ++ [e]) id = some r' →
      ∃ r, rowsAt pre id = some r ∧ r'.stepUpToken = r.stepUpToken ∧
        r'.stepUpExpiresAt = r.stepUpExpiresAt) ∧
    (∀ tid input s, Returned c tid (.refreshSession input) (.ok s) →
      ∃ pre r, pre <+: c.history ∧ rowsAt pre s.sessionId = some r ∧
        s.stepUpToken = r.stepUpToken ∧ s.stepUpExpiresAt = r.stepUpExpiresAt) ∧
    ∀ pre id r token, pre <+: c.history → rowsAt pre id = some r → r.stepUpToken = some token →
      (∀ tid req hasResolver context,
        Returned c tid (.loadGuardContext req hasResolver) (.guarded context) →
        presentedToken req = some token → context.session? = none) ∧
      ∀ tid input s, Returned c tid (.refreshSession input) (.ok s) →
        input.refreshToken ≠ some token := by
  have hv := System.Valid.of_reachable hc
  refine ⟨fun tid req hasResolver context s providedToken t hr hs hvalid => ?_,
    fun pre e th input id r' ho hth hcall hr' => stepUp_of_refresh hc ho hth hcall hr',
    fun tid input s hr => stepUp_of_refreshed hc hr,
    fun pre id r token hp hrow htoken => ⟨?_, ?_⟩⟩
  · obtain ⟨hprovided, ends, hends, hlt⟩ := token_of_hasValidStepUpToken hvalid
    obtain ⟨hnone, hlookup⟩ := guard_lookup hc hr
    cases haccess : presentedToken req with
    | none =>
      rw [hnone haccess] at hs
      cases hs
    | some accessToken =>
      obtain ⟨pre, e, found, ho, htid, hev, hcontext⟩ := hlookup accessToken haccess
      obtain ⟨hrow, rfl, hunrevoked, hend⟩ := held_of_admitted (hv.restrict ho) hev (hcontext ▸ hs)
      obtain ⟨t0, hstepped, rfl⟩ := exists_steppedUp hc ho.before hrow hends
      exact ⟨hprovided, ⟨pre, e, ho, htid, op_of_event hev, rfl, hrow, hunrevoked, hend⟩, t0,
        hstepped, hlt⟩
  · intro tid req hasResolver context hr haccess
    obtain ⟨pre', e, found, ho, -, hev, hcontext⟩ := (guard_lookup hc hr).2 token haccess
    rw [hcontext]
    cases hs : admitted found with
    | none => rfl
    | some s =>
      obtain ⟨hheld, hs, -, -⟩ := held_of_admitted (hv.restrict ho) hev hs
      exact absurd hs (accessToken_kind hv ho.before hp hheld hrow (Or.inr htoken))
  · intro tid input s hr hpresented
    obtain ⟨-, -, pre', e, session, now, draft, -, ho, -, -, -, -, hev, hinput, -⟩ :=
      exists_rotate_of_ok hc hr
    obtain ⟨r', hheld, hcur, -⟩ := rotate_spec (hv.restrict ho) hev
    obtain rfl : draft.expectedRefreshToken = token := Option.some.inj (hinput.symm.trans hpresented)
    exact refreshToken_kind hv ho.before hp hheld hrow (Or.inl hcur) htoken

namespace Sample

/-- The step-up token of the `n`-th session that is drawn. -/
def stepUpToken (n : ℕ) : String := base64Url (draws n).stepUp

end Sample

open Sample in
/-- A login that asks for a step-up, and a request with its tokens almost ten minutes later. -/
theorem step_up_passed : ∃ (c : client1.Config) (s : SessionRecord) (t0 : ℤ),
    client1.Reachable c ∧ hasValidStepUpToken (some (stepUpToken 1)) s 1609 = true ∧
    SteppedUp c s t0 ∧ 1609 < t0 + 600 := by
  obtain ⟨c, hc, hcalls, hp⟩ := exists_run
    (login 1000 1010 true ++ turn (guard (accessToken 1)) 2 1 (env 1600 2))
    [issue none, complete true none, guard (accessToken 1)]
    (fun c : client1.Config => (guarded? c 2).any fun s =>
      hasValidStepUpToken (some (stepUpToken 1)) s 1609)
    rfl (List.forall_mem_cons.mpr ⟨rfl, List.forall_mem_cons.mpr
      ⟨computed_complete rfl true none, List.forall_mem_singleton.mpr rfl⟩⟩) (by decide +kernel)
  obtain ⟨s, hs, hvalid⟩ := (Option.any_eq_true _ _).mp hp
  obtain ⟨context, hr, hcontext⟩ := returned_of_guarded hcalls rfl hs
  obtain ⟨-, -, t0, hstepped, hlt⟩ := (step_up_fresh hc).1 2 _ _ context s _ 1609 hr hcontext hvalid
  exact ⟨c, s, t0, hc, hvalid, hstepped, hlt⟩

open Sample in
/-- Two requests for one challenge, of which only the first asks for a step-up. The first creates the
session, the second redeems the challenge with it, and the first is refused. A request with the
tokens of that session passes the step-up check, although every completion that has succeeded did
not ask for a step-up. -/
theorem step_up_refused : ∃ (c : client1.Config) (context : GuardContext) (s : SessionRecord),
    client1.Reachable c ∧ Returned c 3 (guard (accessToken 1)) (.guarded context) ∧
    context.session? = some s ∧ hasValidStepUpToken (some (stepUpToken 1)) s 1040 = true ∧
    ∀ tid input s' body, Returned c tid (.verifyCompletion input) (.ok s') →
      parseAuthCompleteRequest platform input.rawBody = some body → body.stepUp = false := by
  obtain ⟨c, hc, hcalls, hp⟩ := exists_run
    (turn (issue none) 0 4 (env 1000 0) ++ turn (complete true none) 1 6 (env 1010 1) ++
      turn (complete false none) 2 8 (env 1020 2) ++ List.replicate 3 (.run 1 (env 1030 1)) ++
      turn (guard (accessToken 1)) 3 1 (env 1040 3))
    [issue none, complete true none, complete false none, guard (accessToken 1)]
    (fun c : client1.Config => decide (c.returned? 1 =
      some (.failed (failure .completeRedeemedChallenge))) && (guarded? c 3).any fun s =>
        hasValidStepUpToken (some (stepUpToken 1)) s 1040)
    rfl (List.forall_mem_cons.mpr ⟨rfl, List.forall_mem_cons.mpr
      ⟨computed_complete rfl true none, List.forall_mem_cons.mpr
        ⟨computed_complete rfl false none, List.forall_mem_singleton.mpr rfl⟩⟩⟩)
    (by decide +kernel)
  rw [Bool.and_eq_true, decide_eq_true_eq] at hp
  obtain ⟨hout, hguard⟩ := hp
  obtain ⟨s, hs, hvalid⟩ := (Option.any_eq_true _ _).mp hguard
  obtain ⟨context, hr, hcontext⟩ := returned_of_guarded hcalls rfl hs
  refine ⟨c, context, s, hc, hr, hcontext, hvalid, fun tid input s' body hreturned hbody => ?_⟩
  -- The only completion that has succeeded is the second.
  obtain ⟨th, hth, hcall, hprog⟩ := hreturned
  have hcall' : c.calls[tid]? = some (.verifyCompletion input) := by
    rw [System.Config.calls, List.getElem?_map, hth, Option.map_some, hcall]
  rw [hcalls] at hcall'
  rcases tid with _ | _ | _ | _ | tid
  · simp [issue] at hcall'
  · obtain ⟨th', hth', -, hprog'⟩ := returned_of_run hcalls rfl hout
    obtain rfl := Option.some.inj (hth.symm.trans hth')
    cases hprog.symm.trans hprog'
  · obtain rfl : (request false).input none = input := by simpa [complete] using hcall'
    have hparsed : parseAuthCompleteRequest platform ((request false).input none).rawBody =
        some (Sample.body false) := (reads_request false).body
    exact (congrArg AuthCompleteRequest.stepUp (Option.some.inj (hparsed.symm.trans hbody))).symm
  · simp [Sample.guard] at hcall'
  · simp at hcall'

end NapAuth

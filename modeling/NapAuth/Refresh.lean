import NapAuth.Guard

/-!
# Refreshing a session

A refresh looks the session up by its refresh token, asks the ACL resolver, and then lets the session
store exchange the token if it is still the current one. The first section says which steps a
successful refresh has taken. From the store's compare-and-swap it follows that a token is exchanged
at most once, and that presenting it again revokes the session (`refresh_single_use`). Only the
Postgres store checks there that the session has not been revoked since the lookup
(`refresh_unrevoked_iff`).
-/

namespace NapAuth

open Interleaving

variable {P : Platform} {O : NapServerOptions} {cb sb : Backend} {h pre : History cb sb}
  {e : Step (machine cb sb)} {tid : ℕ} {input : RefreshSessionInput} {id : String}
  {s : SessionRecord}

/-- The steps of a successful refresh: it has looked up the session of the presented token, which was
not revoked, and has rotated that session later. -/
theorem exists_rotate_of_ok {c : (server P O cb sb).Config} (hc : (server P O cb sb).Reachable c)
    (hr : Returned c tid (.refreshSession input) (.ok s)) :
    ∃ pre0 e0 pre e session now draft, Occurs pre pre0 e0 ∧ Occurs c.history pre e ∧
      e0.tid = tid ∧ e.tid = tid ∧
      (machine cb sb).event pre0 e0 =
        ⟨.getByRefreshToken draft.expectedRefreshToken, (some session, now)⟩ ∧
      session.revoked = false ∧
      (machine cb sb).event pre e = ⟨.rotateRefreshToken session.sessionId draft, some s⟩ ∧
      input.refreshToken = some draft.expectedRefreshToken ∧ draft.now = now := by
  have hexp := (explained hc hr).resolve_left (by simp)
  generalize hown : (machine cb sb).own tid c.history = xs at hexp
  cases hexp with
  | @rotated token verdict session now decision resolvedAt presented current unrevoked allowed =>
    have hsplit : (machine cb sb).own tid c.history =
        [⟨.checkRateLimit ⟨.refresh, none, none, input.clientIp⟩, verdict⟩,
          ⟨.getByRefreshToken token, (some session, now)⟩,
          ⟨.resolve session.principalNpub session.principalPubkey
            ⟨none, now, some (session.roles, session.permissions)⟩, (decision, resolvedAt)⟩] ++
        ⟨.rotateRefreshToken session.sessionId
          (rotateDraft O (O.refreshTtlSeconds.getD 0) token session now decision), some s⟩ ::
        [⟨.log ⟨.refreshSuccess, some s.principalPubkey, .success, sessionDetails s.sessionId⟩,
          ()⟩] := hown
    obtain ⟨pre, e, ho, htid, hev, hown'⟩ := exists_occurs_of_own hsplit
    have hsplit' : (machine cb sb).own tid pre =
        [⟨.checkRateLimit ⟨.refresh, none, none, input.clientIp⟩, verdict⟩] ++
        ⟨.getByRefreshToken token, (some session, now)⟩ ::
        [⟨.resolve session.principalNpub session.principalPubkey
          ⟨none, now, some (session.roles, session.permissions)⟩, (decision, resolvedAt)⟩] := hown'
    obtain ⟨pre0, e0, ho0, htid0, hev0, -⟩ := exists_occurs_of_own hsplit'
    exact ⟨pre0, e0, pre, e, session, now, _, ho0, ho, htid0, htid, hev0, unrevoked, hev, presented,
      rfl⟩

/-! ## Single use -/

/-- What a call is answered when it presents a refresh token that was exchanged before. -/
def ReuseAnswer (id token : String) (_ : List (Event Res)) : Event Res → Prop
  | ⟨.checkRateLimit _, verdict⟩ => verdict.1.allowed = true
  | ⟨.getByRefreshToken token', found⟩ => token' = token →
    ∃ r, found.1 = some r ∧ r.sessionId = id ∧ r.previousRefreshToken = some token
  | _ => True

/-- Such a call reports the reuse, once it has revoked the session. -/
theorem refreshSession_reuse {token : String} (configured : truthyInt O.refreshTtlSeconds = true)
    (presented : input.refreshToken = some token) (hne : token ≠ "") :
    (refreshSession O input).Yields (ReuseAnswer id token)
      (fun xs a => a = .failed (failure .refreshReused) ∧
        ∃ now, (⟨.revokeBySessionId id now, ()⟩ : Event Res) ∈ xs) [] := by
  have htruthy : truthyString (some token) = true := truthyString_iff.mpr ⟨token, rfl, hne⟩
  unfold refreshSession
  rw [presented, Option.getD_some]
  simp only [configured, Bool.true_eq_false, if_false]
  refine Prog.yields_op_bind.mpr fun (verdict, _) hgood => ?_
  have hallowed : verdict.allowed = true := hgood
  simp only [hallowed, htruthy, Bool.true_eq_false, if_false]
  refine Prog.yields_op_bind.mpr fun (found, now) hgood => ?_
  obtain ⟨r, hfound, rfl, hprev⟩ := hgood rfl
  obtain rfl : found = some r := hfound
  -- The session remembers the token.
  have hreuse : truthyString r.previousRefreshToken = true ∧
      constantTimeEquals (r.previousRefreshToken.getD "") token = true := by
    rw [hprev]
    exact ⟨truthyString_iff.mpr ⟨token, rfl, hne⟩, constantTimeEquals_iff.mpr rfl⟩
  simp only [refreshLoaded, if_pos hreuse]
  refine Prog.yields_op_bind.mpr fun _ _ => Prog.yields_op_bind.mpr fun _ _ => ⟨rfl, now, ?_⟩
  simp

/-- A refresh token is good for at most one refresh. Once it has been exchanged, a refresh that
presents it again, before the next rotation of the session and while the session is still held,
reports the reuse and leaves the session revoked, and no guard acts for the session after that. -/
theorem refresh_single_use {c : (server P O cb sb).Config} (hc : (server P O cb sb).Reachable c)
    (hpos : PositiveClock c.history) :
    (∀ tid tid' input input' s s' token, Returned c tid (.refreshSession input) (.ok s) →
      Returned c tid' (.refreshSession input') (.ok s') → input.refreshToken = some token →
      input'.refreshToken = some token → tid = tid') ∧
    (∀ pre e id draft s, Occurs c.history pre e →
      (machine cb sb).event pre e = ⟨.rotateRefreshToken id draft, some s⟩ →
      (∀ pre' e' draft' s', Occurs c.history pre' e' → pre ++ [e] <+: pre' →
        (machine cb sb).event pre' e' ≠ ⟨.rotateRefreshToken id draft', some s'⟩) →
      ∀ tid input outcome, Returned c tid (.refreshSession input) outcome → outcome ≠ .aborted →
      input.refreshToken = some draft.expectedRefreshToken → StartedAfter (pre ++ [e]) c tid →
      (∀ key verdict, ⟨.checkRateLimit key, verdict⟩ ∈ (machine cb sb).own tid c.history →
        verdict.1.allowed = true) →
      rowsAt c.history id ≠ none →
      outcome = .failed (failure .refreshReused) ∧
      (∃ r, rowsAt c.history id = some r ∧ r.revoked = true) ∧
      ∀ c' tid' req hasResolver context s', (server P O cb sb).Reaches c c' →
        PositiveClock c'.history → StartedAfter c.history c' tid' →
        Returned c' tid' (.loadGuardContext req hasResolver) (.guarded context) →
        context.session? = some s' → s'.sessionId ≠ id) := by
  have hv := System.Valid.of_reachable hc
  refine ⟨fun tid tid' input input' s s' token hr hr' htoken htoken' => ?_,
    fun pre e id draft s ho hev hlast tid input outcome hr halive htoken hstart hallowed hheld => ?_⟩
  · obtain ⟨-, -, pre, e, session, -, draft, -, ho, -, rfl, -, -, hev, hpres, -⟩ :=
      exists_rotate_of_ok hc hr
    obtain ⟨-, -, pre', e', session', -, draft', -, ho', -, rfl, -, -, hev', hpres', -⟩ :=
      exists_rotate_of_ok hc hr'
    have hsame : draft.expectedRefreshToken = draft'.expectedRefreshToken :=
      Option.some.inj ((hpres.symm.trans htoken).trans (htoken'.symm.trans hpres'))
    obtain ⟨-, rfl⟩ := rotate_unique hv ho ho' hev hev' hsame
    rfl
  · have hj := justified hv ho
    rw [op_of_event hev] at hj
    obtain ⟨hconfigured, hne, -⟩ := hj
    obtain ⟨-, -, -, -, -, hrow⟩ := rotate_spec (hv.restrict ho) hev
    obtain ⟨r, hr0⟩ := Option.ne_none_iff_exists'.mp hheld
    -- Whenever the call looks, the session is held and remembers the token.
    have hgood : ∀ pre1 e1, Occurs c.history pre1 e1 → e1.tid = tid →
        ReuseAnswer id draft.expectedRefreshToken ((machine cb sb).own tid pre1)
          ((machine cb sb).event pre1 e1) := by
      intro pre1 e1 ho1 htid
      subst htid
      have hp := hstart.before hc ho ho1
      have hv1 := hv.restrict ho1.before
      have hmem : (machine cb sb).event pre1 e1 ∈ (machine cb sb).own e1.tid c.history :=
        mem_own.mpr ⟨pre1, e1, ho1, rfl, rfl⟩
      generalize hev1 : (machine cb sb).event pre1 e1 = ev at hmem
      obtain ⟨op, answer⟩ := ev
      cases op with
      | checkRateLimit key => exact hallowed key answer hmem
      | getByRefreshToken token =>
        rintro rfl
        obtain ⟨r1, hr1⟩ := rowsAt_between hv hp ho1.before hrow hr0
        have hprev := previous_persists hv1 hp hev
          (fun pre' e' draft' s' ho' hp' => hlast pre' e' draft' s' (ho'.mono ho1.before) hp') hr1
        have hid := rowsAt_id hv1 hr1
        have hfound := (getByRefreshToken_iff hv1).mpr
          ⟨op_of_event hev1, rfl, hid ▸ hr1, Or.inr hprev⟩
        refine ⟨r1, ?_, hid, hprev⟩
        injection hev1.symm.trans hfound with _ hanswer
        rw [hanswer]
      | _ => trivial
    obtain ⟨th, hth, hcall, hprog⟩ := hr
    have hyields := @refreshSession_reuse O input id _ hconfigured htoken hne
    obtain ⟨rfl, now, hmem⟩ :=
      (hc.yields hth (by rw [hcall]; exact hyields) hgood hprog).resolve_left halive
    -- The call has revoked the session.
    obtain ⟨pre2, e2, ho2, htid2, hev2⟩ := mem_own.mp hmem
    have hp2 := StartedAfter.before hc ho (htid2 ▸ hstart) ho2
    obtain ⟨r2, hr2⟩ := rowsAt_between hv hp2 ho2.before hrow hr0
    have hrevokes : Revokes pre2 e2 id := ⟨r2, now, hr2, Or.inl (op_of_event hev2)⟩
    obtain ⟨r3, hr3, hsome⟩ := hrevokes.revokedAt (hv.restrict ho2.before)
    have hsome0 := revokedAt_persists hv ho2 hr3 hsome hr0
    refine ⟨rfl, ⟨r, hr0, (revoked_iff hv hpos hr0).mpr hsome0⟩, ?_⟩
    intro c' tid' req hasResolver context s' hcc hpos' hstart' hguard hs'
    exact guard_not_revoked (hc.trans hcc) hpos' hcc.history_mono hr0 hsome0 hstart' hguard hs'

/-- Whether a step rotates a session. -/
def rotates (e : Step (machine cb sb)) : Bool :=
  match e.op with
  | .rotateRefreshToken _ _ => true
  | _ => false

namespace Sample

/-- Refresh tokens are good for an hour. -/
def refreshing : NapServerOptions := { options with refreshTtlSeconds := some 3600 }

/-- The system in which one client refreshes its session. -/
abbrev refresher : System Res Call Outcome := server platform refreshing .memory .memory

/-- The session id of the `n`-th session that is drawn. -/
def sessionId (n : ℕ) : String := base64Url (draws n).id

/-- A refresh with the `n`-th refresh token that is drawn. -/
def refresh (n : ℕ) : Call := .refreshSession ⟨some (base64Url (draws n).refresh), none⟩

/-- What is to be computed of a login, a refresh, and a second refresh with the same token that
starts with the step 17. -/
def reused (c : refresher.Config) : Bool :=
  (session? c 2).any (fun s => s.sessionId == sessionId 1) &&
  c.returned? 3 == some (.failed (failure .refreshReused)) &&
  c.history.all (fun e => decide (0 < e.env.now) && e.env.rateLimit.allowed) &&
  c.history.countP rotates == 1 && (c.history.drop 17).all (fun e => !rotates e) &&
  c.threads[3]?.any (fun th => decide (17 ≤ th.started)) &&
  (Backend.memory.view.rows c.state.sessions (sessionId 1)).isSome

end Sample

open Sample in
/-- A login, a refresh, and a second refresh with the same token. -/
theorem refresh_token_reused : ∃ (c : refresher.Config) (s : SessionRecord), refresher.Reachable c ∧
    Returned c 2 (refresh 1) (.ok s) ∧ Returned c 3 (refresh 1) (.failed (failure .refreshReused)) ∧
    ∃ r, rowsAt c.history s.sessionId = some r ∧ r.revoked = true := by
  have hcomputed : ∀ call ∈ [issue none, complete false none, refresh 1, refresh 1],
      Computed refreshing call := by
    simp only [List.forall_mem_cons]
    exact ⟨rfl, computed_complete rfl false none, rfl, rfl, by simp⟩
  obtain ⟨c, hc, hcalls, hp⟩ := exists_run
    (login 1000 1010 false ++ turn (refresh 1) 2 5 (env 1020 2) ++ turn (refresh 1) 3 4 (env 1030 3))
    [issue none, complete false none, refresh 1, refresh 1] reused rfl hcomputed (by decide +kernel)
  simp only [reused, Bool.and_eq_true, beq_iff_eq, List.all_eq_true, decide_eq_true_eq,
    Bool.not_eq_true'] at hp
  obtain ⟨⟨⟨⟨⟨⟨hfirst, hout⟩, hsteady⟩, hone⟩, hlate⟩, hstart⟩, hheld⟩ := hp
  obtain ⟨s, hs, hsid⟩ := (Option.any_eq_true _ _).mp hfirst
  have hr : Returned c 2 (refresh 1) (.ok s) := returned_of_session hcalls rfl hs
  have hr' : Returned c 3 (refresh 1) (.failed (failure .refreshReused)) :=
    returned_of_run hcalls rfl hout
  obtain ⟨-, -, pre, e, session, -, draft, -, ho, -, -, -, -, hev, hpres, -⟩ :=
    exists_rotate_of_ok hc hr
  have hv := System.Valid.of_reachable hc
  have hid : s.sessionId = session.sessionId :=
    rowsAt_id (hv.restrict ho) (rotate_spec (hv.restrict ho) hev).choose_spec.2.2.2.2
  have hrotates : ∀ {pre : History .memory .memory} {e : Step (machine .memory .memory)}
      {id : String} {draft : RotateDraft} {s : SessionRecord},
      (machine .memory .memory).event pre e = ⟨.rotateRefreshToken id draft, some s⟩ →
      rotates e = true := by
    intro pre e id draft s hev
    rw [rotates, op_of_event hev]
  -- There is only one rotation.
  have hlast : ∀ pre' e' draft' s', Occurs c.history pre' e' → pre ++ [e] <+: pre' →
      (machine .memory .memory).event pre' e' ≠ ⟨.rotateRefreshToken session.sessionId draft', some s'⟩ := by
    intro pre' e' draft' s' ho' hp' hev'
    have hbefore : 0 < pre'.countP rotates :=
      Nat.zero_lt_of_lt (Occurs.countP_lt hp' (hrotates hev))
    have hafter := ho'.countP_lt (hrotates hev')
    omega
  have hstarted : StartedAfter (pre ++ [e]) c 3 := by
    obtain ⟨th, hth, hle⟩ := (Option.any_eq_true _ _).mp hstart
    have hlt := ho.length_lt (hrotates hev) hlate
    have hle := of_decide_eq_true hle
    refine ⟨th, hth, ?_⟩
    simp only [List.length_append, List.length_singleton]
    omega
  have hallowed : ∀ key verdict,
      ⟨.checkRateLimit key, verdict⟩ ∈ (machine .memory .memory).own 3 c.history →
      verdict.1.allowed = true := by
    intro key verdict hmem
    obtain ⟨pre1, e1, ho1, -, hev1⟩ := mem_own.mp hmem
    rw [← (Machine.event_eq_iff _ |>.mp hev1).2]
    exact (hsteady e1 (ho1.mem (by simp))).2
  have hheld' : rowsAt c.history session.sessionId ≠ none := by
    rw [← hid, eq_of_beq hsid, rowsAt, ← hc.coherent.state_eq]
    exact Option.isSome_iff_ne_none.mp hheld
  obtain ⟨-, hrevoked, -⟩ := (refresh_single_use hc fun e he => (hsteady e he).1).2 pre e
    session.sessionId draft s ho hev hlast 3 _ _ hr' (by simp) hpres hstarted hallowed hheld'
  exact ⟨c, s, hc, hr, hr', hid ▸ hrevoked⟩

/-! ## Revoked sessions -/

/-- A successful refresh has looked up a session and rotated it later. The session had not been
revoked before the rotation exactly when the session store is the Postgres one, or no revocation of
the session came between the lookup and the rotation. -/
theorem refresh_unrevoked_iff {c : (server P O cb sb).Config}
    (hc : (server P O cb sb).Reachable c) (hpos : PositiveClock c.history)
    (hr : Returned c tid (.refreshSession input) (.ok s)) :
    ∃ pre0 e0 pre e draft, Occurs pre pre0 e0 ∧ Occurs c.history pre e ∧ e0.tid = tid ∧
      e.tid = tid ∧ e0.op = .getByRefreshToken draft.expectedRefreshToken ∧
      (machine cb sb).event pre e = ⟨.rotateRefreshToken s.sessionId draft, some s⟩ ∧
      ((∀ pre1 e1, Occurs pre pre1 e1 → ¬ Revokes pre1 e1 s.sessionId) ↔
        sb = .postgres ∨ ∀ pre1 e1, Occurs pre pre1 e1 → pre0 ++ [e0] <+: pre1 →
          ¬ Revokes pre1 e1 s.sessionId) := by
  have hv := System.Valid.of_reachable hc
  obtain ⟨pre0, e0, pre, e, session, now, draft, ho0, ho, htid0, htid, hev0, hunrevoked, hev, -⟩ :=
    exists_rotate_of_ok hc hr
  have hvpre := hv.restrict ho.before
  obtain ⟨r, hrow, -, hvis, -, hrow'⟩ := rotate_spec (hv.restrict ho) hev
  rw [rowsAt_id (hv.restrict ho) hrow']
  refine ⟨pre0, e0, pre, e, draft, ho0, ho, htid0, htid, op_of_event hev0, hev,
    fun hnever => Or.inr fun pre1 e1 ho1 _ => hnever pre1 e1 ho1, ?_⟩
  rintro hcond pre1 e1 ho1 hrev
  obtain ⟨r1, hr1, hsome⟩ := hrev.revokedAt (hvpre.restrict ho1.before)
  rcases hcond with rfl | hgap
  · -- The Postgres store rotates no session that is revoked.
    have hstill := revokedAt_persists hvpre ho1 hr1 hsome hrow
    simp only [Backend.visible_postgres, Option.isNone_iff_eq_none] at hvis
    exact hstill hvis
  · rcases ho0.trichotomy ho1 with ⟨rfl, rfl⟩ | hlt | hlt
    · obtain ⟨r2, t, -, hop | hop⟩ := hrev
      · cases hop.symm.trans (op_of_event hev0)
      · cases hop.symm.trans (op_of_event hev0)
    · -- The lookup would have found the session revoked.
      have hv0 := hvpre.restrict ho0.before
      obtain ⟨-, -, hsession, -⟩ := (getByRefreshToken_iff hv0).mp hev0
      have hstill := revokedAt_persists hv0 hlt hr1 hsome hsession
      rw [(revoked_iff hv0 (hpos.restrict (ho0.before.trans ho.before)) hsession).mpr hstill]
        at hunrevoked
      cases hunrevoked
    · exact hgap pre1 e1 ho1 hlt hrev

namespace Sample

/-- Whether a step revokes a session by its id. -/
def revokes (e : Step (machine cb sb)) : Bool :=
  match e.op with
  | .revokeBySessionId _ _ => true
  | .revokeByPrincipal _ _ => true
  | _ => false

/-- What is to be computed of a login and a refresh, with nothing revoked. -/
def refreshed (c : refresher.Config) : Bool :=
  (session? c 2).isSome && c.history.all (fun e => decide (0 < e.env.now) && !revokes e)

/-- What is to be computed of a login and a refresh, where the session is revoked by the step 16 and
rotated later. -/
def revokedRefresh (c : refresher.Config) : Bool :=
  (session? c 2).any (fun s => s.sessionId == sessionId 1) && c.returned? 3 == some .done &&
  c.history.all (fun e => decide (0 < e.env.now)) &&
  c.history[16]?.any (fun e => e.op == .revokeBySessionId (sessionId 1) 1025) &&
  (rowsAt (c.history.take 16) (sessionId 1)).isSome && (c.history.take 17).all (fun e => !rotates e)

end Sample

open Sample in
/-- A login and a refresh of its session, which nobody revokes. -/
theorem refresh_unrevoked_alone : ∃ (c : refresher.Config) (s : SessionRecord)
    (pre : History .memory .memory) (e : Step (machine .memory .memory)) (draft : RotateDraft),
    refresher.Reachable c ∧ Returned c 2 (refresh 1) (.ok s) ∧ Occurs c.history pre e ∧
    (machine .memory .memory).event pre e = ⟨.rotateRefreshToken s.sessionId draft, some s⟩ ∧
    ∀ pre1 e1, Occurs pre pre1 e1 → ¬ Revokes pre1 e1 s.sessionId := by
  have hcomputed : ∀ call ∈ [issue none, complete false none, refresh 1],
      Computed refreshing call := by
    simp only [List.forall_mem_cons]
    exact ⟨rfl, computed_complete rfl false none, rfl, by simp⟩
  obtain ⟨c, hc, hcalls, hp⟩ := exists_run
    (login 1000 1010 false ++ turn (refresh 1) 2 5 (env 1020 2))
    [issue none, complete false none, refresh 1] refreshed rfl hcomputed (by decide +kernel)
  simp only [refreshed, Bool.and_eq_true, List.all_eq_true, decide_eq_true_eq,
    Bool.not_eq_true'] at hp
  obtain ⟨hsome, hall⟩ := hp
  obtain ⟨s, hs⟩ := Option.isSome_iff_exists.mp hsome
  have hr : Returned c 2 (refresh 1) (.ok s) := returned_of_session hcalls rfl hs
  obtain ⟨pre0, e0, pre, e, draft, ho0, ho, -, -, -, hev, hiff⟩ :=
    refresh_unrevoked_iff hc (fun e he => (hall e he).1) hr
  refine ⟨c, s, pre, e, draft, hc, hr, ho, hev, hiff.mpr (Or.inr fun pre1 e1 ho1 _ hrev => ?_)⟩
  obtain ⟨r, now, -, hop | hop⟩ := hrev
  · have hnot := (hall e1 ((ho1.mono ho.before).mem (by simp))).2
    rw [revokes, hop] at hnot
    cases hnot
  · have hnot := (hall e1 ((ho1.mono ho.before).mem (by simp))).2
    rw [revokes, hop] at hnot
    cases hnot

open Sample in
/-- A refresh of a session that is revoked between the lookup and the rotation. The in-memory store
rotates it, and the client is handed out its tokens. -/
theorem refresh_revoked : ∃ (c : refresher.Config) (s : SessionRecord) (pre pre1 : History .memory .memory)
    (e e1 : Step (machine .memory .memory)) (draft : RotateDraft), refresher.Reachable c ∧
    PositiveClock c.history ∧ Returned c 2 (refresh 1) (.ok s) ∧
    Returned c 3 (.revokeSession s.sessionId) .done ∧ Occurs c.history pre e ∧
    (machine .memory .memory).event pre e = ⟨.rotateRefreshToken s.sessionId draft, some s⟩ ∧
    Occurs pre pre1 e1 ∧ Revokes pre1 e1 s.sessionId := by
  have hcomputed : ∀ call ∈ [issue none, complete false none, refresh 1, .revokeSession (sessionId 1)],
      Computed refreshing call := by
    simp only [List.forall_mem_cons]
    exact ⟨rfl, computed_complete rfl false none, rfl, rfl, by simp⟩
  obtain ⟨c, hc, hcalls, hp⟩ := exists_run
    (login 1000 1010 false ++ turn (refresh 1) 2 3 (env 1020 2) ++
      turn (.revokeSession (sessionId 1)) 3 2 (env 1025 2) ++ [.run 2 (env 1030 2), .run 2 (env 1030 2)])
    [issue none, complete false none, refresh 1, .revokeSession (sessionId 1)] revokedRefresh rfl
    hcomputed (by decide +kernel)
  simp only [revokedRefresh, Bool.and_eq_true, beq_iff_eq, List.all_eq_true, decide_eq_true_eq,
    Bool.not_eq_true'] at hp
  obtain ⟨⟨⟨⟨⟨hfirst, hdone⟩, hpos⟩, hrevoke⟩, hrow⟩, hearly⟩ := hp
  obtain ⟨s, hs, hsid⟩ := (Option.any_eq_true _ _).mp hfirst
  obtain ⟨e1, he1, hop1⟩ := (Option.any_eq_true _ _).mp hrevoke
  obtain ⟨r, hr1⟩ := Option.isSome_iff_exists.mp hrow
  have hsid := eq_of_beq hsid
  have hr : Returned c 2 (refresh 1) (.ok s) := returned_of_session hcalls rfl hs
  have hr' : Returned c 3 (.revokeSession s.sessionId) .done :=
    hsid ▸ returned_of_run hcalls rfl hdone
  have hv := System.Valid.of_reachable hc
  obtain ⟨-, -, pre, e, session, -, draft, -, ho, -, -, -, -, hev, -⟩ := exists_rotate_of_ok hc hr
  obtain ⟨-, -, -, -, -, hafter⟩ := rotate_spec (hv.restrict ho) hev
  have hid : s.sessionId = session.sessionId := rowsAt_id (hv.restrict ho) hafter
  have hlen := ho.le_length (show rotates e = true by rw [rotates, op_of_event hev]) hearly
  have ho1 := occurs_take he1
  refine ⟨c, s, pre, _, e, e1, draft, hc, hpos, hr, hr', ho, hid ▸ hev, ?_, r, 1025, hsid ▸ hr1,
    Or.inl (hsid ▸ eq_of_beq hop1)⟩
  refine List.prefix_of_prefix_length_le ho1 ho.before ?_
  have htake := List.length_take_le 16 c.history
  simp only [List.length_append, List.length_singleton]
  omega

end NapAuth

import NapAuth.Honest
import NapAuth.Revocation

/-!
# An honest refresh succeeds

`NapAuth.Refresh` says what a successful refresh means, and how often a token is good for one. This
module says when a refresh succeeds: a client that is the only one to present the current refresh
token of its session, before the token's end and the session's ceiling, while nobody revokes the
session, is given new tokens, if the rate limiter and the ACL allow it (`honest_refresh`). The new
refresh token is current from then on, so the next refresh succeeds by the same theorem.

The second result is on clients that present a token once and never again: such a refresh never ends
a session for the reuse of its token, whatever the network and the other clients do (`no_reuse`).
-/

namespace NapAuth

open Interleaving

variable {P : Platform} {O : NapServerOptions} {cb sb : Backend} {h pre : History cb sb}
  {e : Step (machine cb sb)} {id token : String} {r s : SessionRecord} {tid : ℕ}
  {input : RefreshSessionInput}

/-! ## Who exchanges a token -/

/-- The operation exchanges the refresh token. -/
def Exchanges (token : String) : Op → Prop
  | .rotateRefreshToken _ draft => draft.expectedRefreshToken = token
  | _ => False

/-- A refresh exchanges the token that it was given. -/
theorem refreshSession_exchanges : (refreshSession O input).Sat
    (fun _ op => ∀ token, Exchanges token op → input.refreshToken = some token)
    (fun _ _ => True) [] := by
  have hfail : ∀ code details (xs : List (Event Res)), (fail code details).Sat
      (fun _ op => ∀ token, Exchanges token op → input.refreshToken = some token)
      (fun _ _ => True) xs := fun _ _ _ => Prog.sat_op_bind.mpr ⟨by simp [Exchanges], by simp⟩
  unfold refreshSession
  dsimp only
  split
  · exact hfail _ _ _
  refine Prog.sat_op_bind.mpr ⟨by simp [Exchanges], ?_⟩
  rintro ⟨verdict, -⟩
  dsimp only
  split
  · exact Prog.sat_op_bind.mpr ⟨by simp [Exchanges], by simp⟩
  split
  · exact hfail _ _ _
  rename_i hpresented
  obtain ⟨token, htoken, -⟩ := truthyString_iff.mp (by simpa using hpresented)
  rw [htoken, Option.getD_some]
  refine Prog.sat_op_bind.mpr ⟨by simp [Exchanges], ?_⟩
  rintro ⟨found, now⟩
  cases found with
  | none => exact htoken ▸ hfail _ _ _
  | some session =>
  dsimp only [refreshLoaded]
  rw [htoken] at hfail
  split
  · refine Prog.sat_op_bind.mpr ⟨by simp [Exchanges], fun _ => ?_⟩
    exact Prog.sat_op_bind.mpr ⟨by simp [Exchanges], by simp⟩
  split_ifs
  · exact hfail _ _ _
  · exact hfail _ _ _
  · exact hfail _ _ _
  · exact hfail _ _ _
  refine Prog.sat_op_bind.mpr ⟨by simp [Exchanges], ?_⟩
  rintro ⟨decision, -⟩
  dsimp only
  split
  · split
    · exact Prog.sat_op_bind.mpr ⟨by simp [Exchanges], fun _ => hfail _ _ _⟩
    · exact hfail _ _ _
  refine Prog.sat_op_bind.mpr ⟨fun t ht => congrArg some ht, fun rotated => ?_⟩
  cases rotated with
  | none => exact hfail _ _ _
  | some rotated => exact Prog.sat_op_bind.mpr ⟨by simp [Exchanges], by simp⟩

/-- Whoever exchanges a refresh token has presented it. -/
theorem presenter_of_exchanges {c : (server P O cb sb).Config} (hc : (server P O cb sb).Reachable c)
    (ho : Occurs c.history pre e) (hex : Exchanges token e.op) :
    ∃ th input, c.threads[e.tid]? = some th ∧ th.call = .refreshSession input ∧
      input.refreshToken = some token := by
  cases hop : e.op with
  | rotateRefreshToken id draft =>
    obtain ⟨th, input, hth, hcall, -⟩ := rotate_warrant hc ho hop
    obtain ⟨-, th', hth', -, k, hfol⟩ := hc.coherent.occurs pre e ho
    obtain rfl := Option.some.inj (hth.symm.trans hth')
    rw [hcall] at hfol
    exact ⟨th, input, hth, hcall, (refreshSession_exchanges.follows hfol).1 token hex⟩
  | _ =>
    rw [hop] at hex
    exact hex.elim

/-! ## The session stays as it is -/

/-- The time is before the end of the session's refresh token, and before the session's ceiling. -/
structure Renewable (O : NapServerOptions) (s : SessionRecord) (now : ℤ) : Prop where
  refresh : ∃ t, s.refreshExpiresAt = some t ∧ now < t
  ceiling : ∀ ceiling, lifetimeCeiling O s = some ceiling → now < ceiling

/-- A session is kept at least until the end of its refresh token. -/
theorem Renewable.kept {now : ℤ} (hren : Renewable O s now) : ¬ s.retainUntil < now := by
  obtain ⟨t, ht, hlt⟩ := hren.refresh
  rw [SessionRecord.retainUntil, ht, Option.getD_some]
  omega

/-- The run is over while the session can be renewed, by every clock. -/
def RenewableOver (O : NapServerOptions) (h : History cb sb) (s : SessionRecord) : Prop :=
  ∀ e ∈ h, Renewable O s e.env.now ∧ Renewable O s e.env.storeNow

/-- Nobody but the call `tid` presents the refresh token. -/
def SolePresenter (c : (server P O cb sb).Config) (tid : ℕ) (token : String) : Prop :=
  ∀ tid' th input, tid' ≠ tid → c.threads[tid']? = some th → th.call = .refreshSession input →
    input.refreshToken ≠ some token

/-- A step leaves a session alone that it neither revokes nor rotates, as long as it is kept. -/
theorem rowsAt_step (hv : (server P O cb sb).Valid (h ++ [e])) (hr : rowsAt h id = some r)
    (hcur : r.refreshToken = some token) (hren : Renewable O r e.env.storeNow)
    (hlive : ¬ Revokes h e id) (hnot : ¬ Exchanges token e.op) :
    rowsAt (h ++ [e]) id = some r := by
  rcases session_step hv id with heq | ⟨op, hop, hch⟩
  · rw [heq, hr]
  · rw [hr] at hch
    generalize rowsAt (h ++ [e]) id = after at hch
    cases hch with
    | same => rfl
    | evictedByCreate dead =>
      obtain ⟨draft, -, rfl, -⟩ := sessionOp?_eq_some hop
      exact absurd dead hren.kept
    | evictedByLookup dead =>
      obtain ⟨rfl, -⟩ := sessionOp?_eq_some hop
      exact absurd dead hren.kept
    | revokedById time =>
      exact absurd ⟨r, _, hr, Or.inl (op_of_event (sessionOp?_eq_some hop))⟩ hlive
    | revokedByPrincipal principal time =>
      obtain ⟨n, hev⟩ := sessionOp?_eq_some hop
      exact absurd ⟨r, _, hr, Or.inr (principal ▸ op_of_event hev)⟩ hlive
    | rotated current seen =>
      obtain ⟨draft, hev, rfl⟩ := sessionOp?_eq_some hop
      rw [op_of_event hev] at hnot
      exact absurd (Option.some.inj (current.symm.trans hcur)) hnot

/-- Until the call exchanges the token, the session stays as it is. -/
theorem unrefreshed {c : (server P O cb sb).Config} (hc : (server P O cb sb).Reachable c)
    (hr : rowsAt h id = some r) (hcur : r.refreshToken = some token)
    (hsole : SolePresenter c tid token) (hren : RenewableOver O c.history r)
    (hlive : ∀ pre e, Occurs c.history pre e → h <+: pre → ¬ Revokes pre e id) (hpre : h <+: pre)
    (hpre' : pre <+: c.history)
    (hown : ∀ ev ∈ (machine cb sb).own tid pre, ¬ Exchanges token ev.1) :
    rowsAt pre id = some r := by
  have hv := System.Valid.of_reachable hc
  refine (hv.restrict hpre').persist (P := fun h1 => h1 <+: pre → rowsAt h1 id = some r) hpre
    (fun _ => hr) (fun h1 e hv1 hp1 ih hp2 => ?_) List.prefix_rfl
  have ho : Occurs pre h1 e := hp2
  refine rowsAt_step hv1 (ih ((List.prefix_append _ _).trans hp2)) hcur
    (hren e ((ho.mono hpre').mem (by simp))).2 (hlive h1 e (ho.mono hpre') hp1) fun hex => ?_
  obtain ⟨th, input, hth, hcall, hpres⟩ := presenter_of_exchanges hc (ho.mono hpre') hex
  by_cases htid : e.tid = tid
  · exact hown _ (mem_own.mpr ⟨h1, e, ho, htid, rfl⟩) hex
  · exact hsole e.tid th input htid hth hcall hpres

/-- A session does not remember its current token as one that it has exchanged. -/
theorem previous_ne_current (hv : (server P O cb sb).Valid h) (hr : rowsAt h id = some r)
    (hcur : r.refreshToken = some token) : r.previousRefreshToken ≠ some token := by
  intro hprev
  obtain ⟨pre0, e0, draft, s, ho, hev, rfl⟩ := exchanged_of_previous hv hr hprev
  obtain ⟨hd, hspent⟩ := spent_of_rotate (hv.restrict ho) hev
  exact spent_persists hv ho (drawn_mono (List.prefix_append _ _) hd) hspent id r hr hcur

/-! ## The honest refresh -/

/-- What an honest refresh is answered. As long as it has not exchanged the token itself, it finds the
session as it was. -/
def RenewalAnswer (O : NapServerOptions) (session : SessionRecord) (token : String)
    (xs : List (Event Res)) : Event Res → Prop
  | ⟨.checkRateLimit _, verdict⟩ => verdict.1.allowed = true
  | ⟨.getByRefreshToken t, found⟩ => t = token → (∀ ev ∈ xs, ¬ Exchanges token ev.1) →
    found.1 = some session ∧ 0 < found.2 ∧ Renewable O session found.2
  | ⟨.resolve _ _ _, verdict⟩ => verdict.1.allowed = true
  | ⟨.rotateRefreshToken id draft, rotated⟩ => id = session.sessionId →
    draft.expectedRefreshToken = token → (∀ ev ∈ xs, ¬ Exchanges token ev.1) →
    ∃ draws, rotated = some (session.rotate (rotateParams draft draws))
  | _ => True

/-- What a refresh asks the ACL about a session. -/
def refreshContext (session : SessionRecord) (now : ℤ) : AclResolutionContext :=
  ⟨none, now, some (session.roles, session.permissions)⟩

/-- The refresh has rotated the session as the ACL says, and answers with it. -/
def RenewedAs (O : NapServerOptions) (session : SessionRecord) (token : String)
    (xs : List (Event Res)) (outcome : Outcome) : Prop :=
  ∃ (decision : AclDecision) (resolvedAt now : ℤ) (draft : RotateDraft) (draws : Draws),
    ⟨.resolve session.principalNpub session.principalPubkey (refreshContext session now),
      (decision, resolvedAt)⟩ ∈ xs ∧
    draft = rotateDraft O (O.refreshTtlSeconds.getD 0) token session now decision ∧
    ⟨.rotateRefreshToken session.sessionId draft, some (session.rotate (rotateParams draft draws))⟩ ∈
      xs ∧
    outcome = .ok (session.rotate (rotateParams draft draws))

/-- A refresh that is answered so succeeds. -/
theorem refreshSession_honest (configured : truthyInt O.refreshTtlSeconds = true)
    (presented : input.refreshToken = some token) (hne : token ≠ "")
    (current : r.refreshToken = some token) (unused : r.previousRefreshToken ≠ some token)
    (unrevoked : r.revokedAt = none) :
    (refreshSession O input).Yields (RenewalAnswer O r token) (RenewedAs O r token) [] := by
  have htruthy : truthyString (some token) = true := truthyString_iff.mpr ⟨token, rfl, hne⟩
  unfold refreshSession
  rw [presented, Option.getD_some]
  simp only [configured, Bool.true_eq_false, if_false]
  refine Prog.yields_op_bind.mpr ?_
  rintro ⟨verdict, _⟩ hgood
  have hallowed : verdict.allowed = true := hgood
  simp only [hallowed, htruthy, Bool.true_eq_false, if_false]
  refine Prog.yields_op_bind.mpr ?_
  rintro ⟨found, now⟩ hgood
  obtain ⟨hfound, hpos, hren⟩ := hgood rfl (by simp [Exchanges])
  obtain rfl : found = some r := hfound
  obtain ⟨t, ht, hlt⟩ := hren.refresh
  -- Every check on the session passes.
  have hreuse : ¬ (truthyString r.previousRefreshToken = true ∧
      constantTimeEquals (r.previousRefreshToken.getD "") token = true) := by
    rintro ⟨htrue, hsame⟩
    obtain ⟨previous, hprev, -⟩ := truthyString_iff.mp htrue
    rw [hprev, Option.getD_some, constantTimeEquals_iff] at hsame
    exact unused (hsame ▸ hprev)
  have hcurrent : constantTimeEquals token token = true := constantTimeEquals_iff.mpr rfl
  have hend : ¬ (truthyInt r.refreshExpiresAt = false ∨ r.refreshExpiresAt.getD 0 < now) := by
    have : truthyInt (some t) = true := truthyInt_iff.mpr ⟨t, rfl, by omega⟩
    rw [ht, this, Option.getD_some]
    simp only [Bool.true_eq_false, false_or]
    omega
  have hceiling : ¬ (lifetimeCeiling O r).any (fun x => decide (x ≤ now)) = true := by
    rw [Option.any_eq_true]
    rintro ⟨ceiling, hceil, hle⟩
    have := hren.ceiling ceiling hceil
    simp only [decide_eq_true_eq] at hle
    omega
  have hrevoked : r.revoked = false := by
    rw [SessionRecord.revoked, unrevoked]
    rfl
  simp only [refreshLoaded, if_neg hreuse, current, htruthy, Option.getD_some, hcurrent,
    Bool.true_eq_false, or_self, if_false, hrevoked, Bool.false_eq_true, if_neg hend,
    if_neg hceiling]
  refine Prog.yields_op_bind.mpr ?_
  rintro ⟨decision, resolvedAt⟩ hgood
  have hdecision : decision.allowed = true := hgood
  simp only [hdecision, Bool.true_eq_false, if_false]
  refine Prog.yields_op_bind.mpr fun rotated hgood => ?_
  obtain ⟨draws, rfl⟩ := hgood rfl rfl (by simp [Exchanges])
  refine Prog.yields_op_bind.mpr fun _ _ => ⟨decision, resolvedAt, now, _, draws, ?_, rfl, ?_, rfl⟩
  · simp [refreshContext]
  · simp

/-- A refresh that is the only one to present its token is answered as an honest one. -/
theorem renewal_answers {c : (server P O cb sb).Config} (hc : (server P O cb sb).Reachable c)
    (hpos : PositiveClock c.history) (hp : h <+: c.history)
    (hr : rowsAt h r.sessionId = some r) (hcur : r.refreshToken = some token)
    (hunrevoked : r.revokedAt = none) (hsole : SolePresenter c tid token)
    (hren : RenewableOver O c.history r)
    (hlive : ∀ pre e, Occurs c.history pre e → h <+: pre → ¬ Revokes pre e r.sessionId)
    (hstart : StartedAfter h c tid)
    (hallowed : ∀ key verdict, ⟨.checkRateLimit key, verdict⟩ ∈ (machine cb sb).own tid c.history →
      verdict.1.allowed = true)
    (hdecided : ∀ npub pubkey context verdict, ⟨.resolve npub pubkey context, verdict⟩ ∈
      (machine cb sb).own tid c.history → verdict.1.allowed = true)
    (ho : Occurs c.history pre e) (htid : e.tid = tid) :
    RenewalAnswer O r token ((machine cb sb).own tid pre) ((machine cb sb).event pre e) := by
  subst htid
  have hv := System.Valid.of_reachable hc
  have hhp := hstart.before hc hp ho
  have hmem : (machine cb sb).event pre e ∈ (machine cb sb).own e.tid c.history :=
    mem_own.mpr ⟨pre, e, ho, rfl, rfl⟩
  have hheld := unrefreshed hc hr hcur hsole hren hlive hhp ho.before
  generalize hev : (machine cb sb).event pre e = ev at hmem
  obtain ⟨op, answer⟩ := ev
  cases op with
  | checkRateLimit key => exact hallowed key answer hmem
  | resolve npub pubkey context => exact hdecided npub pubkey context answer hmem
  | getByRefreshToken t =>
    rintro rfl hown
    have hfound := (getByRefreshToken_iff (hv.restrict ho.before)).mpr
      ⟨op_of_event hev, rfl, hheld hown, Or.inl hcur⟩
    injection hev.symm.trans hfound with _ hanswer
    rw [hanswer]
    exact ⟨rfl, hpos e (ho.mem (by simp)), (hren e (ho.mem (by simp))).1⟩
  | rotateRefreshToken sid draft =>
    rintro rfl rfl hown
    obtain ⟨hop, hanswer⟩ := Machine.event_eq_iff _ |>.mp hev
    have hs := sound_of_valid (hv.restrict ho.before)
    refine ⟨e.env.draws, hanswer.symm.trans ?_⟩
    exact (sb.sessionStore_lawful.rotate_iff hs.sessions_wf).mpr
      ⟨r, hheld hown, hcur, sb.visible_of_unrevoked hunrevoked, rfl⟩
  | _ => trivial

/-- The session `s` is the session `r` with new tokens, by a decision of the ACL at the time `now`. -/
structure Renewed (O : NapServerOptions) (r s : SessionRecord) (decision : AclDecision) (now : ℤ) :
    Prop where
  /-- It is the same session. -/
  same : s.asCreated = r.asCreated
  /-- It remembers the token that was exchanged. -/
  previous : s.previousRefreshToken = r.refreshToken
  live : s.revokedAt = none
  roles : s.roles = decision.roles
  permissions : s.permissions = decision.permissions
  /-- It ends when the configuration, its ceiling and the decision say, and so does its token. -/
  expiresAt : s.expiresAt = clampTtlToDecision (O.sessionTtlSeconds.getD 900)
    (decisionBound (lifetimeCeiling O r) decision) now + now
  refreshExpiresAt : s.refreshExpiresAt = some (min (now + O.refreshTtlSeconds.getD 0)
    ((lifetimeCeiling O r).getD 9007199254740991))

/-- A rotated session is renewed as its draft says. -/
theorem renewed_rotate (hunrevoked : r.revokedAt = none) (decision : AclDecision) (now : ℤ)
    (draws : Draws) : Renewed O r
      (r.rotate (rotateParams (rotateDraft O (O.refreshTtlSeconds.getD 0) token r now decision)
        draws)) decision now := by
  unfold SessionRecord.rotate rotateParams rotateDraft
  exact ⟨rfl, rfl, hunrevoked, rfl, rfl, rfl, rfl⟩

/-- A refresh that is answered as an honest one expects comes to a renewed session, with a token that was
not drawn before. -/
theorem renewed_of_answers {c : (server P O cb sb).Config} (hc : (server P O cb sb).Reachable c)
    (hconfigured : truthyInt O.refreshTtlSeconds = true) (hp : h <+: c.history)
    (hheld : rowsAt h id = some r) (hcur : r.refreshToken = some token)
    (hunrevoked : r.revokedAt = none) {outcome : Outcome}
    (hr : Returned c tid (.refreshSession input) outcome) (halive : outcome ≠ .aborted)
    (hpresented : input.refreshToken = some token)
    (hgood : ∀ p e1, Occurs c.history p e1 → e1.tid = tid →
      RenewalAnswer O r token ((machine cb sb).own tid p) ((machine cb sb).event p e1)) :
    ∃ s decision resolvedAt now pre e, outcome = .ok s ∧ Renewed O r s decision now ∧
      ⟨.resolve r.principalNpub r.principalPubkey (refreshContext r now), (decision, resolvedAt)⟩ ∈
        (machine cb sb).own tid c.history ∧
      Occurs c.history pre e ∧ e.tid = tid ∧ rowsAt (pre ++ [e]) id = some s ∧
      ∃ token', s.refreshToken = some token' ∧ token' ∉ drawn pre := by
  have hv := System.Valid.of_reachable hc
  obtain rfl := rowsAt_id (hv.restrict hp) hheld
  have hne : token ≠ "" := ne_empty_of_drawn (hv.restrict hp)
    ((sound_of_valid (hv.restrict hp)).keys_drawn _ r hheld token
      (by simp [SessionRecord.HasRefreshToken, hcur]))
  have hunused := previous_ne_current (hv.restrict hp) hheld hcur
  have hyields := refreshSession_honest hconfigured hpresented hne hcur hunused hunrevoked
  obtain ⟨th, hth, hcall, hprog⟩ := hr
  obtain ⟨decision, resolvedAt, now, draft, draws, hresolved, rfl, hrotated, rfl⟩ :=
    (hc.yields hth (by rw [hcall]; exact hyields) hgood hprog).resolve_left halive
  obtain ⟨pre, e, ho, htid, hev⟩ := mem_own.mp hrotated
  obtain ⟨r1, -, -, -, hrot, hafter⟩ := rotate_spec (hv.restrict ho) hev
  -- The new token has been drawn by the rotation.
  have htoken : base64Url draws.refresh = base64Url e.env.draws.refresh := by
    have hboth := congrArg SessionRecord.refreshToken hrot
    simp only [SessionRecord.rotate, rotateParams] at hboth
    exact Option.some.inj hboth
  refine ⟨_, decision, resolvedAt, now, pre, e, rfl, renewed_rotate hunrevoked decision now draws,
    hresolved, ho, htid, hafter, base64Url draws.refresh, rfl, ?_⟩
  -- And what a step draws was not drawn before it.
  refine (not_drawn (hv.restrict ho) Occurs.last ?_).2
  rw [drawnBy_eq hev, htoken]
  simp [drawnBy, Draws.strings]

/-- An honest refresh succeeds. A client presents the current refresh token of its session, and nobody
else does. If the run is over before the end of the token and the ceiling of the session, nobody
revokes the session, and the rate limiter and the ACL allow the request, then the client is given new
tokens: the session is rotated as the ACL says, and its new refresh token has never been drawn
before. -/
theorem honest_refresh {c : (server P O cb sb).Config} (hc : (server P O cb sb).Reachable c)
    (hpos : PositiveClock c.history) (hconfigured : truthyInt O.refreshTtlSeconds = true)
    (hp : h <+: c.history) (hheld : rowsAt h id = some r) (hcur : r.refreshToken = some token)
    (hunrevoked : r.revokedAt = none) {outcome : Outcome}
    (hr : Returned c tid (.refreshSession input) outcome) (halive : outcome ≠ .aborted)
    (hpresented : input.refreshToken = some token) (hstart : StartedAfter h c tid)
    (hsole : SolePresenter c tid token) (hren : RenewableOver O c.history r)
    (hlive : ∀ pre e, Occurs c.history pre e → h <+: pre → ¬ Revokes pre e id)
    (hallowed : ∀ key verdict, ⟨.checkRateLimit key, verdict⟩ ∈ (machine cb sb).own tid c.history →
      verdict.1.allowed = true)
    (hdecided : ∀ npub pubkey context verdict, ⟨.resolve npub pubkey context, verdict⟩ ∈
      (machine cb sb).own tid c.history → verdict.1.allowed = true) :
    ∃ s decision resolvedAt now pre e, outcome = .ok s ∧ Renewed O r s decision now ∧
      ⟨.resolve r.principalNpub r.principalPubkey (refreshContext r now), (decision, resolvedAt)⟩ ∈
        (machine cb sb).own tid c.history ∧
      Occurs c.history pre e ∧ e.tid = tid ∧ rowsAt (pre ++ [e]) id = some s ∧
      ∃ token', s.refreshToken = some token' ∧ token' ∉ drawn pre := by
  refine renewed_of_answers hc hconfigured hp hheld hcur hunrevoked hr halive hpresented
    fun p e1 ho htid => ?_
  obtain rfl := rowsAt_id ((System.Valid.of_reachable hc).restrict hp) hheld
  exact renewal_answers hc hpos hp hheld hcur hunrevoked hsole hren hlive hstart hallowed hdecided ho htid

/-- What is to be computed of a refresh of the session that a login was answered with. -/
def Sample.renewed (c0 c : refresher.Config) : Bool :=
  (Backend.memory.view.rows c0.state.sessions (sessionId 1)).any (fun r =>
    r.refreshToken == some (base64Url (draws 1).refresh) && r.revokedAt == none &&
      r.refreshExpiresAt == some 4610) &&
  (session? c 2).isSome &&
  c.history.all (fun e => decide (0 < e.env.now ∧ e.env.now < 4610 ∧ e.env.storeNow < 4610) &&
    !revokes e && e.env.rateLimit.allowed && e.env.acl.allowed) &&
  (c.threads[2]?).any fun th => decide (c0.history.length ≤ th.started)

/-- The run of a client that refreshes the session that it was answered with, shortly before its
end. -/
theorem Sample.exists_renewed : ∃ (c0 c : refresher.Config) (r s : SessionRecord),
    refresher.Reachable c ∧ c.calls = [issue none, complete false none, refresh 1] ∧
    PositiveClock c.history ∧ c0.history <+: c.history ∧
    rowsAt c0.history (sessionId 1) = some r ∧
    r.refreshToken = some (base64Url (draws 1).refresh) ∧ r.revokedAt = none ∧
    Returned c 2 (refresh 1) (.ok s) ∧ StartedAfter c0.history c 2 ∧
    RenewableOver refreshing c.history r ∧
    (∀ pre e, Occurs c.history pre e → c0.history <+: pre → ¬ Revokes pre e (sessionId 1)) ∧
    (∀ key verdict, ⟨.checkRateLimit key, verdict⟩ ∈ (machine .memory .memory).own 2 c.history →
      verdict.1.allowed = true) ∧
    ∀ npub pubkey context verdict, ⟨.resolve npub pubkey context, verdict⟩ ∈
      (machine .memory .memory).own 2 c.history → verdict.1.allowed = true := by
  have hcomputed : ∀ call ∈ [issue none, complete false none] ++ [refresh 1],
      Computed refreshing call := by
    simp only [List.cons_append, List.nil_append, List.forall_mem_cons]
    exact ⟨rfl, computed_complete rfl false none, rfl, by simp⟩
  obtain ⟨c0, c, hc0, hcc, -, hcalls, hp⟩ := exists_run_append (login 1000 1010 false)
    (turn (refresh 1) 2 5 (env 1860 2)) [issue none, complete false none] [refresh 1] renewed rfl rfl
    hcomputed (by decide +kernel)
  simp only [renewed, Bool.and_eq_true, List.all_eq_true, decide_eq_true_eq, Bool.not_eq_true'] at hp
  obtain ⟨⟨⟨hrow, hsession⟩, hsteady⟩, hstarted⟩ := hp
  obtain ⟨r, hr0, hrow⟩ := (Option.any_eq_true _ _).mp hrow
  simp only [Bool.and_eq_true, beq_iff_eq] at hrow
  obtain ⟨⟨hcur, hunrevoked⟩, hend⟩ := hrow
  rw [hc0.coherent.state_eq] at hr0
  obtain ⟨s, hs⟩ := Option.isSome_iff_exists.mp hsession
  have hren : ∀ now, now < 4610 → Renewable refreshing r now := fun now hlt =>
    ⟨⟨4610, hend, hlt⟩, fun ceiling hceil => by cases hceil⟩
  have hallowed : ∀ {ev : Event Res}, ev ∈ (machine .memory .memory).own 2 c.history →
      ∃ pre e, (machine .memory .memory).event pre e = ev ∧ e.env.rateLimit.allowed = true ∧
        e.env.acl.allowed = true := by
    intro ev hev
    obtain ⟨pre, e, ho, -, hev⟩ := mem_own.mp hev
    have hall := hsteady e (ho.mem (by simp))
    exact ⟨pre, e, hev, hall.1.2, hall.2⟩
  refine ⟨c0, c, r, s, hc0.trans hcc, hcalls, fun e he => (hsteady e he).1.1.1.1, hcc.history_mono,
    hr0, hcur, hunrevoked, returned_of_session hcalls rfl hs, ?_,
    fun e he => ⟨hren _ (hsteady e he).1.1.1.2.1, hren _ (hsteady e he).1.1.1.2.2⟩, ?_, ?_, ?_⟩
  · obtain ⟨th, hth, hle⟩ := (Option.any_eq_true _ _).mp hstarted
    exact ⟨th, hth, of_decide_eq_true hle⟩
  · rintro pre e ho - ⟨r, now, -, hop⟩
    have hnot := (hsteady e (ho.mem (by simp))).1.1.2
    rcases hop with hop | hop
    · rw [revokes, hop] at hnot
      cases hnot
    · rw [revokes, hop] at hnot
      cases hnot
  · intro key verdict hmem
    obtain ⟨pre, e, hev, hlimit, -⟩ := hallowed hmem
    rw [← (Machine.event_eq_iff _ |>.mp hev).2]
    exact hlimit
  · intro npub key context verdict hmem
    obtain ⟨pre, e, hev, -, hacl⟩ := hallowed hmem
    rw [← (Machine.event_eq_iff _ |>.mp hev).2]
    exact hacl

open Sample in
/-- A client that refreshes the session that it was answered with. -/
theorem honest_refresh_client : ∃ (c : refresher.Config) (r s : SessionRecord)
    (decision : AclDecision) (now : ℤ), refresher.Reachable c ∧ Returned c 2 (refresh 1) (.ok s) ∧
    r.refreshToken = some (base64Url (draws 1).refresh) ∧ Renewed refreshing r s decision now := by
  obtain ⟨c0, c, r, s, hc, hcalls, hpos, hp, hr0, hcur, hunrevoked, hr, hstart, hren, hlive,
    hallowed, hdecided⟩ := exists_renewed
  have hsole : SolePresenter c 2 (base64Url (draws 1).refresh) := by
    intro tid' th input hne hth hcall
    have hmem : ([issue none, complete false none, refresh 1][tid']? : Option Call) =
        some (.refreshSession input) := by
      rw [← hcalls, System.Config.calls, List.getElem?_map, hth, Option.map_some, hcall]
    rcases tid' with _ | _ | _ | n
    · cases hmem
    · cases hmem
    · exact absurd rfl hne
    · cases hmem
  obtain ⟨s', decision, -, now, -, -, hout, hrenewed, -⟩ := honest_refresh hc hpos rfl hp hr0 hcur
    hunrevoked hr (by simp) rfl hstart hsole hren hlive hallowed hdecided
  obtain rfl := Outcome.ok.inj hout
  exact ⟨c, r, s, decision, now, hc, hr, hcur, hrenewed⟩

/-! ## A token presented once -/

/-- A refresh that reports a reuse has revoked a session for it. -/
theorem refreshSession_reports : (refreshSession O input).Sat (fun _ _ => True)
    (fun xs outcome => outcome = .failed (failure .refreshReused) →
      ∃ sid now, (⟨.revokeBySessionId sid now, ()⟩ : Event Res) ∈ xs) [] := by
  have hfail : ∀ code details (xs : List (Event Res)), code ≠ .refreshReused →
      (fail code details).Sat (fun _ _ => True) (fun xs outcome =>
        outcome = .failed (failure .refreshReused) →
        ∃ sid now, (⟨.revokeBySessionId sid now, ()⟩ : Event Res) ∈ xs) xs :=
    fun code _ _ hne => Prog.sat_op_bind.mpr ⟨trivial, fun _ heq =>
      absurd (congrArg VerifyCompleteFailure.code (Outcome.failed.inj heq)) hne⟩
  unfold refreshSession
  dsimp only
  split
  · exact hfail _ _ _ (by decide)
  refine Prog.sat_op_bind.mpr ⟨trivial, ?_⟩
  rintro ⟨verdict, -⟩
  dsimp only
  split
  · exact Prog.sat_op_bind.mpr ⟨trivial, fun _ heq => by cases heq⟩
  split
  · exact hfail _ _ _ (by decide)
  refine Prog.sat_op_bind.mpr ⟨trivial, ?_⟩
  rintro ⟨found, now⟩
  cases found with
  | none => exact hfail _ _ _ (by decide)
  | some session =>
  dsimp only [refreshLoaded]
  split
  · -- The one exit with this code: the session was revoked right before it.
    refine Prog.sat_op_bind.mpr ⟨trivial, fun _ => Prog.sat_op_bind.mpr ⟨trivial, fun _ _ => ?_⟩⟩
    exact ⟨session.sessionId, now, by simp⟩
  split_ifs
  · exact hfail _ _ _ (by decide)
  · exact hfail _ _ _ (by decide)
  · exact hfail _ _ _ (by decide)
  · exact hfail _ _ _ (by decide)
  refine Prog.sat_op_bind.mpr ⟨trivial, ?_⟩
  rintro ⟨decision, -⟩
  dsimp only
  split
  · split
    · exact Prog.sat_op_bind.mpr ⟨trivial, fun _ => hfail _ _ _ (by decide)⟩
    · exact hfail _ _ _ (by decide)
  refine Prog.sat_op_bind.mpr ⟨trivial, fun rotated => ?_⟩
  cases rotated with
  | none => exact hfail _ _ _ (by decide)
  | some rotated => exact Prog.sat_op_bind.mpr ⟨trivial, fun _ heq => by cases heq⟩

/-- A refresh that is the only one to present its token ends no session for its reuse. -/
theorem no_reuse {c : (server P O cb sb).Config} (hc : (server P O cb sb).Reachable c)
    (hsole : SolePresenter c tid token) {th : Thread Res Call Outcome}
    (hth : c.threads[tid]? = some th) (hcall : th.call = .refreshSession input)
    (hpresented : input.refreshToken = some token) (ho : Occurs c.history pre e)
    (htid : e.tid = tid) {sid : String} {now : ℤ} : e.op ≠ .revokeBySessionId sid now := by
  intro hop
  subst htid
  have hv := System.Valid.of_reachable hc
  obtain ⟨-, th', hth', -, k, hfol⟩ := hc.coherent.occurs pre e ho
  obtain rfl := Option.some.inj (hth.symm.trans hth')
  have hwarrant := ((body_ends th.call).follows hfol).1 (by rw [hop]; trivial)
  rw [hop, hcall] at hwarrant
  generalize hown : (machine cb sb).own e.tid pre = xs at hwarrant
  cases hwarrant with
  | @reused _ token' verdict session _ presented previous =>
    obtain rfl := Option.some.inj (hpresented.symm.trans presented)
    -- The token had been exchanged before, by a call that presented it: this one.
    have hmem : ⟨.getByRefreshToken token, (some session, now)⟩ ∈ (machine cb sb).own e.tid pre := by
      simp [hown]
    obtain ⟨pre0, e0, ho0, -, hev0⟩ := mem_own.mp hmem
    obtain ⟨-, -, hrow, -⟩ := (getByRefreshToken_iff (hv.restrict (ho0.before.trans ho.before))).mp hev0
    obtain ⟨pre1, e1, draft, s, ho1, hev1, hdraft⟩ :=
      exchanged_of_previous (hv.restrict (ho0.before.trans ho.before)) hrow previous
    replace ho1 := ho1.mono ho0.before
    have hex : Exchanges token e1.op := by
      rw [op_of_event hev1]
      exact hdraft
    obtain ⟨th1, input1, hth1, hcall1, hpres1⟩ := presenter_of_exchanges hc (ho1.mono ho.before) hex
    by_cases hsame : e1.tid = e.tid
    · have hmem1 : ⟨.rotateRefreshToken _ draft, some s⟩ ∈ (machine cb sb).own e.tid pre :=
        mem_own.mpr ⟨pre1, e1, ho1, hsame, hev1⟩
      simp [hown] at hmem1
    · exact hsole e1.tid th1 input1 hsame hth1 hcall1 hpres1

end NapAuth

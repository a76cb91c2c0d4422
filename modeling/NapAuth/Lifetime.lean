import NapAuth.Guard
import NapAuth.Refresh
import NapAuth.Server.Warrant

/-!
# The ceiling on a session's lifetime

`maxSessionLifetimeSeconds` is to bound a session's life from its login on. `refreshSession` applies
it, to the decision and to what it writes; `verifyCompletion` does not. So a session keeps to its
ceiling exactly when the other bounds on its login happen to do so (`session_ceiling`).

A step writes an end of a session in two places, and a lemma on each says when that end is below the
ceiling (`login_ends_iff`, `refresh_ends_iff`).
-/

namespace NapAuth

open Interleaving

variable {P : Platform} {O : NapServerOptions} {cb sb : Backend} {h pre : History cb sb}
  {e : Step (machine cb sb)} {id : String} {r : SessionRecord} {M : ℤ}

/-! ## The bounds -/

/-- The last second of a verdict, if it has a finite one. -/
def AclDecision.lastSecond (decision : AclDecision) : Option ℤ :=
  (decision.expiresAt.bind JsNumber.finite?).map fun t => ⌊t⌋

/-- A session that is made at a time ends within `M` seconds: its configured lifetime is no longer
or the verdict ends by then. A session lasts for a second at least, so a verdict must not cut it
short if `M` is not positive. -/
structure LoginEnds (O : NapServerOptions) (M : ℤ) (decision : AclDecision) (now : ℤ) : Prop where
  /-- The configured lifetime is short enough, or the verdict is. -/
  short : O.sessionTtlSeconds.getD 900 ≤ M ∨ ∃ t, decision.lastSecond = some t ∧ t ≤ now + M
  /-- The verdict does not cut the session short, or there is a second left. -/
  positive : 0 < M ∨ ∀ t, decision.lastSecond = some t → now + O.sessionTtlSeconds.getD 900 ≤ t

/-- A session that is refreshed before the ceiling ends there: the verdict's bound, if there is one,
can be compared with the ceiling, or the configured lifetime ends before it. -/
def RefreshEnds (O : NapServerOptions) (ceiling : ℤ) (decision : AclDecision) (now : ℤ) : Prop :=
  decision.expiresAt ≠ some .nan ∧ decision.expiresAt ≠ some .negInf ∨
    now + O.sessionTtlSeconds.getD 900 ≤ ceiling

/-- When `clampTtlToDecision` gives at most `M` seconds. -/
theorem clampTtlToDecision_le_iff {decision : AclDecision} {now : ℤ} :
    clampTtlToDecision (O.sessionTtlSeconds.getD 900) decision.expiresAt now ≤ M ↔
      LoginEnds O M decision now := by
  unfold clampTtlToDecision
  cases hfin : decision.expiresAt.bind JsNumber.finite? with
  | none =>
    have hlast : decision.lastSecond = none := by rw [AclDecision.lastSecond, hfin]; rfl
    refine ⟨fun hle => ⟨Or.inl hle, Or.inr fun t ht => ?_⟩, fun hends => ?_⟩
    · rw [hlast] at ht
      cases ht
    · rcases hends.short with hle | ⟨t, ht, -⟩
      · exact hle
      · rw [hlast] at ht
        cases ht
  | some q =>
    have hlast : decision.lastSecond = some ⌊q⌋ := by rw [AclDecision.lastSecond, hfin]; rfl
    dsimp only
    constructor
    · intro hle
      refine ⟨?_, ?_⟩
      · by_cases hshort : O.sessionTtlSeconds.getD 900 ≤ M
        · exact Or.inl hshort
        · refine Or.inr ⟨⌊q⌋, hlast, ?_⟩
          split_ifs at hle <;> omega
      · by_cases hpos : 0 < M
        · exact Or.inl hpos
        · refine Or.inr fun t ht => ?_
          obtain rfl := Option.some.inj (hlast.symm.trans ht)
          split_ifs at hle <;> omega
    · rintro ⟨hshort, hpositive⟩
      have hshort' : O.sessionTtlSeconds.getD 900 ≤ M ∨ ⌊q⌋ ≤ now + M := by
        rcases hshort with hle | ⟨t, ht, hle⟩
        · exact Or.inl hle
        · exact Or.inr (Option.some.inj (hlast.symm.trans ht) ▸ hle)
      have hpositive' : 0 < M ∨ now + O.sessionTtlSeconds.getD 900 ≤ ⌊q⌋ :=
        hpositive.imp_right fun hall => hall _ hlast
      split_ifs <;> omega

/-- `Math.min` of an integer and a number: a number that is at most the integer, unless the number is
`NaN` or `-Infinity`. -/
theorem JsNumber.min_ofInt (n : ℤ) (x : JsNumber) :
    (x ≠ .nan ∧ x ≠ .negInf ∧ ∃ q : ℚ, JsNumber.min (.ofInt n) x = .fin q ∧ q ≤ n) ∨
    ((x = .nan ∨ x = .negInf) ∧ (JsNumber.min (.ofInt n) x).finite? = none) := by
  cases x with
  | fin q =>
    refine Or.inl ⟨by simp, by simp, ?_⟩
    by_cases hlt : (n : ℚ) < q
    · exact ⟨n, by simp [JsNumber.min, JsNumber.ofInt, JsNumber.lt, hlt], le_rfl⟩
    · exact ⟨q, by simp [JsNumber.min, JsNumber.ofInt, JsNumber.lt, hlt], not_lt.mp hlt⟩
  | posInf => exact Or.inl ⟨by simp, by simp, n, rfl, le_rfl⟩
  | negInf => exact Or.inr ⟨Or.inr rfl, rfl⟩
  | nan => exact Or.inr ⟨Or.inl rfl, rfl⟩

/-- What is rotated before the ceiling ends there exactly when its bounds say so. -/
theorem rotateDraft_expiresAt_le_iff {token : String} {session : SessionRecord} {ttl now : ℤ}
    {decision : AclDecision} (hM : O.maxSessionLifetimeSeconds = some M)
    (hbelow : now < session.issuedAt + M) :
    (rotateDraft O ttl token session now decision).expiresAt ≤ session.issuedAt + M ↔
      RefreshEnds O (session.issuedAt + M) decision now := by
  have hceiling : lifetimeCeiling O session = some (session.issuedAt + M) := by
    rw [lifetimeCeiling, hM]; rfl
  have hdraft : (rotateDraft O ttl token session now decision).expiresAt =
      clampTtlToDecision (O.sessionTtlSeconds.getD 900) (some (JsNumber.min
        (.ofInt (session.issuedAt + M))
        (decision.expiresAt.getD (.ofInt (session.issuedAt + M))))) now + now := by
    rw [rotateDraft, hceiling]; rfl
  rw [hdraft, RefreshEnds, clampTtlToDecision, Option.bind_some]
  generalize session.issuedAt + M = ceiling at hbelow ⊢
  have hbound : ∀ x : JsNumber, decision.expiresAt = some x →
      decision.expiresAt.getD (.ofInt ceiling) = x := by
    intro x hx
    rw [hx, Option.getD_some]
  rcases JsNumber.min_ofInt ceiling (decision.expiresAt.getD (.ofInt ceiling)) with
    ⟨hnan, hneg, q, hq, hle⟩ | ⟨hinf, hnone⟩
  · -- The bound is a number, and at most the ceiling.
    have hfloor : ⌊q⌋ ≤ ceiling := by exact_mod_cast (Int.floor_le q).trans hle
    have hends : decision.expiresAt ≠ some .nan ∧ decision.expiresAt ≠ some .negInf :=
      ⟨fun hx => hnan (hbound _ hx), fun hx => hneg (hbound _ hx)⟩
    rw [hq]
    simp only [JsNumber.finite?, hends, ne_eq, not_false_eq_true, and_self, true_or, iff_true]
    split_ifs <;> omega
  · -- The bound is not a number, and is ignored.
    have hends : ¬ (decision.expiresAt ≠ some .nan ∧ decision.expiresAt ≠ some .negInf) := by
      rintro ⟨hnan, hneg⟩
      cases hx : decision.expiresAt with
      | none =>
        rw [hx, Option.getD_none] at hinf
        rcases hinf with hinf | hinf <;> cases hinf
      | some x =>
        rw [hbound x hx] at hinf
        rcases hinf with rfl | rfl
        · exact hnan hx
        · exact hneg hx
    rw [hnone]
    simp only [hends, false_or]
    omega

/-! ## What a step writes -/

/-- A call has been given a verdict, for a request that it has made at the time `now`. -/
def Decided (h : History cb sb) (tid : ℕ) (decision : AclDecision) (now : ℤ) : Prop :=
  ∃ npub pubkey voucher session resolvedAt,
    ⟨.resolve npub pubkey ⟨voucher, now, session⟩, (decision, resolvedAt)⟩ ∈
      (machine cb sb).own tid h

/-- A call that has been given one verdict was given that one. -/
theorem decided_iff {h : History cb sb} {tid : ℕ} {xs ys : List (Event Res)} {npub pubkey : String}
    {voucher : Option VoucherCredential} {session : Option (List String × List String)}
    {decision : AclDecision} {now resolvedAt : ℤ}
    (hown : (machine cb sb).own tid h =
      xs ++ ⟨.resolve npub pubkey ⟨voucher, now, session⟩, (decision, resolvedAt)⟩ :: ys)
    (hother : ∀ ev ∈ xs ++ ys, ∀ npub' pubkey' context, ev.1 ≠ .resolve npub' pubkey' context)
    (decision' : AclDecision) (now' : ℤ) :
    Decided h tid decision' now' ↔ decision' = decision ∧ now' = now := by
  constructor
  · rintro ⟨npub', pubkey', voucher', session', resolvedAt', hmem⟩
    rw [hown, List.mem_append, List.mem_cons] at hmem
    rcases hmem with hmem | heq | hmem
    · exact absurd rfl (hother _ (List.mem_append_left _ hmem) _ _ _)
    · simp only [Sigma.mk.injEq, Op.resolve.injEq, AclResolutionContext.mk.injEq] at heq
      obtain ⟨⟨rfl, rfl, rfl, rfl, rfl⟩, hanswer⟩ := heq
      exact ⟨congrArg Prod.fst (eq_of_heq hanswer), rfl⟩
    · exact absurd rfl (hother _ (List.mem_append_right _ hmem) _ _ _)
  · rintro ⟨rfl, rfl⟩
    refine ⟨npub, pubkey, voucher, session, resolvedAt, ?_⟩
    rw [hown]
    simp

/-- The session that a login makes ends within `M` seconds exactly when its verdict says so. -/
theorem login_ends_iff {c : (server P O cb sb).Config} (hc : (server P O cb sb).Reachable c)
    (ho : Occurs c.history pre e) {draft : SessionDraft} (hop : e.op = .createForChallenge draft) :
    (createSessionRecord draft e.env.draws).expiresAt ≤
        (createSessionRecord draft e.env.draws).issuedAt + M ↔
      ∀ decision now, Decided pre e.tid decision now → LoginEnds O M decision now := by
  obtain ⟨th, input, j, -, -, -, hown, rfl⟩ := create_warrant hc ho hop
  have hsplit : (machine cb sb).own e.tid pre = (j.opening input).dropLast ++
      ⟨.resolve j.challenge.npub j.challenge.pubkey ⟨j.body.voucher, j.now, none⟩,
        (j.decision, j.resolvedAt)⟩ :: [] := hown
  have hother : ∀ ev ∈ (j.opening input).dropLast ++ [], ∀ npub pubkey context,
      ev.1 ≠ .resolve npub pubkey context := by
    simp [Judgement.opening]
  simp only [decided_iff hsplit hother, and_imp, forall_eq_apply_imp_iff, forall_eq]
  rw [← clampTtlToDecision_le_iff]
  exact add_le_add_iff_left j.now

/-- The end that a refresh writes is within `M` seconds of the login exactly when its verdict says
so. -/
theorem refresh_ends_iff {c : (server P O cb sb).Config} (hc : (server P O cb sb).Reachable c)
    (hM : O.maxSessionLifetimeSeconds = some M) (ho : Occurs c.history pre e) {draft : RotateDraft}
    (hop : e.op = .rotateRefreshToken id draft) (hr : rowsAt pre id = some r) :
    draft.now < r.issuedAt + M ∧ (draft.expiresAt ≤ r.issuedAt + M ↔
      ∀ decision now, Decided pre e.tid decision now →
        RefreshEnds O (r.issuedAt + M) decision now) := by
  have hv := (System.Valid.of_reachable hc).restrict ho.before
  obtain ⟨th, input, -, -, hwarrant⟩ := rotate_warrant hc ho hop
  generalize hown : (machine cb sb).own e.tid pre = xs at hwarrant
  cases hwarrant with
  | @intro token verdict session now decision resolvedAt current unrevoked unexpired below allowed =>
    -- The session that the call has read was issued when this one was.
    have hread : ⟨.getByRefreshToken token, (some session, now)⟩ ∈
        (machine cb sb).own e.tid pre := by rw [hown]; simp
    obtain ⟨pre0, e0, ho0, -, hev0⟩ := mem_own.mp hread
    obtain ⟨-, -, hrow, -⟩ := (getByRefreshToken_iff (hv.restrict ho0.before)).mp hev0
    have hissued : r.issuedAt = session.issuedAt :=
      (congrArg SessionRecord.issuedAt (asCreated_eq hv ho0.before hrow hr) :)
    have hbelow : now < session.issuedAt + M := below _ (by rw [lifetimeCeiling, hM]; rfl)
    have hsplit : (machine cb sb).own e.tid pre =
        [⟨.checkRateLimit ⟨.refresh, none, none, input.clientIp⟩, verdict⟩,
          ⟨.getByRefreshToken token, (some session, now)⟩] ++
        ⟨.resolve session.principalNpub session.principalPubkey
          ⟨none, now, some (session.roles, session.permissions)⟩, (decision, resolvedAt)⟩ :: [] :=
      hown
    simp only [decided_iff hsplit (by simp), and_imp, forall_eq_apply_imp_iff, forall_eq]
    rw [hissued]
    exact ⟨hbelow, rotateDraft_expiresAt_le_iff hM hbelow⟩

/-! ## Runs -/

/-- Wherever a run makes or refreshes a session, the verdict keeps it to its ceiling. -/
structure EndsInTime (O : NapServerOptions) (M : ℤ) (h : History cb sb) : Prop where
  /-- A login that finds no session for its challenge makes one that ends in time. -/
  login : ∀ pre e draft decision now, Occurs h pre e → e.op = .createForChallenge draft →
    foundAt pre e draft.challenge.challengeId = none → Decided pre e.tid decision now →
    LoginEnds O M decision now
  /-- A refresh that rotates a session gives it an end in time. -/
  refresh : ∀ pre e id draft r decision now, Occurs h pre e → e.op = .rotateRefreshToken id draft →
    rowsAt pre id = some r → r.refreshToken = some draft.expectedRefreshToken →
    sb.view.visible r = true → Decided pre e.tid decision now →
    RefreshEnds O (r.issuedAt + M) decision now

/-- A rotation of a visible session that has the expected token succeeds. -/
theorem rotate_succeeds (hv : (server P O cb sb).Valid (h ++ [e])) {draft : RotateDraft}
    (hop : e.op = .rotateRefreshToken id draft) (hr : rowsAt h id = some r)
    (hcur : r.refreshToken = some draft.expectedRefreshToken) (hvis : sb.view.visible r = true) :
    rowsAt (h ++ [e]) id = some (r.rotate (rotateParams draft e.env.draws)) := by
  have hs := sound_of_valid (hv.restrict (List.prefix_append _ _))
  have hanswer : (sb.sessionStore.rotateRefreshToken id (rotateParams draft e.env.draws)
      ((machine cb sb).after h).sessions).1 = some (r.rotate (rotateParams draft e.env.draws)) :=
    (sb.sessionStore_lawful.rotate_iff hs.sessions_wf).mpr ⟨r, hr, hcur, hvis, rfl⟩
  have hev : (machine cb sb).event h e =
      ⟨.rotateRefreshToken id draft, some (r.rotate (rotateParams draft e.env.draws))⟩ :=
    Machine.event_eq_iff _ |>.mpr ⟨hop, hanswer⟩
  obtain ⟨-, -, -, -, -, hrow⟩ := rotate_spec hv hev
  exact hrow

/-- The sessions of a run keep to their ceilings if its steps end them in time. -/
theorem EndsInTime.expiresAt_le {c : (server P O cb sb).Config}
    (hc : (server P O cb sb).Reachable c) (hM : O.maxSessionLifetimeSeconds = some M)
    (hends : EndsInTime O M c.history) (hp : h <+: c.history) (hr : rowsAt h id = some r) :
    r.expiresAt ≤ r.issuedAt + M := by
  have hv := System.Valid.of_reachable hc
  refine (hv.restrict hp).rec_on (P := fun h => h <+: c.history →
    ∀ r, rowsAt h id = some r → r.expiresAt ≤ r.issuedAt + M) (fun _ r hr => ?_)
    (fun h e _ hv' ih ho r' hr' => ?_) hp r hr
  · exact absurd (sound_nil.keys_drawn id r hr r.sessionId (by simp)) (by simp)
  have hold := ih ((List.prefix_append _ _).trans ho)
  rcases rowsAt_cases hv' hr' with hsame | ⟨draft, hev, rfl, hnone⟩ | ⟨draft, r, hev, rfl, hr⟩ |
    ⟨-, r, t, rfl, hr⟩
  · exact hold r' hsame
  · -- The login has found no other session.
    have hfound : foundAt h e draft.challenge.challengeId = none := by
      rcases createForChallenge_cases hv' hev with ⟨r0, -, -, hrow, -, hans⟩ | ⟨hfound, -, -⟩
      · split_ifs at hans
        obtain rfl := Option.some.inj hans
        rw [rowsAt_id hv' hr', hnone] at hrow
        cases hrow
      · exact hfound
    have hiff := login_ends_iff (M := M) hc ho (op_of_event hev)
    exact hiff.mpr fun decision now hd =>
      hends.login h e draft decision now ho (op_of_event hev) hfound hd
  · obtain ⟨r0, hr0, hcur, hvis, -⟩ := rotate_spec hv' hev
    obtain rfl := Option.some.inj (hr.symm.trans hr0)
    have hiff := (refresh_ends_iff hc hM ho (op_of_event hev) hr).2
    rw [SessionRecord.rotate_issuedAt]
    exact hiff.mpr fun decision now hd =>
      hends.refresh h e id draft r decision now ho (op_of_event hev) hr hcur hvis hd
  · exact hold r hr

/-- The steps of a run end its sessions in time if these keep to their ceilings. -/
theorem endsInTime_of_expiresAt_le {c : (server P O cb sb).Config}
    (hc : (server P O cb sb).Reachable c) (hM : O.maxSessionLifetimeSeconds = some M)
    (hall : ∀ h id r, h <+: c.history → rowsAt h id = some r → r.expiresAt ≤ r.issuedAt + M) :
    EndsInTime O M c.history := by
  have hv := System.Valid.of_reachable hc
  constructor
  · intro pre e draft decision now ho hop hfound hd
    have hv1 := hv.restrict ho
    have hev : (machine cb sb).event pre e = ⟨.createForChallenge draft, _⟩ :=
      Machine.event_eq_iff _ |>.mpr ⟨hop, rfl⟩
    rcases createForChallenge_cases hv1 hev with ⟨r0, hsome, -⟩ | ⟨-, -, hrow⟩
    · rw [hfound] at hsome
      cases hsome
    · have hiff := login_ends_iff (M := M) hc ho hop
      exact hiff.mp (hall _ _ _ ho hrow) decision now hd
  · intro pre e id draft r decision now ho hop hr hcur hvis hd
    have hrow := rotate_succeeds (hv.restrict ho) hop hr hcur hvis
    have hiff := (refresh_ends_iff hc hM ho hop hr).2
    have hends := hall _ _ _ ho hrow
    rw [SessionRecord.rotate_issuedAt] at hends
    exact hiff.mp hends decision now hd

/-- With a configured lifetime that is no longer than the ceiling, and verdicts that have no bound or a
number, every session ends in time. -/
theorem endsInTime_of_ttl_le (httl : O.sessionTtlSeconds.getD 900 ≤ M) (hpos : 0 < M)
    (hall : ∀ e ∈ h, e.env.acl.expiresAt ≠ some .nan ∧ e.env.acl.expiresAt ≠ some .negInf) :
    EndsInTime O M h := by
  refine ⟨fun _ _ _ _ _ _ _ _ _ => ⟨Or.inl httl, Or.inl hpos⟩,
    fun pre e id draft r decision now ho _ _ _ _ hd => Or.inl ?_⟩
  obtain ⟨npub, pubkey, voucher, session, resolvedAt, hmem⟩ := hd
  obtain ⟨pre0, e0, ho0, -, hev0⟩ := mem_own.mp hmem
  have hdecision : e0.env.acl = decision :=
    congrArg Prod.fst (Machine.event_eq_iff _ |>.mp hev0).2
  exact hdecision ▸ hall e0 ((ho0.mono ho.before).mem (by simp))

/-- The sessions of a run keep to their ceilings exactly when its steps end them in time. Then no
guard admits a session from its ceiling on, and no refresh of it succeeds from then on. -/
theorem session_ceiling {c : (server P O cb sb).Config} (hc : (server P O cb sb).Reachable c)
    (hM : O.maxSessionLifetimeSeconds = some M) :
    (EndsInTime O M c.history ↔ ∀ h id r, h <+: c.history → rowsAt h id = some r →
      r.expiresAt ≤ r.issuedAt + M) ∧
    (EndsInTime O M c.history →
      (∀ tid req hasResolver context s,
        Returned c tid (.loadGuardContext req hasResolver) (.guarded context) →
        context.session? = some s → ∃ pre e token, Occurs c.history pre e ∧ e.tid = tid ∧
          e.op = .getByAccessToken token ∧ e.env.now < s.issuedAt + M) ∧
      ∀ tid input s, Returned c tid (.refreshSession input) (.ok s) →
        ∃ pre e token, Occurs c.history pre e ∧ e.tid = tid ∧ e.op = .getByRefreshToken token ∧
          e.env.now < s.issuedAt + M) := by
  have hv := System.Valid.of_reachable hc
  refine ⟨⟨fun hends h id r hp hr => hends.expiresAt_le hc hM hp hr,
    endsInTime_of_expiresAt_le hc hM⟩, fun hends => ⟨?_, ?_⟩⟩
  · intro tid req hasResolver context s hr hs
    obtain ⟨hnone, hlookup⟩ := guard_lookup hc hr
    cases htoken : presentedToken req with
    | none =>
      rw [hnone htoken] at hs
      cases hs
    | some token =>
      obtain ⟨pre, e, found, ho, htid, hev, hcontext⟩ := hlookup token htoken
      obtain ⟨hrow, -, -, hend⟩ := held_of_admitted (hv.restrict ho) hev (hcontext ▸ hs)
      have hle := hends.expiresAt_le hc hM ho.before hrow
      exact ⟨pre, e, token, ho, htid, op_of_event hev, hend.trans_le hle⟩
  · intro tid input s hr
    obtain ⟨pre0, e0, pre, e, session, now, draft, ho0, ho, htid0, -, hev0, -, hev, -, hnow⟩ :=
      exists_rotate_of_ok hc hr
    have hv1 := hv.restrict ho
    obtain ⟨r, hrow, -, -, rfl, -⟩ := rotate_spec hv1 hev
    -- The refresh has compared its time with the ceiling.
    have hbelow := (refresh_ends_iff hc hM ho (op_of_event hev) hrow).1
    obtain ⟨hop, hclock, -⟩ :=
      (getByRefreshToken_iff (hv.restrict (ho0.before.trans ho.before))).mp hev0
    refine ⟨pre0, e0, _, ho0.mono ho.before, htid0, hop, ?_⟩
    rw [← hclock, ← hnow, SessionRecord.rotate_issuedAt]
    exact hbelow

namespace Sample

/-- A ceiling of ten minutes, sessions of five minutes, and refresh tokens. -/
def capped : NapServerOptions :=
  { options with sessionTtlSeconds := some 300, refreshTtlSeconds := some 3600,
                 maxSessionLifetimeSeconds := some 600 }

/-- A ceiling of ten minutes, and nothing else configured. -/
def ceilingOnly : NapServerOptions := { options with maxSessionLifetimeSeconds := some 600 }

end Sample

open Sample in
/-- A login, a refresh, and a guard that admits the new token before the ceiling. -/
theorem session_ceiling_kept : ∃ (c : (server platform capped .memory .memory).Config)
    (context : GuardContext) (s : SessionRecord),
    (server platform capped .memory .memory).Reachable c ∧
    Returned c 3 (guard (accessToken 2)) (.guarded context) ∧ context.session? = some s ∧
    s.previousRefreshToken.isSome = true ∧
    ∃ pre e token, Occurs c.history pre e ∧ e.tid = 3 ∧ e.op = .getByAccessToken token ∧
      e.env.now < s.issuedAt + 600 := by
  have hcomputed : ∀ call ∈ [issue none, complete false none, refresh 1, guard (accessToken 2)],
      Computed capped call := by
    simp only [List.forall_mem_cons]
    exact ⟨rfl, computed_complete rfl false none, rfl, rfl, by simp⟩
  obtain ⟨c, hc, hcalls, hp⟩ := exists_run
    (login 1000 1010 false ++ turn (refresh 1) 2 5 (env 1300 2) ++
      turn (guard (accessToken 2)) 3 1 (env 1500 3))
    [issue none, complete false none, refresh 1, guard (accessToken 2)]
    (fun c : (server platform capped .memory .memory).Config =>
      (guarded? c 3).any (fun s => s.previousRefreshToken.isSome) &&
      decide (∀ e ∈ c.history, e.env.acl.expiresAt ≠ some .nan ∧
        e.env.acl.expiresAt ≠ some .negInf))
    rfl hcomputed (by decide +kernel)
  rw [Bool.and_eq_true, decide_eq_true_eq] at hp
  obtain ⟨s, hs, hrotated⟩ := (Option.any_eq_true _ _).mp hp.1
  obtain ⟨context, hr, hcontext⟩ := returned_of_guarded hcalls rfl hs
  obtain ⟨hguard, -⟩ := (session_ceiling hc (M := 600) rfl).2
    (endsInTime_of_ttl_le (by decide) (by decide) hp.2)
  exact ⟨c, context, s, hc, hr, hcontext, hrotated, hguard 3 _ _ context s hr hcontext⟩

open Sample in
/-- A login with a ceiling of ten minutes. Its session ends after fifteen, and a guard admits its
token beyond the ceiling. -/
theorem session_ceiling_passed : ∃ (c : (server platform ceilingOnly .memory .memory).Config)
    (context : GuardContext) (s : SessionRecord),
    (server platform ceilingOnly .memory .memory).Reachable c ∧
    Returned c 1 (complete false none) (.ok s) ∧ s.expiresAt = s.issuedAt + 900 ∧
    Returned c 2 (guard (accessToken 1)) (.guarded context) ∧ context.session? = some s ∧
    ∀ e ∈ c.history, e.tid = 2 → s.issuedAt + 600 < e.env.now := by
  have hcomputed : ∀ call ∈ [issue none, complete false none, guard (accessToken 1)],
      Computed ceilingOnly call := by
    simp only [List.forall_mem_cons]
    exact ⟨rfl, computed_complete rfl false none, rfl, by simp⟩
  obtain ⟨c, hc, hcalls, hp⟩ := exists_run
    (login 1000 1010 false ++ turn (guard (accessToken 1)) 2 1 (env 1700 2))
    [issue none, complete false none, guard (accessToken 1)]
    (fun c : (server platform ceilingOnly .memory .memory).Config => (session? c 1).any
      fun s : SessionRecord => decide (s.expiresAt = s.issuedAt + 900) && decide (guarded? c 2 = some s) &&
      decide (∀ e ∈ c.history, e.tid = 2 → s.issuedAt + 600 < e.env.now))
    rfl hcomputed (by decide +kernel)
  obtain ⟨s, hs, hboth⟩ := (Option.any_eq_true _ _).mp hp
  simp only [Bool.and_eq_true, decide_eq_true_eq] at hboth
  obtain ⟨⟨hend, hguarded⟩, hlate⟩ := hboth
  obtain ⟨context, hr, hcontext⟩ := returned_of_guarded hcalls rfl hguarded
  exact ⟨c, context, s, hc, returned_of_session hcalls rfl hs, hend, hr, hcontext, hlate⟩

end NapAuth

import NapAuth.Server.Challenges

/-!
# Sessions over a run

What happens to a session from its creation on. It is created by one step for one challenge and keeps
what it was created with (`asCreated_eq`, `exists_createForChallenge`), once dropped it does not come
back (`rowsAt_gone`), and once revoked it stays revoked (`revokedAt_persists`). A refresh token is
exchanged by at most one rotation (`rotate_unique`), and until the next one the session remembers it
(`previous_persists`). Everything follows from what one step may do to a session (`session_step`).
-/

namespace NapAuth

open Interleaving

/-- A session as far as it never changes. -/
def SessionRecord.asCreated (r : SessionRecord) : SessionRecord :=
  { r with accessToken := "", roles := [], permissions := [], expiresAt := 0, refreshToken := none,
           refreshExpiresAt := none, previousRefreshToken := none, revokedAt := none }

variable {P : Platform} {O : NapServerOptions} {cb sb : Backend} {h h' pre pre' : History cb sb}
  {e e' : Step (machine cb sb)} {id token : String} {r r' s : SessionRecord}

/-! ## Answers -/

/-- A session is held under its own id. -/
theorem rowsAt_id (hv : (server P O cb sb).Valid h) (hr : rowsAt h id = some r) :
    r.sessionId = id :=
  sb.sessionStore_lawful.rows_id (sound_of_valid hv).sessions_wf hr

/-- What is read under a session id is the session that is held, if it is visible. -/
theorem rowsAt_of_getBySessionId (hv : (server P O cb sb).Valid h)
    (hev : (machine cb sb).event h e = ⟨.getBySessionId id, some s⟩) :
    rowsAt h id = some s ∧ sb.view.visible s = true := by
  have hanswer : sb.sessionStore.getBySessionId id ((machine cb sb).after h).sessions = some s :=
    (Machine.event_eq_iff _ |>.mp hev).2
  rw [sb.sessionStore_lawful.getBySessionId (sound_of_valid hv).sessions_wf] at hanswer
  exact Option.filter_eq_some_iff.mp hanswer

/-- Under a session id, what is held is read if it is not revoked. -/
theorem getBySessionId_of_rowsAt (hv : (server P O cb sb).Valid h) {answer : Option SessionRecord}
    (hev : (machine cb sb).event h e = ⟨.getBySessionId id, answer⟩) (hr : rowsAt h id = some r)
    (hnone : r.revokedAt = none) : answer = some r := by
  have hanswer : sb.sessionStore.getBySessionId id ((machine cb sb).after h).sessions = answer :=
    (Machine.event_eq_iff _ |>.mp hev).2
  rw [sb.sessionStore_lawful.getBySessionId (sound_of_valid hv).sessions_wf] at hanswer
  rw [← hanswer]
  exact Option.filter_eq_some_iff.mpr ⟨hr, sb.visible_of_unrevoked hnone⟩

/-- What is read by a refresh token is the session that is known by it. -/
theorem getByRefreshToken_iff (hv : (server P O cb sb).Valid h) {now : ℤ} :
    (machine cb sb).event h e = ⟨.getByRefreshToken token, (some s, now)⟩ ↔
      e.op = .getByRefreshToken token ∧ now = e.env.now ∧ rowsAt h s.sessionId = some s ∧
        s.HasRefreshToken token := by
  rw [Machine.event_eq_iff]
  constructor
  · rintro ⟨hop, hanswer⟩
    exact ⟨hop, (congrArg Prod.snd hanswer).symm, (sb.sessionStore_lawful.getByRefreshToken_iff
      (sound_of_valid hv).sessions_wf).mp (congrArg Prod.fst hanswer)⟩
  · rintro ⟨hop, rfl, hrow⟩
    exact ⟨hop, Prod.ext ((sb.sessionStore_lawful.getByRefreshToken_iff
      (sound_of_valid hv).sessions_wf).mpr hrow) rfl⟩

/-- What is read by an access token is the visible session that has it. -/
theorem getByAccessToken_iff (hv : (server P O cb sb).Valid h) {now : ℤ} :
    (machine cb sb).event h e = ⟨.getByAccessToken token, (some s, now)⟩ ↔
      e.op = .getByAccessToken token ∧ now = e.env.now ∧
        rowsAt (h ++ [e]) s.sessionId = some s ∧ s.accessToken = token ∧
        sb.view.visible s = true := by
  rw [Machine.event_eq_iff, rowsAt, Machine.after_concat, Machine.next]
  constructor
  · rintro ⟨hop, hanswer⟩
    rw [hop]
    exact ⟨rfl, (congrArg Prod.snd hanswer).symm, (sb.sessionStore_lawful.getByAccessToken_iff
      (sound_of_valid hv).sessions_wf).mp (congrArg Prod.fst hanswer)⟩
  · rintro ⟨hop, rfl, hrow⟩
    rw [hop] at hrow
    exact ⟨hop, Prod.ext ((sb.sessionStore_lawful.getByAccessToken_iff
      (sound_of_valid hv).sessions_wf).mpr hrow) rfl⟩

/-- The session that a login finds for a challenge, when it creates its own. -/
def foundAt (h : History cb sb) (e : Step (machine cb sb)) (challengeId : String) :
    Option SessionRecord :=
  sb.view.found e.env.storeNow challengeId ((machine cb sb).after h).sessions

/-- What a login is answered: the session that it finds, or its own. -/
theorem createForChallenge_cases (hv : (server P O cb sb).Valid (h ++ [e])) {draft : SessionDraft}
    {answer : Option SessionRecord}
    (hev : (machine cb sb).event h e = ⟨.createForChallenge draft, answer⟩) :
    (∃ r, foundAt h e draft.challenge.challengeId = some r ∧
      r.challengeId = draft.challenge.challengeId ∧ rowsAt h r.sessionId = some r ∧
      rowsAt (h ++ [e]) r.sessionId = some r ∧
      answer = if sb.view.visible r then some r else none) ∨
    (foundAt h e draft.challenge.challengeId = none ∧
      answer = some (createSessionRecord draft e.env.draws) ∧
      rowsAt (h ++ [e]) (createSessionRecord draft e.env.draws).sessionId =
        some (createSessionRecord draft e.env.draws)) := by
  obtain ⟨hop, hanswer⟩ := Machine.event_eq_iff _ |>.mp hev
  have hs := sound_of_valid (hv.restrict (List.prefix_append _ _))
  have hnew := hs.isNew hop (hv.admissible Occurs.last)
  have hafter : ∀ id', rowsAt (h ++ [e]) id' = sb.view.rows (sb.sessionStore.createForChallenge
      e.env.storeNow (createSessionRecord draft e.env.draws)
      ((machine cb sb).after h).sessions).2 id' := by
    intro id'
    rw [rowsAt, Machine.after_concat, Machine.next, hop]
    rfl
  cases hfound : foundAt h e draft.challenge.challengeId with
  | some r =>
    obtain ⟨hcid, hrow, hrow', hans⟩ :=
      sb.sessionStore_lawful.create_found hs.sessions_wf hnew hfound
    exact Or.inl ⟨r, rfl, hcid, hrow, (hafter _).trans hrow', hanswer.symm.trans hans⟩
  | none =>
    obtain ⟨hans, hrow⟩ := sb.sessionStore_lawful.create_new hs.sessions_wf hnew hfound
    exact Or.inr ⟨rfl, hanswer.symm.trans hans, (hafter _).trans hrow⟩

/-- After a login no other session is held for its challenge. -/
theorem createForChallenge_only (hv : (server P O cb sb).Valid (h ++ [e])) {draft : SessionDraft}
    (hop : e.op = .createForChallenge draft) (hr : rowsAt (h ++ [e]) id = some r)
    (hcid : r.challengeId = draft.challenge.challengeId) :
    foundAt h e draft.challenge.challengeId = some r ∨
      r = createSessionRecord draft e.env.draws := by
  have hs := sound_of_valid (hv.restrict (List.prefix_append _ _))
  have hnew := hs.isNew hop (hv.admissible Occurs.last)
  rw [rowsAt, Machine.after_concat, Machine.next, hop] at hr
  exact sb.sessionStore_lawful.create_only hs.sessions_wf hnew hr hcid

/-- A login that is answered with a session holds it, for its challenge. -/
theorem rowsAt_of_createForChallenge (hv : (server P O cb sb).Valid (h ++ [e]))
    {draft : SessionDraft}
    (hev : (machine cb sb).event h e = ⟨.createForChallenge draft, some s⟩) :
    rowsAt (h ++ [e]) s.sessionId = some s ∧ s.challengeId = draft.challenge.challengeId := by
  rcases createForChallenge_cases hv hev with ⟨r, -, hcid, -, hrow, hans⟩ | ⟨-, hans, hrow⟩
  · split_ifs at hans
    obtain rfl := Option.some.inj hans
    exact ⟨hrow, hcid⟩
  · obtain rfl := Option.some.inj hans
    exact ⟨hrow, rfl⟩

/-- A rotation exchanges the tokens of a visible session that has the expected one. -/
theorem rotate_spec (hv : (server P O cb sb).Valid (h ++ [e])) {draft : RotateDraft}
    (hev : (machine cb sb).event h e = ⟨.rotateRefreshToken id draft, some s⟩) :
    ∃ r, rowsAt h id = some r ∧ r.refreshToken = some draft.expectedRefreshToken ∧
      sb.view.visible r = true ∧ s = r.rotate (rotateParams draft e.env.draws) ∧
      rowsAt (h ++ [e]) id = some s := by
  obtain ⟨hop, hanswer⟩ := Machine.event_eq_iff _ |>.mp hev
  have hs := sound_of_valid (hv.restrict (List.prefix_append _ _))
  obtain ⟨haccess, hrefresh⟩ := hs.fresh_rotate hop (hv.admissible Occurs.last)
  obtain ⟨r, hrow, hcur, hvis, hrot⟩ :=
    (sb.sessionStore_lawful.rotate_iff hs.sessions_wf).mp hanswer
  refine ⟨r, hrow, hcur, hvis, hrot, ?_⟩
  rw [rowsAt, Machine.after_concat, Machine.next, hop]
  exact sb.sessionStore_lawful.rotate_hit hs.sessions_wf haccess hrefresh hanswer

/-! ## Creation and eviction -/

/-- A session that has been dropped stays away. -/
theorem rowsAt_gone (hv : (server P O cb sb).Valid h') (hp : h <+: h') (hd : id ∈ drawn h)
    (hn : rowsAt h id = none) : rowsAt h' id = none := by
  refine hv.persist (P := fun h => rowsAt h id = none) hp hn fun h1 e hv1 hp1 hn1 => ?_
  rcases session_step hv1 id with heq | ⟨op, hop, hch⟩
  · rw [heq, hn1]
  · rw [hn1] at hch
    generalize hafter : rowsAt (h1 ++ [e]) id = after at hch
    cases hch with
    | same => rfl
    | created =>
      -- The id would have been drawn twice.
      obtain ⟨draft, hev, -, rfl⟩ := sessionOp?_eq_some hop
      have hdrawn : (createSessionRecord draft e.env.draws).sessionId ∈ drawnBy e := by
        rw [drawnBy_eq hev]; simp [drawnBy, Draws.strings, createSessionRecord]
      exact absurd (drawn_mono hp1 hd) (not_drawn hv1 Occurs.last hdrawn).2

/-- A session that is held has a drawn id. -/
theorem drawn_of_rowsAt (hv : (server P O cb sb).Valid h) (hr : rowsAt h id = some r) :
    id ∈ drawn h :=
  (sound_of_valid hv).keys_drawn id r hr id (by simp [rowsAt_id hv hr])

/-- A session that is held was held at every time since it was. -/
theorem rowsAt_between (hv : (server P O cb sb).Valid h') (hp : pre <+: h) (hp' : h <+: h')
    (hr : rowsAt pre id = some r) (hr' : rowsAt h' id = some r') : ∃ s, rowsAt h id = some s := by
  cases hs : rowsAt h id with
  | some s => exact ⟨s, rfl⟩
  | none =>
    have hd := drawn_mono hp (drawn_of_rowsAt (hv.restrict (hp.trans hp')) hr)
    rw [rowsAt_gone hv hp' hd hs] at hr'
    cases hr'

/-- A session that is held before and after a login for its challenge is the one that the login
finds. -/
theorem foundAt_of_rowsAt (hv : (server P O cb sb).Valid (h ++ [e])) {draft : SessionDraft}
    (hop : e.op = .createForChallenge draft) (hr : rowsAt h id = some r)
    (hr' : rowsAt (h ++ [e]) id = some r') (hcid : r'.challengeId = draft.challenge.challengeId) :
    foundAt h e draft.challenge.challengeId = some r' := by
  rcases createForChallenge_only hv hop hr' hcid with hfound | rfl
  · exact hfound
  · -- The id of a new session would have been drawn before.
    have hd := drawn_of_rowsAt (hv.restrict (List.prefix_append _ _)) hr
    rw [← rowsAt_id hv hr'] at hd
    refine absurd hd (not_drawn hv Occurs.last ?_).2
    rw [drawnBy, hop]
    simp [Draws.strings, createSessionRecord]

/-- A property of a session that no step breaks holds of it ever after. -/
theorem rowsAt_persist (hv : (server P O cb sb).Valid h') (hp : h <+: h') (hd : id ∈ drawn h)
    {Q : SessionRecord → Prop} (hQ : ∀ r, rowsAt h id = some r → Q r)
    (step : ∀ h1 e r r', (server P O cb sb).Valid (h1 ++ [e]) → h <+: h1 → h1 ++ [e] <+: h' →
      rowsAt h1 id = some r → rowsAt (h1 ++ [e]) id = some r' → Q r → Q r') :
    ∀ r, rowsAt h' id = some r → Q r := by
  refine hv.persist (P := fun h1 => h1 <+: h' → ∀ r, rowsAt h1 id = some r → Q r) hp
    (fun _ => hQ) (fun h1 e hv1 hp1 ih hp' r' hr' => ?_) List.prefix_rfl
  cases hr : rowsAt h1 id with
  | none =>
    rw [rowsAt_gone hv1 (List.prefix_append _ _) (drawn_mono hp1 hd) hr] at hr'
    cases hr'
  | some r =>
    exact step h1 e r r' hv1 hp1 hp' hr hr' (ih ((List.prefix_append _ _).trans hp') r hr)

/-- A step changes nothing about how a session was created. -/
theorem asCreated_step (hv : (server P O cb sb).Valid (h ++ [e])) (hr : rowsAt h id = some r)
    (hr' : rowsAt (h ++ [e]) id = some r') : r'.asCreated = r.asCreated := by
  rcases session_step hv id with heq | ⟨op, -, hch⟩
  · rw [hr', hr] at heq
    rw [Option.some.inj heq]
  · rw [hr, hr'] at hch
    cases hch <;> rfl

/-- A session keeps what it was created with. -/
theorem asCreated_eq (hv : (server P O cb sb).Valid h') (hp : h <+: h')
    (hr : rowsAt h id = some r) (hr' : rowsAt h' id = some r') : r'.asCreated = r.asCreated := by
  refine rowsAt_persist hv hp (drawn_of_rowsAt (hv.restrict hp) hr)
    (Q := fun r' => r'.asCreated = r.asCreated) (fun r0 hr0 => ?_)
    (fun h1 e r1 r2 hv1 _ _ hr1 hr2 ih => ?_) r' hr'
  · rw [hr] at hr0
    rw [Option.some.inj hr0]
  · exact (asCreated_step hv1 hr1 hr2).trans ih

/-- At any two times of a run, a session is the same in what it was created with. -/
theorem asCreated_agree (hv : (server P O cb sb).Valid h) (hp : pre <+: h) (hp' : pre' <+: h)
    (hr : rowsAt pre id = some r) (hr' : rowsAt pre' id = some r') :
    r.asCreated = r'.asCreated := by
  rcases List.prefix_or_prefix_of_prefix hp hp' with hle | hle
  · exact (asCreated_eq (hv.restrict hp') hle hr hr').symm
  · exact asCreated_eq (hv.restrict hp) hle hr' hr

/-- A session that is held was created by a login, and it is as it was created there. -/
theorem exists_createForChallenge (hv : (server P O cb sb).Valid h) (hr : rowsAt h id = some r) :
    ∃ (pre : History cb sb) (e : Step (machine cb sb)) (draft : SessionDraft), Occurs h pre e ∧
      (machine cb sb).event pre e =
        ⟨.createForChallenge draft, some (createSessionRecord draft e.env.draws)⟩ ∧
      r.asCreated = (createSessionRecord draft e.env.draws).asCreated := by
  refine hv.rec_on (P := fun h => ∀ r, rowsAt h id = some r →
    ∃ (pre : History cb sb) (e : Step (machine cb sb)) (draft : SessionDraft), Occurs h pre e ∧
      (machine cb sb).event pre e =
        ⟨.createForChallenge draft, some (createSessionRecord draft e.env.draws)⟩ ∧
      r.asCreated = (createSessionRecord draft e.env.draws).asCreated)
    (fun r hr => ?_) (fun h e hv hv' ih r' hr' => ?_) r hr
  · exact absurd (sound_nil.keys_drawn id r hr r.sessionId (by simp)) (by simp)
  · cases hr : rowsAt h id with
    | some r =>
      obtain ⟨pre, e0, draft, ho, hev, hcreated⟩ := ih r hr
      exact ⟨pre, e0, draft, ho.mono (List.prefix_append _ _), hev,
        (asCreated_step hv' hr hr').trans hcreated⟩
    | none =>
      rcases session_step hv' id with heq | ⟨op, hop, hch⟩
      · rw [hr', hr] at heq
        cases heq
      · rw [hr, hr'] at hch
        cases hch with
        | created =>
          obtain ⟨draft, hev, -, rfl⟩ := sessionOp?_eq_some hop
          exact ⟨h, e, draft, Occurs.last, hev, rfl⟩

/-- A session belongs to the principal of its challenge. -/
theorem principal_of_challenge (hv : (server P O cb sb).Valid h) (hp' : pre' <+: h)
    (hr : rowsAt pre' id = some r) {c : ChallengeRecord} (hp : pre <+: h)
    (hc : challengeAt pre r.challengeId = some c) :
    r.principalPubkey = c.pubkey ∧ r.principalNpub = c.npub := by
  obtain ⟨pre1, e1, draft, ho1, hev1, hcreated⟩ := exists_createForChallenge (hv.restrict hp') hr
  replace ho1 := ho1.mono hp'
  -- The login had read the challenge, and that one was issued as this one was.
  have hj := justified hv ho1
  rw [op_of_event hev1] at hj
  obtain ⟨id', hmem⟩ := hj
  obtain ⟨pre2, e2, ho2, -, hev2⟩ := mem_own.mp hmem
  have hread := challengeAt_of_get hev2
  have hp2 := ho2.before.trans ho1.before
  have hcid : r.challengeId = draft.challenge.challengeId :=
    (congrArg SessionRecord.challengeId hcreated :)
  rw [hcid, challengeAt_id (hv.restrict hp2) hread] at hc
  have hissue := asIssued_agree hv hp2 hp hread hc
  exact ⟨(congrArg SessionRecord.principalPubkey hcreated :).trans
      (congrArg ChallengeRecord.pubkey hissue :),
    (congrArg SessionRecord.principalNpub hcreated :).trans
      (congrArg ChallengeRecord.npub hissue :)⟩

/-! ## Revocation -/

/-- The step is a revocation of the session. -/
def Revokes (h : History cb sb) (e : Step (machine cb sb)) (id : String) : Prop :=
  ∃ r now, rowsAt h id = some r ∧
    (e.op = .revokeBySessionId id now ∨ e.op = .revokeByPrincipal r.principalPubkey now)

/-- A revocation leaves the session revoked. -/
theorem Revokes.revokedAt (hv : (server P O cb sb).Valid h) (hrev : Revokes h e id) :
    ∃ r, rowsAt (h ++ [e]) id = some r ∧ r.revokedAt ≠ none := by
  obtain ⟨r, now, hr, hop⟩ := hrev
  have hwf := (sound_of_valid hv).sessions_wf
  rcases hop with hop | hop
  · obtain ⟨t, hrow, -⟩ := @SessionStore.Lawful.revokeBySessionId_hit _ _
      sb.sessionStore_lawful _ _ now _ hwf hr
    refine ⟨r.stamp (some t), ?_, by simp⟩
    rw [rowsAt, Machine.after_concat, Machine.next, hop]
    exact hrow
  · obtain ⟨t, hrow, -⟩ := @SessionStore.Lawful.revokeByPrincipal_hit _ _
      sb.sessionStore_lawful _ _ now _ _ hwf hr rfl
    refine ⟨r.stamp (some t), ?_, by simp⟩
    rw [rowsAt, Machine.after_concat, Machine.next, hop]
    exact hrow

/-- Once a session is revoked it stays so. -/
theorem revokedAt_persists (hv : (server P O cb sb).Valid h') (hp : h <+: h')
    (hr : rowsAt h id = some r) (hsome : r.revokedAt ≠ none) (hr' : rowsAt h' id = some r') :
    r'.revokedAt ≠ none := by
  refine rowsAt_persist hv hp (drawn_of_rowsAt (hv.restrict hp) hr)
    (Q := fun r' => r'.revokedAt ≠ none) (fun r0 hr0 => ?_)
    (fun h1 e r1 r2 hv1 _ _ hr1 hr2 ih => ?_) r' hr'
  · rw [hr] at hr0
    exact Option.some.inj hr0 ▸ hsome
  · rcases session_step hv1 id with heq | ⟨op, -, hch⟩
    · rw [hr2, hr1] at heq
      exact Option.some.inj heq ▸ ih
    · rw [hr1, hr2] at hch
      cases hch with
      | same => exact ih
      | revokedById time => simp
      | revokedByPrincipal principal time => simp
      | rotated current seen => exact ih

/-- A session that is not revoked had not been revoked before. -/
theorem unrevoked_before (hv : (server P O cb sb).Valid h') (hp : h <+: h')
    (hr : rowsAt h id = some r) (hr' : rowsAt h' id = some r') (hnone : r'.revokedAt = none) :
    r.revokedAt = none := by
  by_contra hsome
  exact revokedAt_persists hv hp hr hsome hr' hnone

/-- What the last step has done to a session that is held after it. -/
theorem rowsAt_cases (hv : (server P O cb sb).Valid (h ++ [e]))
    (hr' : rowsAt (h ++ [e]) id = some r') :
    rowsAt h id = some r' ∨
    (∃ draft, (machine cb sb).event h e = ⟨.createForChallenge draft, some r'⟩ ∧
      r' = createSessionRecord draft e.env.draws ∧ rowsAt h id = none) ∨
    (∃ draft r, (machine cb sb).event h e = ⟨.rotateRefreshToken id draft, some r'⟩ ∧
      r' = r.rotate (rotateParams draft e.env.draws) ∧ rowsAt h id = some r) ∨
    (Revokes h e id ∧ ∃ r t, r' = r.stamp (some t) ∧ rowsAt h id = some r) := by
  rcases session_step hv id with heq | ⟨op, hop, hch⟩
  · exact Or.inl (heq ▸ hr')
  · rw [hr'] at hch
    generalize hbefore : rowsAt h id = before at hch
    cases hch with
    | same => exact Or.inl rfl
    | created =>
      obtain ⟨draft, hev, -, rfl⟩ := sessionOp?_eq_some hop
      exact Or.inr (Or.inl ⟨draft, hev, rfl, rfl⟩)
    | @rotated _ _ r current seen =>
      obtain ⟨draft, hev, rfl⟩ := sessionOp?_eq_some hop
      exact Or.inr (Or.inr (Or.inl ⟨draft, r, hev, rfl, rfl⟩))
    | @revokedById _ _ t r time =>
      exact Or.inr (Or.inr (Or.inr ⟨⟨r, _, hbefore,
        Or.inl (op_of_event (sessionOp?_eq_some hop))⟩, r, t, rfl, rfl⟩))
    | @revokedByPrincipal _ _ _ t r principal time =>
      obtain ⟨n, hev⟩ := sessionOp?_eq_some hop
      exact Or.inr (Or.inr (Or.inr ⟨⟨r, _, hbefore, Or.inr (principal ▸ op_of_event hev)⟩, r, t,
        rfl, rfl⟩))

/-- With a positive clock, sessions are revoked at positive times. -/
theorem revokedAt_pos (hv : (server P O cb sb).Valid h) (hpos : PositiveClock h)
    (hr : rowsAt h id = some r) : ∀ t, r.revokedAt = some t → 0 < t := by
  refine hv.rec_on (P := fun h => PositiveClock h →
    ∀ r, rowsAt h id = some r → ∀ t, r.revokedAt = some t → 0 < t)
    (fun _ r hr => ?_) (fun h e hv hv' ih hpos r' hr' => ?_) hpos r hr
  · exact absurd (sound_nil.keys_drawn id r hr r.sessionId (by simp)) (by simp)
  have hold := ih (hpos.restrict (List.prefix_append _ _))
  have hj := justified hv' Occurs.last
  rcases session_step hv' id with heq | ⟨op, hop, hch⟩
  · exact hold r' (heq ▸ hr')
  · rw [hr'] at hch
    generalize hbefore : rowsAt h id = before at hch
    have hread : ∀ {now : ℤ}, HasRead ((machine cb sb).own e.tid h) now → 0 < now :=
      fun hr => (hpos.restrict (List.prefix_append _ _)).hasRead hr
    intro t ht
    cases hch with
    | same => exact hold _ hbefore t ht
    | created =>
      obtain ⟨draft, -, -, rfl⟩ := sessionOp?_eq_some hop
      cases ht
    | revokedById time =>
      rw [op_of_event (sessionOp?_eq_some hop)] at hj
      obtain rfl := Option.some.inj ht
      rcases time with rfl | hsame
      · exact hread hj
      · exact hold _ hbefore _ hsame
    | revokedByPrincipal principal time =>
      obtain ⟨n, hev⟩ := sessionOp?_eq_some hop
      rw [op_of_event hev] at hj
      obtain rfl := Option.some.inj ht
      rcases time with rfl | hsame
      · exact hread hj
      · exact hold _ hbefore _ hsame
    | rotated current seen => exact hold _ hbefore t ht

/-- With a positive clock, a session counts as revoked when it has been revoked. -/
theorem revoked_iff (hv : (server P O cb sb).Valid h) (hpos : PositiveClock h)
    (hr : rowsAt h id = some r) : r.revoked = true ↔ r.revokedAt ≠ none := by
  rw [SessionRecord.revoked, truthyInt_iff]
  constructor
  · rintro ⟨t, ht, -⟩
    simp [ht]
  · intro hne
    obtain ⟨t, ht⟩ := Option.ne_none_iff_exists'.mp hne
    have := revokedAt_pos hv hpos hr t ht
    exact ⟨t, ht, by omega⟩

/-! ## Refresh tokens -/

/-- At most one session is known by a refresh token. -/
theorem refreshToken_unique (hv : (server P O cb sb).Valid h) {id' : String}
    (hr : rowsAt h id = some r) (hr' : rowsAt h id' = some r') (ht : r.HasRefreshToken token)
    (ht' : r'.HasRefreshToken token) : id = id' := by
  have hwf := (sound_of_valid hv).sessions_wf
  have hid := rowsAt_id hv hr
  have hid' := rowsAt_id hv hr'
  have hget := sb.sessionStore_lawful.getByRefreshToken_iff hwf |>.mpr ⟨hid ▸ hr, ht⟩
  have hget' := sb.sessionStore_lawful.getByRefreshToken_iff hwf |>.mpr ⟨hid' ▸ hr', ht'⟩
  obtain rfl := Option.some.inj (hget.symm.trans hget')
  exact hid.symm.trans hid'

/-- No session has the token as its current refresh token. -/
def Spent (h : History cb sb) (token : String) : Prop :=
  ∀ id r, rowsAt h id = some r → r.refreshToken ≠ some token

/-- Once a token has been drawn and is spent, it stays spent: tokens are new when they are handed
out. -/
theorem spent_persists (hv : (server P O cb sb).Valid h') (hp : h <+: h') (hd : token ∈ drawn h)
    (hs : Spent h token) : Spent h' token := by
  refine hv.persist (P := fun h => Spent h token) hp hs fun h1 e hv1 hp1 ih id r' hr' => ?_
  have hnew : ∀ {t : String}, t ∈ drawnBy e → t ≠ token :=
    fun ht heq => (not_drawn hv1 Occurs.last ht).2 (heq ▸ drawn_mono hp1 hd)
  rcases session_step hv1 id with heq | ⟨op, hop, hch⟩
  · exact ih id r' (heq ▸ hr')
  · rw [hr'] at hch
    generalize hbefore : rowsAt h1 id = before at hch
    cases hch with
    | same => exact ih id _ hbefore
    | created =>
      obtain ⟨draft, hev, -, rfl⟩ := sessionOp?_eq_some hop
      intro ht
      have hkey : token ∈ (createSessionRecord draft e.env.draws).keys := by
        simp [SessionRecord.HasRefreshToken, ht]
      refine hnew ?_ rfl
      rw [drawnBy_eq hev]
      exact keys_createSessionRecord hkey
    | revokedById time => exact fun ht => ih id _ hbefore ht
    | revokedByPrincipal principal time => exact fun ht => ih id _ hbefore ht
    | rotated current seen =>
      obtain ⟨draft, hev, rfl⟩ := sessionOp?_eq_some hop
      intro ht
      refine hnew ?_ (Option.some.inj ht)
      rw [drawnBy_eq hev]
      simp [drawnBy, Draws.strings, rotateParams]

/-- A rotation spends the token that was presented. -/
theorem spent_of_rotate (hv : (server P O cb sb).Valid (h ++ [e])) {draft : RotateDraft}
    (hev : (machine cb sb).event h e = ⟨.rotateRefreshToken id draft, some s⟩) :
    draft.expectedRefreshToken ∈ drawn h ∧ Spent (h ++ [e]) draft.expectedRefreshToken := by
  obtain ⟨r, hr, hcur, -, rfl, hrow⟩ := rotate_spec hv hev
  have hv0 := hv.restrict (List.prefix_append h [e])
  have hd : draft.expectedRefreshToken ∈ drawn h :=
    (sound_of_valid hv0).keys_drawn id r hr _ (by simp [SessionRecord.HasRefreshToken, hcur])
  refine ⟨hd, fun id' r' hr' ht' => ?_⟩
  by_cases hid : id' = id
  · -- The session itself has a token that was drawn just now.
    subst hid
    rw [hrow] at hr'
    obtain rfl := Option.some.inj hr'
    refine (not_drawn hv Occurs.last ?_).2 hd
    rw [drawnBy_eq hev, ← Option.some.inj ht']
    simp [drawnBy, Draws.strings, rotateParams]
  · -- Another one had the token before, but only one session is known by it.
    rcases session_step hv id' with heq | ⟨op, hop, hch⟩
    · exact hid (refreshToken_unique hv0 (heq ▸ hr') hr (Or.inl ht') (Or.inl hcur))
    · rw [hr'] at hch
      generalize hbefore : rowsAt h id' = before at hch
      cases hch with
      | same => exact hid (refreshToken_unique hv0 hbefore hr (Or.inl ht') (Or.inl hcur))
      | rotated current seen =>
        obtain ⟨draft', hev', -⟩ := sessionOp?_eq_some hop
        injection (op_of_event hev).symm.trans (op_of_event hev') with hids
        exact hid hids.symm
      | _ => simp [hev, sessionOp?] at hop

/-- A refresh token is exchanged by at most one rotation. -/
theorem rotate_unique (hv : (server P O cb sb).Valid h) (ho : Occurs h pre e)
    (ho' : Occurs h pre' e') {id' : String} {draft draft' : RotateDraft} {s' : SessionRecord}
    (hev : (machine cb sb).event pre e = ⟨.rotateRefreshToken id draft, some s⟩)
    (hev' : (machine cb sb).event pre' e' = ⟨.rotateRefreshToken id' draft', some s'⟩)
    (htoken : draft.expectedRefreshToken = draft'.expectedRefreshToken) : pre = pre' ∧ e = e' := by
  -- The later one would have found a token that is spent.
  have hsecond : ∀ {p q : History cb sb} {u v : Step (machine cb sb)} {i j : String}
      {d d' : RotateDraft} {a b : SessionRecord}, Occurs h p u → Occurs p q v →
      (machine cb sb).event p u = ⟨.rotateRefreshToken i d, some a⟩ →
      (machine cb sb).event q v = ⟨.rotateRefreshToken j d', some b⟩ →
      d.expectedRefreshToken ≠ d'.expectedRefreshToken := by
    intro p q u v i j d d' a b hu hv' hevu hevv heq
    obtain ⟨r, hr, hcur, -⟩ := rotate_spec (hv.restrict hu) hevu
    obtain ⟨hd, hspent⟩ := spent_of_rotate ((hv.restrict hu.before).restrict hv') hevv
    exact spent_persists (hv.restrict hu.before) hv' (drawn_mono (List.prefix_append _ _) hd)
      hspent i r hr (heq ▸ hcur)
  rcases ho.trichotomy ho' with heq | hlt | hlt
  · exact heq
  · exact absurd htoken (hsecond ho hlt hev hev')
  · exact absurd htoken.symm (hsecond ho' hlt hev' hev)

/-- Until its next rotation a session remembers the token that it has exchanged. -/
theorem previous_persists (hv : (server P O cb sb).Valid h) (ho : Occurs h pre e)
    {draft : RotateDraft}
    (hev : (machine cb sb).event pre e = ⟨.rotateRefreshToken id draft, some s⟩)
    (hlast : ∀ pre' e' draft' s', Occurs h pre' e' → pre ++ [e] <+: pre' →
      (machine cb sb).event pre' e' ≠ ⟨.rotateRefreshToken id draft', some s'⟩)
    (hr : rowsAt h id = some r) : r.previousRefreshToken = some draft.expectedRefreshToken := by
  obtain ⟨r0, hr0, hcur, -, rfl, hrow⟩ := rotate_spec (hv.restrict ho) hev
  refine rowsAt_persist hv ho (drawn_of_rowsAt (hv.restrict ho) hrow)
    (Q := fun r => r.previousRefreshToken = some draft.expectedRefreshToken) (fun r1 hr1 => ?_)
    (fun h1 e1 r1 r2 hv1 hp1 hp2 hr1 hr2 ih => ?_) r hr
  · rw [hrow] at hr1
    obtain rfl := Option.some.inj hr1
    exact hcur
  · rcases session_step hv1 id with heq | ⟨op, hop, hch⟩
    · rw [hr2, hr1] at heq
      exact Option.some.inj heq ▸ ih
    · rw [hr1, hr2] at hch
      cases hch with
      | same => exact ih
      | revokedById time => exact ih
      | revokedByPrincipal principal time => exact ih
      | rotated current seen =>
        obtain ⟨draft', hev', -⟩ := sessionOp?_eq_some hop
        exact absurd hev' (hlast h1 e1 draft' _ hp2 hp1)

end NapAuth

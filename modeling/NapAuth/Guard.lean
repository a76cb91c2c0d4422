import NapAuth.Client
import NapAuth.Server.Sessions

/-!
# Guards

Which access tokens a guard admits. The `Registry` is what they are worth: an abstract account of
all sessions ever issued, kept by the events of a run alone, in which nothing is dropped or indexed.
A session store holds the registered sessions but those that it has dropped, and these have ended
(`tracks_of_valid`). So a guard admits a token exactly when the registry says that it is the current
token of a session that is neither revoked nor at its end (`access_token_lifecycle`).
-/

namespace NapAuth

open Interleaving

/-! ## The registry -/

/-- What is registered of a session. -/
structure Registration where
  pubkey : String
  /-- The access token that was issued last. -/
  accessToken : String
  /-- When the session ends. -/
  expiresAt : ℤ
  revoked : Bool
  deriving DecidableEq

/-- The sessions that have been issued, by session id. -/
abbrev Registry : Type := String → Option Registration

namespace Registry

/-- What an event says about the sessions. A login registers its session, unless it was given one
that is registered already; a rotation changes its token and its end. -/
def record (registry : Registry) : Event Res → Registry
  | ⟨.createForChallenge _, some session⟩ => fun id =>
    if id = session.sessionId then
      (registry id).or
        (some ⟨session.principalPubkey, session.accessToken, session.expiresAt, false⟩)
    else registry id
  | ⟨.rotateRefreshToken sessionId _, some session⟩ => fun id =>
    if id = sessionId then
      (registry id).map fun entry =>
        { entry with accessToken := session.accessToken, expiresAt := session.expiresAt }
    else registry id
  | ⟨.revokeBySessionId sessionId _, _⟩ => fun id =>
    if id = sessionId then (registry id).map fun entry => { entry with revoked := true }
    else registry id
  | ⟨.revokeByPrincipal pubkey _, _⟩ => fun id =>
    (registry id).map fun entry =>
      if entry.pubkey = pubkey then { entry with revoked := true } else entry
  | _ => registry

/-- The token is the one that was issued last for some session, which is neither revoked nor, at the
time `now`, at its end. -/
def Accepts (registry : Registry) (token : String) (now : ℤ) : Prop :=
  ∃ id entry, registry id = some entry ∧ entry.accessToken = token ∧ entry.revoked = false ∧
    now < entry.expiresAt

end Registry

variable {P : Platform} {O : NapServerOptions} {cb sb : Backend} {h h' pre pre' : History cb sb}
  {e e' : Step (machine cb sb)} {id id' token : String} {r r' s : SessionRecord}

/-- The registry after a history. -/
def registry (h : History cb sb) : Registry :=
  ((machine cb sb).events h).foldl Registry.record fun _ => none

theorem registry_concat (h : History cb sb) (e : Step (machine cb sb)) :
    registry (h ++ [e]) = (registry h).record ((machine cb sb).event h e) := by
  simp [registry, Machine.events_concat]

/-- What is registered of a session that is held. -/
def SessionRecord.registration (r : SessionRecord) : Registration :=
  ⟨r.principalPubkey, r.accessToken, r.expiresAt, r.revoked⟩

/-- How the rows of a store relate to the registry. -/
structure Tracks (h : History cb sb) : Prop where
  /-- A session that is held is registered as it is. -/
  held : ∀ id r, rowsAt h id = some r → registry h id = some r.registration
  /-- A session that is not held any more has ended. -/
  dropped : ∀ id entry, registry h id = some entry → rowsAt h id = none →
    ∃ e ∈ h, entry.expiresAt < e.env.now
  /-- Only drawn ids are registered. -/
  drawn : ∀ id entry, registry h id = some entry → id ∈ drawn h

section Steps

variable (hv : (server P O cb sb).Valid (h ++ [e])) (hpos : PositiveClock (h ++ [e]))
include hv

/-- What is registered after a step is held, or was registered before with the same end. -/
theorem registered_step {entry' : Registration} (hreg : registry (h ++ [e]) id = some entry') :
    (∃ r, rowsAt (h ++ [e]) id = some r) ∨
      ∃ entry, registry h id = some entry ∧ entry'.expiresAt = entry.expiresAt := by
  rw [registry_concat] at hreg
  generalize hev : (machine cb sb).event h e = ev at hreg
  obtain ⟨op, answer⟩ := ev
  cases op with
  | createForChallenge draft =>
    cases answer with
    | none => exact Or.inr ⟨entry', hreg, rfl⟩
    | some session =>
      simp only [Registry.record] at hreg
      split_ifs at hreg with hid
      · exact Or.inl ⟨session, hid ▸ (rowsAt_of_createForChallenge hv hev).1⟩
      · exact Or.inr ⟨entry', hreg, rfl⟩
  | rotateRefreshToken sessionId draft =>
    cases answer with
    | none => exact Or.inr ⟨entry', hreg, rfl⟩
    | some session =>
      simp only [Registry.record] at hreg
      split_ifs at hreg with hid
      · obtain ⟨r, -, -, -, -, hrow⟩ := rotate_spec hv hev
        exact Or.inl ⟨session, hid ▸ hrow⟩
      · exact Or.inr ⟨entry', hreg, rfl⟩
  | revokeBySessionId sessionId now =>
    simp only [Registry.record] at hreg
    split_ifs at hreg
    · obtain ⟨entry, hentry, rfl⟩ := Option.map_eq_some_iff.mp hreg
      exact Or.inr ⟨entry, hentry, rfl⟩
    · exact Or.inr ⟨entry', hreg, rfl⟩
  | revokeByPrincipal pubkey now =>
    obtain ⟨entry, hentry, rfl⟩ := Option.map_eq_some_iff.mp hreg
    exact Or.inr ⟨entry, hentry, by split <;> rfl⟩
  | _ => exact Or.inr ⟨entry', hreg, rfl⟩

include hpos in
/-- What is held after a step is registered as it is. -/
theorem Tracks.held_step (ht : Tracks h) (hr' : rowsAt (h ++ [e]) id = some r') :
    registry (h ++ [e]) id = some r'.registration := by
  have hrevoked : Revokes h e id → r'.revoked = true := by
    intro hrev
    obtain ⟨r1, hr1, hsome⟩ := hrev.revokedAt (hv.restrict (List.prefix_append _ _))
    obtain rfl := Option.some.inj (hr'.symm.trans hr1)
    exact (revoked_iff hv hpos hr').mpr hsome
  rw [registry_concat]
  rcases rowsAt_cases hv hr' with hr | ⟨draft, hev, rfl, hnone⟩ | ⟨draft, r, hev, hrot, hr⟩ |
    ⟨hrev, r, t, hstamp, hr⟩
  · have hreg := ht.held id r' hr
    -- The event says about the session what is registered.
    generalize hev : (machine cb sb).event h e = ev
    obtain ⟨op, answer⟩ := ev
    cases op with
    | createForChallenge draft => cases answer <;> simp [Registry.record, hreg]
    | rotateRefreshToken sessionId draft =>
      cases answer with
      | none => exact hreg
      | some session =>
        by_cases hid : id = sessionId
        · subst hid
          obtain ⟨-, -, -, -, -, hrow⟩ := rotate_spec hv hev
          obtain rfl := Option.some.inj (hr'.symm.trans hrow)
          simp [Registry.record, hreg, SessionRecord.registration]
        · simp [Registry.record, hid, hreg]
    | revokeBySessionId sessionId now =>
      by_cases hid : id = sessionId
      · have hrev := hrevoked ⟨r', now, hr, Or.inl (hid ▸ op_of_event hev)⟩
        simp [Registry.record, hid ▸ hreg, SessionRecord.registration, hrev, hid]
      · simp [Registry.record, hid, hreg]
    | revokeByPrincipal pubkey now =>
      by_cases hpubkey : r'.principalPubkey = pubkey
      · have hrev := hrevoked ⟨r', now, hr, Or.inr (hpubkey ▸ op_of_event hev)⟩
        simp [Registry.record, hreg, SessionRecord.registration, hrev]
      · simp [Registry.record, hreg, SessionRecord.registration, hpubkey]
    | _ => exact hreg
  · -- A new session has an id that is not registered.
    have hid := rowsAt_id hv hr'
    have hfresh : registry h id = none := by
      cases hreg : registry h id with
      | none => rfl
      | some entry =>
        refine absurd (hid ▸ ht.drawn id entry hreg) (not_drawn hv Occurs.last ?_).2
        rw [drawnBy_eq hev]
        simp [drawnBy, Draws.strings, createSessionRecord]
    subst hid
    rw [hev]
    simp only [Registry.record, ↓reduceIte, hfresh, Option.none_or]
    rfl
  · rw [hev]
    simp [Registry.record, ht.held id r hr, SessionRecord.registration, hrot, SessionRecord.rotate,
      SessionRecord.revoked]
  · have hreg := ht.held id r hr
    have hstamped : r'.registration = { r.registration with revoked := true } := by
      rw [← hrevoked hrev, hstamp]
      rfl
    obtain ⟨r0, now, hr0, hop⟩ := hrev
    obtain rfl := Option.some.inj (hr.symm.trans hr0)
    rcases hop with hop | hop
    · have hev : (machine cb sb).event h e = ⟨.revokeBySessionId id now, ()⟩ :=
        Machine.event_eq_iff _ |>.mpr ⟨hop, rfl⟩
      simp [hev, Registry.record, hreg, hstamped]
    · obtain ⟨n, hev⟩ : ∃ n, (machine cb sb).event h e =
          ⟨.revokeByPrincipal r.principalPubkey now, n⟩ :=
        ⟨_, Machine.event_eq_iff _ |>.mpr ⟨hop, rfl⟩⟩
      have hpubkey : r.registration.pubkey = r.principalPubkey := rfl
      simp [hev, Registry.record, hreg, hstamped, hpubkey]

include hpos in
/-- Every step keeps the registry in line with the rows. -/
theorem Tracks.step (hone : OneClock (h ++ [e])) (ht : Tracks h) : Tracks (h ++ [e]) := by
  refine ⟨fun id r' hr' => ht.held_step hv hpos hr', fun id entry' hreg hnone => ?_,
    fun id entry' hreg => ?_⟩
  · rcases registered_step hv hreg with ⟨r, hr⟩ | ⟨entry, hentry, hend⟩
    · rw [hr] at hnone
      cases hnone
    · cases hr : rowsAt h id with
      | none =>
        obtain ⟨e0, he0, hlt⟩ := ht.dropped id entry hentry hr
        exact ⟨e0, List.mem_append_left _ he0, hend ▸ hlt⟩
      | some r =>
        -- The step has dropped the session, which had been kept beyond its end.
        obtain rfl := Option.some.inj (hentry.symm.trans (ht.held id r hr))
        refine ⟨e, by simp, ?_⟩
        have hclock := hone.same e (by simp)
        have hdead : r.retainUntil < e.env.now := by
          rcases session_step hv id with heq | ⟨op, hop, hch⟩
          · rw [hnone, hr] at heq
            cases heq
          · rw [hr, hnone] at hch
            cases hch with
            | evictedByCreate dead =>
              obtain ⟨draft, -, rfl, -⟩ := sessionOp?_eq_some hop
              omega
            | evictedByLookup dead =>
              obtain ⟨rfl, -⟩ := sessionOp?_eq_some hop
              omega
        have hkept : r.expiresAt ≤ r.retainUntil := le_max_left _ _
        have hsame : r.registration.expiresAt = r.expiresAt := rfl
        omega
  · rcases registered_step hv hreg with ⟨r, hr⟩ | ⟨entry, hentry, -⟩
    · exact drawn_of_rowsAt hv hr
    · exact drawn_mono (List.prefix_append _ _) (ht.drawn id entry hentry)

end Steps

/-- The registry is in line with the rows after every history of a run. -/
theorem tracks_of_valid (hv : (server P O cb sb).Valid h) (hpos : PositiveClock h)
    (hone : OneClock h) : Tracks h := by
  refine hv.rec_on (P := fun h => PositiveClock h → OneClock h → Tracks h) (fun _ _ => ?_)
    (fun h e _ hv' ih hpos hone => ?_) hpos hone
  · refine ⟨fun id r hr => ?_, fun id entry hreg => ?_, fun id entry hreg => ?_⟩
    · exact absurd (sound_nil.keys_drawn id r hr r.sessionId (by simp)) (by simp)
    · cases hreg
    · cases hreg
  · have hp := List.prefix_append h [e]
    exact (ih (hpos.restrict hp) (hone.restrict hp)).step hv' hpos hone

/-! ## Tokens -/

/-- Where the tokens of the session under an id come from: each was drawn by a login or a rotation,
as a token of its kind. -/
structure Drawn (h : History cb sb) (id : String) (r : SessionRecord) : Prop where
  /-- The access token was drawn as such, by the login or a rotation of the session. -/
  access : ∃ pre e, Occurs h pre e ∧ r.accessToken = base64Url e.env.draws.secret ∧
    drawnBy e = e.env.draws.strings ∧
    ((∃ draft, e.op = .createForChallenge draft ∧ id = base64Url e.env.draws.id) ∨
      ∃ draft, e.op = .rotateRefreshToken id draft)
  /-- A refresh token was drawn as such. -/
  refresh : ∀ token, r.HasRefreshToken token → ∃ pre e, Occurs h pre e ∧
    token = base64Url e.env.draws.refresh ∧ drawnBy e = e.env.draws.strings
  /-- A step-up token was drawn as such. -/
  stepUp : ∀ token, r.stepUpToken = some token → ∃ pre e, Occurs h pre e ∧
    token = base64Url e.env.draws.stepUp ∧ drawnBy e = e.env.draws.strings

/-- What was drawn in a history was drawn in every longer one. -/
theorem Drawn.mono (hd : Drawn h id r) (hp : h <+: h') : Drawn h' id r where
  access := by
    obtain ⟨pre, e, ho, hrest⟩ := hd.access
    exact ⟨pre, e, ho.mono hp, hrest⟩
  refresh token ht := by
    obtain ⟨pre, e, ho, hrest⟩ := hd.refresh token ht
    exact ⟨pre, e, ho.mono hp, hrest⟩
  stepUp token ht := by
    obtain ⟨pre, e, ho, hrest⟩ := hd.stepUp token ht
    exact ⟨pre, e, ho.mono hp, hrest⟩

/-- The tokens of every session that is held have been drawn. -/
theorem drawn_of_valid (hv : (server P O cb sb).Valid h) (hr : rowsAt h id = some r) :
    Drawn h id r := by
  refine hv.rec_on (P := fun h => ∀ id r, rowsAt h id = some r → Drawn h id r)
    (fun id r hr => ?_) (fun h e _ hv' ih id r' hr' => ?_) id r hr
  · exact absurd (sound_nil.keys_drawn id r hr r.sessionId (by simp)) (by simp)
  have hp := List.prefix_append h [e]
  rcases rowsAt_cases hv' hr' with hr | ⟨draft, hev, hnew, -⟩ | ⟨draft, r, hev, hrot, hr⟩ |
    ⟨-, r, t, rfl, hr⟩
  · exact (ih id r' hr).mono hp
  · have hdraw : drawnBy e = e.env.draws.strings := by rw [drawnBy_eq hev]; rfl
    have hid := (rowsAt_id hv' hr').symm
    rw [hnew] at hid ⊢
    have haccess : (createSessionRecord draft e.env.draws).accessToken =
        base64Url e.env.draws.secret := rfl
    refine ⟨⟨h, e, Occurs.last, haccess, hdraw, Or.inl ⟨draft, op_of_event hev, hid⟩⟩,
      fun token ht => ⟨h, e, Occurs.last, ?_, hdraw⟩,
      fun token ht => ⟨h, e, Occurs.last, ?_, hdraw⟩⟩
    · simp only [SessionRecord.HasRefreshToken, createSessionRecord, reduceCtorEq, or_false] at ht
      split_ifs at ht
      exact (Option.some.inj ht).symm
    · obtain ⟨ttl, -, rfl⟩ := Option.map_eq_some_iff.mp ht
      rfl
  · have hdraw : drawnBy e = e.env.draws.strings := by rw [drawnBy_eq hev]; rfl
    have hold := (ih id r hr).mono hp
    have haccess : r'.accessToken = base64Url e.env.draws.secret := by
      rw [hrot, SessionRecord.rotate, rotateParams]
    have hstepUp : r'.stepUpToken = r.stepUpToken := by rw [hrot, SessionRecord.rotate]
    refine ⟨⟨h, e, Occurs.last, haccess, hdraw, Or.inr ⟨draft, op_of_event hev⟩⟩,
      fun token ht => ?_, fun token ht => hold.stepUp token (hstepUp ▸ ht)⟩
    rw [hrot] at ht
    rcases ht with ht | ht
    · exact ⟨h, e, Occurs.last, (Option.some.inj ht).symm, hdraw⟩
    · exact hold.refresh token (Or.inl ht)
  · have hold := (ih id r hr).mono hp
    exact ⟨hold.access, hold.refresh, hold.stepUp⟩

/-- An access token is never a refresh token or a step-up token, of whatever session. -/
theorem accessToken_kind (hv : (server P O cb sb).Valid h) (hp : pre <+: h) (hp' : pre' <+: h)
    (hr : rowsAt pre id = some r) (hr' : rowsAt pre' id' = some r')
    (ht : r'.HasRefreshToken token ∨ r'.stepUpToken = some token) : r.accessToken ≠ token := by
  rintro rfl
  obtain ⟨p, e, ho, htoken, hdraw, -⟩ := ((drawn_of_valid (hv.restrict hp) hr).mono hp).access
  have hd' := (drawn_of_valid (hv.restrict hp') hr').mono hp'
  -- The token would have been drawn twice, and by one step as tokens of two kinds.
  have hsame : ∀ {p' : History cb sb} {e' : Step (machine cb sb)}, Occurs h p' e' →
      r.accessToken ∈ drawnBy e' → e = e' := fun ho' hmem =>
    (drawn_unique hv ho ho' (by rw [hdraw, htoken]; simp [Draws.strings]) hmem).2
  have hnodup := (admissible_iff.mp (hv.admissible ho)).1
  rw [hdraw] at hnodup
  simp only [Draws.strings, List.nodup_cons, List.mem_cons, List.not_mem_nil, or_false,
    not_or] at hnodup
  rcases ht with ht | ht
  · obtain ⟨p', e', ho', htoken', hdraw'⟩ := hd'.refresh _ ht
    obtain rfl := hsame ho' (by rw [hdraw', htoken']; simp [Draws.strings])
    exact hnodup.2.1.2 (htoken.symm.trans htoken')
  · obtain ⟨p', e', ho', htoken', hdraw'⟩ := hd'.stepUp _ ht
    obtain rfl := hsame ho' (by rw [hdraw', htoken']; simp [Draws.strings])
    exact hnodup.2.1.1 (htoken.symm.trans htoken')

/-- Two sessions never have the same access token, at whatever times. -/
theorem accessToken_unique (hv : (server P O cb sb).Valid h) (hp : pre <+: h) (hp' : pre' <+: h)
    (hr : rowsAt pre id = some r) (hr' : rowsAt pre' id' = some r')
    (ht : r.accessToken = r'.accessToken) : id = id' := by
  obtain ⟨p, e, ho, htoken, hdraw, hid⟩ := ((drawn_of_valid (hv.restrict hp) hr).mono hp).access
  obtain ⟨p', e', ho', htoken', hdraw', hid'⟩ :=
    ((drawn_of_valid (hv.restrict hp') hr').mono hp').access
  obtain ⟨-, rfl⟩ := drawn_unique hv ho ho'
    (t := r.accessToken) (by rw [hdraw, htoken]; simp [Draws.strings])
    (by rw [hdraw', ht, htoken']; simp [Draws.strings])
  rcases hid with ⟨draft, hop, rfl⟩ | ⟨draft, hop⟩ <;>
    rcases hid' with ⟨draft', hop', rfl⟩ | ⟨draft', hop'⟩
  · rfl
  · cases hop.symm.trans hop'
  · cases hop.symm.trans hop'
  · injection hop.symm.trans hop'

/-! ## What a guard admits -/

/-- A lookup may drop a session, and does nothing else to it. -/
theorem rowsAt_of_lookup (hv : (server P O cb sb).Valid (h ++ [e]))
    (hop : e.op = .getByAccessToken token) (hr : rowsAt (h ++ [e]) id = some r) :
    rowsAt h id = some r := by
  rcases rowsAt_cases hv hr with hsame | ⟨draft, hev, -⟩ | ⟨draft, r0, hev, -⟩ | ⟨hrev, -⟩
  · exact hsame
  · cases hop.symm.trans (op_of_event hev)
  · cases hop.symm.trans (op_of_event hev)
  · obtain ⟨r0, now, -, hop' | hop'⟩ := hrev
    · cases hop.symm.trans hop'
    · cases hop.symm.trans hop'

/-- With one clock, a lookup does not drop a session before its end. -/
theorem rowsAt_lookup (hv : (server P O cb sb).Valid (h ++ [e])) (hone : OneClock (h ++ [e]))
    (hop : e.op = .getByAccessToken token) (hr : rowsAt h id = some r)
    (hend : e.env.now < r.expiresAt) : rowsAt (h ++ [e]) id = some r := by
  cases hr' : rowsAt (h ++ [e]) id with
  | some r' => rw [← rowsAt_of_lookup hv hop hr', hr]
  | none =>
    have hclock := hone.same e (by simp)
    have hkept : r.expiresAt ≤ r.retainUntil := le_max_left _ _
    rcases session_step hv id with heq | ⟨op, hop', hch⟩
    · rw [hr', hr] at heq
      cases heq
    · rw [hr, hr'] at hch
      cases hch with
      | evictedByCreate dead =>
        obtain ⟨draft, hev, -⟩ := sessionOp?_eq_some hop'
        cases hop.symm.trans (op_of_event hev)
      | evictedByLookup dead =>
        obtain ⟨rfl, -⟩ := sessionOp?_eq_some hop'
        omega

/-- The session that a guard admits is held when the guard looks for it, with the token that was
presented; it is not revoked, and it has not ended. -/
theorem held_of_admitted (hv : (server P O cb sb).Valid (h ++ [e]))
    {found : Option SessionRecord × ℤ}
    (hev : (machine cb sb).event h e = ⟨.getByAccessToken token, found⟩)
    (hs : admitted found = some s) :
    rowsAt h s.sessionId = some s ∧ s.accessToken = token ∧ s.revoked = false ∧
      e.env.now < s.expiresAt := by
  obtain ⟨found, now⟩ := found
  cases found with
  | none => cases hs
  | some session =>
    simp only [admitted] at hs
    split_ifs at hs with hout
    obtain rfl := Option.some.inj hs
    obtain ⟨hop, rfl, hrow, htoken, -⟩ :=
      (getByAccessToken_iff (hv.restrict (List.prefix_append _ _))).mp hev
    simp only [not_or, not_le, Bool.not_eq_true] at hout
    exact ⟨rowsAt_of_lookup hv hop hrow, htoken, hout.1, hout.2⟩

/-- A guard admits a token exactly when the registry accepts it at the time. -/
theorem admitted_iff (hv : (server P O cb sb).Valid (h ++ [e])) (hpos : PositiveClock (h ++ [e]))
    (hone : OneClock (h ++ [e])) {found : Option SessionRecord × ℤ}
    (hev : (machine cb sb).event h e = ⟨.getByAccessToken token, found⟩) :
    (∃ s, admitted found = some s) ↔ (registry h).Accepts token e.env.now := by
  have hp := List.prefix_append h [e]
  have hv0 := hv.restrict hp
  have htracks := tracks_of_valid hv0 (hpos.restrict hp) (hone.restrict hp)
  constructor
  · rintro ⟨s, hs⟩
    obtain ⟨hrow, htoken, hrevoked, hend⟩ := held_of_admitted hv hev hs
    exact ⟨s.sessionId, s.registration, htracks.held _ s hrow, htoken, hrevoked, hend⟩
  · rintro ⟨id, entry, hreg, rfl, hrevoked, hend⟩
    cases hr : rowsAt h id with
    | none =>
      -- The clock would have gone back.
      obtain ⟨e0, he0, hlt⟩ := htracks.dropped id entry hreg hr
      have := hone.le Occurs.last he0
      omega
    | some r =>
      obtain rfl := Option.some.inj (hreg.symm.trans (htracks.held id r hr))
      have hop := op_of_event hev
      have hrow := rowsAt_lookup hv hone hop hr hend
      have hunrevoked : r.revoked = false := hrevoked
      have hnone : r.revokedAt = none := by
        by_contra hsome
        rw [(revoked_iff hv0 (hpos.restrict hp) hr).mpr hsome] at hunrevoked
        cases hunrevoked
      have hid := rowsAt_id hv0 hr
      have hfound := (getByAccessToken_iff hv0).mpr
        ⟨hop, rfl, hid ▸ hrow, rfl, sb.visible_of_unrevoked hnone⟩
      obtain rfl : (some r, e.env.now) = found := by injection hfound.symm.trans hev
      have hin : ¬ r.expiresAt ≤ e.env.now := not_le.mpr hend
      exact ⟨r, by simp [admitted, hunrevoked, hin]⟩

/-- A guard that was presented a token has looked it up, and acts for the session that it admits. A
guard that was presented none acts for nobody. -/
theorem guard_lookup {c : (server P O cb sb).Config} (hc : (server P O cb sb).Reachable c)
    {tid : ℕ} {req : GuardRequest} {hasResolver : Bool} {context : GuardContext}
    (hr : Returned c tid (.loadGuardContext req hasResolver) (.guarded context)) :
    (presentedToken req = none → context.session? = none) ∧
    ∀ token, presentedToken req = some token → ∃ pre e found, Occurs c.history pre e ∧
      e.tid = tid ∧ (machine cb sb).event pre e = ⟨.getByAccessToken token, found⟩ ∧
      context.session? = admitted found := by
  rcases (explained hc hr).resolve_left (by simp) with
    ⟨htoken, -, hnone⟩ | ⟨token, found, ys, htoken, hown, hcontext⟩
  · exact ⟨fun _ => hnone, fun token ht => by simp [htoken] at ht⟩
  · refine ⟨fun ht => by simp [htoken] at ht, fun token' ht => ?_⟩
    obtain rfl := Option.some.inj (htoken.symm.trans ht)
    obtain ⟨pre, e, ho, htid, hev, -⟩ :=
      exists_occurs_of_own (hown.trans (List.nil_append _).symm)
    exact ⟨pre, e, found, ho, htid, hev, hcontext⟩

/-- A guard admits a token exactly when it is the access token that was issued last for a session
which, when the guard looks it up, is neither revoked nor at its end. So it never admits a token that
was a refresh token or a step-up token, or an access token that was rotated out. -/
theorem access_token_lifecycle {c : (server P O cb sb).Config}
    (hc : (server P O cb sb).Reachable c) (hpos : PositiveClock c.history)
    (hone : OneClock c.history) {tid : ℕ} {req : GuardRequest} {hasResolver : Bool}
    {context : GuardContext}
    (hr : Returned c tid (.loadGuardContext req hasResolver) (.guarded context)) :
    (presentedToken req = none → context.session? = none) ∧
    ∀ token, presentedToken req = some token → ∃ pre e, Occurs c.history pre e ∧ e.tid = tid ∧
      e.op = .getByAccessToken token ∧
      ((∃ s, context.session? = some s) ↔ (registry pre).Accepts token e.env.now) ∧
      (∀ pre' id r, pre' <+: c.history → rowsAt pre' id = some r →
        r.HasRefreshToken token ∨ r.stepUpToken = some token → context.session? = none) ∧
      (∀ pre' id r entry, pre' <+: c.history → rowsAt pre' id = some r → r.accessToken = token →
        registry pre id = some entry → entry.accessToken ≠ token → context.session? = none) := by
  have hv := System.Valid.of_reachable hc
  obtain ⟨hnone, hlookup⟩ := guard_lookup hc hr
  refine ⟨hnone, fun token htoken => ?_⟩
  obtain ⟨pre, e, found, ho, htid, hev, hcontext⟩ := hlookup token htoken
  have hv1 := hv.restrict ho
  rw [hcontext]
  refine ⟨pre, e, ho, htid, op_of_event hev,
    admitted_iff hv1 (hpos.restrict ho) (hone.restrict ho) hev,
    fun pre' id r hp' hr' hkind => ?_, fun pre' id r entry hp' hr' haccess hreg hne => ?_⟩
  · cases hs : admitted found with
    | none => rfl
    | some s =>
      obtain ⟨hrow, hs, -, -⟩ := held_of_admitted hv1 hev hs
      exact absurd hs (accessToken_kind hv ho.before hp' hrow hr' hkind)
  · cases hs : admitted found with
    | none => rfl
    | some s =>
      obtain ⟨hrow, hs, -, -⟩ := held_of_admitted hv1 hev hs
      -- The session with the token would be the one that has another token by now.
      obtain rfl := accessToken_unique hv ho.before hp' hrow hr' (hs.trans haccess.symm)
      have htracks := tracks_of_valid (hv.restrict ho.before) (hpos.restrict ho.before)
        (hone.restrict ho.before)
      obtain rfl := Option.some.inj ((htracks.held _ s hrow).symm.trans hreg)
      exact absurd hs hne

namespace Sample

/-- A request with a bearer token. -/
def bearer (token : String) : GuardRequest := ⟨some ("Bearer " ++ token), none, "nap_session"⟩

/-- The access token of the `n`-th session that is drawn. -/
def accessToken (n : ℕ) : String := base64Url (draws n).secret

/-- A guard without an ACL resolver, that is presented a token. -/
def guard (token : String) : Call := .loadGuardContext (bearer token) false

/-- The session that a guard acts for. -/
def guarded? {O : NapServerOptions} {cb sb : Backend} (c : (server platform O cb sb).Config)
    (tid : ℕ) : Option SessionRecord :=
  match c.returned? tid with
  | some (.guarded context) => context.session?
  | _ => none

/-- A guard that acts for a session has returned it. -/
theorem returned_of_guarded {O : NapServerOptions} {cb sb : Backend}
    {c : (server platform O cb sb).Config} {calls : List Call} (hcalls : c.calls = calls) {tid : ℕ}
    {call : Call} (hcall : calls[tid]? = some call) {s : SessionRecord}
    (hs : guarded? c tid = some s) :
    ∃ context, Returned c tid call (.guarded context) ∧ context.session? = some s := by
  unfold guarded? at hs
  split at hs
  · rename_i context hout
    exact ⟨context, returned_of_run hcalls hcall hout, hs⟩
  · cases hs

/-- What is to be computed of a login and a guard that admits its token. -/
def admittedGuard (c : (server platform options .memory .memory).Config) : Bool :=
  (match c.returned? 2 with
    | some (.guarded context) => context.session?.isSome
    | _ => false) &&
  presentedToken (bearer (accessToken 1)) == some (accessToken 1) &&
  decide (∀ e ∈ c.history, 0 < e.env.now ∧ e.env.storeNow = e.env.now) &&
  decide (c.history.Pairwise fun e e' => e.env.now ≤ e'.env.now)

end Sample

open Sample in
/-- A login, and a guard that is presented its access token. -/
theorem access_token_admitted : ∃ (c : (server platform options .memory .memory).Config)
    (context : GuardContext) (pre : History .memory .memory) (e : Step (machine .memory .memory)),
    (server platform options .memory .memory).Reachable c ∧
    Returned c 2 (guard (accessToken 1)) (.guarded context) ∧ (∃ s, context.session? = some s) ∧
    Occurs c.history pre e ∧ (registry pre).Accepts (accessToken 1) e.env.now := by
  have hcomputed : ∀ call ∈ [issue none, complete false none, guard (accessToken 1)],
      Computed options call := by
    simp only [List.forall_mem_cons]
    exact ⟨rfl, computed_complete rfl false none, rfl, by simp⟩
  obtain ⟨c, hc, hcalls, hp⟩ := exists_run
    (login 1000 1010 false ++ turn (guard (accessToken 1)) 2 1 (env 1020 2))
    [issue none, complete false none, guard (accessToken 1)] admittedGuard rfl hcomputed
    (by decide +kernel)
  simp only [admittedGuard, Bool.and_eq_true, beq_iff_eq, decide_eq_true_eq] at hp
  obtain ⟨⟨⟨hguard, htoken⟩, hclock⟩, hmono⟩ := hp
  split at hguard
  · rename_i context hout
    have hr : Returned c 2 (guard (accessToken 1)) (.guarded context) :=
      returned_of_run hcalls rfl hout
    obtain ⟨s, hs⟩ := Option.isSome_iff_exists.mp hguard
    obtain ⟨pre, e, ho, -, -, hiff, -⟩ := (access_token_lifecycle hc (fun e he => (hclock e he).1)
      ⟨fun e he => (hclock e he).2, hmono⟩ hr).2 (accessToken 1) htoken
    exact ⟨c, context, pre, e, hc, hr, ⟨s, hs⟩, ho, hiff.mp ⟨s, hs⟩⟩
  · cases hguard

/-- A guard does not act for a session that had been revoked when it started. -/
theorem guard_not_revoked {c : (server P O cb sb).Config} (hc : (server P O cb sb).Reachable c)
    (hpos : PositiveClock c.history) (hp : h <+: c.history) (hr0 : rowsAt h id = some r)
    (hrevoked : r.revokedAt ≠ none) {tid : ℕ} (hstart : StartedAfter h c tid)
    {req : GuardRequest} {hasResolver : Bool} {context : GuardContext}
    (hr : Returned c tid (.loadGuardContext req hasResolver) (.guarded context))
    (hs : context.session? = some s) : s.sessionId ≠ id := by
  rintro rfl
  have hv := System.Valid.of_reachable hc
  obtain ⟨hnone, hlookup⟩ := guard_lookup hc hr
  cases htoken : presentedToken req with
  | none =>
    rw [hnone htoken] at hs
    cases hs
  | some token =>
    obtain ⟨pre, e, found, ho, rfl, hev, hcontext⟩ := hlookup token htoken
    obtain ⟨hrow, -, hunrevoked, -⟩ := held_of_admitted (hv.restrict ho) hev (hcontext ▸ hs)
    have hstill := revokedAt_persists (hv.restrict ho.before) (hstart.before hc hp ho) hr0
      hrevoked hrow
    rw [(revoked_iff (hv.restrict ho.before) (hpos.restrict ho.before) hrow).mpr hstill]
      at hunrevoked
    cases hunrevoked

end NapAuth

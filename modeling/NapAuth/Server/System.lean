import NapAuth.Interleaving.System
import NapAuth.Server.Program
import NapAuth.Store.Memory
import NapAuth.Store.Postgres

/-!
# The server as a concurrent system

Any number of calls of the server's functions over one challenge store and one session store, each
of which is one of the two of the repository (`Backend`). `exec` executes one operation, and
`server` is the system whose runs are studied.

The environment decides what the code takes from outside: the clock, the verdicts of the rate
limiter and of the ACL resolver, and random bytes. Nothing is assumed of it but that the random
strings are new whenever they are drawn (`admissible`). What a claim needs of the clock is a
hypothesis of that claim.
-/

namespace NapAuth

open Interleaving

/-! ## Backends -/

/-- The implementations of the stores. -/
inductive Backend where
  /-- `memory.ts`. -/
  | memory
  /-- `nap-store-postgres`. -/
  | postgres
  deriving DecidableEq

namespace Backend

/-- The challenge store of a backend. -/
def challengeStore : Backend → ChallengeStore
  | memory => MemoryChallenges.store
  | postgres => PostgresChallenges.store

/-- The representation invariant of a backend's challenge store. -/
def ChallengesWF : (b : Backend) → b.challengeStore.State → Prop
  | memory => MemoryChallenges.WF
  | postgres => PostgresChallenges.WF

/-- The session store of a backend. -/
def sessionStore : Backend → SessionStore
  | memory => MemorySessions.store
  | postgres => PostgresSessions.store

/-- What a state of a backend's session store stands for. -/
def view : (b : Backend) → b.sessionStore.View
  | memory => MemorySessions.view
  | postgres => PostgresSessions.view

theorem challengeStore_lawful (b : Backend) : b.challengeStore.Lawful b.ChallengesWF := by
  cases b
  · exact MemoryChallenges.store_lawful
  · exact PostgresChallenges.store_lawful

theorem challengeStore_counts (b : Backend) : b.challengeStore.Counts b.ChallengesWF := by
  cases b
  · exact MemoryChallenges.store_counts
  · exact PostgresChallenges.store_counts

theorem challengeStore_tallies (b : Backend) : b.challengeStore.Tallies b.ChallengesWF := by
  cases b
  · exact MemoryChallenges.store_tallies
  · exact PostgresChallenges.store_tallies

theorem sessionStore_lawful (b : Backend) : SessionStore.Lawful b.view := by
  cases b
  · exact MemorySessions.store_lawful
  · exact PostgresSessions.store_lawful

/-- The in-memory store hands back every row. -/
@[simp] theorem visible_memory (r : SessionRecord) : memory.view.visible r = true := rfl

/-- The Postgres store hands back the rows that are not revoked. -/
@[simp] theorem visible_postgres (r : SessionRecord) :
    postgres.view.visible r = r.revokedAt.isNone := rfl

/-- Both hand back a row that is not revoked. -/
theorem visible_of_unrevoked (b : Backend) {r : SessionRecord} (h : r.revokedAt = none) :
    b.view.visible r = true := by
  cases b <;> simp [h]

end Backend

/-! ## The machine -/

/-- What the environment contributes to an operation. -/
structure Env where
  /-- The server's clock. -/
  now : ℤ
  /-- The clock that a store reads by itself. -/
  storeNow : ℤ
  /-- The rate limiter's verdict. -/
  rateLimit : RateLimitDecision
  /-- The ACL resolver's verdict. -/
  acl : AclDecision
  /-- Random bytes. -/
  draws : Draws

/-- The state of both stores. -/
structure Stores (cb sb : Backend) where
  challenges : cb.challengeStore.State
  sessions : sb.sessionStore.State

variable {cb sb : Backend}

/-- The answer to an operation, and the stores after it. -/
def exec : (op : Op) → Env → Stores cb sb → Res op × Stores cb sb
  | .count _, _, s => ((), s)
  | .log _, _, s => ((), s)
  | .nowUnix, e, s => (e.now, s)
  | .checkRateLimit _, e, s => ((e.rateLimit, e.now), s)
  | .resolve _ _ _, e, s => ((e.acl, e.now), s)
  | .challengeCreate draft, e, s =>
    let record := challengeRecord draft e.draws
    let created := cb.challengeStore.create e.storeNow record s.challenges
    (if created.1 then some record else none, { s with challenges := created.2 })
  | .challengeGet challengeId, _, s => (cb.challengeStore.get challengeId s.challenges, s)
  | .redeem challengeId params, _, s =>
    let redeemed := cb.challengeStore.redeem challengeId params s.challenges
    (redeemed.1, { s with challenges := redeemed.2 })
  | .markExpired now, _, s =>
    let marked := cb.challengeStore.markExpired now s.challenges
    (marked.1, { s with challenges := marked.2 })
  | .countOutstanding filter, _, s => (cb.challengeStore.countOutstanding filter s.challenges, s)
  | .recordFailure challengeId now maxFailures, _, s =>
    let recorded := cb.challengeStore.recordFailure challengeId now maxFailures s.challenges
    (recorded.1, { s with challenges := recorded.2 })
  | .createForChallenge draft, e, s =>
    let created := sb.sessionStore.createForChallenge e.storeNow
      (createSessionRecord draft e.draws) s.sessions
    (created.1, { s with sessions := created.2 })
  | .getBySessionId sessionId, _, s => (sb.sessionStore.getBySessionId sessionId s.sessions, s)
  | .getByAccessToken token, e, s =>
    let found := sb.sessionStore.getByAccessToken e.storeNow token s.sessions
    ((found.1, e.now), { s with sessions := found.2 })
  | .revokeBySessionId sessionId now, _, s =>
    ((), { s with sessions := sb.sessionStore.revokeBySessionId sessionId now s.sessions })
  | .revokeByPrincipal pubkey now, _, s =>
    let revoked := sb.sessionStore.revokeByPrincipal pubkey now s.sessions
    (revoked.1, { s with sessions := revoked.2 })
  | .getByRefreshToken token, e, s =>
    ((sb.sessionStore.getByRefreshToken token s.sessions, e.now), s)
  | .rotateRefreshToken sessionId draft, e, s =>
    let rotated := sb.sessionStore.rotateRefreshToken sessionId (rotateParams draft e.draws)
      s.sessions
    (rotated.1, { s with sessions := rotated.2 })

variable (cb sb) in
/-- The two stores, at first empty. -/
@[reducible] def machine : Machine Res where
  State := Stores cb sb
  Env := Env
  init := ⟨cb.challengeStore.init, sb.sessionStore.init⟩
  exec := exec

variable (cb sb) in
/-- The operations executed so far, oldest first. -/
abbrev History : Type := List (Step (machine cb sb))

/-- The strings that a step has drawn. -/
def drawnBy (e : Step (machine cb sb)) : List String :=
  match e.op with
  | .challengeCreate _ | .createForChallenge _ | .rotateRefreshToken _ _ => e.env.draws.strings
  | _ => []

/-- The strings that a history has drawn. -/
def drawn (h : History cb sb) : List String := h.flatMap drawnBy

/-- What is assumed of the environment: the strings that a step draws are not empty, differ from
each other, and have not been drawn before. -/
def admissible (h : History cb sb) (e : Step (machine cb sb)) : Bool :=
  decide ((drawnBy e).Nodup ∧ ∀ t ∈ drawnBy e, t ≠ "" ∧ t ∉ drawn h)

/-- The server over two stores. -/
@[reducible] def server (P : Platform) (O : NapServerOptions) (cb sb : Backend) :
    System Res Call Outcome :=
  { machine cb sb with
    body := body P O
    aborted := .aborted
    admissible := admissible }

@[simp] theorem drawn_nil : drawn ([] : History cb sb) = [] := rfl

@[simp] theorem drawn_concat (h : History cb sb) (e : Step (machine cb sb)) :
    drawn (h ++ [e]) = drawn h ++ drawnBy e := by
  simp [drawn]

theorem admissible_iff {h : History cb sb} {e : Step (machine cb sb)} :
    admissible h e = true ↔ (drawnBy e).Nodup ∧ ∀ t ∈ drawnBy e, t ≠ "" ∧ t ∉ drawn h := by
  simp [admissible]

/-! ## What the stores hold -/

/-- The challenge that is held under an id after a history. -/
def challengeAt (h : History cb sb) (id : String) : Option ChallengeRecord :=
  cb.challengeStore.get id ((machine cb sb).after h).challenges

/-- The sessions that are held after a history, by session id. -/
def rowsAt (h : History cb sb) : SessionRows := sb.view.rows ((machine cb sb).after h).sessions

/-- The operation of the challenge store that an event is, if it is one that may change it. -/
def challengeOp? (env : Env) : Event Res → Option ChallengeOp
  | ⟨.challengeCreate draft, answer⟩ =>
    some (.create env.storeNow (challengeRecord draft env.draws) answer.isSome)
  | ⟨.redeem id params, status⟩ => some (.redeem id params status)
  | ⟨.markExpired now, _⟩ => some (.markExpired now)
  | ⟨.recordFailure id _ _, _⟩ => some (.recordFailure id)
  | _ => none

/-- The operation of the session store that an event is, if it is one that may change it. -/
def sessionOp? (env : Env) : Event Res → Option SessionOp
  | ⟨.createForChallenge draft, answer⟩ =>
    some (.create env.storeNow (createSessionRecord draft env.draws) answer)
  | ⟨.getByAccessToken _, _⟩ => some (.lookup env.storeNow)
  | ⟨.revokeBySessionId id now, _⟩ => some (.revokeBySessionId id now)
  | ⟨.revokeByPrincipal pubkey now, _⟩ => some (.revokeByPrincipal pubkey now)
  | ⟨.rotateRefreshToken id draft, answer⟩ =>
    some (.rotate id (rotateParams draft env.draws) answer)
  | _ => none

section Operations

variable {env : Env} {ev : Event Res}

/-- What is known of an event that is an operation of the challenge store. -/
theorem challengeOp?_eq_some {op : ChallengeOp} (h : challengeOp? env ev = some op) : match op with
    | .create now record done => ∃ draft answer, ev = ⟨.challengeCreate draft, answer⟩ ∧
      now = env.storeNow ∧ record = challengeRecord draft env.draws ∧ done = answer.isSome
    | .redeem id params status => ev = ⟨.redeem id params, status⟩
    | .markExpired now => ∃ n, ev = ⟨.markExpired now, n⟩
    | .recordFailure id =>
      ∃ now maxFailures answer, ev = ⟨.recordFailure id now maxFailures, answer⟩ := by
  obtain ⟨o, answer⟩ := ev
  cases o <;> simp only [challengeOp?, reduceCtorEq, Option.some.injEq] at h <;> subst h
  case challengeCreate draft => exact ⟨draft, answer, rfl, rfl, rfl, rfl⟩
  case redeem id params => rfl
  case markExpired now => exact ⟨answer, rfl⟩
  case recordFailure id now maxFailures => exact ⟨now, maxFailures, answer, rfl⟩

/-- What is known of an event that is an operation of the session store. -/
theorem sessionOp?_eq_some {op : SessionOp} (h : sessionOp? env ev = some op) : match op with
    | .create now record answer => ∃ draft, ev = ⟨.createForChallenge draft, answer⟩ ∧
      now = env.storeNow ∧ record = createSessionRecord draft env.draws
    | .lookup now => now = env.storeNow ∧ ∃ token answer, ev = ⟨.getByAccessToken token, answer⟩
    | .revokeBySessionId id now => ev = ⟨.revokeBySessionId id now, ()⟩
    | .revokeByPrincipal pubkey now => ∃ n, ev = ⟨.revokeByPrincipal pubkey now, n⟩
    | .rotate id params answer => ∃ draft, ev = ⟨.rotateRefreshToken id draft, answer⟩ ∧
      params = rotateParams draft env.draws := by
  obtain ⟨o, answer⟩ := ev
  cases o <;> simp only [sessionOp?, reduceCtorEq, Option.some.injEq] at h <;> subst h
  case createForChallenge draft => exact ⟨draft, rfl, rfl, rfl⟩
  case getByAccessToken token => exact ⟨rfl, token, answer, rfl⟩
  case revokeBySessionId id now => rfl
  case revokeByPrincipal pubkey now => exact ⟨answer, rfl⟩
  case rotateRefreshToken id draft => exact ⟨draft, rfl, rfl⟩

end Operations

/-- What a step does to the challenge under an id. -/
def ChallengeStep (h : History cb sb) (e : Step (machine cb sb)) (id : String) : Prop :=
  challengeAt (h ++ [e]) id = challengeAt h id ∨
    ∃ op, challengeOp? e.env ((machine cb sb).event h e) = some op ∧
      ChallengeChange op id (challengeAt h id) (challengeAt (h ++ [e]) id)

/-- What a step does to the session under a session id. -/
def SessionStep (h : History cb sb) (e : Step (machine cb sb)) (id : String) : Prop :=
  rowsAt (h ++ [e]) id = rowsAt h id ∨
    ∃ op, sessionOp? e.env ((machine cb sb).event h e) = some op ∧
      SessionChange sb.view.visible op id (rowsAt h id) (rowsAt (h ++ [e]) id)

/-- What holds of the stores after every history of a run. -/
structure Sound (h : History cb sb) : Prop where
  /-- The challenge store is well-formed. -/
  challenges_wf : cb.ChallengesWF ((machine cb sb).after h).challenges
  /-- The session store is well-formed. -/
  sessions_wf : sb.view.WF ((machine cb sb).after h).sessions
  /-- Each challenge id has been drawn. -/
  id_drawn : ∀ id r, challengeAt h id = some r → id ∈ drawn h
  /-- Each string that a session is found under has been drawn. -/
  keys_drawn : ∀ id r, rowsAt h id = some r → ∀ t ∈ r.keys, t ∈ drawn h

/-- The strings of a new session are among those drawn for it. -/
theorem keys_createSessionRecord {draft : SessionDraft} {draws : Draws} {t : String}
    (ht : t ∈ (createSessionRecord draft draws).keys) : t ∈ draws.strings := by
  simp only [SessionRecord.keys, createSessionRecord, List.mem_cons, List.mem_append,
    Option.mem_toList, Draws.strings] at ht ⊢
  rcases ht with rfl | rfl | ht | ht
  · simp
  · simp
  · split_ifs at ht with hr
    simp [Option.mem_some.mp ht]
  · cases ht

section Steps

variable {h : History cb sb} {e : Step (machine cb sb)}

/-- A string that has not been drawn is fresh. -/
theorem Sound.fresh (hs : Sound h) {t : String} (hne : t ≠ "") (ht : t ∉ drawn h) :
    (rowsAt h).Fresh t :=
  ⟨hne, fun id r hr hk => ht (hs.keys_drawn id r hr t hk)⟩

/-- The session that a step would create is new. -/
theorem Sound.isNew (hs : Sound h) {draft : SessionDraft} (hop : e.op = .createForChallenge draft)
    (hadm : admissible h e = true) :
    (createSessionRecord draft e.env.draws).IsNew (rowsAt h) := by
  refine ⟨fun t ht => ?_, rfl, rfl⟩
  have hmem : t ∈ drawnBy e := by
    rw [drawnBy, hop]
    exact keys_createSessionRecord ht
  obtain ⟨hne, hnew⟩ := (admissible_iff.mp hadm).2 t hmem
  exact hs.fresh hne hnew

/-- The tokens that a rotation would hand out are fresh. -/
theorem Sound.fresh_rotate (hs : Sound h) {id : String} {draft : RotateDraft}
    (hop : e.op = .rotateRefreshToken id draft) (hadm : admissible h e = true) :
    (rowsAt h).Fresh (rotateParams draft e.env.draws).accessToken ∧
      (rowsAt h).Fresh (rotateParams draft e.env.draws).refreshToken := by
  have hdraw : ∀ t ∈ e.env.draws.strings, (rowsAt h).Fresh t := by
    intro t ht
    obtain ⟨hne, hnew⟩ := (admissible_iff.mp hadm).2 t (by rw [drawnBy, hop]; exact ht)
    exact hs.fresh hne hnew
  exact ⟨hdraw _ (by simp [Draws.strings, rotateParams]),
    hdraw _ (by simp [Draws.strings, rotateParams])⟩

/-- The challenge that a step would create has an id that is not in use. -/
theorem Sound.challenge_unused (hs : Sound h) {draft : ChallengeDraft}
    (hop : e.op = .challengeCreate draft) (hadm : admissible h e = true) :
    challengeAt h (challengeRecord draft e.env.draws).challengeId = none := by
  rw [Option.eq_none_iff_forall_ne_some]
  intro r hr
  refine ((admissible_iff.mp hadm).2 (base64Url e.env.draws.id) ?_).2 (hs.id_drawn _ r hr)
  rw [drawnBy, hop]
  simp [Draws.strings]

/-- Every step keeps the challenge store well-formed, and does to a challenge what its operation
may do. -/
theorem Sound.challenge_step (hs : Sound h) (hadm : admissible h e = true) :
    cb.ChallengesWF ((machine cb sb).after (h ++ [e])).challenges ∧
      ∀ id, ChallengeStep h e id := by
  have hlaw := cb.challengeStore_lawful
  -- A step that leaves the store alone.
  have hidle : ((machine cb sb).after (h ++ [e])).challenges = ((machine cb sb).after h).challenges →
      cb.ChallengesWF ((machine cb sb).after (h ++ [e])).challenges ∧
        ∀ id, ChallengeStep h e id := by
    intro heq
    refine ⟨heq ▸ hs.challenges_wf, fun id => Or.inl ?_⟩
    rw [challengeAt, heq, challengeAt]
  obtain ⟨tid, op, env⟩ := e
  cases op with
  | challengeCreate draft =>
    obtain ⟨hwf, hch⟩ := @ChallengeStore.Lawful.create _ _ hlaw _ env.storeNow _
      hs.challenges_wf (hs.challenge_unused rfl hadm) ⟨rfl, rfl, rfl, rfl⟩
    refine ⟨by simpa [Machine.next, exec] using hwf, fun id => Or.inr ⟨_, rfl, ?_⟩⟩
    have hanswer : (if (cb.challengeStore.create env.storeNow (challengeRecord draft env.draws)
        ((machine cb sb).after h).challenges).1 = true then
          some (challengeRecord draft env.draws) else none).isSome =
        (cb.challengeStore.create env.storeNow (challengeRecord draft env.draws)
          ((machine cb sb).after h).challenges).1 := by
      split <;> simp_all
    simpa [challengeAt, Machine.next, Machine.event, exec, hanswer] using hch id
  | redeem id' params =>
    obtain ⟨hwf, hch⟩ := @ChallengeStore.Lawful.redeem _ _ hlaw _ id' params hs.challenges_wf
    exact ⟨by simpa [Machine.next, exec] using hwf, fun id => Or.inr ⟨_, rfl, by
      simpa [challengeAt, Machine.next, Machine.event, exec] using hch id⟩⟩
  | markExpired now =>
    obtain ⟨hwf, hch⟩ := @ChallengeStore.Lawful.markExpired _ _ hlaw _ now hs.challenges_wf
    exact ⟨by simpa [Machine.next, exec] using hwf, fun id => Or.inr ⟨_, rfl, by
      simpa [challengeAt, Machine.next, Machine.event, exec] using hch id⟩⟩
  | recordFailure id' now maxFailures =>
    obtain ⟨hwf, hch⟩ := @ChallengeStore.Lawful.recordFailure _ _ hlaw _ id' now maxFailures
      hs.challenges_wf
    exact ⟨by simpa [Machine.next, exec] using hwf, fun id => Or.inr ⟨_, rfl, by
      simpa [challengeAt, Machine.next, Machine.event, exec] using hch id⟩⟩
  | _ => exact hidle (by rw [Machine.after_concat]; rfl)

/-- Every step keeps the session store well-formed, and does to a session what its operation may
do. -/
theorem Sound.session_step (hs : Sound h) (hadm : admissible h e = true) :
    sb.view.WF ((machine cb sb).after (h ++ [e])).sessions ∧ ∀ id, SessionStep h e id := by
  have hlaw := sb.sessionStore_lawful
  -- A step that leaves the store alone.
  have hidle : ((machine cb sb).after (h ++ [e])).sessions = ((machine cb sb).after h).sessions →
      sb.view.WF ((machine cb sb).after (h ++ [e])).sessions ∧ ∀ id, SessionStep h e id := by
    intro heq
    refine ⟨heq ▸ hs.sessions_wf, fun id => Or.inl ?_⟩
    rw [rowsAt, heq, rowsAt]
  obtain ⟨tid, op, env⟩ := e
  cases op with
  | createForChallenge draft =>
    obtain ⟨hwf, hch⟩ := @SessionStore.Lawful.create _ _ hlaw _ env.storeNow _ hs.sessions_wf
      (hs.isNew rfl hadm)
    exact ⟨by simpa [Machine.next, exec] using hwf, fun id => Or.inr ⟨_, rfl, by
      simpa [rowsAt, Machine.next, Machine.event, exec] using hch id⟩⟩
  | getByAccessToken token =>
    obtain ⟨hwf, hch⟩ := @SessionStore.Lawful.getByAccessToken _ _ hlaw _ env.storeNow token
      hs.sessions_wf
    exact ⟨by simpa [Machine.next, exec] using hwf, fun id => Or.inr ⟨_, rfl, by
      simpa [rowsAt, Machine.next, Machine.event, exec] using hch id⟩⟩
  | revokeBySessionId id' now =>
    obtain ⟨hwf, hch⟩ := @SessionStore.Lawful.revokeBySessionId _ _ hlaw _ id' now hs.sessions_wf
    exact ⟨by simpa [Machine.next, exec] using hwf, fun id => Or.inr ⟨_, rfl, by
      simpa [rowsAt, Machine.next, Machine.event, exec] using hch id⟩⟩
  | revokeByPrincipal pubkey now =>
    obtain ⟨hwf, hch⟩ := @SessionStore.Lawful.revokeByPrincipal _ _ hlaw _ pubkey now hs.sessions_wf
    exact ⟨by simpa [Machine.next, exec] using hwf, fun id => Or.inr ⟨_, rfl, by
      simpa [rowsAt, Machine.next, Machine.event, exec] using hch id⟩⟩
  | rotateRefreshToken id' draft =>
    obtain ⟨haccess, hrefresh⟩ := hs.fresh_rotate rfl hadm
    obtain ⟨hwf, hch⟩ := @SessionStore.Lawful.rotate _ _ hlaw _ id' _ hs.sessions_wf haccess hrefresh
    exact ⟨by simpa [Machine.next, exec] using hwf, fun id => Or.inr ⟨_, rfl, by
      simpa [rowsAt, Machine.next, Machine.event, exec] using hch id⟩⟩
  | _ => exact hidle (by rw [Machine.after_concat]; rfl)

/-- The strings that a step draws for an operation. -/
theorem drawnBy_eq {op : Op} {r : Res op} (hev : (machine cb sb).event h e = ⟨op, r⟩) :
    drawnBy e = drawnBy (⟨e.tid, op, e.env⟩ : Step (machine cb sb)) := by
  obtain ⟨rfl, -⟩ := Machine.event_eq_iff _ |>.mp hev
  rfl

/-- Every step keeps the stores sound. -/
theorem Sound.step (hs : Sound h) (hadm : admissible h e = true) : Sound (h ++ [e]) := by
  obtain ⟨hcwf, hcstep⟩ := hs.challenge_step hadm
  obtain ⟨hswf, hsstep⟩ := hs.session_step hadm
  refine ⟨hcwf, hswf, fun id r hr => ?_, fun id r hr t ht => ?_⟩
  · rw [drawn_concat, List.mem_append]
    rcases hcstep id with heq | ⟨op, hop, hch⟩
    · exact Or.inl (hs.id_drawn id r (heq ▸ hr))
    · rw [hr] at hch
      generalize hbefore : challengeAt h id = before at hch
      cases hch with
      | created issue new =>
        obtain ⟨draft, answer, hev, -, rfl, -⟩ := challengeOp?_eq_some hop
        exact Or.inr (by rw [drawnBy_eq hev]; simp [drawnBy, Draws.strings, challengeRecord])
      | _ => exact Or.inl (hs.id_drawn _ _ hbefore)
  · rw [drawn_concat, List.mem_append]
    rcases hsstep id with heq | ⟨op, hop, hch⟩
    · exact Or.inl (hs.keys_drawn id r (heq ▸ hr) t ht)
    · rw [hr] at hch
      generalize hbefore : rowsAt h id = before at hch
      cases hch with
      | created =>
        obtain ⟨draft, hev, -, rfl⟩ := sessionOp?_eq_some hop
        exact Or.inr (by rw [drawnBy_eq hev]; exact keys_createSessionRecord ht)
      | @rotated _ params r current seen =>
        obtain ⟨draft, hev, rfl⟩ := sessionOp?_eq_some hop
        have hold := hs.keys_drawn _ _ hbefore
        -- The old session id and the old refresh token are still there; the tokens are new.
        rw [drawnBy_eq hev]
        simp only [SessionRecord.mem_keys, SessionRecord.HasRefreshToken, SessionRecord.rotate,
          rotateParams, Option.some.injEq] at ht
        rcases ht with rfl | rfl | rfl | hprev
        · exact Or.inl (hold _ (by simp))
        · exact Or.inr (by simp [drawnBy, Draws.strings])
        · exact Or.inr (by simp [drawnBy, Draws.strings])
        · exact Or.inl (hold t (by simp [SessionRecord.HasRefreshToken, hprev]))
      | revokedById time => exact Or.inl (hs.keys_drawn _ _ hbefore t ht)
      | revokedByPrincipal principal time => exact Or.inl (hs.keys_drawn _ _ hbefore t ht)
      | same => exact Or.inl (hs.keys_drawn _ _ hbefore t ht)

/-- The stores are sound at first. -/
theorem sound_nil : Sound ([] : History cb sb) where
  challenges_wf := cb.challengeStore_lawful.wf_init
  sessions_wf := sb.sessionStore_lawful.wf_init
  id_drawn id r hr := by
    rw [challengeAt, Machine.after_nil, cb.challengeStore_lawful.get_init] at hr
    cases hr
  keys_drawn id r hr := by
    rw [rowsAt, Machine.after_nil, sb.sessionStore_lawful.rows_init] at hr
    cases hr

end Steps

section Runs

variable {P : Platform} {O : NapServerOptions} {h pre : History cb sb} {e : Step (machine cb sb)}

/-- The stores are sound after every history of a run. -/
theorem sound_of_valid (hv : (server P O cb sb).Valid h) : Sound h :=
  hv.rec_on sound_nil fun _ _ _ hv' ih => ih.step (hv'.admissible Occurs.last)

/-- What a step of a run does to a challenge. -/
theorem challenge_step (hv : (server P O cb sb).Valid (h ++ [e])) (id : String) :
    ChallengeStep h e id :=
  ((sound_of_valid (hv.restrict (List.prefix_append _ _))).challenge_step
    (hv.admissible Occurs.last)).2 id

/-- What a step of a run does to a session. -/
theorem session_step (hv : (server P O cb sb).Valid (h ++ [e])) (id : String) :
    SessionStep h e id :=
  ((sound_of_valid (hv.restrict (List.prefix_append _ _))).session_step
    (hv.admissible Occurs.last)).2 id

end Runs

end NapAuth

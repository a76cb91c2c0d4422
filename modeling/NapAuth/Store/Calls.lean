import NapAuth.Lockstep
import NapAuth.Store.Memory
import NapAuth.Store.Postgres

/-!
# Sequences of store calls

A call of a store's method with its arguments, as data, and what a store does on a sequence of
calls. A call that reads the store's own clock carries the reading.

A lawful session store keeps its invariant on every sequence whose ids and tokens are fresh
(`SessionStore.Lawful.run_wf`). For the in-memory store the invariant says that its four maps index
the same sessions, each under its current keys (`MemorySessions.Consistent`).
-/

namespace NapAuth

/-! ## Challenges -/

/-- A call of a challenge store. -/
inductive ChallengeCall where
  | create (now : ℤ) (record : ChallengeRecord)
  | get (challengeId : String)
  | redeem (challengeId : String) (params : RedeemParams)
  | markExpired (now : ℤ)
  | countOutstanding (filter : OutstandingChallengeFilter)
  | recordFailure (challengeId : String) (now maxFailures : ℤ)

/-- What a challenge store answers. -/
inductive ChallengeAnswer where
  | created (done : Bool)
  | found (record : Option ChallengeRecord)
  | status (status : RedeemStatus)
  | count (n : ℕ)
  | failure (result : Option RecordChallengeFailureResult)
  deriving DecidableEq

/-- What a challenge store does on a call. -/
def ChallengeStore.perform (C : ChallengeStore) (s : C.State) :
    ChallengeCall → ChallengeAnswer × C.State
  | .create now record => ((C.create now record s).map .created id)
  | .get challengeId => (.found (C.get challengeId s), s)
  | .redeem challengeId params => ((C.redeem challengeId params s).map .status id)
  | .markExpired now => ((C.markExpired now s).map .count id)
  | .countOutstanding filter => (.count (C.countOutstanding filter s), s)
  | .recordFailure challengeId now maxFailures =>
    ((C.recordFailure challengeId now maxFailures s).map .failure id)

/-! ## Sessions -/

/-- A call of a session store. -/
inductive SessionCall where
  | createForChallenge (now : ℤ) (record : SessionRecord)
  | getBySessionId (sessionId : String)
  | getByAccessToken (now : ℤ) (token : String)
  | revokeBySessionId (sessionId : String) (now : ℤ)
  | revokeByPrincipal (pubkey : String) (now : ℤ)
  | getByRefreshToken (token : String)
  | rotateRefreshToken (sessionId : String) (params : RotateRefreshTokenParams)

/-- What a session store answers. -/
inductive SessionAnswer where
  | session (record : Option SessionRecord)
  | count (n : ℕ)
  | done
  deriving DecidableEq

/-- What a session store does on a call. -/
def SessionStore.perform (S : SessionStore) (s : S.State) : SessionCall → SessionAnswer × S.State
  | .createForChallenge now record => ((S.createForChallenge now record s).map .session id)
  | .getBySessionId sessionId => (.session (S.getBySessionId sessionId s), s)
  | .getByAccessToken now token => ((S.getByAccessToken now token s).map .session id)
  | .revokeBySessionId sessionId now => (.done, S.revokeBySessionId sessionId now s)
  | .revokeByPrincipal pubkey now => ((S.revokeByPrincipal pubkey now s).map .count id)
  | .getByRefreshToken token => (.session (S.getByRefreshToken token s), s)
  | .rotateRefreshToken sessionId params =>
    ((S.rotateRefreshToken sessionId params s).map .session id)

/-- The ids and tokens that a call brings with it are fresh: the session of a login is new, and so
are the tokens of a rotation. -/
def SessionCall.Fresh (rows : SessionRows) : SessionCall → Prop
  | .createForChallenge _ record => record.IsNew rows
  | .rotateRefreshToken _ params => rows.Fresh params.accessToken ∧ rows.Fresh params.refreshToken
  | _ => True

/-- A fresh call keeps the invariant of a lawful store. -/
theorem SessionStore.Lawful.perform_wf {S : SessionStore} {V : S.View} (hlaw : S.Lawful V)
    {s : S.State} (h : V.WF s) {call : SessionCall} (hfresh : call.Fresh (V.rows s)) :
    V.WF (S.perform s call).2 := by
  cases call with
  | createForChallenge now record => exact (hlaw.create h hfresh).1
  | getBySessionId sessionId => exact h
  | getByAccessToken now token => exact (hlaw.getByAccessToken h).1
  | revokeBySessionId sessionId now => exact (hlaw.revokeBySessionId h).1
  | revokeByPrincipal pubkey now => exact (hlaw.revokeByPrincipal h).1
  | getByRefreshToken token => exact h
  | rotateRefreshToken sessionId params => exact (hlaw.rotate h hfresh.1 hfresh.2).1

/-- Every call of a sequence is fresh when it is made. -/
def SessionStore.View.FreshCalls {S : SessionStore} (V : S.View) (calls : List SessionCall) : Prop :=
  Lockstep.Always S.perform (fun s call => call.Fresh (V.rows s)) S.init calls

/-- A lawful store keeps its invariant on every sequence of fresh calls. -/
theorem SessionStore.Lawful.run_wf {S : SessionStore} {V : S.View} (hlaw : S.Lawful V)
    {calls : List SessionCall} (hfresh : V.FreshCalls calls) :
    V.WF (Lockstep.run S.perform S.init calls) :=
  Lockstep.Always.invariant (I := V.WF) (fun _ _ h hcall => hlaw.perform_wf h hcall) hlaw.wf_init
    hfresh

namespace MemorySessions

variable {s : MemorySessions} {i : ℕ} {r : SessionRecord}

/-- The object `i` is the session `r`, and one of the maps leads to it. -/
def Resident (s : MemorySessions) (i : ℕ) (r : SessionRecord) : Prop :=
  s.objects[i]? = some r ∧
    ∃ k, s.sessionsById.lookup k = some i ∨ s.sessionsByChallengeId.lookup k = some i ∨
      s.sessionsByAccessToken.lookup k = some i ∨ s.sessionsByRefreshToken.lookup k = some i

/-- The four maps index the same sessions: each of them holds every session that some map leads to,
under its current keys, and holds nothing else. -/
structure Consistent (s : MemorySessions) : Prop where
  /-- `sessionsById` holds every session under its id. -/
  byId : ∀ k i, s.sessionsById.lookup k = some i ↔ ∃ r, s.Resident i r ∧ k = r.sessionId
  /-- `sessionsByChallengeId` holds every session under its challenge. -/
  byChallengeId : ∀ k i, s.sessionsByChallengeId.lookup k = some i ↔
    ∃ r, s.Resident i r ∧ k = r.challengeId
  /-- `sessionsByAccessToken` holds every session under its current access token. -/
  byAccessToken : ∀ k i, s.sessionsByAccessToken.lookup k = some i ↔
    ∃ r, s.Resident i r ∧ k = r.accessToken
  /-- `sessionsByRefreshToken` holds every session that has refresh tokens under its current and
  its previous one. -/
  byRefreshToken : ∀ k i, s.sessionsByRefreshToken.lookup k = some i ↔
    ∃ r, s.Resident i r ∧ (some k = r.refreshToken ∨ some k = r.previousRefreshToken)

/-- By the invariant, the sessions that any map leads to are those that `sessionsById` leads to. -/
theorem WF.resident_iff (h : s.WF) : s.Resident i r ↔ s.Live i r := by
  constructor
  · rintro ⟨hobj, k, hk⟩
    have hindexed : ∃ r', s.Live i r' := by
      rcases hk with hk | hk | hk | hk
      · obtain ⟨r', hobj', rfl⟩ := h.ids hk
        exact ⟨r', hobj', hk⟩
      · exact ((h.challenges k i).mp hk).imp fun _ hr => hr.1
      · exact ((h.accessTokens k i).mp hk).imp fun _ hr => hr.1
      · exact ((h.refreshTokens k i).mp hk).imp fun _ hr => hr.1
    obtain ⟨r', hlive⟩ := hindexed
    have hr : r' = r := Option.some.inj (hlive.1.symm.trans hobj)
    exact hr ▸ hlive
  · intro hlive
    exact ⟨hlive.1, r.sessionId, Or.inl hlive.2⟩

/-- The invariant, in terms of the maps alone. -/
theorem WF.consistent (h : s.WF) : s.Consistent where
  byId := by
    intro k i
    simp only [h.resident_iff]
    constructor
    · intro hk
      obtain ⟨r, hobj, hid⟩ := h.ids hk
      exact ⟨r, ⟨hobj, hid ▸ hk⟩, hid.symm⟩
    · rintro ⟨r, hlive, rfl⟩
      exact hlive.2
  byChallengeId := by
    intro k i
    simp only [h.resident_iff, h.challenges k i, eq_comm]
  byAccessToken := by
    intro k i
    simp only [h.resident_iff, h.accessTokens k i, eq_comm]
  byRefreshToken := by
    intro k i
    simp only [h.resident_iff, h.refreshTokens k i, SessionRecord.HasRefreshToken, eq_comm]

/-- **The maps index the same sessions.** After every sequence of calls with fresh ids and tokens,
whatever the readings of the clock and so whatever the sweeps, the four maps of the in-memory store
hold the same sessions, each under its current keys, and nothing else. -/
theorem maps_consistent (calls : List SessionCall) (hfresh : view.FreshCalls calls) :
    Consistent (Lockstep.run store.perform store.init calls) :=
  (store_lawful.run_wf hfresh).consistent

/-- A string that is not empty and that no session object holds is fresh. -/
theorem fresh_of_objects {t : String} (hne : t ≠ "") (h : ∀ r ∈ s.objects, t ∉ r.keys) :
    s.rows.Fresh t := by
  refine ⟨hne, fun id r hr => h r ?_⟩
  obtain ⟨i, -, hobj⟩ := Option.bind_eq_some_iff.mp hr
  exact List.mem_of_getElem? hobj

end MemorySessions

/-- A session as a login makes it, with a refresh token. -/
def sampleSession : SessionRecord where
  sessionId := "session"
  challengeId := "challenge"
  accessToken := "access"
  principalNpub := "npub1principal"
  principalPubkey := "principal"
  roles := ["user"]
  permissions := ["read"]
  issuedAt := 100
  expiresAt := 200
  stepUpToken := none
  stepUpExpiresAt := none
  refreshToken := some "refresh"
  refreshExpiresAt := some 300
  previousRefreshToken := none
  revokedAt := none

/-- A rotation of its tokens. -/
def sampleRotation : RotateRefreshTokenParams where
  expectedRefreshToken := "refresh"
  accessToken := "access-2"
  refreshToken := "refresh-2"
  now := 150
  expiresAt := 250
  refreshExpiresAt := 350
  roles := ["user"]
  permissions := ["read"]

/-- A new session for an empty store. -/
theorem sampleSession_isNew {rows : SessionRows} (hrows : ∀ id, rows id = none) :
    sampleSession.IsNew rows := by
  refine ⟨fun t ht => ⟨?_, fun id r hr => ?_⟩, rfl, rfl⟩
  · rintro rfl
    exact absurd ht (by decide)
  · rw [hrows] at hr
    cases hr

namespace MemorySessions

/-- A login, a rotation, and a lookup so late that its sweep drops the session. -/
theorem maps_consistent_rotated : Consistent (Lockstep.run store.perform store.init
    [.createForChallenge 100 sampleSession, .rotateRefreshToken "session" sampleRotation,
      .getByAccessToken 400 "access-2"]) := by
  refine maps_consistent _ ⟨sampleSession_isNew store_lawful.rows_init, ⟨?_, ?_⟩, trivial, trivial⟩
  · exact fresh_of_objects (by decide) (by decide)
  · exact fresh_of_objects (by decide) (by decide)

end MemorySessions

end NapAuth

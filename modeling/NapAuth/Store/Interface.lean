import Mathlib.Data.Set.Card
import NapAuth.Types

/-!
# Challenge and session stores

The interfaces `ChallengeStore` and `SessionStore` of `packages/nap-server/src/types.ts`, and what
the server may rely on. An operation of a store is atomic: it takes the store from one state to the
next.

What an operation may do to one record is said once, in `ChallengeChange` and `SessionChange`, with
the operation as an index. `ChallengeStore.Lawful` and `SessionStore.Lawful` say that a store does
nothing else and that its answers fit the records it holds. The two stores of the repository differ
in one respect that matters here, and the laws have a parameter for it: `visible` says which rows a
store hands back or rotates.
-/

namespace NapAuth

/-! ## Challenges -/

namespace ChallengeRecord

/-- A challenge as it was when it was issued: what no operation changes. -/
def asIssued (r : ChallengeRecord) : ChallengeRecord :=
  { r with state := .issued, redeemedEventId := none, redeemedSessionId := none,
           resultCacheUntil := none, failureCount := none }

/-- A challenge that has just been made. -/
structure IsNew (r : ChallengeRecord) : Prop where
  /-- It is issued. -/
  state : r.state = .issued
  /-- No event has redeemed it. -/
  redeemedEventId : r.redeemedEventId = none
  /-- No session has come of it. -/
  redeemedSessionId : r.redeemedSessionId = none
  /-- No result is cached. -/
  resultCacheUntil : r.resultCacheUntil = none

/-- Until when a challenge is kept: the end of its result cache, or else its own end. -/
def retainUntil (r : ChallengeRecord) : ℤ := r.resultCacheUntil.getD r.expiresAt

end ChallengeRecord

/-- The parameters of `redeem`. -/
structure RedeemParams where
  eventId : String
  sessionId : String
  now : ℤ
  resultCacheUntil : ℤ
  deriving DecidableEq

/-- The answers of `redeem`. -/
inductive RedeemStatus where
  | redeemed
  | alreadyRedeemed
  | notFound
  | expired
  deriving DecidableEq

/-- `OutstandingChallengeFilter`. -/
structure OutstandingChallengeFilter where
  npub : Option String
  clientIp : Option String
  now : ℤ
  deriving DecidableEq

/-- `RecordChallengeFailureResult`. -/
structure RecordChallengeFailureResult where
  failureCount : ℤ
  state : ChallengeState
  deriving DecidableEq

/-- A redeemed challenge. -/
def ChallengeRecord.redeem (r : ChallengeRecord) (params : RedeemParams) : ChallengeRecord :=
  { r with state := .redeemed, redeemedEventId := some params.eventId,
           redeemedSessionId := some params.sessionId,
           resultCacheUntil := some params.resultCacheUntil }

/-- The interface `ChallengeStore`. -/
structure ChallengeStore where
  /-- The state of the store. -/
  State : Type
  /-- The empty store. -/
  init : State
  /-- `create`, at the time on the store's own clock. `false`: it throws. -/
  create : ℤ → ChallengeRecord → State → Bool × State
  /-- `get`. -/
  get : String → State → Option ChallengeRecord
  /-- `redeem`. -/
  redeem : String → RedeemParams → State → RedeemStatus × State
  /-- `markExpired`. -/
  markExpired : ℤ → State → ℕ × State
  /-- `countOutstanding`. -/
  countOutstanding : OutstandingChallengeFilter → State → ℕ
  /-- `recordFailure`, with the time and the bound on failures. -/
  recordFailure : String → ℤ → ℤ → State → Option RecordChallengeFailureResult × State

/-- The operations that change a challenge store, some with their answer. -/
inductive ChallengeOp where
  | create (now : ℤ) (record : ChallengeRecord) (done : Bool)
  | redeem (challengeId : String) (params : RedeemParams) (status : RedeemStatus)
  | markExpired (now : ℤ)
  | recordFailure (challengeId : String)

/-- What an operation may do to the record under an id. -/
inductive ChallengeChange :
    ChallengeOp → String → Option ChallengeRecord → Option ChallengeRecord → Prop
  /-- It leaves the record alone. -/
  | same {op id r} : ChallengeChange op id r r
  /-- It inserts a record where there was none. -/
  | created {now record} {r : ChallengeRecord} (issue : r.asIssued = record.asIssued)
      (new : r.IsNew) :
      ChallengeChange (.create now record true) record.challengeId none (some r)
  /-- It drops a record that is no longer kept. -/
  | evicted {now record done id} {r : ChallengeRecord} (dead : r.retainUntil < now) :
      ChallengeChange (.create now record done) id (some r) none
  /-- It redeems an issued challenge before its end. -/
  | redeemed {id params} {r : ChallengeRecord} (issued : r.state = .issued)
      (alive : params.now ≤ r.expiresAt) :
      ChallengeChange (.redeem id params .redeemed) id (some r) (some (r.redeem params))
  /-- A late attempt to redeem marks the challenge as expired. -/
  | late {id params} {r : ChallengeRecord} (dead : r.expiresAt < params.now) :
      ChallengeChange (.redeem id params .expired) id (some r) (some { r with state := .expired })
  /-- An issued challenge past its end is marked as expired. -/
  | expired {now id} {r : ChallengeRecord} (issued : r.state = .issued)
      (dead : r.expiresAt < now) :
      ChallengeChange (.markExpired now) id (some r) (some { r with state := .expired })
  /-- A failure is counted on an issued challenge, which may end it. -/
  | failed {id count state} {r : ChallengeRecord} (issued : r.state = .issued)
      (next : state = .issued ∨ state = .failedTerminal) :
      ChallengeChange (.recordFailure id) id (some r)
        (some { r with failureCount := count, state := state })

/-- What the server relies on in a challenge store. `get` shows every record, so the laws are about
what `get` returns before and after. -/
structure ChallengeStore.Lawful (C : ChallengeStore) (WF : C.State → Prop) : Prop where
  /-- The empty store is well-formed. -/
  wf_init : WF C.init
  /-- The empty store holds nothing. -/
  get_init : ∀ id, C.get id C.init = none
  /-- A record is found under its own id. -/
  get_id : ∀ {s id r}, WF s → C.get id s = some r → r.challengeId = id
  /-- `create` under a new id inserts the record, unless it throws, and may drop dead records. -/
  create : ∀ {s now record}, WF s → C.get record.challengeId s = none → record.IsNew →
    WF (C.create now record s).2 ∧
    ∀ id, ChallengeChange (.create now record (C.create now record s).1) id (C.get id s)
      (C.get id (C.create now record s).2)
  /-- `redeem` changes no record but the one under the given id. -/
  redeem : ∀ {s id params}, WF s → WF (C.redeem id params s).2 ∧
    ∀ id', ChallengeChange (.redeem id params (C.redeem id params s).1) id' (C.get id' s)
      (C.get id' (C.redeem id params s).2)
  /-- `redeem` answers `redeemed` when it has redeemed an issued challenge before its end. -/
  redeem_redeemed : ∀ {s id params}, WF s → (C.redeem id params s).1 = .redeemed →
    ∃ r, C.get id s = some r ∧ r.state = .issued ∧ params.now ≤ r.expiresAt ∧
      C.get id (C.redeem id params s).2 = some (r.redeem params)
  /-- `redeem` answers `already_redeemed` to a second attempt before the challenge's end. -/
  redeem_again : ∀ {s id params r}, WF s → C.get id s = some r → r.state = .redeemed →
    params.now ≤ r.expiresAt → (C.redeem id params s).1 = .alreadyRedeemed
  /-- `markExpired` marks issued challenges past their end. -/
  markExpired : ∀ {s now}, WF s → WF (C.markExpired now s).2 ∧
    ∀ id, ChallengeChange (.markExpired now) id (C.get id s) (C.get id (C.markExpired now s).2)
  /-- `recordFailure` counts on the record under the given id. -/
  recordFailure : ∀ {s id now maxFailures}, WF s → WF (C.recordFailure id now maxFailures s).2 ∧
    ∀ id', ChallengeChange (.recordFailure id) id' (C.get id' s)
      (C.get id' (C.recordFailure id now maxFailures s).2)

/-- The challenges that a filter counts: issued ones that have not ended, of the given principal and
address if there are any. -/
structure OutstandingChallengeFilter.Matches (filter : OutstandingChallengeFilter)
    (r : ChallengeRecord) : Prop where
  /-- The challenge is issued. -/
  issued : r.state = .issued
  /-- It has not ended. -/
  alive : filter.now ≤ r.expiresAt
  /-- It is the principal's. -/
  npub : ∀ npub, filter.npub = some npub → r.npub = npub
  /-- It was issued to the address. -/
  clientIp : ∀ ip, filter.clientIp = some ip → r.clientIp = some ip

/-- A challenge store counts the challenges that it holds. -/
def ChallengeStore.Counts (C : ChallengeStore) (WF : C.State → Prop) : Prop :=
  ∀ {s filter}, WF s → (C.countOutstanding filter s : ℕ∞) =
    {id | ∃ r, C.get id s = some r ∧ filter.Matches r}.encard

/-- A challenge on which one more failure has been counted. -/
def ChallengeRecord.fail (r : ChallengeRecord) (maxFailures : ℤ) : ChallengeRecord :=
  { r with failureCount := some (r.failureCount.getD 0 + 1),
           state := if r.failureCount.getD 0 + 1 ≥ maxFailures then .failedTerminal else r.state }

/-- A challenge store counts failures from zero, and one by one. -/
structure ChallengeStore.Tallies (C : ChallengeStore) (WF : C.State → Prop) : Prop where
  /-- A new challenge has no failures. -/
  create : ∀ {s now record r}, WF s → C.get record.challengeId s = none →
    record.failureCount = none → C.get record.challengeId (C.create now record s).2 = some r →
    r.failureCount.getD 0 = 0
  /-- `recordFailure` counts one more failure on an issued challenge. -/
  recordFailure : ∀ {s id now maxFailures r}, WF s → C.get id s = some r → r.state = .issued →
    C.get id (C.recordFailure id now maxFailures s).2 = some (r.fail maxFailures)

/-! ## Sessions -/

/-- `RotateRefreshTokenParams`. -/
structure RotateRefreshTokenParams where
  /-- The token that the caller presented. -/
  expectedRefreshToken : String
  accessToken : String
  refreshToken : String
  now : ℤ
  expiresAt : ℤ
  refreshExpiresAt : ℤ
  roles : List String
  permissions : List String
  deriving DecidableEq

namespace SessionRecord

/-- Until when a session is kept: the later of its end and the end of its refresh token. -/
def retainUntil (r : SessionRecord) : ℤ := max r.expiresAt (r.refreshExpiresAt.getD 0)

/-- A session with its tokens rotated. -/
def rotate (r : SessionRecord) (params : RotateRefreshTokenParams) : SessionRecord :=
  { r with
    previousRefreshToken := r.refreshToken
    refreshToken := some params.refreshToken
    accessToken := params.accessToken
    expiresAt := params.expiresAt
    refreshExpiresAt := some params.refreshExpiresAt
    roles := params.roles
    permissions := params.permissions }

/-- A rotation leaves the time at which the session was issued. -/
theorem rotate_issuedAt (r : SessionRecord) (params : RotateRefreshTokenParams) :
    (r.rotate params).issuedAt = r.issuedAt := rfl

/-- A session with `revoked_at` set. -/
def stamp (r : SessionRecord) (t : Option ℤ) : SessionRecord := { r with revokedAt := t }

@[simp] theorem stamp_self (r : SessionRecord) : r.stamp r.revokedAt = r := rfl

@[simp] theorem stamp_revokedAt (r : SessionRecord) (t : Option ℤ) :
    (r.stamp t).revokedAt = t := rfl

@[simp] theorem stamp_stamp (r : SessionRecord) (t t' : Option ℤ) :
    (r.stamp t).stamp t' = r.stamp t' := rfl

/-- Whether a session counts as revoked: `session.revoked_at` is truthy. -/
def revoked (r : SessionRecord) : Bool := truthyInt r.revokedAt

/-- A session is known by the token, as its current or its previous refresh token. -/
def HasRefreshToken (r : SessionRecord) (token : String) : Prop :=
  r.refreshToken = some token ∨ r.previousRefreshToken = some token

/-- The strings under which a store finds a session. -/
def keys (r : SessionRecord) : List String :=
  r.sessionId :: r.accessToken :: (r.refreshToken.toList ++ r.previousRefreshToken.toList)

@[simp] theorem mem_keys {r : SessionRecord} {t : String} :
    t ∈ r.keys ↔ t = r.sessionId ∨ t = r.accessToken ∨ r.HasRefreshToken t := by
  simp [keys, HasRefreshToken]

end SessionRecord

/-- The rows of a session store, by session id. -/
abbrev SessionRows : Type := String → Option SessionRecord

/-- A string that no row is found under. -/
def SessionRows.Fresh (rows : SessionRows) (t : String) : Prop :=
  t ≠ "" ∧ ∀ id r, rows id = some r → t ∉ r.keys

/-- What is fresh for some rows is fresh for fewer of them. -/
theorem SessionRows.Fresh.mono {rows rows' : SessionRows} {t : String} (h : rows.Fresh t)
    (hsub : ∀ id r, rows' id = some r → rows id = some r) : rows'.Fresh t :=
  ⟨h.1, fun id r hr => h.2 id r (hsub id r hr)⟩

/-- A session that has just been made: its strings are fresh, and nothing has happened to it. -/
structure SessionRecord.IsNew (record : SessionRecord) (rows : SessionRows) : Prop where
  /-- Its strings are fresh. -/
  fresh : ∀ t ∈ record.keys, rows.Fresh t
  /-- It has not been revoked. -/
  revokedAt : record.revokedAt = none
  /-- It has not been rotated. -/
  previousRefreshToken : record.previousRefreshToken = none

/-- A session that is new for some rows is new for fewer of them. -/
theorem SessionRecord.IsNew.mono {record : SessionRecord} {rows rows' : SessionRows}
    (h : record.IsNew rows) (hsub : ∀ id r, rows' id = some r → rows id = some r) :
    record.IsNew rows' :=
  { h with fresh := fun t ht => (h.fresh t ht).mono hsub }

/-- The interface `SessionStore`. -/
structure SessionStore where
  /-- The state of the store. -/
  State : Type
  /-- The empty store. -/
  init : State
  /-- `createForChallenge`, at the time on the store's own clock. `none`: it throws. -/
  createForChallenge : ℤ → SessionRecord → State → Option SessionRecord × State
  /-- `getBySessionId`. -/
  getBySessionId : String → State → Option SessionRecord
  /-- `getByAccessToken`, at the time on the store's own clock. -/
  getByAccessToken : ℤ → String → State → Option SessionRecord × State
  /-- `revokeBySessionId`. -/
  revokeBySessionId : String → ℤ → State → State
  /-- `revokeByPrincipal`. -/
  revokeByPrincipal : String → ℤ → State → ℕ × State
  /-- `getByRefreshToken`. -/
  getByRefreshToken : String → State → Option SessionRecord
  /-- `rotateRefreshToken`. -/
  rotateRefreshToken : String → RotateRefreshTokenParams → State → Option SessionRecord × State

/-- What a state of a session store stands for. -/
structure SessionStore.View (S : SessionStore) where
  /-- The representation invariant. -/
  WF : S.State → Prop
  /-- The rows that are held. -/
  rows : S.State → SessionRows
  /-- The row that `createForChallenge` finds for a challenge, at a time on the store's clock. -/
  found : ℤ → String → S.State → Option SessionRecord
  /-- The rows that are handed back and rotated. `getByRefreshToken` alone hands back any row. -/
  visible : SessionRecord → Bool

/-- The operations that change a session store, some with their answer. -/
inductive SessionOp where
  | create (now : ℤ) (record : SessionRecord) (answer : Option SessionRecord)
  | lookup (now : ℤ)
  | revokeBySessionId (sessionId : String) (now : ℤ)
  | revokeByPrincipal (pubkey : String) (now : ℤ)
  | rotate (sessionId : String) (params : RotateRefreshTokenParams)
      (answer : Option SessionRecord)

/-- What an operation may do to the row under a session id. -/
inductive SessionChange (visible : SessionRecord → Bool) :
    SessionOp → String → Option SessionRecord → Option SessionRecord → Prop
  /-- It leaves the row alone. -/
  | same {op id r} : SessionChange visible op id r r
  /-- It inserts a row where there was none. -/
  | created {now record} :
      SessionChange visible (.create now record (some record)) record.sessionId none (some record)
  /-- A login drops a row that is no longer kept. -/
  | evictedByCreate {now record answer id} {r : SessionRecord} (dead : r.retainUntil < now) :
      SessionChange visible (.create now record answer) id (some r) none
  /-- A lookup drops a row that is no longer kept. -/
  | evictedByLookup {now id} {r : SessionRecord} (dead : r.retainUntil < now) :
      SessionChange visible (.lookup now) id (some r) none
  /-- It revokes the row under the given id. A row that is revoked may keep its time. -/
  | revokedById {now id t} {r : SessionRecord} (time : t = now ∨ r.revokedAt = some t) :
      SessionChange visible (.revokeBySessionId id now) id (some r)
        (some (r.stamp (some t)))
  /-- It revokes a row of the given principal. -/
  | revokedByPrincipal {pubkey now id t} {r : SessionRecord} (principal : r.principalPubkey = pubkey)
      (time : t = now ∨ r.revokedAt = some t) :
      SessionChange visible (.revokeByPrincipal pubkey now) id (some r)
        (some (r.stamp (some t)))
  /-- It rotates a visible row that holds the expected token. -/
  | rotated {id params} {r : SessionRecord} (current : r.refreshToken = some params.expectedRefreshToken)
      (seen : visible r = true) :
      SessionChange visible (.rotate id params (some (r.rotate params))) id (some r)
        (some (r.rotate params))

/-- What the server relies on in a session store. -/
structure SessionStore.Lawful {S : SessionStore} (V : S.View) : Prop where
  /-- The empty store is well-formed. -/
  wf_init : V.WF S.init
  /-- The empty store holds nothing. -/
  rows_init : ∀ id, V.rows S.init id = none
  /-- A row is held under its own session id. -/
  rows_id : ∀ {s id r}, V.WF s → V.rows s id = some r → r.sessionId = id
  /-- `createForChallenge` inserts a new row or leaves the rows alone, and may drop dead ones. -/
  create : ∀ {s now record}, V.WF s → record.IsNew (V.rows s) →
    V.WF (S.createForChallenge now record s).2 ∧
    ∀ id, SessionChange V.visible (.create now record (S.createForChallenge now record s).1) id
      (V.rows s id) (V.rows (S.createForChallenge now record s).2 id)
  /-- Where it finds a row for the challenge it hands that back, or throws if the row is not
  visible. -/
  create_found : ∀ {s now record r}, V.WF s → record.IsNew (V.rows s) →
    V.found now record.challengeId s = some r →
    r.challengeId = record.challengeId ∧ V.rows s r.sessionId = some r ∧
    V.rows (S.createForChallenge now record s).2 r.sessionId = some r ∧
    (S.createForChallenge now record s).1 = if V.visible r then some r else none
  /-- Where it finds none it inserts the new row. -/
  create_new : ∀ {s now record}, V.WF s → record.IsNew (V.rows s) →
    V.found now record.challengeId s = none →
    (S.createForChallenge now record s).1 = some record ∧
    V.rows (S.createForChallenge now record s).2 record.sessionId = some record
  /-- Afterwards no other row is held for the challenge. -/
  create_only : ∀ {s now record id r}, V.WF s → record.IsNew (V.rows s) →
    V.rows (S.createForChallenge now record s).2 id = some r →
    r.challengeId = record.challengeId →
    V.found now record.challengeId s = some r ∨ r = record
  /-- `getBySessionId` hands back the row if it is visible. -/
  getBySessionId : ∀ {s id}, V.WF s → S.getBySessionId id s = (V.rows s id).filter V.visible
  /-- `getByAccessToken` changes nothing but that it may drop dead rows. -/
  getByAccessToken : ∀ {s now token}, V.WF s → V.WF (S.getByAccessToken now token s).2 ∧
    ∀ id, SessionChange V.visible (.lookup now) id (V.rows s id)
      (V.rows (S.getByAccessToken now token s).2 id)
  /-- It hands back the visible row with the token. -/
  getByAccessToken_iff : ∀ {s now token r}, V.WF s →
    ((S.getByAccessToken now token s).1 = some r ↔
      V.rows (S.getByAccessToken now token s).2 r.sessionId = some r ∧ r.accessToken = token ∧
        V.visible r = true)
  /-- `revokeBySessionId` changes the row under the given id. -/
  revokeBySessionId : ∀ {s id now}, V.WF s → V.WF (S.revokeBySessionId id now s) ∧
    ∀ id', SessionChange V.visible (.revokeBySessionId id now) id' (V.rows s id')
      (V.rows (S.revokeBySessionId id now s) id')
  /-- It revokes that row. -/
  revokeBySessionId_hit : ∀ {s id now r}, V.WF s → V.rows s id = some r →
    ∃ t, V.rows (S.revokeBySessionId id now s) id = some (r.stamp (some t)) ∧
      (t = now ∨ r.revokedAt = some t)
  /-- `revokeByPrincipal` changes rows of the given principal. -/
  revokeByPrincipal : ∀ {s pubkey now}, V.WF s → V.WF (S.revokeByPrincipal pubkey now s).2 ∧
    ∀ id, SessionChange V.visible (.revokeByPrincipal pubkey now) id (V.rows s id)
      (V.rows (S.revokeByPrincipal pubkey now s).2 id)
  /-- It revokes each of them. -/
  revokeByPrincipal_hit : ∀ {s pubkey now id r}, V.WF s → V.rows s id = some r →
    r.principalPubkey = pubkey →
    ∃ t, V.rows (S.revokeByPrincipal pubkey now s).2 id = some (r.stamp (some t)) ∧
      (t = now ∨ r.revokedAt = some t)
  /-- `getByRefreshToken` hands back the row that is known by the token. -/
  getByRefreshToken_iff : ∀ {s token r}, V.WF s →
    (S.getByRefreshToken token s = some r ↔
      V.rows s r.sessionId = some r ∧ r.HasRefreshToken token)
  /-- `rotateRefreshToken` with fresh tokens changes the row under the given id. -/
  rotate : ∀ {s id params}, V.WF s → (V.rows s).Fresh params.accessToken →
    (V.rows s).Fresh params.refreshToken → V.WF (S.rotateRefreshToken id params s).2 ∧
    ∀ id', SessionChange V.visible (.rotate id params (S.rotateRefreshToken id params s).1) id'
      (V.rows s id') (V.rows (S.rotateRefreshToken id params s).2 id')
  /-- It answers a visible row that holds the expected token with that row, rotated. -/
  rotate_iff : ∀ {s id params r'}, V.WF s →
    ((S.rotateRefreshToken id params s).1 = some r' ↔
      ∃ r, V.rows s id = some r ∧ r.refreshToken = some params.expectedRefreshToken ∧
        V.visible r = true ∧ r' = r.rotate params)
  /-- The rotated row replaces the old one. -/
  rotate_hit : ∀ {s id params r'}, V.WF s → (V.rows s).Fresh params.accessToken →
    (V.rows s).Fresh params.refreshToken → (S.rotateRefreshToken id params s).1 = some r' →
    V.rows (S.rotateRefreshToken id params s).2 id = some r'

end NapAuth

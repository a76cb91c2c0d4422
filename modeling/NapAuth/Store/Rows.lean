import NapAuth.JsValue
import NapAuth.Store.Postgres

/-!
# The rows of the Postgres stores

What the statements of `packages/nap-store-postgres/src/index.ts` write into the columns of the
published schema, and what `mapChallengeRecord` and `mapSessionRecord` make of a row that
node-postgres has parsed. Every row that is written holds the record of the store's model
(`ChallengeWritten`, `SessionWritten`).

A record is read back as it was written exactly when the parser of `BIGINT` columns gives numbers
for the times in it (`challenge_readBack_iff`, `session_readBack_iff`). The default parser gives
strings, so no record is: the times of issue and expiry come back as strings, and every other time as
if it had never been stored (`rows_not_read_back`).
-/

namespace NapAuth

/-! ## Rows -/

/-- The types of the columns. -/
inductive SqlType where
  | text
  | integer
  | bigint
  | jsonb
  deriving DecidableEq

/-- A value in a column. -/
inductive SqlValue where
  | null
  | text (s : String)
  | int (n : ℤ)
  | jsonb (v : Json)

/-- A value that may be `null`. -/
def SqlValue.nullable {α : Type} (f : α → SqlValue) : Option α → SqlValue
  | none => null
  | some a => f a

/-- A column of a table. -/
structure Column where
  name : String
  type : SqlType
  /-- What an `INSERT` that does not name the column writes. -/
  default : SqlValue

/-- A row, in the order of its columns. -/
abbrev SqlRow : Type := List (Column × SqlValue)

/-- `INSERT` of values for the columns that are named. -/
def insertRow (schema : List Column) (values : List (String × SqlValue)) : SqlRow :=
  schema.map fun c => (c, (values.lookup c.name).getD c.default)

/-- `UPDATE .. SET`. -/
def SqlRow.set (row : SqlRow) (values : List (String × SqlValue)) : SqlRow :=
  row.map fun cell => (cell.1, (values.lookup cell.1.name).getD cell.2)

/-- The table `nap_challenges`. -/
def napChallenges : List Column :=
  [⟨"challenge_id", .text, .null⟩, ⟨"challenge", .text, .null⟩, ⟨"npub", .text, .null⟩,
    ⟨"pubkey", .text, .null⟩, ⟨"auth_url", .text, .null⟩, ⟨"auth_method", .text, .null⟩,
    ⟨"state", .text, .null⟩, ⟨"issued_at", .bigint, .null⟩, ⟨"expires_at", .bigint, .null⟩,
    ⟨"redeemed_event_id", .text, .null⟩, ⟨"redeemed_session_id", .text, .null⟩,
    ⟨"result_cache_until", .bigint, .null⟩, ⟨"client_ip", .text, .null⟩,
    ⟨"failure_count", .integer, .int 0⟩]

/-- The table `nap_sessions`. -/
def napSessions : List Column :=
  [⟨"session_id", .text, .null⟩, ⟨"challenge_id", .text, .null⟩, ⟨"access_token", .text, .null⟩,
    ⟨"principal_npub", .text, .null⟩, ⟨"principal_pubkey", .text, .null⟩, ⟨"roles", .jsonb, .null⟩,
    ⟨"permissions", .jsonb, .null⟩, ⟨"issued_at", .bigint, .null⟩, ⟨"expires_at", .bigint, .null⟩,
    ⟨"step_up_token", .text, .null⟩, ⟨"step_up_expires_at", .bigint, .null⟩,
    ⟨"refresh_token", .text, .null⟩, ⟨"refresh_expires_at", .bigint, .null⟩,
    ⟨"previous_refresh_token", .text, .null⟩, ⟨"revoked_at", .bigint, .null⟩]

/-! ## What is written -/

/-- The text of a state. -/
def ChallengeState.text : ChallengeState → String
  | issued => "issued"
  | redeemed => "redeemed"
  | expired => "expired"
  | failedTerminal => "failed_terminal"

/-- `JSON.stringify` of strings, as `JSONB`. -/
def jsonbStrings (l : List String) : SqlValue := .jsonb (.arr (l.map .str))

/-- The row of `create`. -/
def insertChallenge (record : ChallengeRecord) : SqlRow :=
  insertRow napChallenges [("challenge_id", .text record.challengeId),
    ("challenge", .text record.challenge), ("npub", .text record.npub),
    ("pubkey", .text record.pubkey), ("auth_url", .text record.authUrl),
    ("auth_method", .text record.authMethod), ("state", .text record.state.text),
    ("issued_at", .int record.issuedAt), ("expires_at", .int record.expiresAt),
    ("client_ip", .nullable .text record.clientIp)]

/-- What `redeem` sets. -/
def setRedeemed (params : RedeemParams) : List (String × SqlValue) :=
  [("state", .text "redeemed"), ("redeemed_event_id", .text params.eventId),
    ("redeemed_session_id", .text params.sessionId),
    ("result_cache_until", .int params.resultCacheUntil)]

/-- What `markExpired` sets. -/
def setExpired : List (String × SqlValue) := [("state", .text "expired")]

/-- What `recordFailure` sets, in the row of a record. -/
def setFailed (maxFailures : ℤ) (r : ChallengeRecord) : List (String × SqlValue) :=
  [("failure_count", .int (r.failureCount.getD 0 + 1)),
    ("state", .text (if r.failureCount.getD 0 + 1 ≥ maxFailures then "failed_terminal"
      else r.state.text))]

/-- The row of `createForChallenge`. -/
def insertSession (record : SessionRecord) : SqlRow :=
  insertRow napSessions [("session_id", .text record.sessionId),
    ("challenge_id", .text record.challengeId), ("access_token", .text record.accessToken),
    ("principal_npub", .text record.principalNpub),
    ("principal_pubkey", .text record.principalPubkey), ("roles", jsonbStrings record.roles),
    ("permissions", jsonbStrings record.permissions), ("issued_at", .int record.issuedAt),
    ("expires_at", .int record.expiresAt), ("step_up_token", .nullable .text record.stepUpToken),
    ("step_up_expires_at", .nullable .int record.stepUpExpiresAt),
    ("refresh_token", .nullable .text record.refreshToken),
    ("refresh_expires_at", .nullable .int record.refreshExpiresAt)]

/-- What `revokeBySessionId` and `revokeByPrincipal` set. -/
def setRevoked (now : ℤ) : List (String × SqlValue) := [("revoked_at", .int now)]

/-- What `rotateRefreshToken` sets, in the row of a record. -/
def setRotated (params : RotateRefreshTokenParams) (r : SessionRecord) : List (String × SqlValue) :=
  [("access_token", .text params.accessToken),
    ("previous_refresh_token", .nullable .text r.refreshToken),
    ("refresh_token", .text params.refreshToken), ("expires_at", .int params.expiresAt),
    ("refresh_expires_at", .int params.refreshExpiresAt), ("roles", jsonbStrings params.roles),
    ("permissions", jsonbStrings params.permissions)]

/-- The row that holds a challenge. -/
def challengeRow (r : ChallengeRecord) : SqlRow :=
  insertRow napChallenges [("challenge_id", .text r.challengeId), ("challenge", .text r.challenge),
    ("npub", .text r.npub), ("pubkey", .text r.pubkey), ("auth_url", .text r.authUrl),
    ("auth_method", .text r.authMethod), ("state", .text r.state.text),
    ("issued_at", .int r.issuedAt), ("expires_at", .int r.expiresAt),
    ("redeemed_event_id", .nullable .text r.redeemedEventId),
    ("redeemed_session_id", .nullable .text r.redeemedSessionId),
    ("result_cache_until", .nullable .int r.resultCacheUntil),
    ("client_ip", .nullable .text r.clientIp), ("failure_count", .int (r.failureCount.getD 0))]

/-- The row that holds a session. -/
def sessionRow (r : SessionRecord) : SqlRow :=
  insertRow napSessions [("session_id", .text r.sessionId), ("challenge_id", .text r.challengeId),
    ("access_token", .text r.accessToken), ("principal_npub", .text r.principalNpub),
    ("principal_pubkey", .text r.principalPubkey), ("roles", jsonbStrings r.roles),
    ("permissions", jsonbStrings r.permissions), ("issued_at", .int r.issuedAt),
    ("expires_at", .int r.expiresAt), ("step_up_token", .nullable .text r.stepUpToken),
    ("step_up_expires_at", .nullable .int r.stepUpExpiresAt),
    ("refresh_token", .nullable .text r.refreshToken),
    ("refresh_expires_at", .nullable .int r.refreshExpiresAt),
    ("previous_refresh_token", .nullable .text r.previousRefreshToken),
    ("revoked_at", .nullable .int r.revokedAt)]

/-- The statements of the challenge store write a row for a record. -/
inductive ChallengeWritten : ChallengeRecord → SqlRow → Prop where
  /-- `create`. -/
  | created (record : ChallengeRecord) : ChallengeWritten
    { record with redeemedEventId := none, redeemedSessionId := none, resultCacheUntil := none,
                  failureCount := some 0 } (insertChallenge record)
  /-- `redeem`. -/
  | redeemed {r : ChallengeRecord} {row : SqlRow} (params : RedeemParams)
    (h : ChallengeWritten r row) : ChallengeWritten (r.redeem params) (row.set (setRedeemed params))
  /-- `markExpired`. -/
  | expired {r : ChallengeRecord} {row : SqlRow} (h : ChallengeWritten r row) :
    ChallengeWritten { r with state := .expired } (row.set setExpired)
  /-- `recordFailure`. -/
  | failed {r : ChallengeRecord} {row : SqlRow} (maxFailures : ℤ) (h : ChallengeWritten r row) :
    ChallengeWritten (PostgresChallenges.countFailure maxFailures r)
      (row.set (setFailed maxFailures r))

/-- The statements of the session store write a row for a record. -/
inductive SessionWritten : SessionRecord → SqlRow → Prop where
  /-- `createForChallenge`. -/
  | created (record : SessionRecord) : SessionWritten
    { record with revokedAt := none, previousRefreshToken := none } (insertSession record)
  /-- `revokeBySessionId` and `revokeByPrincipal`. -/
  | revoked {r : SessionRecord} {row : SqlRow} (now : ℤ) (h : SessionWritten r row) :
    SessionWritten (r.stamp (some now)) (row.set (setRevoked now))
  /-- `rotateRefreshToken`. -/
  | rotated {r : SessionRecord} {row : SqlRow} (params : RotateRefreshTokenParams)
    (h : SessionWritten r row) :
    SessionWritten (r.rotate params) (row.set (setRotated params r))

/-- Every row that the challenge store writes holds its record, and a count of failures. -/
theorem ChallengeWritten.row_eq {r : ChallengeRecord} {row : SqlRow} (h : ChallengeWritten r row) :
    row = challengeRow r ∧ r.failureCount.isSome = true := by
  induction h with
  | created record =>
    refine ⟨?_, rfl⟩
    simp [insertChallenge, challengeRow, insertRow, napChallenges, List.lookup_cons,
      SqlValue.nullable]
  | redeemed params h ih =>
    obtain ⟨rfl, hcount⟩ := ih
    refine ⟨?_, hcount⟩
    simp [SqlRow.set, setRedeemed, challengeRow, insertRow, napChallenges, List.lookup_cons,
      ChallengeRecord.redeem, ChallengeState.text, SqlValue.nullable]
  | expired h ih =>
    obtain ⟨rfl, hcount⟩ := ih
    refine ⟨?_, hcount⟩
    simp [SqlRow.set, setExpired, challengeRow, insertRow, napChallenges, List.lookup_cons,
      ChallengeState.text]
  | failed maxFailures h ih =>
    obtain ⟨rfl, hcount⟩ := ih
    refine ⟨?_, rfl⟩
    simp [SqlRow.set, setFailed, challengeRow, insertRow, napChallenges, List.lookup_cons,
      PostgresChallenges.countFailure]
    split_ifs <;> rfl

/-- Every row that the session store writes holds its record. -/
theorem SessionWritten.row_eq {r : SessionRecord} {row : SqlRow} (h : SessionWritten r row) :
    row = sessionRow r := by
  induction h with
  | created record =>
    simp [insertSession, sessionRow, insertRow, napSessions, List.lookup_cons, SqlValue.nullable]
  | revoked now h ih =>
    rw [ih]
    simp [SqlRow.set, setRevoked, sessionRow, insertRow, napSessions, List.lookup_cons,
      SessionRecord.stamp, SqlValue.nullable]
  | rotated params h ih =>
    rw [ih]
    simp [SqlRow.set, setRotated, sessionRow, insertRow, napSessions, List.lookup_cons,
      SessionRecord.rotate, SqlValue.nullable]

/-! ## What is read -/

/-- An integer as a JavaScript number. -/
def jsInt (n : ℤ) : Json := .num (JsonNumber.ofInt n)

/-- A column as node-postgres parses it, with a given parser for `BIGINT`. -/
def parseCell (int8 : ℤ → Json) (cell : Column × SqlValue) : Json :=
  match cell.2 with
  | .null => .null
  | .text s => .str s
  | .int n => if cell.1.type = .bigint then int8 n else jsInt n
  | .jsonb v => v

/-- The parser of `BIGINT` that node-postgres has by default: the decimal digits. -/
def int8AsString (n : ℤ) : Json := .str (toString n)

/-- The row of a query's result. -/
def queryResultRow (int8 : ℤ → Json) (row : SqlRow) : Json :=
  .obj (row.map fun cell => (cell.1.name, parseCell int8 cell))

/-- The properties of a record, of which some may be `undefined`. -/
abbrev Properties : Type := List (String × Option Json)

/-- `asNullableNumber`. -/
def asNullableNumber : Option Json → Option Json
  | some (.num n) => some (.num n)
  | _ => none

/-- `value ?? undefined`. -/
def orUndefined : Option Json → Option Json
  | some .null => none
  | value => value

/-- `normalizeArray`. -/
def normalizeArray : Option Json → Option Json
  | some (.arr l) => some (.arr (l.filter fun entry => entry.str?.isSome))
  | _ => some (.arr [])

/-- `mapChallengeRecord`. -/
def mapChallengeRecord (row : Json) : Properties :=
  [("challenge_id", row.get? "challenge_id"), ("challenge", row.get? "challenge"),
    ("npub", row.get? "npub"), ("pubkey", row.get? "pubkey"), ("auth_url", row.get? "auth_url"),
    ("auth_method", row.get? "auth_method"), ("state", row.get? "state"),
    ("issued_at", row.get? "issued_at"), ("expires_at", row.get? "expires_at"),
    ("redeemed_event_id", row.get? "redeemed_event_id"),
    ("redeemed_session_id", row.get? "redeemed_session_id"),
    ("result_cache_until", asNullableNumber (row.get? "result_cache_until")),
    ("client_ip", orUndefined (row.get? "client_ip")),
    ("failure_count", asNullableNumber (row.get? "failure_count"))]

/-- `mapSessionRecord`. -/
def mapSessionRecord (row : Json) : Properties :=
  [("session_id", row.get? "session_id"), ("challenge_id", row.get? "challenge_id"),
    ("access_token", row.get? "access_token"), ("principal_npub", row.get? "principal_npub"),
    ("principal_pubkey", row.get? "principal_pubkey"),
    ("roles", normalizeArray (row.get? "roles")),
    ("permissions", normalizeArray (row.get? "permissions")), ("issued_at", row.get? "issued_at"),
    ("expires_at", row.get? "expires_at"), ("revoked_at", asNullableNumber (row.get? "revoked_at")),
    ("step_up_token", row.get? "step_up_token"),
    ("step_up_expires_at", asNullableNumber (row.get? "step_up_expires_at")),
    ("refresh_token", row.get? "refresh_token"),
    ("refresh_expires_at", asNullableNumber (row.get? "refresh_expires_at")),
    ("previous_refresh_token", row.get? "previous_refresh_token")]

/-- The properties of a challenge. -/
def ChallengeRecord.properties (r : ChallengeRecord) : Properties :=
  [("challenge_id", some (.str r.challengeId)), ("challenge", some (.str r.challenge)),
    ("npub", some (.str r.npub)), ("pubkey", some (.str r.pubkey)),
    ("auth_url", some (.str r.authUrl)), ("auth_method", some (.str r.authMethod)),
    ("state", some (.str r.state.text)), ("issued_at", some (jsInt r.issuedAt)),
    ("expires_at", some (jsInt r.expiresAt)), ("redeemed_event_id", r.redeemedEventId.map .str),
    ("redeemed_session_id", r.redeemedSessionId.map .str),
    ("result_cache_until", r.resultCacheUntil.map jsInt), ("client_ip", r.clientIp.map .str),
    ("failure_count", r.failureCount.map jsInt)]

/-- The properties of a session. -/
def SessionRecord.properties (r : SessionRecord) : Properties :=
  [("session_id", some (.str r.sessionId)), ("challenge_id", some (.str r.challengeId)),
    ("access_token", some (.str r.accessToken)), ("principal_npub", some (.str r.principalNpub)),
    ("principal_pubkey", some (.str r.principalPubkey)),
    ("roles", some (.arr (r.roles.map .str))), ("permissions", some (.arr (r.permissions.map .str))),
    ("issued_at", some (jsInt r.issuedAt)), ("expires_at", some (jsInt r.expiresAt)),
    ("revoked_at", r.revokedAt.map jsInt), ("step_up_token", r.stepUpToken.map .str),
    ("step_up_expires_at", r.stepUpExpiresAt.map jsInt), ("refresh_token", r.refreshToken.map .str),
    ("refresh_expires_at", r.refreshExpiresAt.map jsInt),
    ("previous_refresh_token", r.previousRefreshToken.map .str)]

/-- Properties, with `null` and `undefined` identified. -/
def Properties.defined (properties : Properties) : Properties :=
  properties.map fun property => (property.1, orUndefined property.2)

/-- A challenge as it is read back. -/
def readChallenge (int8 : ℤ → Json) (row : SqlRow) : Properties :=
  (mapChallengeRecord (queryResultRow int8 row)).defined

/-- A session as it is read back. -/
def readSession (int8 : ℤ → Json) (row : SqlRow) : Properties :=
  (mapSessionRecord (queryResultRow int8 row)).defined

section ReadBack

variable {int8 : ℤ → Json}

/-- The times of a challenge. -/
def ChallengeRecord.times (r : ChallengeRecord) : List ℤ :=
  [r.issuedAt, r.expiresAt] ++ r.resultCacheUntil.toList

/-- The times of a session. -/
def SessionRecord.times (r : SessionRecord) : List ℤ :=
  [r.issuedAt, r.expiresAt] ++ r.revokedAt.toList ++ r.stepUpExpiresAt.toList ++
    r.refreshExpiresAt.toList

/-! ### Cells -/

@[simp] theorem parseCell_text (c : Column) (s : String) : parseCell int8 (c, .text s) = .str s := rfl

@[simp] theorem parseCell_jsonb (c : Column) (v : Json) : parseCell int8 (c, .jsonb v) = v := rfl

@[simp] theorem parseCell_bigint (name : String) (default : SqlValue) (n : ℤ) :
    parseCell int8 (⟨name, .bigint, default⟩, .int n) = int8 n := rfl

@[simp] theorem parseCell_integer (name : String) (default : SqlValue) (n : ℤ) :
    parseCell int8 (⟨name, .integer, default⟩, .int n) = jsInt n := rfl

@[simp] theorem orUndefined_str (s : String) : orUndefined (some (.str s)) = some (.str s) := rfl

@[simp] theorem orUndefined_arr (l : List Json) : orUndefined (some (.arr l)) = some (.arr l) := rfl

@[simp] theorem orUndefined_idem (v : Option Json) : orUndefined (orUndefined v) = orUndefined v := by
  cases v with
  | none => rfl
  | some v => cases v <;> rfl

@[simp] theorem orUndefined_map_str (s : Option String) :
    orUndefined (s.map .str) = s.map .str := by
  cases s <;> rfl

/-- A text that may be `null` is read back. -/
@[simp] theorem read_nullable_text (c : Column) (s : Option String) :
    orUndefined (some (parseCell int8 (c, .nullable .text s))) = s.map .str := by
  cases s <;> rfl

/-- A time is read back when it is parsed as a number. -/
@[simp] theorem read_time_iff (v : Json) (n : ℤ) :
    orUndefined (some v) = some (jsInt n) ↔ v = jsInt n := by
  cases v <;> simp [orUndefined, jsInt]

/-- A time that may be `null` is read back when it is parsed as a number. -/
@[simp] theorem read_nullable_time_iff (name : String) (default : SqlValue) (t : Option ℤ) :
    orUndefined (asNullableNumber (some (parseCell int8
      (⟨name, .bigint, default⟩, .nullable .int t)))) = t.map jsInt ↔
      ∀ n, t = some n → int8 n = jsInt n := by
  cases t with
  | none => simp [SqlValue.nullable, parseCell, asNullableNumber, orUndefined]
  | some n =>
    show orUndefined (asNullableNumber (some (int8 n))) = some (jsInt n) ↔ _
    cases hv : int8 n <;> simp [asNullableNumber, orUndefined, jsInt, hv]

/-- A count is read back. -/
@[simp] theorem read_count (n : ℤ) :
    orUndefined (asNullableNumber (some (jsInt n))) = some (jsInt n) := rfl

/-- Strings are read back. -/
@[simp] theorem normalizeArray_strings (l : List String) :
    normalizeArray (some (.arr (l.map .str))) = some (.arr (l.map .str)) := by
  have hall : ∀ v ∈ l.map Json.str, v.str?.isSome = true := by
    intro v hv
    obtain ⟨s, -, rfl⟩ := List.mem_map.mp hv
    rfl
  show some (Json.arr ((l.map .str).filter fun v => v.str?.isSome)) = _
  rw [List.filter_eq_self.mpr hall]

/-! ### Records -/

/-- A challenge is read back as it was written exactly when its times are parsed as numbers. -/
theorem challenge_readBack_iff {r : ChallengeRecord} (hcount : r.failureCount.isSome = true) :
    readChallenge int8 (challengeRow r) = r.properties ↔ ∀ t ∈ r.times, int8 t = jsInt t := by
  obtain ⟨count, hcount⟩ := Option.isSome_iff_exists.mp hcount
  simp [readChallenge, challengeRow, ChallengeRecord.properties, Properties.defined,
    mapChallengeRecord, queryResultRow, insertRow, napChallenges, List.lookup_cons, Json.get?,
    hcount, ChallengeRecord.times]

/-- A session is read back as it was written exactly when its times are parsed as numbers. -/
theorem session_readBack_iff {r : SessionRecord} :
    readSession int8 (sessionRow r) = r.properties ↔ ∀ t ∈ r.times, int8 t = jsInt t := by
  have htimes : (∀ t ∈ r.times, int8 t = jsInt t) ↔
      int8 r.issuedAt = jsInt r.issuedAt ∧ int8 r.expiresAt = jsInt r.expiresAt ∧
      (∀ n, r.revokedAt = some n → int8 n = jsInt n) ∧
      (∀ n, r.stepUpExpiresAt = some n → int8 n = jsInt n) ∧
      ∀ n, r.refreshExpiresAt = some n → int8 n = jsInt n := by
    simp only [SessionRecord.times, List.mem_append, List.mem_cons, List.not_mem_nil,
      Option.mem_toList]
    grind
  rw [htimes]
  simp [readSession, sessionRow, SessionRecord.properties, Properties.defined, mapSessionRecord,
    queryResultRow, insertRow, napSessions, List.lookup_cons, Json.get?, jsonbStrings]

end ReadBack

/-! ## The default parser -/

/-- The default parser gives no number. -/
theorem int8AsString_ne (n : ℤ) : int8AsString n ≠ jsInt n := Json.noConfusion

/-- A time that may be `null` is lost. -/
theorem read_nullable_time_lost (name : String) (default : SqlValue) (t : Option ℤ) :
    orUndefined (asNullableNumber (some (parseCell int8AsString
      (⟨name, .bigint, default⟩, .nullable .int t)))) = none := by
  cases t <;> rfl

/-- The deadline of a cached result is read back as if none had been stored. -/
theorem challenge_deadline_lost (r : ChallengeRecord) :
    (readChallenge int8AsString (challengeRow r)).lookup "result_cache_until" = some none := by
  simp [readChallenge, challengeRow, Properties.defined, mapChallengeRecord, queryResultRow,
    insertRow, napChallenges, List.lookup_cons, Json.get?, read_nullable_time_lost]

/-- The times that a session may lack are read back as if none had been stored. -/
theorem session_times_lost (r : SessionRecord) (name : String)
    (hname : name ∈ ["revoked_at", "step_up_expires_at", "refresh_expires_at"]) :
    (readSession int8AsString (sessionRow r)).lookup name = some none := by
  simp only [List.mem_cons, List.not_mem_nil, or_false] at hname
  obtain rfl | rfl | rfl := hname <;>
    simp [readSession, sessionRow, Properties.defined, mapSessionRecord, queryResultRow, insertRow,
      napSessions, List.lookup_cons, Json.get?, read_nullable_time_lost]

/-- Under the default parser no challenge and no session that is written is read back as it was
written. Whatever was stored, the deadline of a cached result and the times of a session's revocation,
step-up and refresh are read back as absent. -/
theorem rows_not_read_back {challenge : ChallengeRecord} {session : SessionRecord}
    {row row' : SqlRow} (hchallenge : ChallengeWritten challenge row)
    (hsession : SessionWritten session row') :
    (readChallenge int8AsString row ≠ challenge.properties ∧
      (readChallenge int8AsString row).lookup "result_cache_until" = some none) ∧
    (readSession int8AsString row' ≠ session.properties ∧
      ∀ name ∈ ["revoked_at", "step_up_expires_at", "refresh_expires_at"],
        (readSession int8AsString row').lookup name = some none) := by
  constructor
  · obtain ⟨rfl, hcount⟩ := hchallenge.row_eq
    refine ⟨fun hread => ?_, challenge_deadline_lost challenge⟩
    -- the time of issue is in every row
    have htimes := (challenge_readBack_iff hcount).mp hread
    exact int8AsString_ne _ (htimes challenge.issuedAt List.mem_cons_self)
  · rw [hsession.row_eq]
    refine ⟨fun hread => ?_, session_times_lost session⟩
    have htimes := session_readBack_iff.mp hread
    exact int8AsString_ne _ (htimes session.issuedAt List.mem_cons_self)

namespace Sample

/-- A challenge that has been created. -/
def storedChallenge : ChallengeRecord where
  challengeId := "c"
  challenge := "text"
  npub := "npub1"
  pubkey := "p"
  authUrl := "https://shop/auth/complete"
  authMethod := "POST"
  issuedAt := 990
  expiresAt := 1290
  state := .issued
  redeemedEventId := none
  redeemedSessionId := none
  resultCacheUntil := none
  clientIp := none
  failureCount := some 0

/-- A session that has been created. -/
def storedSession : SessionRecord where
  sessionId := "s"
  challengeId := "c"
  accessToken := "a"
  principalNpub := "npub1"
  principalPubkey := "p"
  roles := ["merchant"]
  permissions := ["read"]
  issuedAt := 1000
  expiresAt := 2000
  revokedAt := none
  stepUpToken := none
  stepUpExpiresAt := none
  refreshToken := some "r"
  refreshExpiresAt := some 9000
  previousRefreshToken := none

/-- The row after it has been revoked. -/
def revokedRow : SqlRow := (insertSession storedSession).set (setRevoked 1500)

/-- The row is written. -/
theorem revokedRow_written : SessionWritten (storedSession.stamp (some 1500)) revokedRow :=
  .revoked 1500 (.created storedSession)

end Sample

/-- A challenge that was issued, and a session that was revoked and could be refreshed. -/
theorem rows_not_read_back_revoked :
    (readChallenge int8AsString (insertChallenge Sample.storedChallenge) ≠
        Sample.storedChallenge.properties ∧
      (readChallenge int8AsString (insertChallenge Sample.storedChallenge)).lookup
        "result_cache_until" = some none) ∧
    (readSession int8AsString Sample.revokedRow ≠
        (Sample.storedSession.stamp (some 1500)).properties ∧
      ∀ name ∈ ["revoked_at", "step_up_expires_at", "refresh_expires_at"],
        (readSession int8AsString Sample.revokedRow).lookup name = some none) :=
  rows_not_read_back (.created Sample.storedChallenge) Sample.revokedRow_written

/-- A session is written with a time of revocation, and read back as one that is live. -/
theorem revoked_read_back_live : ∃ r row, SessionWritten r row ∧ r.revokedAt = some 1500 ∧
    (readSession int8AsString row).lookup "revoked_at" = some none ∧
    readSession int8AsString row ≠ r.properties := by
  refine ⟨_, _, Sample.revokedRow_written, rfl, rfl, fun hread => ?_⟩
  have hlookup := congrArg (List.lookup "revoked_at") hread
  have hlive : (readSession int8AsString Sample.revokedRow).lookup "revoked_at" = some none := rfl
  rw [hlive] at hlookup
  exact absurd (Option.some.inj hlookup) (by simp [SessionRecord.stamp, Sample.storedSession])

end NapAuth

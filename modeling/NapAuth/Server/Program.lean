import NapAuth.Interleaving.Program
import NapAuth.Nip98
import NapAuth.Store.Interface

/-!
# The server's functions

`issueChallenge`, `verifyCompletion` and `refreshSession` of `packages/nap-server/src/server.ts`, the
guards and the logout of the adapters, and the calls by which an operator revokes sessions or marks
challenges, as programs over atomic operations. An operation is what runs between two awaits: one
call of a store, of the rate limiter or of the ACL resolver. What the code reads right after it, the
clock, is part of the answer. What it draws right before it, random bytes, belongs to the operation
as well: a draft goes in, and the record made from it is stored.

The rate limiter and the ACL resolver answer what the environment decides. A server without a rate
limiter is one whose limiter always allows. The padding of responses takes time and does nothing
else, and is left out.
-/

namespace NapAuth

open Interleaving

/-- `NapServerOptions`, as far as they are numbers or lists. -/
structure NapServerOptions where
  challengeTtlSeconds : Option ℤ
  sessionTtlSeconds : Option ℤ
  resultCacheTtlSeconds : Option ℤ
  maxClockSkewSeconds : Option ℤ
  lowerBoundGraceSeconds : Option ℤ
  upperBoundGraceSeconds : Option ℤ
  stepUpTtlSeconds : Option ℤ
  /-- Without it no refresh tokens are issued. -/
  refreshTtlSeconds : Option ℤ
  maxSessionLifetimeSeconds : Option ℤ
  maxOutstandingChallengesPerNpub : Option ℤ
  maxOutstandingChallengesPerIp : Option ℤ
  maxFailuresPerChallenge : Option ℤ
  supportedExtensions : List String

/-- `new TextEncoder().encode`, as numbers. -/
def encodeText (s : String) : List ℕ := s.toUTF8.data.toList.map UInt8.toNat

/-- `constantTimeEquals`: the loop runs over the bytes of `a`, whatever they are. -/
def constantTimeEquals (a b : String) : Bool :=
  let left := encodeText a
  let right := encodeText b
  let difference := (List.range left.length).foldl
    (fun difference index =>
      difference ||| (left.getD index 0 ^^^ right.getD index 0)) (left.length ^^^ right.length)
  difference == 0

/-- `clampTtlToDecision`. -/
def clampTtlToDecision (configuredTtlSeconds : ℤ) (decisionExpiresAt : Option JsNumber)
    (now : ℤ) : ℤ :=
  match decisionExpiresAt.bind JsNumber.finite? with
  | none => configuredTtlSeconds
  | some expiresAt =>
    let remaining := ⌊expiresAt⌋ - now
    if remaining ≥ configuredTtlSeconds then configuredTtlSeconds else max 1 remaining

/-! ## Records and their drafts -/

/-- The byte strings drawn from the random source in one step. -/
structure Draws where
  /-- For a session id or a challenge id. -/
  id : List UInt8
  /-- For an access token or a challenge. -/
  secret : List UInt8
  /-- For a step-up token. -/
  stepUp : List UInt8
  /-- For a refresh token. -/
  refresh : List UInt8
  deriving DecidableEq

/-- `base64Url`. -/
def base64Url (bytes : List UInt8) : String := Codec.encodeBase64UrlBytes bytes

/-- The strings that the draws become. -/
def Draws.strings (d : Draws) : List String :=
  [base64Url d.id, base64Url d.secret, base64Url d.stepUp, base64Url d.refresh]

/-- What `issueChallenge` makes a challenge of. -/
structure ChallengeDraft where
  npub : String
  pubkey : String
  authUrl : String
  authMethod : String
  now : ℤ
  ttl : ℤ
  clientIp : Option String
  deriving DecidableEq

/-- The record that `issueChallenge` creates. -/
def challengeRecord (d : ChallengeDraft) (random : Draws) : ChallengeRecord where
  challengeId := base64Url random.id
  challenge := base64Url random.secret
  npub := d.npub
  pubkey := d.pubkey
  authUrl := d.authUrl
  authMethod := d.authMethod
  issuedAt := d.now
  expiresAt := d.now + d.ttl
  state := .issued
  redeemedEventId := none
  redeemedSessionId := none
  resultCacheUntil := none
  clientIp := if truthyString d.clientIp then d.clientIp else none
  failureCount := none

/-- The arguments of `createSessionRecord`, besides the random source. -/
structure SessionDraft where
  challenge : ChallengeRecord
  now : ℤ
  sessionTtlSeconds : ℤ
  roles : List String
  permissions : List String
  /-- The lifetime of a step-up token, if one is asked for. -/
  stepUp : Option ℤ
  refreshTtlSeconds : Option ℤ
  deriving DecidableEq

/-- `createSessionRecord`. -/
def createSessionRecord (d : SessionDraft) (random : Draws) : SessionRecord where
  sessionId := base64Url random.id
  challengeId := d.challenge.challengeId
  accessToken := base64Url random.secret
  principalNpub := d.challenge.npub
  principalPubkey := d.challenge.pubkey
  roles := d.roles
  permissions := d.permissions
  issuedAt := d.now
  expiresAt := d.now + d.sessionTtlSeconds
  stepUpToken := d.stepUp.map fun _ => base64Url random.stepUp
  stepUpExpiresAt := d.stepUp.map fun ttlSeconds => d.now + ttlSeconds
  refreshToken := if truthyInt d.refreshTtlSeconds then some (base64Url random.refresh) else none
  refreshExpiresAt :=
    if truthyInt d.refreshTtlSeconds then d.refreshTtlSeconds.map (d.now + ·) else none
  previousRefreshToken := none
  revokedAt := none

/-- The arguments of `rotateRefreshToken`, besides what is drawn. -/
structure RotateDraft where
  expectedRefreshToken : String
  now : ℤ
  expiresAt : ℤ
  refreshExpiresAt : ℤ
  roles : List String
  permissions : List String
  deriving DecidableEq

/-- The arguments of `rotateRefreshToken`. -/
def rotateParams (d : RotateDraft) (random : Draws) : RotateRefreshTokenParams where
  expectedRefreshToken := d.expectedRefreshToken
  accessToken := base64Url random.secret
  refreshToken := base64Url random.refresh
  now := d.now
  expiresAt := d.expiresAt
  refreshExpiresAt := d.refreshExpiresAt
  roles := d.roles
  permissions := d.permissions

/-! ## Operations -/

/-- What a call does between two awaits. -/
inductive Op where
  /-- A counter is incremented, apart from any audit event. -/
  | count (counter : NapCounter)
  /-- An audit event is logged. -/
  | log (event : AuditEvent)
  /-- The clock is read, apart from any other operation. -/
  | nowUnix
  /-- The rate limiter is asked, and then the clock. -/
  | checkRateLimit (key : RateLimitKey)
  /-- The ACL resolver is asked, and then the clock. -/
  | resolve (npub pubkey : String) (context : AclResolutionContext)
  /-- A challenge is drawn and stored. -/
  | challengeCreate (draft : ChallengeDraft)
  /-- A challenge is read. -/
  | challengeGet (challengeId : String)
  /-- A challenge is redeemed. -/
  | redeem (challengeId : String) (params : RedeemParams)
  /-- Overdue challenges are marked. -/
  | markExpired (now : ℤ)
  /-- Outstanding challenges are counted. -/
  | countOutstanding (filter : OutstandingChallengeFilter)
  /-- A failure is counted on a challenge. -/
  | recordFailure (challengeId : String) (now maxFailures : ℤ)
  /-- A session is drawn and stored, or the one of its challenge is read. -/
  | createForChallenge (draft : SessionDraft)
  /-- A session is read. -/
  | getBySessionId (sessionId : String)
  /-- A session is read, and then the clock. -/
  | getByAccessToken (token : String)
  /-- A session is revoked. -/
  | revokeBySessionId (sessionId : String) (now : ℤ)
  /-- The sessions of a principal are revoked. -/
  | revokeByPrincipal (pubkey : String) (now : ℤ)
  /-- A session is read, and then the clock. -/
  | getByRefreshToken (token : String)
  /-- Tokens are drawn, and a session is rotated. -/
  | rotateRefreshToken (sessionId : String) (draft : RotateDraft)
  deriving DecidableEq

/-- The answers to an operation. `none` is a thrown error where a record is created, and `null`
elsewhere. -/
@[reducible] def Res : Op → Type
  | .count _ => Unit
  | .log _ => Unit
  | .nowUnix => ℤ
  | .checkRateLimit _ => RateLimitDecision × ℤ
  | .resolve _ _ _ => AclDecision × ℤ
  | .challengeCreate _ => Option ChallengeRecord
  | .challengeGet _ => Option ChallengeRecord
  | .redeem _ _ => RedeemStatus
  | .markExpired _ => ℕ
  | .countOutstanding _ => ℕ
  | .recordFailure _ _ _ => Option RecordChallengeFailureResult
  | .createForChallenge _ => Option SessionRecord
  | .getBySessionId _ => Option SessionRecord
  | .getByAccessToken _ => Option SessionRecord × ℤ
  | .revokeBySessionId _ _ => Unit
  | .revokeByPrincipal _ _ => ℕ
  | .getByRefreshToken _ => Option SessionRecord × ℤ
  | .rotateRefreshToken _ _ => Option SessionRecord

instance (op : Op) : DecidableEq (Res op) := by
  cases op <;> exact inferInstance

/-- `AuthInitResponse`. -/
structure AuthInitResponse where
  challengeId : String
  challenge : String
  authUrl : String
  authMethod : String
  issuedAt : ℤ
  expiresAt : ℤ
  supportedExtensions : Option (List String)
  deriving DecidableEq

/-- What the guards' `loadGuardContext` returns. -/
inductive GuardContext where
  /-- There is no session to act for. -/
  | noSession
  /-- There is one, and the ACL denies its principal. -/
  | aclDenied (session : SessionRecord)
  /-- The session, and the roles and permissions to judge the request by. -/
  | ok (session : SessionRecord) (roles permissions : List String)
  deriving DecidableEq

/-- What a call comes to. -/
inductive Outcome where
  /-- It died before it returned. -/
  | aborted
  /-- It threw an error of its own. -/
  | threw
  /-- The request was malformed. -/
  | malformed
  /-- It failed. -/
  | failed (failure : VerifyCompleteFailure)
  /-- A challenge was issued. -/
  | issued (response : AuthInitResponse)
  /-- A completion or a refresh succeeded. -/
  | ok (session : SessionRecord)
  /-- A guard has decided. -/
  | guarded (context : GuardContext)
  /-- A call without a result has returned. -/
  | done
  deriving DecidableEq

/-- The programs of the server. -/
abbrev Program : Type → Type := Prog Res

/-- The program of one operation. -/
abbrev perform (o : Op) : Program (Res o) := Prog.op o

/-! ## Logging -/

/-- `{ challenge_id }`. -/
def challengeDetails (challengeId : String) : AuditDetails :=
  some [("challenge_id", .str challengeId)]

/-- `{ session_id }`. -/
def sessionDetails (sessionId : String) : AuditDetails :=
  some [("session_id", .str sessionId)]

/-- The event that `logFailure` logs. -/
def failureEvent (code : NapErrorCode) (details : AuditDetails) : AuditEvent :=
  ⟨.error code, none, .failure, details⟩

/-- `logFailure`, and then `return failure(code)`. -/
def fail (code : NapErrorCode) (details : AuditDetails) : Program Outcome := do
  perform (.log (failureEvent code details))
  return .failed (failure code)

/-- A rate-limited request is logged, and answered with when to try again. -/
def refuse (code : NapErrorCode) (pubkey : Option String) (details : AuditDetails)
    (retryAfterSeconds : Option ℤ) : Program Outcome := do
  perform (.log ⟨.error code, pubkey, .rateLimited, details⟩)
  return .failed { failure code with retryAfterSeconds }

variable (P : Platform) (O : NapServerOptions)

/-! ## Issuing a challenge -/

/-- `IssueChallengeInput`. -/
structure IssueChallengeInput where
  npub : String
  authUrl : String
  authMethod : Option String
  clientIp : Option String
  deriving DecidableEq

/-- `resolveChallengeTtl`. `none`: it throws. -/
def resolveChallengeTtl : Option ℤ :=
  let ttl := O.challengeTtlSeconds.getD 60
  if ttl ≤ 0 ∨ ttl > 60 then none else some ttl

/-- `decodeNpub`. -/
def decodeNpub (npub : String) : Option String :=
  match P.nip19Decode npub with
  | some (type, data) => if type = "npub" then data else none
  | none => none

/-- `boundedNpub`. -/
def boundedNpub (npub : String) : Option String :=
  if JsString.length npub ≤ 128 then some npub else none

/-- A count of outstanding challenges, taken where a cap applies. -/
def countUnderCap (applies : Bool) (filter : OutstandingChallengeFilter) : Program ℕ :=
  if applies then perform (.countOutstanding filter) else return 0

/-- `findExceededOutstandingCap`: the dimension that is exceeded. The two counts are in flight
together, and are taken here in the order in which they are started. -/
def findExceededOutstandingCap (npub : String) (clientIp : Option String) (now : ℤ) :
    Program (Option String) := do
  let perNpub := O.maxOutstandingChallengesPerNpub.getD 10
  let perIp := O.maxOutstandingChallengesPerIp.getD 30
  let clientIp := if truthyString clientIp then clientIp else none
  let countsIp := clientIp.isSome && decide (perIp > 0)
  let npubCount ← countUnderCap (decide (perNpub > 0)) ⟨some npub, clientIp, now⟩
  let ipCount ← countUnderCap countsIp ⟨none, clientIp, now⟩
  if perNpub > 0 ∧ npubCount ≥ perNpub then return some "npub"
  else if countsIp ∧ ipCount ≥ perIp then return some "ip"
  else return none

/-- The answer to a challenge that was created. -/
def authInitResponse (record : ChallengeRecord) : AuthInitResponse where
  challengeId := record.challengeId
  challenge := record.challenge
  authUrl := record.authUrl
  authMethod := record.authMethod
  issuedAt := record.issuedAt
  expiresAt := record.expiresAt
  supportedExtensions := if O.supportedExtensions = [] then none else some O.supportedExtensions

/-- `issueChallenge` from the decoded key on. -/
def createChallenge (input : IssueChallengeInput) (ttl : ℤ) (pubkey : String) (now : ℤ) :
    Program Outcome := do
  let exceeded ← findExceededOutstandingCap O input.npub input.clientIp now
  match exceeded with
  | some cap =>
    refuse .initRateLimited none (some [("npub", .str input.npub), ("cap", .str cap)]) (some ttl)
  | none =>
    let created ← perform (.challengeCreate ⟨input.npub, pubkey, input.authUrl,
      input.authMethod.getD "POST", now, ttl, input.clientIp⟩)
    match created with
    | some record => return .issued (authInitResponse O record)
    | none => fail .initInternal (some [("npub", .str input.npub)])

/-- `issueChallenge`. -/
def issueChallenge (input : IssueChallengeInput) : Program Outcome :=
  match resolveChallengeTtl O with
  | none => return .threw
  | some ttl => do
    perform (.count .authInitTotal)
    let (rateLimit, now) ←
      perform (.checkRateLimit ⟨.init, boundedNpub input.npub, none, input.clientIp⟩)
    if rateLimit.allowed = false then
      refuse .initRateLimited none (some [("npub", .str input.npub)]) rateLimit.retryAfterSeconds
    else
      match decodeNpub P input.npub with
      | none => fail .initInvalidNpub (some [("npub", .str input.npub)])
      | some pubkey =>
        if pubkey = "" then fail .initInvalidNpub (some [("npub", .str input.npub)])
        else createChallenge O input ttl pubkey now

/-! ## Verifying a completion -/

/-- `VerifyCompletionInput`. -/
structure VerifyCompletionInput where
  authorization : Option String
  method : String
  url : String
  rawBody : List UInt8
  clientIp : Option String
  deriving DecidableEq

/-- The input of `verifyNip98Completion` for a request, its parsed body and a clock reading. -/
def proofInput (input : VerifyCompletionInput) (body : AuthCompleteRequest) (now : ℤ) :
    VerifyNip98CompletionInput where
  authorization := input.authorization
  method := input.method
  url := input.url
  body := body
  rawBody := input.rawBody
  now := now
  maxClockSkewSeconds := O.maxClockSkewSeconds.getD 60

/-- `recordChallengeFailure`. -/
def recordChallengeFailure (challengeId : String) (now : ℤ) : Program Unit := do
  let maxFailures := O.maxFailuresPerChallenge.getD 5
  if maxFailures ≤ 0 then return ()
  else
    match ← perform (.recordFailure challengeId now maxFailures) with
    | some result =>
      if result.state = .failedTerminal then
        perform (.log (failureEvent .completeFailedTerminal (some [("challenge_id",
          .str challengeId), ("failure_count", .num result.failureCount)])))
      else return ()
    | none => return ()

/-- What `verifyCompletion` makes a session of. -/
def completionDraft (body : AuthCompleteRequest) (now : ℤ) (challenge : ChallengeRecord)
    (decision : AclDecision) : SessionDraft where
  challenge := challenge
  now := now
  sessionTtlSeconds :=
    clampTtlToDecision (O.sessionTtlSeconds.getD 900) decision.expiresAt now
  roles := decision.roles
  permissions := decision.permissions
  stepUp := if body.stepUp then some (O.stepUpTtlSeconds.getD 600) else none
  refreshTtlSeconds := O.refreshTtlSeconds

/-- The parameters of `redeem` for an accepted proof and a session. -/
def redeemParams (proof : VerifiedNip98Completion) (session : SessionRecord) (now : ℤ) :
    RedeemParams where
  eventId := proof.event.id
  sessionId := session.sessionId
  now := now
  resultCacheUntil := now + O.resultCacheTtlSeconds.getD 30

/-- The details of a successful completion. -/
def successEvent (challengeId sessionId : String) (retry : Bool) : AuditEvent :=
  ⟨.completeSuccess, none, .success, some ([("challenge_id", .str challengeId),
    ("session_id", .str sessionId)] ++ if retry then [("retry", .bool true)] else [])⟩

/-- Whether a redeemed challenge may be answered again: it was redeemed by this event, and its
result is still cached. -/
def repeatable (record : ChallengeRecord) (proof : VerifiedNip98Completion) (now : ℤ) : Bool :=
  record.redeemedEventId == some proof.event.id && truthyString record.redeemedSessionId &&
    (!truthyInt record.resultCacheUntil || decide (record.resultCacheUntil.getD 0 ≥ now))

/-- The end of `verifyCompletion` for a challenge that was redeemed before: a repeated request gets
the session of the first. -/
def answerRepeated (proof : VerifiedNip98Completion) (now : ℤ) (challenge : ChallengeRecord) :
    Program Outcome := do
  match ← perform (.challengeGet challenge.challengeId) with
  | none => fail .completeRedeemedChallenge (challengeDetails challenge.challengeId)
  | some redeemedChallenge =>
    if repeatable redeemedChallenge proof now then
      match ← perform (.getBySessionId (redeemedChallenge.redeemedSessionId.getD "")) with
      | some existingSession => do
        perform (.log (successEvent challenge.challengeId existingSession.sessionId true))
        return .ok existingSession
      | none =>
        fail .completeInternal (some [("challenge_id", .str challenge.challengeId),
          ("reason", .str "redeemed_session_missing")])
    else fail .completeRedeemedChallenge (challengeDetails challenge.challengeId)

/-- `verifyCompletion` from the redemption on. -/
def redeemSession (proof : VerifiedNip98Completion) (now : ℤ) (challenge : ChallengeRecord)
    (session : SessionRecord) : Program Outcome := do
  match ← perform (.redeem challenge.challengeId (redeemParams O proof session now)) with
  | .redeemed => do
    perform (.log (successEvent challenge.challengeId session.sessionId false))
    return .ok session
  | .expired => fail .completeExpiredChallenge (challengeDetails challenge.challengeId)
  | .notFound => fail .completeUnknownChallenge (challengeDetails challenge.challengeId)
  | .alreadyRedeemed => answerRepeated proof now challenge

/-- `verifyCompletion` from the ACL decision on. The session is created before the challenge is
redeemed. -/
def authorizeCompletion (body : AuthCompleteRequest) (proof : VerifiedNip98Completion) (now : ℤ)
    (challenge : ChallengeRecord) : Program Outcome := do
  let (decision, _) ← perform (.resolve challenge.npub challenge.pubkey ⟨body.voucher, now, none⟩)
  if decision.allowed = false then
    fail .completeAclDenied (challengeDetails challenge.challengeId)
  else
    match ← perform (.createForChallenge (completionDraft O body now challenge decision)) with
    | none => return .threw
    | some session => redeemSession O proof now challenge session

/-- A failure that is counted on the challenge. -/
def failCounted (challenge : ChallengeRecord) (now : ℤ) (code : NapErrorCode) :
    Program Outcome := do
  recordChallengeFailure O challenge.challengeId now
  fail code (challengeDetails challenge.challengeId)

/-- `verifyCompletion` from the loaded challenge on. -/
def completeChallenge (body : AuthCompleteRequest) (proof : VerifiedNip98Completion) (now : ℤ)
    (challenge : ChallengeRecord) : Program Outcome :=
  if challenge.expiresAt < now ∨ challenge.state = .expired then
    fail .completeExpiredChallenge (challengeDetails challenge.challengeId)
  else if challenge.state = .failedTerminal then
    fail .completeFailedTerminal (challengeDetails challenge.challengeId)
  else if challenge.pubkey ≠ proof.event.pubkey then
    fail .completePrincipalMismatch (challengeDetails challenge.challengeId)
  else if challenge.challenge ≠ proof.challenge then
    failCounted O challenge now .completeChallengeMismatch
  else if validateChallengeBoundCreatedAt proof.event.createdAt challenge.issuedAt
      challenge.expiresAt (O.lowerBoundGraceSeconds.getD 30) (O.upperBoundGraceSeconds.getD 5) =
        false then
    failCounted O challenge now .completeCreatedAtOutOfRange
  else authorizeCompletion O body proof now challenge

/-- `verifyCompletion`. -/
def verifyCompletion (input : VerifyCompletionInput) : Program Outcome := do
  perform (.count .authCompleteTotal)
  match parseAuthCompleteRequest P input.rawBody with
  | none => return .malformed
  | some body => do
    let (rateLimit, now) ← perform (.checkRateLimit ⟨.complete, none, none, input.clientIp⟩)
    if rateLimit.allowed = false then
      refuse .completeRateLimited none (challengeDetails body.challengeId)
        rateLimit.retryAfterSeconds
    else
      match verifyNip98Completion P (proofInput O input body now) with
      | .error e => do
        perform (.log (failureEvent e.code (some [("url", .str input.url)])))
        return .failed e
      | .ok proof => do
        let (provenRateLimit, _) ←
          perform (.checkRateLimit ⟨.complete, none, some proof.event.pubkey, none⟩)
        if provenRateLimit.allowed = false then
          refuse .completeRateLimited (some proof.event.pubkey)
            (challengeDetails body.challengeId) provenRateLimit.retryAfterSeconds
        else
          match ← perform (.challengeGet proof.challengeId) with
          | none => fail .completeUnknownChallenge (challengeDetails proof.challengeId)
          | some challenge => completeChallenge O body proof now challenge

/-! ## Refreshing a session -/

/-- `RefreshSessionInput`. -/
structure RefreshSessionInput where
  refreshToken : Option String
  clientIp : Option String
  deriving DecidableEq

/-- The absolute ceiling of a session's lifetime, as an instant. -/
def lifetimeCeiling (session : SessionRecord) : Option ℤ :=
  O.maxSessionLifetimeSeconds.map (session.issuedAt + ·)

/-- The bound on a rotated session: the ceiling or the decision's own bound, whichever is sooner. -/
def decisionBound (ceiling : Option ℤ) (decision : AclDecision) : Option JsNumber :=
  match ceiling with
  | none => decision.expiresAt
  | some c => some (JsNumber.min (.ofInt c) (decision.expiresAt.getD (.ofInt c)))

/-- What `refreshSession` rotates a session with. The bound on an unlimited refresh token is
`Number.MAX_SAFE_INTEGER`. -/
def rotateDraft (refreshTtlSeconds : ℤ) (presented : String) (session : SessionRecord) (now : ℤ)
    (decision : AclDecision) : RotateDraft where
  expectedRefreshToken := presented
  now := now
  expiresAt := clampTtlToDecision (O.sessionTtlSeconds.getD 900)
    (decisionBound (lifetimeCeiling O session) decision) now + now
  refreshExpiresAt := min (now + refreshTtlSeconds)
    ((lifetimeCeiling O session).getD 9007199254740991)
  roles := decision.roles
  permissions := decision.permissions

/-- `refreshSession` from the ACL decision on. -/
def authorizeRefresh (refreshTtlSeconds : ℤ) (presented : String) (session : SessionRecord)
    (now : ℤ) : Program Outcome := do
  let (decision, _) ← perform (.resolve session.principalNpub session.principalPubkey
    ⟨none, now, some (session.roles, session.permissions)⟩)
  if decision.allowed = false then do
    if decision.revokeSessions then
      let _ ← perform (.revokeByPrincipal session.principalPubkey now)
    fail .refreshAclDenied (some ([("session_id", .str session.sessionId)] ++
      (decision.reason.map fun reason => ("reason", AuditValue.str reason)).toList))
  else
    match ← perform (.rotateRefreshToken session.sessionId
        (rotateDraft O refreshTtlSeconds presented session now decision)) with
    | none => fail .refreshInternal (sessionDetails session.sessionId)
    | some rotated => do
      perform (.log ⟨.refreshSuccess, some rotated.principalPubkey, .success,
        sessionDetails rotated.sessionId⟩)
      return .ok rotated

/-- `refreshSession` from the loaded session on. -/
def refreshLoaded (refreshTtlSeconds : ℤ) (presented : String) (session : SessionRecord) (now : ℤ) :
    Program Outcome :=
  if truthyString session.previousRefreshToken ∧
      constantTimeEquals (session.previousRefreshToken.getD "") presented then do
    perform (.revokeBySessionId session.sessionId now)
    perform (.log ⟨.error .refreshReused, some session.principalPubkey, .failure,
      sessionDetails session.sessionId⟩)
    return .failed (failure .refreshReused)
  else if truthyString session.refreshToken = false ∨
      constantTimeEquals (session.refreshToken.getD "") presented = false then
    fail .refreshUnknownToken (sessionDetails session.sessionId)
  else if session.revoked then
    fail .refreshRevoked (sessionDetails session.sessionId)
  else if truthyInt session.refreshExpiresAt = false ∨ session.refreshExpiresAt.getD 0 < now then
    fail .refreshExpired (sessionDetails session.sessionId)
  else if (lifetimeCeiling O session).any (· ≤ now) then
    fail .refreshExpired (some [("session_id", .str session.sessionId),
      ("reason", .str "max_session_lifetime")])
  else authorizeRefresh O refreshTtlSeconds presented session now

/-- `refreshSession`. -/
def refreshSession (input : RefreshSessionInput) : Program Outcome := do
  let refreshTtlSeconds := O.refreshTtlSeconds.getD 0
  if truthyInt O.refreshTtlSeconds = false then
    fail .refreshUnknownToken (some [("reason", .str "not_configured")])
  else
    let (rateLimit, _) ← perform (.checkRateLimit ⟨.refresh, none, none, input.clientIp⟩)
    if rateLimit.allowed = false then
      refuse .refreshRateLimited none none rateLimit.retryAfterSeconds
    else if truthyString input.refreshToken = false then
      fail .refreshUnknownToken none
    else
      let presented := input.refreshToken.getD ""
      match ← perform (.getByRefreshToken presented) with
      | (none, _) => fail .refreshUnknownToken none
      | (some session, now) => refreshLoaded O refreshTtlSeconds presented session now

/-! ## Guards, logout and operators -/

/-- The headers and the options by which a guard finds a session. -/
structure GuardRequest where
  authorization : Option String
  cookie : Option String
  cookieName : String
  deriving DecidableEq

/-- `parseCookieValue`. -/
def parseCookieValue (header : Option String) (cookieName : String) : Option String :=
  if truthyString header = false then none
  else
    (((header.getD "").toList.splitOn ';').map JsString.trimList).findSome? fun candidate =>
      if String.ofList (candidate.takeWhile (· ≠ '=')) = cookieName then
        some (String.ofList ((candidate.dropWhile (· ≠ '=')).drop 1))
      else none

/-- The token that a guard looks up: a bearer token, or else a cookie. -/
def presentedToken (req : GuardRequest) : Option String :=
  let bearerToken := match req.authorization with
    | some authorization =>
      if JsString.startsWith authorization "Bearer " then
        some (JsString.trim (JsString.slice authorization 7))
      else none
    | none => none
  if truthyString bearerToken then bearerToken
  else
    let cookieToken := parseCookieValue req.cookie req.cookieName
    if truthyString cookieToken then cookieToken else none

/-- `loadSession` of the adapters. -/
def loadSession (req : GuardRequest) : Program (Option SessionRecord) :=
  match presentedToken req with
  | none => return none
  | some token => do
    match ← perform (.getByAccessToken token) with
    | (none, _) => return none
    | (some session, now) =>
      if session.revoked ∨ session.expiresAt ≤ now then return none else return some session

/-- `resolveEffectiveAcl`, for a guard with an ACL resolver. -/
def resolveEffectiveAcl (session : SessionRecord) : Program (Option (List String × List String)) := do
  let now ← perform .nowUnix
  let (decision, now) ← perform (.resolve session.principalNpub session.principalPubkey
    ⟨none, now, some (session.roles, session.permissions)⟩)
  if decision.allowed = false then do
    if decision.revokeSessions then
      let _ ← perform (.revokeByPrincipal session.principalPubkey now)
    return none
  else return some (decision.roles, decision.permissions)

/-- `loadGuardContext`, for a guard with or without an ACL resolver. -/
def loadGuardContext (req : GuardRequest) (hasResolver : Bool) : Program Outcome := do
  match ← loadSession req with
  | none => return .guarded .noSession
  | some session =>
    if hasResolver then
      match ← resolveEffectiveAcl session with
      | some (roles, permissions) => return .guarded (.ok session roles permissions)
      | none => return .guarded (.aclDenied session)
    else return .guarded (.ok session session.roles session.permissions)

/-- `POST /auth/logout`. -/
def logout (req : GuardRequest) : Program Outcome := do
  match ← loadSession req with
  | none => return .done
  | some session => do
    let now ← perform .nowUnix
    perform (.revokeBySessionId session.sessionId now)
    return .done

/-- An operator revokes a session. -/
def revokeSession (sessionId : String) : Program Outcome := do
  let now ← perform .nowUnix
  perform (.revokeBySessionId sessionId now)
  return .done

/-- An operator revokes the sessions of a principal, as a suspension does once the ACL is
written. -/
def revokePrincipal (pubkey : String) : Program Outcome := do
  let now ← perform .nowUnix
  let _ ← perform (.revokeByPrincipal pubkey now)
  return .done

/-- A timer marks overdue challenges. -/
def markChallengesExpired : Program Outcome := do
  let now ← perform .nowUnix
  let _ ← perform (.markExpired now)
  return .done

/-- What may be called. -/
inductive Call where
  | issueChallenge (input : IssueChallengeInput)
  | verifyCompletion (input : VerifyCompletionInput)
  | refreshSession (input : RefreshSessionInput)
  | loadGuardContext (req : GuardRequest) (hasResolver : Bool)
  | logout (req : GuardRequest)
  | revokeSession (sessionId : String)
  | revokePrincipal (pubkey : String)
  | markChallengesExpired
  deriving DecidableEq

/-- The program of a call. -/
def body : Call → Program Outcome
  | .issueChallenge input => issueChallenge P O input
  | .verifyCompletion input => verifyCompletion P O input
  | .refreshSession input => refreshSession O input
  | .loadGuardContext req hasResolver => loadGuardContext req hasResolver
  | .logout req => logout req
  | .revokeSession sessionId => revokeSession sessionId
  | .revokePrincipal pubkey => revokePrincipal pubkey
  | .markChallengesExpired => markChallengesExpired

end NapAuth

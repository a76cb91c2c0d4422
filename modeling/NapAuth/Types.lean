import NapAuth.JsValue

/-!
# The records of the protocol

The types of `packages/nap-core/src/types.ts` and `packages/nap-server/src/types.ts` that the server
and its stores pass around. Times are Unix seconds. An optional field that is `undefined` and one
that a database returns as `null` are both `none`, since the code tells them apart nowhere.
-/

namespace NapAuth

/-- `NapErrorCode`. -/
inductive NapErrorCode where
  | initInvalidJson
  | initInvalidNpub
  | initRateLimited
  | initInternal
  | completeMissingAuthHeader
  | completeInvalidAuthScheme
  | completeInvalidEventJson
  | completeInvalidKind
  | completeInvalidSignature
  | completeCreatedAtOutOfRange
  | completeUrlMismatch
  | completeMethodMismatch
  | completeMissingPayload
  | completePayloadMismatch
  | completeMissingChallengeId
  | completeUnknownChallenge
  | completeExpiredChallenge
  | completeRedeemedChallenge
  | completeChallengeMismatch
  | completePrincipalMismatch
  | completeAclDenied
  | completeRateLimited
  | completeFailedTerminal
  | completeInternal
  | refreshUnknownToken
  | refreshReused
  | refreshExpired
  | refreshRevoked
  | refreshAclDenied
  | refreshRateLimited
  | refreshInternal
  deriving DecidableEq

/-- `isRetryableNapError`: membership in `RETRYABLE_ERRORS`. -/
def isRetryableNapError : NapErrorCode → Bool
  | .initRateLimited | .initInternal | .completeCreatedAtOutOfRange | .completeUnknownChallenge
  | .completeRateLimited | .completeInternal | .refreshRateLimited | .refreshInternal => true
  | _ => false

/-- `VerifyCompleteFailure`. -/
structure VerifyCompleteFailure where
  /-- What went wrong. -/
  code : NapErrorCode
  /-- Whether the client may try again. -/
  retryable : Bool
  /-- Seconds until it may, when the answer is a rate limiter's. -/
  retryAfterSeconds : Option ℤ
  deriving DecidableEq

/-- `failure(code)`. -/
def failure (code : NapErrorCode) : VerifyCompleteFailure := ⟨code, isRetryableNapError code, none⟩

/-- `ChallengeState`. -/
inductive ChallengeState where
  | issued
  | redeemed
  | expired
  | failedTerminal
  deriving DecidableEq

/-- `ChallengeRecord`. -/
structure ChallengeRecord where
  challengeId : String
  /-- The text that the proof must quote. -/
  challenge : String
  npub : String
  /-- The key that the challenge was issued to. -/
  pubkey : String
  authUrl : String
  authMethod : String
  issuedAt : ℤ
  expiresAt : ℤ
  state : ChallengeState
  /-- The event of the completion that redeemed the challenge. -/
  redeemedEventId : Option String
  /-- The session of the completion that redeemed the challenge. -/
  redeemedSessionId : Option String
  /-- Until when that completion may be repeated. -/
  resultCacheUntil : Option ℤ
  /-- The caller's address at issuance. -/
  clientIp : Option String
  /-- Completion attempts that failed on this challenge. -/
  failureCount : Option ℤ
  deriving DecidableEq

/-- `SessionRecord`. -/
structure SessionRecord where
  sessionId : String
  challengeId : String
  accessToken : String
  principalNpub : String
  principalPubkey : String
  roles : List String
  permissions : List String
  issuedAt : ℤ
  expiresAt : ℤ
  stepUpToken : Option String
  stepUpExpiresAt : Option ℤ
  /-- The current refresh token. -/
  refreshToken : Option String
  refreshExpiresAt : Option ℤ
  /-- The refresh token before the last rotation. -/
  previousRefreshToken : Option String
  revokedAt : Option ℤ
  deriving DecidableEq

/-- `AclDecision`. -/
structure AclDecision where
  allowed : Bool
  roles : List String
  permissions : List String
  reason : Option String
  /-- A denial that the resolver is certain about. -/
  revokeSessions : Bool
  /-- Until when the decision is valid. -/
  expiresAt : Option JsNumber
  deriving DecidableEq

/-- The `dleq` of a voucher credential. -/
structure Dleq where
  e : String
  s : String
  r : String
  deriving DecidableEq

/-- `VoucherCredential`. -/
structure VoucherCredential where
  mintUrl : String
  keysetId : String
  secret : String
  signature : String
  amount : ℤ
  dleq : Dleq
  witness : Option String
  deriving DecidableEq

/-- `AuthCompleteRequest`, as `parseAuthCompleteRequest` builds it: `step_up` is `true` or absent. -/
structure AuthCompleteRequest where
  challengeId : String
  stepUp : Bool
  voucher : Option VoucherCredential
  deriving DecidableEq

/-- `Nip98Event`. -/
structure Nip98Event where
  id : String
  pubkey : String
  createdAt : JsonNumber
  kind : JsonNumber
  tags : List (List String)
  content : String
  sig : String
  deriving DecidableEq

/-- `VerifiedNip98Completion`. -/
structure VerifiedNip98Completion where
  event : Nip98Event
  challenge : String
  challengeId : String
  payload : String
  deriving DecidableEq

/-- The codes of audit events: a failure's, or one of the two that are not failures. -/
inductive AuditCode where
  | error (code : NapErrorCode)
  | completeSuccess
  | refreshSuccess
  deriving DecidableEq

/-- The outcomes of audit events. -/
inductive AuditOutcome where
  | success
  | failure
  | rateLimited
  deriving DecidableEq

/-- The values in the details of an audit event. -/
inductive AuditValue where
  | str (s : String)
  | num (n : ℤ)
  | bool (b : Bool)
  deriving DecidableEq

/-- The `details` of an audit event, if it has any. -/
abbrev AuditDetails : Type := Option (List (String × AuditValue))

/-- The event that an `AuditLogger` is given. -/
structure AuditEvent where
  code : AuditCode
  pubkey : Option String
  outcome : AuditOutcome
  details : AuditDetails
  deriving DecidableEq

/-- `NapCounter`. -/
inductive NapCounter where
  | authInitTotal
  | authCompleteTotal
  | authSuccessTotal
  | authFailureTotal
  | authRateLimitedTotal
  | challengeRedeemedTotal
  | challengeRetryHitTotal
  | challengeExpiredTotal
  | audienceMismatchTotal
  | payloadMismatchTotal
  deriving DecidableEq

/-- The endpoint of a rate limit check. -/
inductive RateLimitScope where
  | init
  | complete
  | refresh
  deriving DecidableEq

/-- `RateLimitKey`. -/
structure RateLimitKey where
  scope : RateLimitScope
  npub : Option String
  pubkey : Option String
  clientIp : Option String
  deriving DecidableEq

/-- `RateLimitDecision`. -/
structure RateLimitDecision where
  allowed : Bool
  retryAfterSeconds : Option ℤ
  deriving DecidableEq

/-- `AclResolutionContext`. -/
structure AclResolutionContext where
  voucher : Option VoucherCredential
  now : ℤ
  /-- The roles and permissions of the session that is checked again. -/
  session : Option (List String × List String)
  deriving DecidableEq

end NapAuth

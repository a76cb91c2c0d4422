import NapAuth.Interleaving.Sequential
import NapAuth.Server.Program

/-!
# The guards of the two adapters

`requirePermission`, `requireRole`, `requireStepUp` and `requireSession`, with what they call, once
as `packages/nap-adapter-express/src/adapter.ts` has them and once as
`packages/nap-adapter-fastify/src/adapter.ts` has them. An Express handler answers the request or
calls `next`, and hands what was thrown to `next`. A Fastify hook answers the request or does not,
and rejects with what was thrown.

The two differ in how they read a header and in how a request goes on. On a request whose headers
are the same for both, each guard is the same program up to that (`programs_agree`), so the two come
to the same whatever the store, the resolver and the clock answer (`guards_agree`).
-/

namespace NapAuth

open Interleaving

/-! ## What the adapters share -/

/-- A value that may be an array: a header of a request, or the argument of `requireRole`. -/
inductive OneOrMany where
  | one (s : String)
  | many (l : List String)
  deriving DecidableEq

/-- `GuardDenialCode`. -/
inductive GuardDenialCode where
  /-- No token, or one that is unknown, expired or revoked. -/
  | noSession
  /-- The session is valid, and the ACL denies its principal. -/
  | aclDenied
  | permissionDenied
  | roleDenied
  /-- The step-up token is missing, wrong or expired. -/
  | stepUpRequired
  deriving DecidableEq

/-- `GUARD_DENIAL_CODES`. -/
def GuardDenialCode.text : GuardDenialCode → String
  | noSession => "NAP_GUARD_NO_SESSION"
  | aclDenied => "NAP_GUARD_ACL_DENIED"
  | permissionDenied => "NAP_GUARD_PERMISSION_DENIED"
  | roleDenied => "NAP_GUARD_ROLE_DENIED"
  | stepUpRequired => "NAP_GUARD_STEP_UP_REQUIRED"

/-- `GuardDenialDetails`. -/
structure GuardDenialDetails where
  permission : Option String
  roles : Option (List String)
  deriving DecidableEq

/-- What `logGuardDenial` logs, with the outcome `failure`. -/
structure GuardAuditEvent where
  code : String
  npub : Option String
  pubkey : Option String
  details : Option GuardDenialDetails
  deriving DecidableEq

/-- `PermissionDefinition`, as far as the guards read it. -/
structure PermissionDefinition where
  key : String
  stepUp : Bool
  deriving DecidableEq

/-- The options of a guard. The session store, the resolver, the logger and the clock answer as the
environment decides. -/
structure GuardOptions where
  cookieName : Option String
  /-- Whether there is an `aclResolver`. -/
  hasAclResolver : Bool
  /-- The permissions of the `registry`. -/
  registry : Option (List PermissionDefinition)
  /-- Whether there is an `auditLogger`. -/
  hasAuditLogger : Bool
  deriving DecidableEq

/-- What a guard does between two awaits. -/
inductive GuardOp where
  /-- The clock is read. -/
  | nowUnix
  /-- A session is read. -/
  | getByAccessToken (token : String)
  /-- The ACL resolver is asked. -/
  | resolve (npub pubkey : String) (context : AclResolutionContext)
  /-- The sessions of a principal are revoked. -/
  | revokeByPrincipal (pubkey : String) (now : ℤ)
  /-- A denial is logged. -/
  | log (event : GuardAuditEvent)
  deriving DecidableEq

/-- The answers to an operation. All but the clock may throw an error. -/
@[reducible] def GuardRes : GuardOp → Type
  | .nowUnix => ℤ
  | .getByAccessToken _ => Except String (Option SessionRecord)
  | .resolve _ _ _ => Except String AclDecision
  | .revokeByPrincipal _ _ => Except String ℕ
  | .log _ => Except String Unit

/-- An asynchronous function that may throw. -/
abbrev GuardProgram : Type → Type := ExceptT String (Prog GuardRes)

/-- `guardNow`. -/
def guardNow : GuardProgram ℤ := ExceptT.lift (Prog.op GuardOp.nowUnix)

/-- `sessionStore.getByAccessToken(token)`. -/
def getByAccessToken (token : String) : GuardProgram (Option SessionRecord) :=
  ExceptT.mk (Prog.op (GuardOp.getByAccessToken token))

/-- `aclResolver.resolve(npub, pubkey, context)`. -/
def resolveAcl (npub pubkey : String) (context : AclResolutionContext) : GuardProgram AclDecision :=
  ExceptT.mk (Prog.op (GuardOp.resolve npub pubkey context))

/-- `sessionStore.revokeByPrincipal(pubkey, now)`. -/
def revokeByPrincipal (pubkey : String) (now : ℤ) : GuardProgram ℕ :=
  ExceptT.mk (Prog.op (GuardOp.revokeByPrincipal pubkey now))

/-- `EffectiveAcl`. -/
structure EffectiveAcl where
  roles : List String
  permissions : List String
  deriving DecidableEq

/-- What `loadGuardContext` returns. -/
inductive LoadedContext where
  | ok (session : SessionRecord) (acl : EffectiveAcl)
  | denied (code : GuardDenialCode) (session : Option SessionRecord)
  deriving DecidableEq

/-- `resolveEffectiveAcl`. -/
def effectiveAcl (session : SessionRecord) (options : GuardOptions) :
    GuardProgram (Option EffectiveAcl) := do
  if options.hasAclResolver = false then return some ⟨session.roles, session.permissions⟩
  else
    let now ← guardNow
    let decision ← resolveAcl session.principalNpub session.principalPubkey
      ⟨none, now, some (session.roles, session.permissions)⟩
    if decision.allowed = false then
      if decision.revokeSessions then
        let now ← guardNow
        let _ ← revokeByPrincipal session.principalPubkey now
      return none
    else return some ⟨decision.roles, decision.permissions⟩

/-- `logGuardDenial`: what the logger throws is swallowed. -/
def logGuardDenial (code : GuardDenialCode) (options : GuardOptions)
    (session : Option SessionRecord) (details : Option GuardDenialDetails) : GuardProgram Unit :=
  if options.hasAuditLogger then do
    let _ ← ExceptT.lift (Prog.op (GuardOp.log ⟨code.text, session.map (·.principalNpub),
      session.map (·.principalPubkey), details⟩))
  else return ()

/-- A status, and the message of a body whose status is `error`. -/
structure GuardResponse where
  status : ℕ
  message : String
  deriving DecidableEq

/-- `toPublicAuthFailure`. -/
def toPublicAuthFailure : GuardResponse := ⟨401, "authentication failed"⟩

/-- What a guard denies a request with: the code that it reports, and what it writes. -/
structure Denial where
  code : GuardDenialCode
  response : GuardResponse
  deriving DecidableEq

/-- The guards, with the arguments that they are made with. -/
inductive GuardKind where
  | requirePermission (permission : String)
  | requireRole (role : OneOrMany)
  | requireStepUp
  | requireSession
  deriving DecidableEq

/-! ## Express -/

namespace Express

/-- A request: `req.header(name)`. -/
structure Request where
  header : String → Option String

/-- What a handler comes to. -/
inductive Result where
  /-- `next()` or `next(error)`. -/
  | next (error : Option String)
  /-- The request has been answered. -/
  | answered (denial : Denial)
  deriving DecidableEq

/-- `unauthorized`. -/
def unauthorized : GuardResponse := toPublicAuthFailure

/-- `forbidden`. -/
def forbidden (reason : String) : GuardResponse := ⟨403, reason⟩

/-- `denyGuard`. -/
def denyGuard (options : GuardOptions) (code : GuardDenialCode) (session : Option SessionRecord)
    (write : GuardResponse) (details : Option GuardDenialDetails) : GuardProgram Result := do
  logGuardDenial code options session details
  return .answered ⟨code, write⟩

/-- `hasValidStepUpToken`: the clock is read last. -/
def hasValidStepUpToken (req : Request) (session : SessionRecord) : GuardProgram Bool := do
  let providedToken := req.header "x-step-up-token"
  if truthyString providedToken && truthyString session.stepUpToken &&
      constantTimeEquals (session.stepUpToken.getD "") (providedToken.getD "") &&
      truthyInt session.stepUpExpiresAt then
    let now ← guardNow
    return decide (session.stepUpExpiresAt.getD 0 > now)
  else return false

/-- `requiresStepUp`. -/
def requiresStepUp (permission : String) (registry : Option (List PermissionDefinition)) : Bool :=
  (registry.map fun permissions => permissions.any fun definition =>
    definition.key = permission && definition.stepUp) == some true

/-- The token that `loadSession` looks up. -/
def token (req : Request) (options : GuardOptions) : Option String :=
  let authorization := req.header "authorization"
  let bearerToken := authorization.bind fun authorization =>
    if JsString.startsWith authorization "Bearer " then
      some (JsString.trim (JsString.slice authorization 7))
    else none
  let cookieToken := parseCookieValue (req.header "cookie") (options.cookieName.getD "session")
  if truthyString bearerToken then bearerToken else cookieToken

/-- It is the token that a guard of the server's model presents. -/
theorem token_presented (req : Request) (options : GuardOptions) :
    presentedToken ⟨req.header "authorization", req.header "cookie",
      options.cookieName.getD "session"⟩ =
      if truthyString (token req options) then token req options else none := by
  unfold presentedToken token
  cases req.header "authorization" with
  | none => rfl
  | some authorization =>
    have htruthy : ∀ a b : Option String,
        (if truthyString a then a else if truthyString b then b else none) =
          if truthyString (if truthyString a then a else b) then if truthyString a then a else b
          else none := by
      intro a b
      cases ha : truthyString a <;> simp [ha]
    exact htruthy _ _

/-- `loadSession`. -/
def loadSession (req : Request) (options : GuardOptions) : GuardProgram (Option SessionRecord) := do
  let token := token req options
  if truthyString token = false then return none
  else
    match ← getByAccessToken (token.getD "") with
    | none => return none
    | some session =>
      if session.revoked then return none
      else
        let now ← guardNow
        if session.expiresAt ≤ now then return none else return some session

/-- `loadGuardContext`. -/
def loadGuardContext (req : Request) (options : GuardOptions) : GuardProgram LoadedContext := do
  match ← loadSession req options with
  | none => return .denied .noSession none
  | some session =>
    match ← effectiveAcl session options with
    | some acl => return .ok session acl
    | none => return .denied .aclDenied (some session)

/-- `try .. catch (error) { next(error) }`. -/
def tryNext (handler : GuardProgram Result) : Prog GuardRes Result := do
  match ← handler.run with
  | .ok result => return result
  | .error error => return .next (some error)

/-- `requirePermission`. -/
def requirePermission (permission : String) (options : GuardOptions) (req : Request) :
    Prog GuardRes Result := tryNext do
  match ← loadGuardContext req options with
  | .denied code session => denyGuard options code session unauthorized (some ⟨permission, none⟩)
  | .ok session acl =>
    if acl.permissions.contains permission = false then
      denyGuard options .permissionDenied (some session) (forbidden "forbidden")
        (some ⟨permission, none⟩)
    else if requiresStepUp permission options.registry then
      if ← hasValidStepUpToken req session then return .next none
      else
        denyGuard options .stepUpRequired (some session) (forbidden "step-up required")
          (some ⟨permission, none⟩)
    else return .next none

/-- `requireRole`. -/
def requireRole (role : OneOrMany) (options : GuardOptions) (req : Request) :
    Prog GuardRes Result :=
  let accepted : List String := match role with
    | .many l => l
    | .one s => [s]
  tryNext do
    match ← loadGuardContext req options with
    | .denied code session => denyGuard options code session unauthorized (some ⟨none, some accepted⟩)
    | .ok session acl =>
      if (accepted.any fun entry => acl.roles.contains entry) = false then
        denyGuard options .roleDenied (some session) (forbidden "forbidden") (some ⟨none, some accepted⟩)
      else return .next none

/-- `requireStepUp`. -/
def requireStepUp (options : GuardOptions) (req : Request) : Prog GuardRes Result := tryNext do
  match ← loadSession req options with
  | none => denyGuard options .noSession none unauthorized none
  | some session =>
    if ← hasValidStepUpToken req session then return .next none
    else denyGuard options .stepUpRequired (some session) (forbidden "step-up required") none

/-- `requireSession`. -/
def requireSession (options : GuardOptions) (req : Request) : Prog GuardRes Result := tryNext do
  match ← loadGuardContext req options with
  | .denied code session => denyGuard options code session unauthorized none
  | .ok _ _ => return .next none

/-- A guard's handler. -/
def guard (kind : GuardKind) (options : GuardOptions) (req : Request) : Prog GuardRes Result :=
  match kind with
  | .requirePermission permission => requirePermission permission options req
  | .requireRole role => requireRole role options req
  | .requireStepUp => requireStepUp options req
  | .requireSession => requireSession options req

end Express

/-! ## Fastify -/

namespace Fastify

/-- A request: `req.headers[name]`. -/
structure Request where
  headers : String → Option OneOrMany

/-- What a hook comes to. -/
structure Result where
  /-- What it rejects with. -/
  thrown : Option String
  /-- What it has sent. -/
  reply : Option Denial
  deriving DecidableEq

/-- `unauthorized`. -/
def unauthorized : GuardResponse := toPublicAuthFailure

/-- `forbidden`. -/
def forbidden (reason : String) : GuardResponse := ⟨403, reason⟩

/-- `denyGuard`. -/
def denyGuard (options : GuardOptions) (code : GuardDenialCode) (session : Option SessionRecord)
    (write : GuardResponse) (details : Option GuardDenialDetails) : GuardProgram (Option Denial) := do
  logGuardDenial code options session details
  return some ⟨code, write⟩

/-- `hasValidStepUpToken`: the clock is read last. -/
def hasValidStepUpToken (req : Request) (session : SessionRecord) : GuardProgram Bool := do
  let stepUpToken := match req.headers "x-step-up-token" with
    | some (.many l) => l.head?
    | some (.one s) => some s
    | none => none
  if truthyString stepUpToken && truthyString session.stepUpToken &&
      constantTimeEquals (session.stepUpToken.getD "") (stepUpToken.getD "") &&
      truthyInt session.stepUpExpiresAt then
    let now ← guardNow
    return decide (session.stepUpExpiresAt.getD 0 > now)
  else return false

/-- `requiresStepUp`. -/
def requiresStepUp (permission : String) (registry : Option (List PermissionDefinition)) : Bool :=
  (registry.map fun permissions => permissions.any fun definition =>
    definition.key = permission && definition.stepUp) == some true

/-- The token that `loadSession` looks up. An array has no `startsWith`. -/
def token (req : Request) (options : GuardOptions) : Except String (Option String) := do
  let bearerToken ← match req.headers "authorization" with
    | some (.many _) => throw "authorization?.startsWith is not a function"
    | some (.one authorization) =>
      if JsString.startsWith authorization "Bearer " then
        pure (some (JsString.trim (JsString.slice authorization 7)))
      else pure none
    | none => pure none
  let cookieToken := parseCookieValue
    (match req.headers "cookie" with
      | some (.one cookie) => some cookie
      | _ => none)
    (options.cookieName.getD "session")
  return if truthyString bearerToken then bearerToken else cookieToken

/-- `loadSession`. -/
def loadSession (req : Request) (options : GuardOptions) : GuardProgram (Option SessionRecord) := do
  let token ← liftExcept (token req options)
  if truthyString token = false then return none
  else
    match ← getByAccessToken (token.getD "") with
    | none => return none
    | some session =>
      if session.revoked then return none
      else
        let now ← guardNow
        if session.expiresAt ≤ now then return none else return some session

/-- `loadGuardContext`. -/
def loadGuardContext (req : Request) (options : GuardOptions) : GuardProgram LoadedContext := do
  match ← loadSession req options with
  | none => return .denied .noSession none
  | some session =>
    match ← effectiveAcl session options with
    | some acl => return .ok session acl
    | none => return .denied .aclDenied (some session)

/-- A hook that has returned or rejected. -/
def settled (hook : GuardProgram (Option Denial)) : Prog GuardRes Result := do
  match ← hook.run with
  | .ok reply => return ⟨none, reply⟩
  | .error error => return ⟨some error, none⟩

/-- `requirePermission`. -/
def requirePermission (permission : String) (options : GuardOptions) (req : Request) :
    Prog GuardRes Result := settled do
  match ← loadGuardContext req options with
  | .denied code session => denyGuard options code session unauthorized (some ⟨permission, none⟩)
  | .ok session acl =>
    if acl.permissions.contains permission = false then
      denyGuard options .permissionDenied (some session) (forbidden "forbidden")
        (some ⟨permission, none⟩)
    else if requiresStepUp permission options.registry then
      if ← hasValidStepUpToken req session then return none
      else
        denyGuard options .stepUpRequired (some session) (forbidden "step-up required")
          (some ⟨permission, none⟩)
    else return none

/-- `requireRole`. -/
def requireRole (role : OneOrMany) (options : GuardOptions) (req : Request) :
    Prog GuardRes Result :=
  let accepted : List String := match role with
    | .many l => l
    | .one s => [s]
  settled do
    match ← loadGuardContext req options with
    | .denied code session => denyGuard options code session unauthorized (some ⟨none, some accepted⟩)
    | .ok session acl =>
      if (accepted.any fun entry => acl.roles.contains entry) = false then
        denyGuard options .roleDenied (some session) (forbidden "forbidden") (some ⟨none, some accepted⟩)
      else return none

/-- `requireStepUp`. -/
def requireStepUp (options : GuardOptions) (req : Request) : Prog GuardRes Result := settled do
  match ← loadSession req options with
  | none => denyGuard options .noSession none unauthorized none
  | some session =>
    if ← hasValidStepUpToken req session then return none
    else denyGuard options .stepUpRequired (some session) (forbidden "step-up required") none

/-- `requireSession`. -/
def requireSession (options : GuardOptions) (req : Request) : Prog GuardRes Result := settled do
  match ← loadGuardContext req options with
  | .denied code session => denyGuard options code session unauthorized none
  | .ok _ _ => return none

/-- A guard's hook. -/
def guard (kind : GuardKind) (options : GuardOptions) (req : Request) : Prog GuardRes Result :=
  match kind with
  | .requirePermission permission => requirePermission permission options req
  | .requireRole role => requireRole role options req
  | .requireStepUp => requireStepUp options req
  | .requireSession => requireSession options req

end Fastify

/-! ## The verdict on a request -/

/-- What becomes of a request. -/
inductive Verdict where
  /-- It goes on to the route. -/
  | admitted
  | denied (denial : Denial)
  /-- The framework handles an error. -/
  | failed (error : String)
  deriving DecidableEq

/-- The verdict of an Express handler. -/
def Express.Result.verdict : Express.Result → Verdict
  | .next none => .admitted
  | .next (some error) => .failed error
  | .answered denial => .denied denial

/-- The verdict of a Fastify hook: the request goes on if nothing was thrown or sent. -/
def Fastify.Result.verdict : Fastify.Result → Verdict
  | ⟨some error, _⟩ => .failed error
  | ⟨none, some denial⟩ => .denied denial
  | ⟨none, none⟩ => .admitted

/-- Two requests have a header at most once, and with the same value. -/
def SameHeader (express : Express.Request) (fastify : Fastify.Request) (name : String) : Prop :=
  fastify.headers name = (express.header name).map .one

/-- Two requests are the same in the headers that the guards read. -/
structure SameHeaders (express : Express.Request) (fastify : Fastify.Request) : Prop where
  authorization : SameHeader express fastify "authorization"
  cookie : SameHeader express fastify "cookie"
  stepUpToken : SameHeader express fastify "x-step-up-token"

/-- What an Express handler does where a Fastify hook sends a reply or does not. -/
def Express.Result.ofReply : Option Denial → Express.Result
  | some denial => .answered denial
  | none => .next none

section Agreement

variable {express : Express.Request} {fastify : Fastify.Request} {options : GuardOptions}

/-- The two look up the same token. -/
theorem token_agree (hsame : SameHeaders express fastify) :
    Fastify.token fastify options = .ok (Express.token express options) := by
  have hauthorization := hsame.authorization
  have hcookie := hsame.cookie
  unfold SameHeader at hauthorization hcookie
  unfold Fastify.token Express.token
  rw [hauthorization, hcookie]
  cases express.header "authorization" with
  | none => cases express.header "cookie" <;> rfl
  | some authorization =>
    by_cases hbearer : JsString.startsWith authorization "Bearer " = true
    · cases express.header "cookie" <;> simp [hbearer] <;> rfl
    · cases express.header "cookie" <;> simp [hbearer] <;> rfl

/-- The two load the same session. -/
theorem loadSession_agree (hsame : SameHeaders express fastify) :
    Fastify.loadSession fastify options = Express.loadSession express options := by
  unfold Fastify.loadSession Express.loadSession
  rw [token_agree hsame]
  rfl

/-- The two load the same context. -/
theorem loadGuardContext_agree (hsame : SameHeaders express fastify) :
    Fastify.loadGuardContext fastify options = Express.loadGuardContext express options := by
  unfold Fastify.loadGuardContext Express.loadGuardContext
  rw [loadSession_agree hsame]

/-- The two check the same step-up token. -/
theorem hasValidStepUpToken_agree (hsame : SameHeaders express fastify) (session : SessionRecord) :
    Fastify.hasValidStepUpToken fastify session = Express.hasValidStepUpToken express session := by
  have htoken := hsame.stepUpToken
  unfold SameHeader at htoken
  unfold Fastify.hasValidStepUpToken Express.hasValidStepUpToken
  rw [htoken]
  cases express.header "x-step-up-token" <;> rfl

/-- The two deny alike. -/
theorem denyGuard_agree (code : GuardDenialCode) (session : Option SessionRecord)
    (write : GuardResponse) (details : Option GuardDenialDetails) :
    Express.denyGuard options code session write details =
      Express.Result.ofReply <$> Fastify.denyGuard options code session write details := by
  unfold Express.denyGuard Fastify.denyGuard
  simp only [map_bind, map_pure]
  rfl

/-- The two check a step-up token alike, and deny alike without one. -/
theorem requireStepUp_agree (hsame : SameHeaders express fastify) (session : SessionRecord)
    (write : GuardResponse) (details : Option GuardDenialDetails) :
    (do
      if ← Express.hasValidStepUpToken express session then return .next none
      else Express.denyGuard options .stepUpRequired (some session) write details) =
    Express.Result.ofReply <$> (do
      if ← Fastify.hasValidStepUpToken fastify session then return none
      else Fastify.denyGuard options .stepUpRequired (some session) write details) := by
  rw [hasValidStepUpToken_agree hsame, map_bind]
  congr 1
  funext valid
  cases valid with
  | true => rfl
  | false => exact denyGuard_agree _ _ _ _

/-- A handler that does what a hook does comes to the same verdict. -/
theorem verdict_agree {handler : GuardProgram Express.Result} {hook : GuardProgram (Option Denial)}
    (h : handler = Express.Result.ofReply <$> hook) :
    Express.Result.verdict <$> Express.tryNext handler =
      Fastify.Result.verdict <$> Fastify.settled hook := by
  rw [h]
  unfold Express.tryNext Fastify.settled
  simp only [ExceptT.run_map, map_bind, bind_map_left]
  congr 1
  funext outcome
  obtain error | reply := outcome
  · rfl
  · cases reply <;> rfl

/-- Up to the verdict, the two guards are the same program. -/
theorem programs_agree (hsame : SameHeaders express fastify) (kind : GuardKind) :
    Express.Result.verdict <$> Express.guard kind options express =
      Fastify.Result.verdict <$> Fastify.guard kind options fastify := by
  cases kind with
  | requirePermission permission =>
    refine verdict_agree ?_
    rw [loadGuardContext_agree hsame, map_bind]
    congr 1
    funext context
    cases context with
    | denied code session => exact denyGuard_agree _ _ _ _
    | ok session acl =>
      have hregistry : Fastify.requiresStepUp permission options.registry =
        Express.requiresStepUp permission options.registry := rfl
      dsimp only
      rw [hregistry]
      split_ifs
      · exact denyGuard_agree _ _ _ _
      · exact requireStepUp_agree hsame _ _ _
      · rfl
  | requireRole role =>
    refine verdict_agree ?_
    rw [loadGuardContext_agree hsame, map_bind]
    congr 1
    funext context
    cases context with
    | denied code session => exact denyGuard_agree _ _ _ _
    | ok session acl =>
      dsimp only
      split_ifs
      · exact denyGuard_agree _ _ _ _
      · rfl
  | requireStepUp =>
    refine verdict_agree ?_
    rw [loadSession_agree hsame, map_bind]
    congr 1
    funext session
    cases session with
    | none => exact denyGuard_agree _ _ _ _
    | some session => exact requireStepUp_agree hsame _ _ _
  | requireSession =>
    refine verdict_agree ?_
    rw [loadGuardContext_agree hsame, map_bind]
    congr 1
    funext context
    cases context with
    | denied code session => exact denyGuard_agree _ _ _ _
    | ok session acl => rfl

/-- Whatever the session store holds, and whatever it, the resolver, the logger and the clock
answer: the two guards admit the same requests, deny the others with the same code, status and
message, and do the same to the store. -/
theorem guards_agree {σ E : Type} (exec : (op : GuardOp) → E → σ → GuardRes op × σ) (env : ℕ → E)
    (s : σ) (hsame : SameHeaders express fastify) (kind : GuardKind) :
    let e := (Express.guard kind options express).eval exec env 0 s
    let f := (Fastify.guard kind options fastify).eval exec env 0 s
    e.value.verdict = f.value.verdict ∧ e.events = f.events ∧ e.state = f.state := by
  have hprogram : Express.Result.verdict <$> Express.guard kind options express =
      Fastify.Result.verdict <$> Fastify.guard kind options fastify := programs_agree hsame kind
  have heval := congrArg (fun p => p.eval exec env 0 s) hprogram
  simp only [Prog.eval_map] at heval
  obtain ⟨hverdict, hevents, hstate⟩ := Evaluated.mk.inj heval
  exact ⟨hverdict, hevents, hstate⟩

end Agreement

namespace Sample

/-- A store with a resolver that denies everyone for good. -/
def denyAll : (op : GuardOp) → ℤ → List SessionRecord → GuardRes op × List SessionRecord
  | .nowUnix, now, rows => (now, rows)
  | .getByAccessToken token, _, rows => (.ok (rows.find? fun r => r.accessToken = token), rows)
  | .resolve _ _ _, _, rows => (.ok ⟨false, [], [], none, true, none⟩, rows)
  | .revokeByPrincipal pubkey now, _, rows =>
    (.ok rows.length, rows.map fun r => if r.principalPubkey = pubkey then r.stamp (some now) else r)
  | .log _, _, rows => (.error "the sink is down", rows)

/-- A session with the access token `a`. -/
def guardedSession : SessionRecord where
  sessionId := "s"
  challengeId := "c"
  accessToken := "a"
  principalNpub := "npub1"
  principalPubkey := "p"
  roles := ["merchant"]
  permissions := ["pay"]
  issuedAt := 1000
  expiresAt := 2000
  stepUpToken := none
  stepUpExpiresAt := none
  refreshToken := none
  refreshExpiresAt := none
  previousRefreshToken := none
  revokedAt := none

/-- A request that presents the token in a cookie. -/
def cookieHeader (name : String) : Option String := if name = "cookie" then some "session=a" else none

/-- The two adapters read it alike. -/
theorem cookieHeader_same :
    SameHeaders ⟨cookieHeader⟩ ⟨fun name => (cookieHeader name).map .one⟩ := ⟨rfl, rfl, rfl⟩

/-- The options of a guard with a resolver and a logger. -/
def guardOptions : GuardOptions := ⟨none, true, none, true⟩

end Sample

/-- A principal that the resolver denies: both answer with 401, and revoke its session. -/
theorem guards_agree_denied :
    let e := (Express.guard (.requirePermission "pay") Sample.guardOptions
      ⟨Sample.cookieHeader⟩).eval Sample.denyAll (fun _ => 1500) 0 [Sample.guardedSession]
    let f := (Fastify.guard (.requirePermission "pay") Sample.guardOptions
      ⟨fun name => (Sample.cookieHeader name).map .one⟩).eval Sample.denyAll (fun _ => 1500) 0
        [Sample.guardedSession]
    (e.value.verdict = f.value.verdict ∧ e.events = f.events ∧ e.state = f.state) ∧
      f.value.verdict = .denied ⟨.aclDenied, ⟨401, "authentication failed"⟩⟩ ∧
      f.state = [Sample.guardedSession.stamp (some 1500)] :=
  ⟨guards_agree Sample.denyAll (fun _ => 1500) [Sample.guardedSession] Sample.cookieHeader_same
    (.requirePermission "pay"), by decide, by decide⟩

end NapAuth

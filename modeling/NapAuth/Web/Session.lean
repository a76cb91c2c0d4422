import NapAuth.Client

/-!
# A session in the browser

`createNapSession` of `packages/nap-client-web/src/session.ts`: the session that a page keeps with its
signer. The page, its timers and the session's other tabs start its programs, and many of them may
run at once: a login waits for the signer and for the server four times.

An operation is what runs between two awaits. It answers what the await before it has waited for
(the environment's part), changes the session's variables and begins what the next await waits for.
The application's callbacks are left out: they run after a change, and what they call is a program of
its own. They return: `onLock`, `onShutdown`, `onLogout` and `onIdentityChanged` are called before the
other tabs are told, and one that throws would keep them from being told. Other tabs are the
environment too, and `published` is what they are told.
-/

namespace NapAuth.Web

open Interleaving

/-! ## Configuration -/

/-- What of `NapClientOptions` the session depends on. -/
structure NapClientOptions where
  /-- `isEvictableSigner(options.signer)`: the signer holds a key in the page. -/
  evictable : Bool
  /-- Whether there is a `keyStore`. -/
  hasKeyStore : Bool
  /-- `options.autoLock?.enabled`. -/
  autoLock : Bool
  /-- Whether there is a `shutdownTimeoutMs`. -/
  hasShutdownTimeout : Bool
  /-- `options.broadcast?.enabled`. -/
  broadcast : Bool

/-- `LockRecovery`. -/
inductive LockRecovery where
  | unlock
  | passphrase
  | reauthenticate
  deriving DecidableEq

variable (O : NapClientOptions)

/-- `lockRecovery`. -/
def lockRecovery : LockRecovery :=
  if !O.evictable then .unlock else if O.hasKeyStore then .passphrase else .reauthenticate

/-- The options that `createNapSession` accepts. -/
def createNapSession : Except String NapClientOptions :=
  if O.autoLock && lockRecovery O = .reauthenticate then
    .error ("autoLock with a key-holding signer requires a keyStore: the lock evicts the key and " ++
      "reunlock() is the only way back")
  else .ok O

/-! ## The variables of a session -/

/-- `SessionState`. -/
structure SessionState where
  pubkey : String
  npub : String
  roles : List String
  permissions : List String
  expiresAt : JsonNumber

/-- `AuthSuccessResponse`, as far as it is read. -/
structure AuthSuccessResponse where
  pubkey : String
  npub : String
  roles : Option (List String)
  permissions : Option (List String)
  expiresAt : JsonNumber
  stepUpToken : Option String

/-- `toSessionState`. -/
def toSessionState (response : AuthSuccessResponse) : SessionState where
  pubkey := response.pubkey
  npub := response.npub
  roles := response.roles.getD []
  permissions := response.permissions.getD []
  expiresAt := response.expiresAt

/-- What `fetch` comes to: the status and the text of a response. -/
inductive Reply where
  | rejected
  | response (status : ℕ) (text : String)

/-- What a request to the server comes to. -/
inductive Fetched (α : Type) where
  /-- The transport has failed. -/
  | thrown
  | response (status : ℕ) (body : Option α)

/-- `fetchJson`, of a response whose body is not looked into. -/
def fetchJson (P : Platform) : Reply → Fetched Json
  | .rejected => .thrown
  | .response status text =>
    if status = 204 then .response status none
    else if text = "" then .response status none
    else
      match P.jsonParse text with
      -- `JSON.parse` throws.
      | none => .thrown
      | some body => .response status (some body)

/-- Whether the request for a logout has gone through. -/
def loggedOut (P : Platform) (reply : Reply) : Bool :=
  match fetchJson P reply with
  | .thrown => false
  | .response _ _ => true

/-- The session's variables. -/
structure Session where
  sessionState : Option SessionState
  locked : Bool
  shutdownState : Bool
  /-- Whether an evictable signer holds its key. -/
  keyHeld : Bool
  /-- Whether the timer of the lock is running. -/
  lockTimer : Bool
  /-- Whether the timer of the shutdown is running. -/
  shutdownTimer : Bool
  /-- Whether the session listens to other tabs. -/
  channelOpen : Bool

namespace Session

variable (s : Session)

/-- `evictKey`. -/
def evictKey : Session := if O.evictable then { s with keyHeld := false } else s

/-- `keyHolder.setKey(key)`, of a key that the signer takes. -/
def setKey : Session :=
  { s with keyHeld := if O.evictable then true else s.keyHeld, locked := false, shutdownState := false }

/-- `keyHolder.clearKey()`. -/
def clearKey : Session := { s.evictKey O with locked := true }

/-- `keyHolder.hasKey()`. -/
def hasKey : Bool := if O.evictable then s.keyHeld else !s.locked

/-- `activityLock.touch()`. -/
def touch : Session :=
  { s with lockTimer := O.autoLock, shutdownTimer := O.autoLock && O.hasShutdownTimeout }

/-- The session is dropped: by a logout, or by `terminateForIdentity`. -/
def drop : Session :=
  { s.evictKey O with sessionState := none, locked := false, shutdownState := false }

/-- `publishLock`: whether there was a session to lock. -/
def publishLock : Bool × Session :=
  if s.sessionState.isNone then (false, s.touch O) else (true, s.clearKey O)

/-- `publishShutdown`. -/
def publishShutdown : Bool × Session :=
  if s.sessionState.isNone then (false, s.touch O)
  else (true, { s.clearKey O with shutdownState := true })

/-- `unlock`, unless the signer holds a key. -/
def unlock : Bool × Session :=
  if O.evictable then (false, s)
  else (true, { s with locked := false, shutdownState := false }.touch O)

end Session

/-- `BroadcastMessageType`. -/
inductive BroadcastMessageType where
  | logout
  | lock
  | unlock
  | shutdown
  | identityChanged
  deriving DecidableEq

/-- What a message of another tab does: whether it has been acted on. -/
def Session.onMessage (s : Session) (type : BroadcastMessageType) : Bool × Session :=
  if !s.channelOpen then (false, s)
  else
    match type with
    | .identityChanged => (true, s.drop O)
    | .logout => (true, s.drop O)
    | .unlock => s.unlock O
    | .shutdown =>
      if s.sessionState.isNone then (false, s)
      else (true, { s.clearKey O with shutdownState := true })
    | .lock => if s.sessionState.isNone then (false, s) else (true, s.clearKey O)

/-! ## Operations -/

/-- The operations of a session. -/
inductive SessionOp where
  /-- A login or a step-up begins: whether the session has its key. -/
  | enter
  /-- The signer has answered `getNpub`. -/
  | identify
  /-- The server has answered with a challenge, and the signer is asked for its completion. -/
  | challenge (stepUp : Bool)
  /-- The signer has answered. -/
  | sign
  /-- The server has answered the completion. -/
  | complete
  /-- The server has answered the logout. -/
  | logout
  /-- The server has answered what session there is. -/
  | resume
  /-- The signer has answered `getNpub`, for a session that was resumed. -/
  | verifyIdentity (pubkey : String)
  /-- `lock()`. -/
  | lock
  /-- `shutdown()`. -/
  | shutdown
  /-- The timer of the lock is due. -/
  | lockTimer
  /-- The timer of the shutdown is due. -/
  | shutdownTimer
  /-- The user is active. -/
  | touch
  /-- Another tab has sent a message. -/
  | message (type : BroadcastMessageType)
  /-- The key store has answered whether it has a key. -/
  | storeHasKey
  /-- The key store has answered the key. -/
  | loadKey
  /-- The key is given back. -/
  | setKey (key : String)
  /-- `unlock()`. -/
  | unlock
  /-- `destroy()`. -/
  | destroy

/-- What the identity of the signer comes to. -/
inductive Identified where
  /-- It is not known. -/
  | failed
  /-- It is not that of the session. -/
  | mismatch (expected actual : String)
  /-- The request for a challenge is sent. -/
  | proceeds (npub : String)

/-- What the request for a challenge comes to. -/
inductive Challenged where
  | thrown
  | refused (status : ℕ)
  /-- `signer.signEvent` is called. -/
  | signs (template : EventTemplate)

/-- What the completion comes to. -/
inductive Completed where
  | thrown
  | refused (status : ℕ)
  | mismatch (expected actual : String)
  | adopted (response : AuthSuccessResponse)

/-- What the request for the session comes to. -/
inductive Resumed where
  | thrown
  /-- The server knows no session. -/
  | expired
  | failed (status : ℕ)
  | restored (response : AuthSuccessResponse)

/-- `ReunlockErrorCode`. -/
inductive ReunlockErrorCode where
  | invalidPassphrase
  | noStoredKey
  | storageUnavailable
  deriving DecidableEq

/-- The answers to the operations. -/
@[reducible] def SessionRes : SessionOp → Type
  | .enter => Bool
  | .identify => Identified
  | .challenge _ => Challenged
  | .sign => Bool
  | .complete => Completed
  | .logout => Bool
  | .resume => Resumed
  | .verifyIdentity _ => Identified
  | .lock => Bool
  | .shutdown => Bool
  | .lockTimer => Bool
  | .shutdownTimer => Bool
  | .touch => Unit
  | .message _ => Bool
  | .storeHasKey => Option Bool
  | .loadKey => Except ReunlockErrorCode String
  | .setKey _ => Bool
  | .unlock => Bool
  | .destroy => Unit

/-- What the environment contributes. -/
structure SessionEnv where
  /-- The page's clock. -/
  now : ℤ
  /-- The signer's npub. -/
  npub : Option String
  /-- The server's challenge. -/
  challenge : Fetched AuthInitResponse
  /-- Whether the signer has signed. -/
  signed : Bool
  /-- The server's session. -/
  success : Fetched AuthSuccessResponse
  /-- What is answered to the request for the logout. -/
  logoutReply : Reply
  /-- Whether the store has a key, if it can be asked. -/
  storeHasKey : Option Bool
  /-- Its key. -/
  key : Except ReunlockErrorCode String
  /-- Whether the signer takes it. -/
  takesKey : Bool

section

variable (P : Platform) (C : Client)

/-- `pubkeyOfNpub`. -/
def pubkeyOfNpub (npub : String) : String :=
  match P.nip19Decode npub with
  | some (type, data) => if type = "npub" then data.getD npub else npub
  | none => npub

/-- The identity guard of `authenticate`, and what follows it. -/
def Session.identify (s : Session) (npub : Option String) : Identified × Session :=
  match npub with
  | none => (.failed, s)
  | some npub =>
    match s.sessionState with
    | some state =>
      if state.pubkey ≠ pubkeyOfNpub P npub then
        (.mismatch state.pubkey (pubkeyOfNpub P npub), s.drop O)
      else (.proceeds npub, { s with locked := false, shutdownState := false }.touch O)
    | none => (.proceeds npub, { s with locked := false, shutdownState := false }.touch O)

/-- The template that `buildAuthCompleteRequest` has signed. -/
def challengeTemplate (challenge : AuthInitResponse) (stepUp : Bool) (now : ℤ) : EventTemplate :=
  completionTemplate challenge
    (sha256Hex P (utf8Bytes (C.stringifyBody ⟨challenge.challengeId, stepUp, none⟩)))
    (JsonNumber.ofInt now)

/-- The answer to the request for a challenge. -/
def challenged (challenge : Fetched AuthInitResponse) (stepUp : Bool) (now : ℤ) : Challenged :=
  match challenge with
  | .thrown => .thrown
  | .response status body =>
    match body with
    | none => .refused status
    | some challenge =>
      if status ≠ 200 then .refused status else .signs (challengeTemplate P C challenge stepUp now)

/-- The answer to the completion. -/
def Session.complete (s : Session) (success : Fetched AuthSuccessResponse) : Completed × Session :=
  match success with
  | .thrown => (.thrown, s)
  | .response status body =>
    match body with
    | none => (.refused status, s)
    | some response =>
      if status ≠ 200 then (.refused status, s)
      else
        let next := toSessionState response
        if s.sessionState.any fun state => state.pubkey ≠ next.pubkey then
          (.mismatch ((s.sessionState.map (·.pubkey)).getD "") next.pubkey, s.drop O)
        else (.adopted response, { s with sessionState := some next })

/-- The answer to the request for the session. -/
def Session.resume (s : Session) (success : Fetched AuthSuccessResponse) : Resumed × Session :=
  match success with
  | .thrown => (.thrown, s)
  | .response status body =>
    if status = 401 then (.expired, { s with sessionState := none })
    else
      match body with
      | none => (.failed status, s)
      | some response =>
        if status ≠ 200 then (.failed status, s)
        else (.restored response, { s with sessionState := some (toSessionState response) })

/-- The identity guard of `resume`. -/
def Session.verifyIdentity (s : Session) (pubkey : String) (npub : Option String) :
    Identified × Session :=
  match npub with
  | none => (.failed, s)
  | some npub =>
    if pubkey ≠ pubkeyOfNpub P npub then (.mismatch pubkey (pubkeyOfNpub P npub), s.drop O)
    else (.proceeds npub, s)

/-- An operation in a state. -/
def sessionExec (op : SessionOp) (env : SessionEnv) (s : Session) : SessionRes op × Session :=
  match op with
  | .enter => (s.hasKey O, s)
  | .identify => s.identify O P env.npub
  | .challenge stepUp => (challenged P C env.challenge stepUp env.now, s)
  | .sign => (env.signed, s)
  | .complete => s.complete O env.success
  | .logout => if loggedOut P env.logoutReply then (true, s.drop O) else (false, s)
  | .resume => s.resume env.success
  | .verifyIdentity pubkey => s.verifyIdentity O P pubkey env.npub
  | .lock => s.publishLock O
  | .shutdown => s.publishShutdown O
  | .lockTimer =>
    if s.lockTimer then { s with lockTimer := false }.publishLock O else (false, s)
  | .shutdownTimer =>
    if s.shutdownTimer then { s with shutdownTimer := false }.publishShutdown O else (false, s)
  | .touch => ((), s.touch O)
  | .message type => s.onMessage O type
  | .storeHasKey => (env.storeHasKey, s)
  | .loadKey => (env.key, s)
  | .setKey _ =>
    if O.evictable && !env.takesKey then (false, s) else (true, (s.setKey O).touch O)
  | .unlock => s.unlock O
  | .destroy =>
    ((), { s.evictKey O with lockTimer := false, shutdownTimer := false, channelOpen := false })

/-- The variables of a session. -/
def sessionMachine : Machine SessionRes where
  State := Session
  Env := SessionEnv
  init :=
    { sessionState := none
      locked := false
      shutdownState := false
      keyHeld := true
      lockTimer := O.autoLock
      shutdownTimer := O.autoLock && O.hasShutdownTimeout
      channelOpen := O.broadcast }
  exec := sessionExec O P C

/-- What other tabs are told, with the identities that do not match. -/
def published : Event SessionRes → List (BroadcastMessageType × Option (String × String))
  | ⟨.identify, .mismatch expected actual⟩ => [(.identityChanged, some (expected, actual))]
  | ⟨.complete, .mismatch expected actual⟩ => [(.identityChanged, some (expected, actual))]
  | ⟨.verifyIdentity _, .mismatch expected actual⟩ => [(.identityChanged, some (expected, actual))]
  | ⟨.logout, true⟩ => [(.logout, none)]
  | ⟨.lock, true⟩ => [(.lock, none)]
  | ⟨.lockTimer, true⟩ => [(.lock, none)]
  | ⟨.shutdown, true⟩ => [(.shutdown, none)]
  | ⟨.shutdownTimer, true⟩ => [(.shutdown, none)]
  | ⟨.setKey _, true⟩ => [(.unlock, none)]
  | ⟨.unlock, true⟩ => [(.unlock, none)]
  | _ => []

/-- Whether a server's refusal is final: another attempt with the same signer is refused too. -/
def isTerminal (status : ℕ) : Bool := 400 ≤ status && status < 500 && status != 429

/-- Whether the choice of the signer is forgotten. -/
def clearsPreference : Event SessionRes → Bool
  | ⟨.identify, .mismatch _ _⟩ => true
  | ⟨.challenge _, .refused status⟩ => isTerminal status
  | ⟨.complete, .refused status⟩ => isTerminal status
  | ⟨.complete, .mismatch _ _⟩ => true
  | ⟨.verifyIdentity _, .mismatch _ _⟩ => true
  | _ => false

/-! ## Programs -/

/-- A program of a session. -/
abbrev SessionProgram (α : Type) : Type := Prog SessionRes α

/-- Issue one operation. -/
abbrev session (o : SessionOp) : SessionProgram (SessionRes o) := Prog.op o

/-- Why a program fails. -/
inductive SessionError where
  /-- `SessionLockedError`. -/
  | locked
  /-- The signer has failed. -/
  | signer
  /-- `IdentityMismatchError`. -/
  | identityMismatch (expected actual : String)
  /-- The transport has failed. -/
  | transport
  /-- `AuthRequestError`, in one of its two phases. -/
  | request (isInit : Bool) (status : ℕ)
  /-- The session lookup has failed. -/
  | lookup (status : ℕ)
  /-- There is no step-up token. -/
  | noStepUpToken
  /-- There is no key store. -/
  | noKeyStore
  /-- `ReunlockError`. -/
  | reunlock (code : ReunlockErrorCode)
  /-- The signer refuses the key. -/
  | keyRefused
  /-- The signer holds a key of its own. -/
  | holdsKey

/-- What a program returns. -/
inductive SessionOutcome where
  /-- The program has died with the page. -/
  | gone
  | done
  | failed (error : SessionError)
  | success (response : AuthSuccessResponse)
  | stepUpToken (token : String)

/-- What starts a program. -/
inductive SessionCall where
  | login
  | stepUp
  | logout
  | resume (verifyIdentity : Bool)
  | lock
  | shutdown
  | lockTimer
  | shutdownTimer
  | touch
  | message (type : BroadcastMessageType)
  | reunlock
  | unlock
  | destroy

/-- `authenticate`. -/
def authenticate (stepUp : Bool) : SessionProgram (Except SessionError AuthSuccessResponse) := do
  if !(← session .enter) then return .error .locked
  else
    match ← session .identify with
    | .failed => return .error .signer
    | .mismatch expected actual => return .error (.identityMismatch expected actual)
    | .proceeds _ =>
      match ← session (.challenge stepUp) with
      | .thrown => return .error .transport
      | .refused status => return .error (.request true status)
      | .signs _ =>
        if !(← session .sign) then return .error .signer
        else
          match ← session .complete with
          | .thrown => return .error .transport
          | .refused status => return .error (.request false status)
          | .mismatch expected actual => return .error (.identityMismatch expected actual)
          | .adopted response => return .ok response

/-- `login`. -/
def login : SessionProgram SessionOutcome := do
  match ← authenticate false with
  | .ok response => return .success response
  | .error error => return .failed error

/-- `stepUp`. -/
def stepUp : SessionProgram SessionOutcome := do
  match ← authenticate true with
  | .ok response =>
    match response.stepUpToken with
    | some token => return .stepUpToken token
    | none => return .failed .noStepUpToken
  | .error error => return .failed error

/-- `logout`. -/
def logout : SessionProgram SessionOutcome := do
  if ← session .logout then return .done else return .failed .transport

/-- `resume`. -/
def resume (verifyIdentity : Bool) : SessionProgram SessionOutcome := do
  match ← session .resume with
  | .thrown => return .failed .transport
  | .expired => return .done
  | .failed status => return .failed (.lookup status)
  | .restored response =>
    if verifyIdentity then
      match ← session (.verifyIdentity (toSessionState response).pubkey) with
      | .failed => return .failed .signer
      | .mismatch expected actual => return .failed (.identityMismatch expected actual)
      | .proceeds _ => return .success response
    else return .success response

/-- `reunlock`. -/
def reunlock : SessionProgram SessionOutcome := do
  if !O.hasKeyStore then return .failed .noKeyStore
  else
    match ← session .storeHasKey with
    | none => return .failed (.reunlock .storageUnavailable)
    | some false => return .failed (.reunlock .noStoredKey)
    | some true =>
      match ← session .loadKey with
      | .error code => return .failed (.reunlock code)
      | .ok key =>
        if key = "" then return .failed (.reunlock .noStoredKey)
        else if ← session (.setKey key) then return .done
        else return .failed .keyRefused

/-- A program that is one operation. -/
def atOnce (op : SessionOp) : SessionProgram SessionOutcome := do
  let _ ← session op
  return .done

/-- The program of a call. -/
def sessionBody : SessionCall → SessionProgram SessionOutcome
  | .login => login
  | .stepUp => stepUp
  | .logout => logout
  | .resume verifyIdentity => resume verifyIdentity
  | .lock => atOnce .lock
  | .shutdown => atOnce .shutdown
  | .lockTimer => atOnce .lockTimer
  | .shutdownTimer => atOnce .shutdownTimer
  | .touch => atOnce .touch
  | .message type => atOnce (.message type)
  | .reunlock => reunlock O
  | .unlock => do
    if ← session .unlock then return .done else return .failed .holdsKey
  | .destroy => atOnce .destroy

/-- A session of a page. -/
def napSession : System SessionRes SessionCall SessionOutcome where
  toMachine := sessionMachine O P C
  body := sessionBody O
  aborted := .gone
  admissible _ _ := true

end

end NapAuth.Web

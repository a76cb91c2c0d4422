import NapAuth.CrossOrigin.Protocol

/-!
# The relying page

`connectCrossOrigin` of `packages/nap-client-web/src/crossOriginClient.ts`: the page that opens a
signer page, connects to it and asks it for signatures. One system is one connection. What starts its
programs is the page that calls it, messages of other windows, timers and the closing of the popup.

An operation is what runs between two awaits. A program that awaits a promise goes on when the
promise has been settled, and anything may happen in between. A timer that has been cleared does not
fire, and a listener that has been removed hears nothing.

Every request of the connection is settled once: its id is either pending, with its timer running,
or has been settled (`Settles`).
-/

namespace NapAuth.CrossOrigin

open Interleaving

/-! ## The state of a connection -/

/-- `ConnectCrossOriginOptions`, with the origins normalized. -/
structure RelyingOptions where
  keyOrigin : String
  kinds : List ℤ
  audiences : List String
  expectedPubkey : Option String

/-- How the promise of a request is settled. -/
inductive Settlement where
  | resolved (message : CrossOriginMessage)
  | rejected (code : CrossOriginErrorCode)

/-- The promise that the signer page is ready. -/
inductive ReadyWait where
  /-- It has not been made. -/
  | unasked
  /-- It is pending, and its timer is running. -/
  | waiting
  /-- It has been settled: resolved, or rejected with a code. -/
  | settled (rejected : Option CrossOriginErrorCode)

/-- The variables of one connection. -/
structure RelyingState where
  /-- Whether the connection has been begun. -/
  begun : Bool
  /-- The window of the signer page. -/
  popup : Option ℕ
  ready : Bool
  readyWait : ReadyWait
  grant : Option GrantInfo
  ended : Option CrossOriginErrorCode
  /-- Whether the listener is there. -/
  listening : Bool
  /-- Whether the popup is polled. -/
  polling : Bool
  /-- The ids of the pending requests. -/
  pending : List String
  /-- The requests whose timers are running. -/
  timers : List String
  /-- Every call of a request's `resolve` and `reject`, in their order. -/
  settled : List (String × Settlement)
  /-- The application's listeners of the end. -/
  endListeners : List ℕ
  /-- What they have been told. -/
  notified : List (ℕ × CrossOriginErrorCode)

namespace RelyingState

variable (s : RelyingState)

/-- Settle the promise that the signer page is ready, if it is pending: its timer is cleared. -/
def settleReady (rejected : Option CrossOriginErrorCode) : RelyingState :=
  match s.readyWait with
  | .waiting => { s with readyWait := .settled rejected }
  | .unasked => s
  | .settled _ => s

/-- `end(code)`. -/
def endWith (code : CrossOriginErrorCode) : RelyingState :=
  if s.ended.isSome then s
  else
    { s.settleReady (some code) with
      ended := some code
      polling := false
      listening := false
      pending := []
      timers := s.timers.filter fun id => !s.pending.contains id
      settled := s.settled ++ s.pending.map fun id => (id, .rejected code)
      endListeners := []
      notified := s.notified ++ s.endListeners.map fun n => (n, code) }

/-- Settle a pending request: its entry goes, and its timer is cleared. -/
def settle (id : String) (settlement : Settlement) : RelyingState :=
  { s with
    pending := s.pending.erase id
    timers := s.timers.erase id
    settled := s.settled ++ [(id, settlement)] }

/-- What a request comes to at once. -/
inductive Requested where
  /-- The connection has ended. -/
  | rejected (code : CrossOriginErrorCode)
  /-- The message is posted, and the reply is awaited. -/
  | pending (id : String)

/-- `request(message, timeoutMs)`, with a message's new id. -/
def request (id : String) : Requested × RelyingState :=
  match s.ended with
  | some code => (.rejected code, s)
  | none => (.pending id, { s with pending := s.pending ++ [id], timers := s.timers ++ [id] })

/-- What a message of the signer page does. -/
def handle : CrossOriginMessage → RelyingState
  | .ready =>
    if !s.ready then { s with ready := true }.settleReady none
    -- The signer page has reloaded, and its grants are gone.
    else if s.grant.isSome then s.endWith .revoked else s
  | .revoked grantId =>
    if s.grant.any fun grant => grantId = grant.grantId then s.endWith .revoked else s
  | .connected id grant =>
    if s.pending.contains id then s.settle id (.resolved (.connected id grant)) else s
  | .signed id event =>
    if s.pending.contains id then s.settle id (.resolved (.signed id event)) else s
  | .error id code =>
    match id with
    | none => s
    | some id =>
      if s.pending.contains id then
        let s := s.settle id (.rejected code)
        if code = .revoked ∨ code = .grantExpired then s.endWith code else s
      else s
  | .connect _ _ _ _ => s
  | .sign _ _ _ => s
  | .disconnect _ => s

/-- `listener`. Only the popup is heard, and only while it shows the key origin. -/
def listener (keyOrigin : String) (event : MessageEvent) : RelyingState :=
  if !s.listening || s.popup.isNone || event.source != s.popup || event.origin != keyOrigin then s
  else
    match parseMessage event.data with
    | none => s
    | some message => s.handle message

/-- The timer of a request fires, unless it has been cleared. -/
def fireTimer (id : String) : RelyingState :=
  if s.timers.contains id then s.settle id (.rejected .timeout) else s

/-- What the beginning of a connection comes to. -/
inductive Opening where
  /-- It has been begun before. -/
  | again
  | blocked
  | opened

/-- The synchronous part of `connectCrossOrigin`: the popup is opened, and the promise that it is
ready is made. -/
def «open» (popup : Option ℕ) : Opening × RelyingState :=
  if s.begun then (.again, s)
  else
    match popup with
    | none => (.blocked, { s with begun := true, listening := false })
    | some window => (.opened, { s with
        begun := true
        popup := some window
        listening := true
        polling := true
        readyWait := if s.ready then .settled none else .waiting })

/-- The beginning of a signature. -/
inductive SignStart where
  | failed (code : CrossOriginErrorCode)
  | pending (id grantId : String)

/-- `signEvent`, up to its await. -/
def startSign (id : String) (now : ℚ) : SignStart × RelyingState :=
  match s.grant, s.ended with
  | none, ended => (.failed (ended.getD .revoked), s)
  | some _, some code => (.failed code, s)
  | some grant, none =>
    if grant.expiresAt ≤ now then (.failed .grantExpired, s.endWith .grantExpired)
    else
      match s.request id with
      | (.rejected code, s) => (.failed code, s)
      | (.pending id, s) => (.pending id grant.grantId, s)

/-- `disconnect`: the id of the grant that the signer page is told to drop. -/
def disconnect : Option String × RelyingState :=
  (if s.ended.isSome then none else s.grant.map (·.grantId), s.endWith .revoked)

/-- `onEnd(notify)`. -/
def onEnd (listener : ℕ) : RelyingState :=
  match s.ended with
  | some code => { s with notified := s.notified ++ [(listener, code)] }
  | none =>
    if s.endListeners.contains listener then s
    else { s with endListeners := s.endListeners ++ [listener] }

end RelyingState

/-! ## Operations -/

/-- The operations of a connection. -/
inductive RelyingOp where
  /-- The popup is opened. -/
  | «open»
  /-- The await of the signer page. -/
  | awaitReady
  /-- The request for a grant. -/
  | requestConnect
  /-- The await of a reply. -/
  | awaitReply (id : String)
  /-- The grant is stored. -/
  | accept (grant : GrantInfo)
  /-- The connection has failed. -/
  | fail (code : CrossOriginErrorCode)
  /-- A signature begins. -/
  | startSign (template : EventTemplate)
  /-- The grant is read. -/
  | grant
  /-- A message arrives. -/
  | listener (event : MessageEvent)
  /-- The timer of a request is due. -/
  | fireTimer (id : String)
  /-- The timer of the signer page is due. -/
  | fireReadyTimer
  /-- The popup is looked at. -/
  | poll
  /-- A listener of the end is added. -/
  | onEnd (listener : ℕ)
  /-- And removed. -/
  | offEnd (listener : ℕ)
  /-- The page disconnects. -/
  | disconnect

/-- The answers to them. -/
@[reducible] def RelyingRes : RelyingOp → Type
  | .open => RelyingState.Opening
  | .awaitReady => Option CrossOriginErrorCode
  | .requestConnect => RelyingState.Requested
  | .awaitReply _ => Settlement
  | .startSign _ => RelyingState.SignStart
  | .grant => Option GrantInfo
  | .disconnect => Option String
  | _ => Unit

/-- What the environment contributes. -/
structure RelyingEnv where
  now : ℚ
  /-- A new random id. -/
  randomId : String
  /-- The window that `window.open` returns. -/
  popup : Option ℕ
  /-- Whether it has been closed. -/
  popupClosed : Bool

section

variable (K : RelyingOptions)

/-- An operation in a state. -/
def relyingExec (op : RelyingOp) (env : RelyingEnv) (s : RelyingState) :
    RelyingRes op × RelyingState :=
  match op with
  | .open => s.open env.popup
  | .awaitReady =>
    match s.readyWait with
    | .settled rejected => (rejected, s)
    | .waiting => (none, s)
    | .unasked => (none, s)
  | .requestConnect => s.request env.randomId
  | .awaitReply id =>
    -- A promise is settled by the first call, and later ones do nothing.
    match s.settled.find? fun p => p.1 == id with
    | some p => (p.2, s)
    | none => (.rejected .signerError, s)
  | .accept grant => ((), { s with grant := some grant, endListeners := [] })
  | .fail code => ((), s.endWith code)
  | .startSign _ => s.startSign env.randomId env.now
  | .grant => (s.grant, s)
  | .listener event => ((), s.listener K.keyOrigin event)
  | .fireTimer id => ((), s.fireTimer id)
  | .fireReadyTimer => ((), s.settleReady (some .notAvailable))
  | .poll => ((), if s.polling && env.popupClosed then s.endWith .channelClosed else s)
  | .onEnd listener => ((), s.onEnd listener)
  | .offEnd listener => ((), { s with endListeners := s.endListeners.erase listener })
  | .disconnect => s.disconnect

/-- The variables of a connection. -/
def relyingMachine : Machine RelyingRes where
  State := RelyingState
  Env := RelyingEnv
  init :=
    { begun := false
      popup := none
      ready := false
      readyWait := .unasked
      grant := none
      ended := none
      listening := false
      polling := false
      pending := []
      timers := []
      settled := []
      endListeners := []
      notified := [] }
  exec := relyingExec K

/-- The messages that an operation posts to the popup. -/
def relyingPostsOf : Event RelyingRes → List CrossOriginMessage
  | ⟨.requestConnect, .pending id⟩ =>
    [.connect id K.kinds K.audiences (K.expectedPubkey.filter (· ≠ ""))]
  | ⟨.startSign template, .pending id grantId⟩ => [.sign id grantId template]
  | ⟨.disconnect, some grantId⟩ => [.disconnect grantId]
  | _ => []

/-! ## Programs -/

/-- A program of a connection. -/
abbrev RelyingProgram (α : Type) : Type := Prog RelyingRes α

/-- Issue one operation. -/
abbrev perform (o : RelyingOp) : RelyingProgram (RelyingRes o) := Prog.op o

/-- What a program returns. -/
inductive RelyingOutcome where
  /-- The program has died with the page. -/
  | gone
  | done
  /-- The promise is rejected. -/
  | failed (code : CrossOriginErrorCode)
  /-- The connection's grant. -/
  | granted (grant : GrantInfo)
  /-- A signed event. -/
  | event (event : Nip98Event)

/-- What starts a program. -/
inductive RelyingCall where
  /-- The connection is begun. -/
  | connectCrossOrigin
  | signEvent (template : EventTemplate)
  | message (event : MessageEvent)
  | timer (id : String)
  | readyTimer
  | poll
  | onEnd (listener : ℕ)
  | offEnd (listener : ℕ)
  | disconnect

/-- Whether a grant is within what was asked for. -/
def granted (grant : GrantInfo) : Bool :=
  (grant.kinds.all fun kind => K.kinds.contains kind) &&
    (grant.audiences.all fun audience => K.audiences.contains audience) &&
    K.expectedPubkey.all fun pubkey => pubkey = "" || grant.pubkey = pubkey

/-- The connection fails. -/
def giveUp (code : CrossOriginErrorCode) : RelyingProgram RelyingOutcome := do
  perform (.fail code)
  return .failed code

/-- `connectCrossOrigin`, from the request on. -/
def connectReady : RelyingProgram RelyingOutcome := do
  match ← perform .requestConnect with
  | .rejected code => giveUp code
  | .pending id =>
    match ← perform (.awaitReply id) with
    | .rejected code => giveUp code
    | .resolved message =>
      match message with
      | .connected _ grant =>
        if granted K grant then do
          perform (.accept grant)
          return .granted grant
        else giveUp .signerError
      | _ => giveUp .signerError

/-- `connectCrossOrigin`. -/
def connectCrossOrigin : RelyingProgram RelyingOutcome := do
  match ← perform .open with
  | .again => return .done
  | .blocked => return .failed .popupBlocked
  | .opened =>
    match ← perform .awaitReady with
    | some code => giveUp code
    | none => connectReady K

variable (P : Platform)

/-- `signEvent`, when a reply has come. -/
def checkSigned (template : EventTemplate) (event : Nip98Event) : RelyingProgram RelyingOutcome := do
  match ← perform .grant with
  | none => return .failed .signerError
  | some grant =>
    if event.pubkey ≠ grant.pubkey || !sameEvent template event || !P.verifyEvent event then
      return .failed .signerError
    else return .event event

/-- `signEvent`. -/
def signEvent (template : EventTemplate) : RelyingProgram RelyingOutcome := do
  match ← perform (.startSign template) with
  | .failed code => return .failed code
  | .pending id _ =>
    match ← perform (.awaitReply id) with
    | .rejected code => return .failed code
    | .resolved message =>
      match message with
      | .signed _ event => checkSigned P template event
      | _ => return .failed .signerError

/-- A program that is one operation. -/
def once (op : RelyingOp) : RelyingProgram RelyingOutcome := do
  let _ ← perform op
  return .done

/-- The program of a call. -/
def relyingBody : RelyingCall → RelyingProgram RelyingOutcome
  | .connectCrossOrigin => connectCrossOrigin K
  | .signEvent template => signEvent P template
  | .message event => once (.listener event)
  | .timer id => once (.fireTimer id)
  | .readyTimer => once .fireReadyTimer
  | .poll => once .poll
  | .onEnd listener => once (.onEnd listener)
  | .offEnd listener => once (.offEnd listener)
  | .disconnect => once .disconnect

/-- Whether an operation takes a new id. -/
def RelyingOp.isRequest : RelyingOp → Bool
  | .requestConnect => true
  | .startSign _ => true
  | _ => false

/-- Whether a promise has been settled. -/
def ReadyWait.isSettled : ReadyWait → Bool
  | .settled _ => true
  | _ => false

/-- What an operation waits for has happened. -/
def RelyingState.permits (s : RelyingState) : RelyingOp → Bool
  | .awaitReady => s.readyWait.isSettled
  | .awaitReply id => s.settled.any fun p => p.1 == id
  | _ => true

/-- A connection. A promise is awaited until it is settled, and a new random id is not one that a
request has got before. -/
def relyingPage : System RelyingRes RelyingCall RelyingOutcome where
  toMachine := relyingMachine K
  body := relyingBody K P
  aborted := .gone
  admissible pre e := ((relyingMachine K).after pre).permits e.op &&
    (!e.op.isRequest || pre.all fun e' => !e'.op.isRequest || e'.env.randomId != e.env.randomId)

end

end NapAuth.CrossOrigin

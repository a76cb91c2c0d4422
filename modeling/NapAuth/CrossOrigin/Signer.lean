import NapAuth.CrossOrigin.Protocol

/-!
# The signer page

`mountCrossOriginSigner` of `packages/nap-client-web/src/crossOriginSigner.ts`: the page of the key
origin that answers its opener. Its listener starts a program for each message, and the programs of
many messages run at once: each is suspended while the user is asked or the signer works.

An operation is what runs between two awaits, as far as it reads or writes the grants. The question
that an await waits for is put (`ask`) before it is answered (`answer`). Any other program may run
between two operations. The application's callbacks answer what the environment decides. One that is
not there, such as `ensureUnlocked`, is answered at once by the value that the code uses instead.
-/

namespace NapAuth.CrossOrigin

open Interleaving

/-! ## The policy -/

/-- `CrossOriginPolicyEntry`, as it is configured. -/
structure PolicyInput where
  kinds : List JsNumber
  audiences : List String
  maxTtlSeconds : Option JsNumber

/-- `CrossOriginPolicyEntry`, as `validatePolicy` accepts it. -/
structure CrossOriginPolicyEntry where
  kinds : List ℤ
  audiences : List String
  /-- How long a grant lasts. -/
  maxTtlSeconds : ℤ
  /-- For some time. -/
  ttl_pos : 0 < maxTtlSeconds
  /-- No longer than a session. -/
  ttl_le : maxTtlSeconds ≤ maxGrantTtlSeconds

/-- A validated policy, as a map from relying origins. -/
abbrev Policy : Type := List (String × CrossOriginPolicyEntry)

/-- `policy.get(origin)`. -/
def Policy.entry? (policy : Policy) (origin : String) : Option CrossOriginPolicyEntry :=
  (policy.find? fun e => e.1 == origin).map (·.2)

/-- `policy.set(origin, entry)`. -/
def Policy.set (policy : Policy) (origin : String) (entry : CrossOriginPolicyEntry) : Policy :=
  if policy.any fun e => e.1 == origin then
    policy.map fun e => if e.1 = origin then (origin, entry) else e
  else policy ++ [(origin, entry)]

/-- What the page uses from its platform. -/
structure WebPlatform where
  /-- `new URL(value)`. -/
  newURL : String → Option Url
  /-- `nip19.decode`: the type, and the data where it is a string. -/
  nip19Decode : String → Option (String × Option String)

/-- One entry of the configured policy, checked. -/
def validateEntry (W : WebPlatform) (origin : String) (entry : PolicyInput) :
    Except String CrossOriginPolicyEntry :=
  match entry.kinds.mapM JsNumber.integer? with
  | none => .error ("Cross-origin signer policy for " ++ origin ++
      " needs a non-empty list of integer kinds")
  | some kinds =>
    if kinds = [] then .error ("Cross-origin signer policy for " ++ origin ++
      " needs a non-empty list of integer kinds")
    else if entry.audiences = [] then .error ("Cross-origin signer policy for " ++ origin ++
      " needs a non-empty list of audiences")
    else
      match (entry.maxTtlSeconds.getD (.ofInt maxGrantTtlSeconds)).integer? with
      | none => .error ("Cross-origin signer policy for " ++ origin ++
          ": maxTtlSeconds must be 1..900")
      | some ttl =>
        if h : 0 < ttl ∧ ttl ≤ maxGrantTtlSeconds then do
          let audiences ← entry.audiences.mapM (normalizeOrigin W.newURL)
          .ok ⟨kinds, audiences, ttl, h.1, h.2⟩
        else .error ("Cross-origin signer policy for " ++ origin ++
          ": maxTtlSeconds must be 1..900")

/-- `validatePolicy`. -/
def validatePolicy (W : WebPlatform) (policy : List (String × PolicyInput)) : Except String Policy :=
  if policy = [] then
    .error "Cross-origin signer policy must name at least one relying origin"
  else
    policy.foldlM (fun result e => do
      let normalized ← normalizeOrigin W.newURL e.1
      let entry ← validateEntry W e.1 e.2
      return Policy.set result normalized entry) []

/-! ## The grants -/

/-- `GrantState`. -/
structure GrantState where
  grantId : String
  /-- The relying origin. -/
  origin : String
  pubkey : String
  kinds : List ℤ
  audiences : List String
  expiresAt : ℚ
  /-- Whether the connection's own completion proof has been asked for. -/
  completionUsed : Bool
  /-- The relying window. -/
  source : Option ℕ
  deriving DecidableEq

/-- What a grant's `GrantInfo` is. -/
def GrantState.info (grant : GrantState) : GrantInfo :=
  ⟨grant.grantId, grant.pubkey, grant.kinds, grant.audiences, grant.expiresAt⟩

/-- `LiveGrant`. -/
structure LiveGrant where
  info : GrantInfo
  origin : String
  deriving DecidableEq

/-- `ConsentRequest`. -/
structure ConsentRequest where
  origin : String
  pubkey : String
  npub : String
  kinds : List ℤ
  audiences : List String
  expectedPubkey : Option String
  deriving DecidableEq

/-- The `reason` of a `SignRequest`. -/
inductive SignReason where
  /-- A completion proof after the one that the connection was approved for. -/
  | completion
  /-- Anything else inside the grant. -/
  | request
  deriving DecidableEq

/-- `SignRequest`. -/
structure SignRequest where
  origin : String
  grant : GrantInfo
  template : EventTemplate
  reason : SignReason
  deriving DecidableEq

/-- What a connection's grant is made of. -/
structure GrantDraft where
  origin : String
  source : Option ℕ
  pubkey : String
  kinds : List ℤ
  audiences : List String
  maxTtlSeconds : ℤ

/-- What the page waits for. -/
inductive Query where
  | ensureUnlocked
  | getNpub
  | consentHas (origin pubkey scope : String)
  | onConsent (request : ConsentRequest)
  | consentRemember (origin pubkey scope : String)
  | onSign (request : SignRequest)
  | signEvent (template : EventTemplate)
  deriving DecidableEq

/-- The answers: `none`, or `false` where nothing is returned, is a rejection. -/
@[reducible] def Query.Answer : Query → Type
  | .ensureUnlocked => Bool
  | .getNpub => Option String
  | .consentHas _ _ _ => Option Bool
  | .onConsent _ => Option Bool
  | .consentRemember _ _ _ => Bool
  | .onSign _ => Option Bool
  | .signEvent _ => Option Nip98Event

/-- The page's state. -/
structure SignerState where
  /-- The live grants, oldest first. -/
  grants : List GrantState
  closed : Bool

namespace SignerState

variable (s : SignerState)

/-- `grants.get(grantId)`. -/
def grant? (grantId : String) : Option GrantState := s.grants.find? fun g => g.grantId == grantId

/-- `grants.delete(grantId)`. -/
def deleteGrant (grantId : String) : SignerState :=
  { s with grants := s.grants.filter fun g => g.grantId != grantId }

/-- `grants.set(grant.grantId, grant)`. -/
def setGrant (grant : GrantState) : SignerState :=
  if (s.grant? grant.grantId).isSome then
    { s with grants := s.grants.map fun g => if g.grantId = grant.grantId then grant else g }
  else { s with grants := s.grants ++ [grant] }

/-- `grant.completionUsed = true`. -/
def useCompletion (grantId : String) : SignerState :=
  { s with grants := s.grants.map fun g =>
      if g.grantId = grantId then { g with completionUsed := true } else g }

/-- `snapshot()`. -/
def snapshot : List LiveGrant := s.grants.map fun g => ⟨g.info, g.origin⟩

end SignerState

/-- The end of a connection. -/
inductive ConnectResult where
  /-- The page has been closed. -/
  | closed
  /-- There is no consent. -/
  | declined
  /-- The identity is not the expected one. -/
  | refused
  | opened (grant : GrantState)
  deriving DecidableEq

/-- `handleConnect`, after the consent. -/
def SignerState.finishConnect (s : SignerState) (approved : Bool) (expectedPubkey : Option String)
    (draft : GrantDraft) (randomId : String) (now : ℚ) : ConnectResult × SignerState :=
  if s.closed then (.closed, s)
  else if !approved then (.declined, s)
  else if expectedPubkey.any (· != draft.pubkey) then (.refused, s)
  else
    let grant : GrantState :=
      { grantId := randomId
        origin := draft.origin
        pubkey := draft.pubkey
        kinds := draft.kinds
        audiences := draft.audiences
        expiresAt := now + draft.maxTtlSeconds
        completionUsed := false
        source := draft.source }
    (.opened grant, s.setGrant grant)

/-- The beginning of a signature. -/
inductive SignAdmission where
  /-- There is no such grant for this origin and window. -/
  | revoked
  | expired
  /-- The template is outside of the grant. -/
  | refused
  | admitted (grant : GrantState) (needsPrompt : Bool)
  deriving DecidableEq

/-- `handleSign`, up to its first await. -/
def SignerState.admitSign (newURL : String → Option Url) (skew : ℚ) (s : SignerState)
    (origin : String) (source : Option ℕ) (grantId : String) (template : EventTemplate) (now : ℚ) :
    SignAdmission × SignerState :=
  match s.grant? grantId with
  | none => (.revoked, s)
  | some grant =>
    if grant.origin ≠ origin ∨ grant.source ≠ source then (.revoked, s)
    else if grant.expiresAt ≤ now then (.expired, s.deleteGrant grant.grantId)
    else if !(grant.kinds.any fun kind => template.kind = JsonNumber.ofInt kind) ||
        !((audienceOf newURL template).any fun audience => grant.audiences.contains audience) ||
        (template.createdAt.val.finite?.all fun createdAt => decide (skew < |createdAt - now|)) then
      (.refused, s)
    else
      let completion := isCompletion template
      let needsPrompt := completion && grant.completionUsed
      if completion && !grant.completionUsed then
        -- Claimed before the await, so that two completions cannot both ride the consent.
        (.admitted grant needsPrompt, s.useCompletion grant.grantId)
      else (.admitted grant needsPrompt, s)

/-- The end of a signature. -/
inductive SignResult where
  /-- The grant is gone. -/
  | revoked
  /-- The signer's key is not the grant's: every grant is dropped, and these were. -/
  | identityChanged (dropped : List GrantState)
  /-- The event is not what was asked for. -/
  | mismatched
  | signed
  deriving DecidableEq

/-- `handleSign`, after the signer has answered. -/
def SignerState.finishSign (s : SignerState) (grant : GrantState) (template : EventTemplate)
    (event : Nip98Event) : SignResult × SignerState :=
  if (s.grant? grant.grantId).isNone then (.revoked, s)
  else if event.pubkey ≠ grant.pubkey then
    (.identityChanged s.grants, { s with grants := [] })
  else if !sameEvent template event then (.mismatched, s)
  else (.signed, s)

/-- Which grants are dropped. -/
inductive Dropped where
  /-- `revokeAll(reason)`. -/
  | all
  /-- `revoke(grantIdOrOrigin)`. -/
  | matching (grantIdOrOrigin : String)
  /-- A relying page's `disconnect`, which is not told. -/
  | disconnect (origin grantId : String)

/-- Whether a grant is one of them. -/
def Dropped.selects : Dropped → GrantState → Bool
  | .all, _ => true
  | .matching key, g => g.grantId == key || g.origin == key
  | .disconnect origin grantId, g => g.grantId == grantId && g.origin == origin

/-- Drop some grants: those that were dropped, and the state. -/
def SignerState.dropGrants (s : SignerState) (which : Dropped) : List GrantState × SignerState :=
  (s.grants.filter which.selects, { s with grants := s.grants.filter fun g => !which.selects g })

/-- `close()`, unless it has been called before: the grants that were dropped. -/
def SignerState.close (s : SignerState) : Option (List GrantState) × SignerState :=
  if s.closed then (none, s) else (some s.grants, ⟨[], true⟩)

/-! ## Operations -/

/-- The operations of the page. -/
inductive SignerOp where
  /-- `closed` is read. -/
  | closed
  /-- A question is put. -/
  | ask (query : Query)
  /-- It is answered. -/
  | answer (query : Query)
  /-- A connection ends. -/
  | finishConnect (approved : Bool) (expectedPubkey : Option String) (draft : GrantDraft)
  /-- A signature begins. -/
  | admitSign (origin : String) (source : Option ℕ) (grantId : String) (template : EventTemplate)
  /-- `grants.has(grantId)`. -/
  | hasGrant (grantId : String)
  /-- A signature ends. -/
  | finishSign (origin id : String) (grant : GrantState) (template : EventTemplate)
      (event : Nip98Event)
  /-- Grants are dropped. -/
  | dropGrants (which : Dropped)
  /-- `close()`, up to the callback. -/
  | close
  /-- `reply(origin, message)`. -/
  | post (origin : String) (message : CrossOriginMessage)
  /-- `changed()`. -/
  | grantsChanged

/-- The answers to them. -/
@[reducible] def SignerRes : SignerOp → Type
  | .closed => Bool
  | .ask _ => Unit
  | .answer query => query.Answer
  | .finishConnect _ _ _ => ConnectResult
  | .admitSign _ _ _ _ => SignAdmission
  | .hasGrant _ => Bool
  | .finishSign _ _ _ _ _ => SignResult
  | .dropGrants _ => List GrantState
  | .close => Option (List GrantState)
  | .post _ _ => Unit
  | .grantsChanged => List LiveGrant

/-- A program of the page. -/
abbrev SignerProgram (α : Type) : Type := Prog SignerRes α

/-- Issue one operation. -/
abbrev act (o : SignerOp) : SignerProgram (SignerRes o) := Prog.op o

/-- `await` on a question. -/
def awaiting (query : Query) : SignerProgram query.Answer := do
  act (.ask query)
  act (.answer query)

/-- The messages that an operation posts, each to an origin: grants that end are `revoked`, unless
the relying page has asked for it. -/
def postsOf : Event SignerRes → List (String × CrossOriginMessage)
  | ⟨.post origin message, _⟩ => [(origin, message)]
  | ⟨.dropGrants .all, dropped⟩ => dropped.map fun g => (g.origin, .revoked g.grantId)
  | ⟨.dropGrants (.matching _), dropped⟩ => dropped.map fun g => (g.origin, .revoked g.grantId)
  | ⟨.close, dropped⟩ => (dropped.getD []).map fun g => (g.origin, .revoked g.grantId)
  | ⟨.finishSign origin id _ _ event, result⟩ =>
    match result with
    | .revoked => [(origin, .error (some id) .revoked)]
    | .identityChanged dropped =>
      (origin, .error (some id) .revoked) :: dropped.map fun g => (g.origin, .revoked g.grantId)
    | .mismatched => [(origin, .error (some id) .signerError)]
    | .signed => [(origin, .signed id event)]
  | _ => []

/-! ## The page -/

/-- `CrossOriginSignerOptions`, with the policy validated. -/
structure CrossOriginSignerOptions where
  policy : Policy
  /-- The window that opened this page. -/
  opener : Option ℕ
  /-- Whether the page is inside a frame. -/
  isFramed : Bool
  /-- Whether there is an `onSign`. -/
  hasOnSign : Bool
  createdAtSkewSeconds : Option ℚ

/-- The skew in force. -/
def CrossOriginSignerOptions.skew (O : CrossOriginSignerOptions) : ℚ :=
  O.createdAtSkewSeconds.getD defaultCreatedAtSkewSeconds

/-- `pubkeyOfNpub`. -/
def pubkeyOfNpub (W : WebPlatform) (npub : String) : Option String := do
  let (type, data) ← W.nip19Decode npub
  if type = "npub" then data else none

/-- `scopeKey`. -/
def scopeKey (kinds : List ℤ) (audiences : List String) : String :=
  String.intercalate "," ((kinds.mergeSort fun a b => decide (a ≤ b)).map toString) ++ "|" ++
    String.intercalate "," (JsString.sort audiences)

/-- `fail`. -/
def fail (origin id : String) (code : CrossOriginErrorCode) : SignerProgram Unit :=
  act (.post origin (.error (some id) code))

/-- `changed()`, if any grants were dropped. -/
def changedIf (dropped : List GrantState) : SignerProgram Unit :=
  if dropped = [] then return () else do
    let _ ← act .grantsChanged
    return ()

/-- Whether the user consents to a connection, or has before. -/
def consent (request : ConsentRequest) : SignerProgram Bool := do
  let scope := scopeKey request.kinds request.audiences
  match ← awaiting (.consentHas request.origin request.pubkey scope) with
  | none => return false
  | some true => return true
  | some false =>
    match ← awaiting (.onConsent request) with
    | none => return false
    | some false => return false
    | some true => awaiting (.consentRemember request.origin request.pubkey scope)

section

variable (W : WebPlatform) (O : CrossOriginSignerOptions)

/-- `handleConnect`, for a request within the policy. -/
def connectWithin (entry : CrossOriginPolicyEntry) (origin : String) (source : Option ℕ) (id : String)
    (kinds : List ℤ) (audiences : List String) (expectedPubkey : Option String) :
    SignerProgram Unit := do
  if !(← awaiting .ensureUnlocked) then fail origin id .declined
  else
    match ← awaiting .getNpub with
    | none => fail origin id .signerError
    | some npub =>
      match pubkeyOfNpub W npub with
      | none => fail origin id .signerError
      | some pubkey =>
        let approved ← consent ⟨origin, pubkey, npub, kinds, audiences, expectedPubkey⟩
        let draft : GrantDraft := ⟨origin, source, pubkey, kinds, audiences, entry.maxTtlSeconds⟩
        match ← act (.finishConnect approved expectedPubkey draft) with
        | .closed => return ()
        | .declined => fail origin id .declined
        | .refused => fail origin id .refused
        | .opened grant => do
          let _ ← act .grantsChanged
          act (.post origin (.connected id grant.info))

/-- `handleConnect`. -/
def handleConnect (entry : CrossOriginPolicyEntry) (origin : String) (source : Option ℕ) (id : String)
    (kinds : List ℤ) (audiences : List String) (expectedPubkey : Option String) :
    SignerProgram Unit :=
  match audiences.mapM (normalizeOrigin W.newURL) with
  | .error _ => fail origin id .refused
  | .ok audiences =>
    if !(kinds.eraseDups.all fun kind => entry.kinds.contains kind) ||
        !(audiences.eraseDups.all fun audience => entry.audiences.contains audience) then
      fail origin id .refused
    else connectWithin W entry origin source id kinds.eraseDups audiences.eraseDups expectedPubkey

/-- `handleSign`, from the signer's question on. -/
def askSigner (origin id : String) (grant : GrantState) (template : EventTemplate) :
    SignerProgram Unit := do
  match ← awaiting (.signEvent template) with
  | none => fail origin id .signerError
  | some event =>
    match ← act (.finishSign origin id grant template event) with
    | .identityChanged dropped => changedIf dropped
    | .revoked => return ()
    | .mismatched => return ()
    | .signed => return ()

/-- `handleSign`, for a request that is admitted. -/
def signAdmitted (origin id : String) (grant : GrantState) (needsPrompt : Bool)
    (template : EventTemplate) : SignerProgram Unit :=
  if needsPrompt || O.hasOnSign then
    if !O.hasOnSign then fail origin id .refused
    else do
      let reason := if needsPrompt then SignReason.completion else .request
      match ← awaiting (.onSign ⟨origin, grant.info, template, reason⟩) with
      | none => fail origin id .declined
      | some false => fail origin id .declined
      | some true =>
        if !(← act (.hasGrant grant.grantId)) then fail origin id .revoked
        else askSigner origin id grant template
  else askSigner origin id grant template

/-- `handleSign`. -/
def handleSign (origin : String) (source : Option ℕ) (id grantId : String)
    (template : EventTemplate) : SignerProgram Unit := do
  match ← act (.admitSign origin source grantId template) with
  | .revoked => fail origin id .revoked
  | .expired => do
    let _ ← act .grantsChanged
    fail origin id .grantExpired
  | .refused => fail origin id .refused
  | .admitted grant needsPrompt => signAdmitted O origin id grant needsPrompt template

/-- The `switch` of the listener. -/
def handleMessage (entry : CrossOriginPolicyEntry) (origin : String) (source : Option ℕ) :
    CrossOriginMessage → SignerProgram Unit
  | .connect id kinds audiences expectedPubkey =>
    handleConnect W entry origin source id kinds audiences expectedPubkey
  | .sign id grantId template => handleSign O origin source id grantId template
  | .disconnect grantId => do
    let dropped ← act (.dropGrants (.disconnect origin grantId))
    changedIf dropped
  | _ => return ()

/-- `listener`. -/
def listener (event : MessageEvent) : SignerProgram Unit := do
  if (← act .closed) || event.source != O.opener then return ()
  else
    match O.policy.entry? event.origin with
    | none => return ()
    | some entry =>
      match parseMessage event.data with
      | none => return ()
      | some message => handleMessage W O entry event.origin event.source message

/-- `revokeAll`, and `revoke`. -/
def revoke (which : Dropped) : SignerProgram Unit := do
  let dropped ← act (.dropGrants which)
  changedIf dropped

/-- The type of a session broadcast: a bare string, or the property of an object. -/
def broadcastType (data : Json) : Option String :=
  match data with
  | .str s => some s
  | _ => (data.get? "type").bind Json.str?

/-- The broadcasts that end every grant. -/
def revokingTypes : List String := ["lock", "logout", "shutdown", "identity-changed"]

/-- What starts a program of the page. -/
inductive SignerCall where
  /-- The page announces itself, when it is mounted. -/
  | announce
  /-- A message arrives. -/
  | message (event : MessageEvent)
  /-- A broadcast of the session arrives. -/
  | broadcast (data : Json)
  /-- The application ends a grant, or those of an origin. -/
  | revoke (grantIdOrOrigin : String)
  /-- The application ends every grant. -/
  | revokeAll
  /-- The application closes the page's end. -/
  | close

/-- Its program. -/
def mounted : SignerCall → SignerProgram Unit
  | .announce => O.policy.forM fun e => act (.post e.1 .ready)
  | .message event => listener W O event
  | .broadcast data =>
    if (broadcastType data).any fun type => revokingTypes.contains type then revoke .all
    else return ()
  | .revoke key => revoke (.matching key)
  | .revokeAll => revoke .all
  | .close => do
    match ← act .close with
    | none => return ()
    | some dropped => changedIf dropped

/-- The program of a call. A page that is framed, or was not opened by another, does nothing. -/
def signerBody (call : SignerCall) : SignerProgram Unit :=
  if O.isFramed || O.opener.isNone then return () else mounted W O call

/-- What the environment contributes. -/
structure SignerEnv where
  /-- The page's clock. -/
  now : ℚ
  /-- A new random id. -/
  randomId : String
  /-- The answers of the application and of its signer. -/
  answer : (query : Query) → query.Answer

/-- An operation in a state. -/
def signerExec (op : SignerOp) (env : SignerEnv) (s : SignerState) : SignerRes op × SignerState :=
  match op with
  | .closed => (s.closed, s)
  | .ask _ => ((), s)
  | .answer query => (env.answer query, s)
  | .finishConnect approved expectedPubkey draft =>
    s.finishConnect approved expectedPubkey draft env.randomId env.now
  | .admitSign origin source grantId template =>
    s.admitSign W.newURL O.skew origin source grantId template env.now
  | .hasGrant grantId => ((s.grant? grantId).isSome, s)
  | .finishSign _ _ grant template event => s.finishSign grant template event
  | .dropGrants which => s.dropGrants which
  | .close => s.close
  | .post _ _ => ((), s)
  | .grantsChanged => (s.snapshot, s)

/-- The page's memory. -/
def signerMachine : Machine SignerRes where
  State := SignerState
  Env := SignerEnv
  init := ⟨[], false⟩
  exec := signerExec W O

/-- Whether an operation ends a connection. -/
def SignerOp.isFinishConnect : SignerOp → Bool
  | .finishConnect _ _ _ => true
  | _ => false

/-- The page. A new random id is not one that a connection has got before. -/
def signerPage : System SignerRes SignerCall Unit where
  toMachine := signerMachine W O
  body := signerBody W O
  aborted := ()
  admissible pre e := !e.op.isFinishConnect || pre.all fun e' =>
    !e'.op.isFinishConnect || e'.env.randomId != e.env.randomId

/-- The options that `mountCrossOriginSigner` mounts the page with, unless the policy is not valid. -/
def mountCrossOriginSigner (policy : List (String × PolicyInput)) :
    Except String CrossOriginSignerOptions :=
  (validatePolicy W policy).map fun policy => { O with policy }

end

end NapAuth.CrossOrigin

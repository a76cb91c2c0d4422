import NapAuth.Interleaving.System
import NapAuth.JsValue

/-!
# A remote signer

`createNip46Signer` of `packages/nap-client-nip46/src/signer.ts` with what it calls of `connection.ts`:
the pairing that a page keeps with a remote signer, and the relay pools that it opens for it. Any
number of `connect()` and `disconnect()` calls may run at once.

An operation is what runs between two awaits, or the moment at which the secret store does what it was
asked for. What relays, the signer on the other side and the application's callbacks do is the
environment's part. A pool that the signer has created is known by its number.
-/

namespace NapAuth.Nip46

open Interleaving

/-- `Nip46SignerOptions`, as far as `connect` and `disconnect` depend on them. -/
structure Nip46SignerOptions where
  connectionToken : Option String
  relays : List String
  /-- Whether there are a `secretStore` and a `passphrase`. -/
  hasStore : Bool
  /-- Whether the caller has supplied a `pool`. -/
  hasPool : Bool

/-- `BunkerPointer`. -/
structure BunkerPointer where
  pubkey : String
  relays : List String
  secret : Option String
  deriving DecidableEq

/-- `ActiveConnection`. -/
structure ActiveConnection where
  pointer : BunkerPointer
  clientSecretKey : String
  /-- The pool, if the signer owns it. -/
  pool : Option ℕ
  deriving DecidableEq

/-- `StoredConnectionRecord`, of the version that is read. -/
structure StoredConnectionRecord where
  bunkerPubkey : String
  relays : List String
  secret : Option String
  clientSecretKey : String
  deriving DecidableEq

/-- `toPointer`. -/
def toPointer (record : StoredConnectionRecord) : BunkerPointer :=
  ⟨record.bunkerPubkey, record.relays, record.secret⟩

/-- The record that `persist` saves. -/
def toRecord (active : ActiveConnection) : StoredConnectionRecord :=
  ⟨active.pointer.pubkey, active.pointer.relays, active.pointer.secret, active.clientSecretKey⟩

/-- What `connectWithNostrConnect` has when it begins to wait. -/
structure Pairing where
  clientSecretKey : String
  relays : List String
  secret : String
  /-- The pool, if the signer owns it. -/
  pool : Option ℕ
  deriving DecidableEq

/-- The signer's variables, the record in the secret store, and the pools. -/
structure Signer where
  connection : Option ActiveConnection
  connectionUri : Option String
  stored : Option StoredConnectionRecord
  /-- How many pools have been created. -/
  pools : ℕ
  /-- Those that have been destroyed. -/
  destroyed : List ℕ
  deriving DecidableEq

/-- The operations of the calls. -/
inductive SignerOp where
  /-- `connect()` begins: whether there is a connection. -/
  | connect
  /-- The secret store has loaded the record. -/
  | load
  /-- `openConnection`, with a new key or that of a record. -/
  | openConnection (clientSecretKey : Option String) (pointer : BunkerPointer)
  /-- The signer has answered `connect`, or has not. -/
  | answer
  /-- `closeConnection`, or else the pool is destroyed on its own. -/
  | destroy (pool : Option ℕ)
  /-- The secret store is cleared. -/
  | clear
  /-- `parseBunkerInput` has answered. -/
  | parseBunkerInput (token : String)
  /-- `connectWithNostrConnect` up to its wait. -/
  | pair (relays : List String)
  /-- `waitForNostrConnect` has settled. -/
  | waited
  /-- `BunkerSigner.fromBunker`, for a pairing: whether it has returned. -/
  | fromBunker (pairing : Pairing) (pubkey : String)
  /-- The secret store has saved a record. -/
  | save (record : StoredConnectionRecord)
  /-- `connection = ..`. -/
  | setConnection (connection : ActiveConnection)
  /-- `disconnect()` begins: the connection that it has taken. -/
  | disconnect
  deriving DecidableEq

/-- What `loadConnection` comes to. -/
inductive Loaded where
  | thrown
  /-- `null`. -/
  | unusable
  /-- A record whose key is not hexadecimal. -/
  | undecodable
  | record (record : StoredConnectionRecord)
  deriving DecidableEq

/-- What is made with a new pool. -/
inductive Made (α : Type) where
  /-- It is not made after all. Nothing refers to the pool any more. -/
  | thrown (pool : Option ℕ)
  | made (a : α)
  deriving DecidableEq

/-- The answers to the operations. -/
@[reducible] def SignerRes : SignerOp → Type
  | .connect => Bool
  | .load => Loaded
  | .openConnection _ _ => Made ActiveConnection
  | .answer => Option String
  | .destroy _ => Unit
  | .clear => Bool
  | .parseBunkerInput _ => Option BunkerPointer
  | .pair _ => Made Pairing
  | .waited => Option String
  | .fromBunker _ _ => Bool
  | .save _ => Bool
  | .setConnection _ => Unit
  | .disconnect => Option ActiveConnection

/-- What the environment contributes. -/
structure SignerEnv where
  /-- Whether the secret store does what it was asked for. -/
  storeWorks : Bool
  /-- Whether what it has loaded can be read. -/
  readable : Bool
  /-- Whether the key in it can be decoded. -/
  decodable : Bool
  /-- A new client key. -/
  clientSecretKey : String
  /-- A new secret of a pairing. -/
  secret : String
  /-- Whether `BunkerSigner.fromBunker` returns. -/
  bunkerMade : Bool
  /-- What was answered to `connect`, in time. -/
  answer : Option String
  /-- What a connection token points to. -/
  pointer : Option BunkerPointer
  /-- The `nostrconnect://` URI, if it can be made. -/
  uri : Option String
  /-- Whether `onConnectionUri` returns. -/
  callbackReturns : Bool
  /-- The signer that the wait has ended with. -/
  waited : Option String

variable (O : Nip46SignerOptions)

/-- `poolFor`: the pool that is owned, and how many there are then. -/
def poolFor (s : Signer) : Option ℕ × Signer :=
  if O.hasPool then (none, s) else (some s.pools, { s with pools := s.pools + 1 })

/-- What `load` answers. -/
def loadConnection (env : SignerEnv) (s : Signer) : Loaded :=
  if env.storeWorks = false then .thrown
  else
    match s.stored with
    | none => .unusable
    | some record =>
      if env.readable = false then .unusable
      else if env.decodable = false then .undecodable
      else .record record

/-- An operation in a state. -/
def signerExec (op : SignerOp) (env : SignerEnv) (s : Signer) : SignerRes op × Signer :=
  match op with
  | .connect => (s.connection.isSome, s)
  | .load => (loadConnection env s, s)
  | .openConnection clientSecretKey pointer =>
    (if env.bunkerMade then
      .made ⟨pointer, clientSecretKey.getD env.clientSecretKey, (poolFor O s).1⟩
      else .thrown (poolFor O s).1, (poolFor O s).2)
  | .answer => (env.answer, s)
  | .destroy pool => ((), { s with destroyed := s.destroyed ++ pool.toList })
  | .clear => (env.storeWorks, { s with stored := if env.storeWorks then none else s.stored })
  | .parseBunkerInput _ => (env.pointer, s)
  | .pair relays =>
    match env.uri with
    | none => (.thrown (poolFor O s).1, (poolFor O s).2)
    | some uri =>
      (if env.callbackReturns then
        .made ⟨env.clientSecretKey, relays, env.secret, (poolFor O s).1⟩
        else .thrown (poolFor O s).1, { (poolFor O s).2 with connectionUri := some uri })
  | .waited => (env.waited, s)
  | .fromBunker _ _ => (env.bunkerMade, s)
  | .save record =>
    (env.storeWorks, { s with stored := if env.storeWorks then some record else s.stored })
  | .setConnection connection => ((), { s with connection := some connection })
  | .disconnect => (s.connection, { s with connection := none, connectionUri := none })

/-! ## Programs -/

/-- The programs of a signer. -/
abbrev SignerProgram (α : Type) : Type := Prog SignerRes α

/-- Issue one operation. -/
abbrev signer (o : SignerOp) : SignerProgram (SignerRes o) := Prog.op o

/-- What a call comes to. -/
inductive SignerOutcome where
  /-- It has died with the page. -/
  | gone
  | resolved
  | rejected
  deriving DecidableEq

/-- `closeConnection`. -/
def closeConnection (connection : ActiveConnection) : SignerProgram Unit :=
  signer (.destroy connection.pool)

/-- `handshake`, with `none` for what it throws. -/
def handshake (connection : ActiveConnection) : SignerProgram (Option ActiveConnection) := do
  match ← signer .answer with
  | some result =>
    if result ≠ "ack" ∧ some result ≠ connection.pointer.secret then do
      closeConnection connection
      return none
    else return some connection
  | none => do
    closeConnection connection
    return none

/-- `handshake(openConnection(..))`. -/
def openAndShake (clientSecretKey : Option String) (pointer : BunkerPointer) :
    SignerProgram (Option ActiveConnection) := do
  match ← signer (.openConnection clientSecretKey pointer) with
  | .thrown _ => return none
  | .made connection => handshake connection

/-- The stored record is dropped. -/
def dropRecord : SignerProgram (Except Unit (Option ActiveConnection)) := do
  if ← signer .clear then return .ok none else return .error ()

/-- `restore`. -/
def restore : SignerProgram (Except Unit (Option ActiveConnection)) :=
  if O.hasStore = false then return .ok none
  else do
    match ← signer .load with
    | .thrown => return .error ()
    | .unusable => return .ok none
    | .undecodable => dropRecord
    | .record record =>
      match ← openAndShake (some record.clientSecretKey) (toPointer record) with
      | some connection => return .ok (some connection)
      | none => dropRecord

/-- `connectWithBunkerToken`. -/
def connectWithBunkerToken (token : String) : SignerProgram (Option ActiveConnection) := do
  match ← signer (.parseBunkerInput token) with
  | none => return none
  | some pointer => if pointer.relays = [] then return none else openAndShake none pointer

/-- `connectWithNostrConnect`. -/
def connectWithNostrConnect (relays : List String) : SignerProgram (Option ActiveConnection) :=
  if relays = [] then return none
  else do
    match ← signer (.pair relays) with
    | .thrown _ => return none
    | .made pairing =>
      match ← signer .waited with
      | none => do
        signer (.destroy pairing.pool)
        return none
      | some pubkey =>
        if ← signer (.fromBunker pairing pubkey) then
          return some ⟨⟨pubkey, pairing.relays, some pairing.secret⟩, pairing.clientSecretKey,
            pairing.pool⟩
        else return none

/-- `connect` from an established connection on: it is saved, and set. -/
def adopt (established : ActiveConnection) : SignerProgram SignerOutcome :=
  if O.hasStore then do
    if ← signer (.save (toRecord established)) then do
      signer (.setConnection established)
      return .resolved
    else do
      closeConnection established
      return .rejected
  else do
    signer (.setConnection established)
    return .resolved

/-- `connect` from a pairing on. -/
def adoptEstablished : Option ActiveConnection → SignerProgram SignerOutcome
  | none => return .rejected
  | some established => adopt O established

/-- `connect`. -/
def connect : SignerProgram SignerOutcome := do
  if ← signer .connect then return .resolved
  else
    match ← restore O with
    | .error _ => return .rejected
    | .ok (some restored) => do
      signer (.setConnection restored)
      return .resolved
    | .ok none =>
      if truthyString O.connectionToken then do
        adoptEstablished O (← connectWithBunkerToken (O.connectionToken.getD ""))
      else if O.relays ≠ [] then do
        adoptEstablished O (← connectWithNostrConnect O.relays)
      else if O.hasStore then return .resolved
      else return .rejected

/-- The end of `disconnect`: the store is cleared, if there is one. -/
def clearStore : SignerProgram SignerOutcome :=
  if O.hasStore then do
    if ← signer .clear then return .resolved else return .rejected
  else return .resolved

/-- `disconnect`. -/
def disconnect : SignerProgram SignerOutcome := do
  match ← signer .disconnect with
  | none => clearStore O
  | some active => do
    closeConnection active
    clearStore O

/-- What may be called. -/
inductive SignerCall where
  | connect
  | disconnect
  deriving DecidableEq

/-- The program of a call. -/
def signerBody : SignerCall → SignerProgram SignerOutcome
  | .connect => connect O
  | .disconnect => disconnect O

/-- The state of a signer, with what an earlier visit has left in the secret store. -/
def signerMachine (left : Option StoredConnectionRecord) : Machine SignerRes where
  State := Signer
  Env := SignerEnv
  init := ⟨none, none, if O.hasStore then left else none, 0, []⟩
  exec := signerExec O

/-- A signer of a page. -/
def nip46Signer (left : Option StoredConnectionRecord) :
    System SignerRes SignerCall SignerOutcome where
  toMachine := signerMachine O left
  body := signerBody O
  aborted := .gone
  admissible _ _ := true

end NapAuth.Nip46

import NapAuth.JsMap
import NapAuth.Voucher.Allowlist

/-!
# Mints

What a mint's answers mean: the requests and the readings of `packages/nap-voucher/src/mintClient.ts`,
and the policy of `packages/nap-voucher/src/availability.ts` for a mint that does not answer. The
calls of the client, which use a cache, are in `Program.lean`.
-/

namespace NapAuth.Voucher

variable (P : VoucherPlatform)

/-! ## Failures -/

/-- `MintFailureReason`. -/
inductive MintFailureReason where
  | mintNotAllowed
  | unavailable
  | malformedResponse
  | unknownKeyset
  deriving DecidableEq

/-- The text of a reason. -/
def MintFailureReason.text : MintFailureReason → String
  | mintNotAllowed => "mint_not_allowed"
  | unavailable => "unavailable"
  | malformedResponse => "malformed_response"
  | unknownKeyset => "unknown_keyset"

/-- `MintUnavailableError`. -/
structure MintUnavailableError where
  reason : MintFailureReason
  message : String
  deriving DecidableEq

/-! ## Availability -/

/-- `VoucherGrant` of the resolver, and `DegradedGrant` of the policy. -/
structure VoucherGrant where
  roles : List String
  permissions : List String
  deriving DecidableEq

/-- `AvailabilityDecision`. -/
inductive AvailabilityDecision where
  | deny (reason : MintFailureReason)
  | degrade (grant : VoucherGrant)

/-- `MintAvailabilityPolicy`: its mode, with the grant that degraded mode has. -/
inductive MintAvailabilityPolicy where
  | deny
  | degrade (grant : VoucherGrant)
  deriving DecidableEq

/-- `decide`: only a mint that does not answer can degrade. -/
def MintAvailabilityPolicy.decide : MintAvailabilityPolicy → MintFailureReason → AvailabilityDecision
  | degrade grant, .unavailable => .degrade grant
  | _, reason => .deny reason

/-- `MintAvailabilityPolicyOptions`. -/
structure MintAvailabilityPolicyOptions where
  onMintUnavailable : Option String
  degradedGrant : Option VoucherGrant
  destructivePermissions : Option (List String)
  destructiveRoles : Option (List String)

/-- `createMintAvailabilityPolicy`. -/
def createMintAvailabilityPolicy (options : MintAvailabilityPolicyOptions) :
    Except String MintAvailabilityPolicy :=
  let mode := options.onMintUnavailable.getD "deny"
  if mode ≠ "deny" ∧ mode ≠ "degrade" then
    .error ("NAP voucher onMintUnavailable must be 'deny' or 'degrade', got '" ++ mode ++ "'")
  else if mode = "deny" then
    if options.degradedGrant.isSome then
      .error ("NAP voucher degradedGrant was supplied but onMintUnavailable is 'deny', so it " ++
        "would never be used")
    else .ok .deny
  else
    match options.degradedGrant with
    | none =>
      .error ("NAP voucher onMintUnavailable: 'degrade' requires an explicit degradedGrant " ++
        "\x7b roles, permissions \x7d. Degraded mode accepts an already-spent voucher, so what " ++
        "it is worth must be stated rather than defaulted.")
    | some grant =>
      let overlap := grant.permissions.filter (· ∈ options.destructivePermissions.getD [])
      let roleOverlap := grant.roles.filter (· ∈ options.destructiveRoles.getD [])
      if overlap ≠ [] then
        .error ("NAP voucher degradedGrant includes destructive permissions: " ++
          ", ".intercalate overlap ++ ". Degraded mode runs without a liveness check, so an " ++
          "already-spent voucher would carry them.")
      else if roleOverlap ≠ [] then
        .error ("NAP voucher degradedGrant includes destructive roles: " ++
          ", ".intercalate roleOverlap ++ ". Roles expand into permissions, so a degraded " ++
          "session would carry whatever they grant.")
      else .ok (.degrade grant)

/-! ## Requests -/

/-- What `fetch` is asked for, apart from the signal that stops it. -/
structure FetchRequest where
  url : String
  method : String
  headers : List (String × String)
  body : Option String
  deriving DecidableEq

/-- What comes of a request: no response, which includes the timeout, or one whose body is JSON or is
not. An error is the text that it has. -/
inductive FetchResult where
  | rejected (error : String)
  | response (status : ℕ) (json : Except String Json)

/-- The request for a mint's keysets. -/
def keysRequest (origin : String) : FetchRequest :=
  ⟨origin ++ "/v1/keys", "GET", [("accept", "application/json")], none⟩

/-- The request for the state of a proof. -/
def checkStateRequest (origin Y : String) : FetchRequest :=
  ⟨origin ++ "/v1/checkstate", "POST",
    [("accept", "application/json"), ("content-type", "application/json")],
    some ("\x7b\"Ys\":[\"" ++ Y ++ "\"]\x7d")⟩

/-- What `request` makes of a result. A client error is an answer, and only a server error or no
response at all is the mint not answering. -/
def readResponse (url : String) : FetchResult → Except MintUnavailableError Json
  | .rejected error => .error ⟨.unavailable, "mint request failed: " ++ error⟩
  | .response status json =>
    if 200 ≤ status ∧ status ≤ 299 then
      match json with
      | .ok payload => .ok payload
      | .error error => .error ⟨.unavailable, "mint request failed: " ++ error⟩
    else
      .error ⟨if 400 ≤ status ∧ status < 500 then .malformedResponse else .unavailable,
        "mint responded " ++ toString status ++ " for " ++ url⟩

/-! ## Keysets -/

/-- `Keyset`: the keys by amount, which is a decimal number as text. -/
abbrev Keyset : Type := JsMap String

/-- The keysets of a mint by their id. -/
abbrev Keysets : Type := JsMap Keyset

/-- `Object.entries`, of a value that is a record: an object or an array. -/
def recordEntries : Json → Option (List (String × Json))
  | .obj fields => some fields
  | .arr l => some (l.zipIdx.map fun v => (toString v.2, v.1))
  | _ => none

/-- One key of a keyset. Assigning a string to `__proto__` does nothing. -/
def addKey (keys : Keyset) (entry : String × Json) : Keyset :=
  match entry.2.str? with
  | some key => if entry.1 = "__proto__" then keys else keys.insert entry.1 (P.toLowerCase key)
  | none => keys

/-- One keyset of the answer. One without an id or a key is passed over. -/
def addKeyset (out : Keysets) (entry : Json) : Keysets :=
  match (entry.get? "id").bind Json.str?, (entry.get? "keys").bind recordEntries with
  | some id, some fields =>
    let keys := fields.foldl (addKey P) ∅
    if keys.entries.isEmpty then out else out.insert id keys
  | _, _ => out

/-- `parseKeysets`. -/
def parseKeysets (payload : Json) : Except MintUnavailableError Keysets :=
  match (payload.get? "keysets").bind Json.arr? with
  | none => .error ⟨.malformedResponse, "mint /v1/keys did not return a keysets array"⟩
  | some entries =>
    let out := entries.foldl (addKeyset P) ∅
    if out.entries.isEmpty then
      .error ⟨.malformedResponse, "mint /v1/keys contained no usable keyset"⟩
    else .ok out

/-- The keysets that the answer to a request for them publishes. -/
def readKeysets (origin : String) (result : FetchResult) : Except MintUnavailableError Keysets :=
  (readResponse (keysRequest origin).url result).bind (parseKeysets P)

/-- The key of a keyset for an amount. An empty one is none. -/
def keyFor (keyset : Keyset) (amount : JsNumber) : Option String :=
  (keyset.lookup (P.numberToString amount)).filter (· ≠ "")

/-- The end of `getKey`: the key for an amount in the keyset that was found, if one was. -/
def selectKey (origin keysetId : String) (amount : JsNumber) :
    Option Keyset → Except MintUnavailableError String
  | none => .error ⟨.unknownKeyset, "mint " ++ origin ++ " does not publish keyset " ++ keysetId⟩
  | some keyset =>
    match keyFor P keyset amount with
    | some key => .ok key
    | none => .error ⟨.unknownKeyset,
        "keyset " ++ keysetId ++ " has no key for amount " ++ P.numberToString amount⟩

/-! ## States -/

/-- `ProofState`. -/
inductive ProofState where
  | unspent
  | spent
  | pending
  deriving DecidableEq

/-- The text of a state. -/
def ProofState.text : ProofState → String
  | unspent => "UNSPENT"
  | spent => "SPENT"
  | pending => "PENDING"

/-- Whether an entry of the answer is about the proof that `Y` names. -/
def isAbout (Y : String) (entry : Json) : Bool :=
  ((entry.get? "Y").bind Json.str?).any fun y => P.toLowerCase y == Y

/-- The state of the proof that `Y` names, in the payload of an answer. -/
def stateOf (Y : String) (payload : Json) : Except MintUnavailableError ProofState :=
  match (payload.get? "states").bind Json.arr? with
  | none => .error ⟨.malformedResponse, "checkstate did not return states"⟩
  | some states =>
    match ((states.find? (isAbout P Y)).bind (·.get? "state")).bind Json.str? with
    | none => .error ⟨.malformedResponse, "checkstate returned no state for Y"⟩
    | some text =>
      if text = "UNSPENT" then .ok .unspent
      else if text = "SPENT" then .ok .spent
      else if text = "PENDING" then .ok .pending
      else .error ⟨.malformedResponse, "checkstate returned unknown state '" ++ text ++ "'"⟩

/-- The state that the answer to a request for it reports. -/
def readState (origin Y : String) (result : FetchResult) : Except MintUnavailableError ProofState :=
  (readResponse (checkStateRequest origin Y).url result).bind (stateOf P Y)

end NapAuth.Voucher

import NapAuth.Interleaving.Program
import NapAuth.Voucher.Mint
import NapAuth.Voucher.Secret

/-!
# The voucher resolver

The mint client of `packages/nap-voucher/src/mintClient.ts` and the resolver of
`packages/nap-voucher/src/resolver.ts`, as programs over atomic operations. The checks that need no
mint are a function (`checkLocal`), in the order of the source.

An operation is what runs between two awaits. A cache that is read and found wanting sends a request
at once, so the two are one operation, whose answer has the result of the request, if one was sent.
The application's `grant`, its audit logger and its fallback answer what the environment decides. A
logger that is not wired is one that does nothing.
-/

namespace NapAuth.Voucher

open Interleaving

/-! ## Types -/

/-- `VOUCHER_DENIAL_CODES`. -/
inductive VoucherDenialCode where
  | mintNotAllowed
  | malformed
  | dleqInvalid
  | bindingMismatch
  | issuerUntrusted
  | expired
  | spent
  | mintUnavailable
  | absent
  | grantNotInRegistry
  deriving DecidableEq

/-- The text of a code. -/
def VoucherDenialCode.text : VoucherDenialCode → String
  | mintNotAllowed => "NAP_VOUCHER_MINT_NOT_ALLOWED"
  | malformed => "NAP_VOUCHER_MALFORMED"
  | dleqInvalid => "NAP_VOUCHER_DLEQ_INVALID"
  | bindingMismatch => "NAP_VOUCHER_BINDING_MISMATCH"
  | issuerUntrusted => "NAP_VOUCHER_ISSUER_UNTRUSTED"
  | expired => "NAP_VOUCHER_EXPIRED"
  | spent => "NAP_VOUCHER_SPENT"
  | mintUnavailable => "NAP_VOUCHER_MINT_UNAVAILABLE"
  | absent => "NAP_VOUCHER_ABSENT"
  | grantNotInRegistry => "NAP_VOUCHER_GRANT_NOT_IN_REGISTRY"

/-- The `details` of an audit event, if it has any. -/
abbrev VoucherAuditDetails : Type := Option (List (String × Json))

/-- The event that a `VoucherAuditLogger` is given. -/
structure VoucherAuditEvent where
  code : String
  npub : String
  pubkey : String
  outcome : AuditOutcome
  details : VoucherAuditDetails

/-- The context of a resolution. The credential is whatever the login presented. -/
structure VoucherContext where
  voucher : Option Json
  now : ℤ
  /-- The roles and permissions of the session that is checked again. -/
  session : Option (List String × List String)

/-- `VerifiedVoucher`. Its other properties are those of the secret. -/
structure VerifiedVoucher where
  /-- The origin as the allowlist has it. -/
  mintUrl : String
  issuerPubkey : String
  lockedTo : String
  secret : ParsedVoucherSecret
  deriving DecidableEq

/-- `PermissionRegistryLike`: the keys that are declared. -/
structure PermissionRegistryLike where
  permissions : List String
  roles : List String

/-- `MintClientOptions`, as `createMintClient` accepts them. -/
structure MintClientOptions where
  allowlist : MintAllowlist
  /-- How long a fetched keyset stays cached. -/
  keysetCacheTtlSeconds : Option ℚ
  /-- For a positive time. -/
  ttl_pos : ∀ ttl, keysetCacheTtlSeconds = some ttl → 0 < ttl

/-- How long a fetched keyset stays cached. -/
def MintClientOptions.ttl (options : MintClientOptions) : ℚ :=
  options.keysetCacheTtlSeconds.getD 3600

/-- `onMissingCredential`. -/
inductive OnMissingCredential where
  | deny
  | trustSession
  deriving DecidableEq

/-- `VoucherAclResolverOptions`. The mint client is the one that `createMintClient` makes of its own
options. -/
structure VoucherAclResolverOptions where
  mintAllowlist : MintAllowlist
  issuerAllowlist : IssuerAllowlist
  mintClient : MintClientOptions
  availability : MintAvailabilityPolicy
  permissionRegistry : Option PermissionRegistryLike
  /-- Whether there is a fallback. -/
  fallback : Bool
  onMissingCredential : Option OnMissingCredential

/-- What comes of reading the cache of a mint's keysets. -/
inductive Loaded where
  /-- They were cached. -/
  | cached (keysets : Keysets)
  /-- They were not, and were asked for, with this result. -/
  | fetched (result : FetchResult)

/-- The operations. -/
inductive Op where
  /-- The cache of a mint is read, and the clock. A miss sends a request. -/
  | load (origin : String)
  /-- The cache of a mint is deleted and a request sent, unless it holds the result of such a request
  or nothing. -/
  | refetch (origin : String)
  /-- Keysets are cached, and the clock is read. -/
  | store (origin : String) (keysets : Keysets) (refreshed : Bool)
  /-- A request is sent. -/
  | fetch (request : FetchRequest)
  /-- The cache is emptied. -/
  | clearCache
  /-- An audit event is logged. -/
  | log (event : VoucherAuditEvent)
  /-- The fallback is asked. -/
  | fallback (npub pubkey : String) (context : Option VoucherContext)
  /-- The application is asked what a voucher is worth. -/
  | grant (voucher : VerifiedVoucher)

/-- The answers to an operation. -/
@[reducible] def Res : Op → Type
  | .load _ => Loaded
  | .refetch _ => Option FetchResult
  | .store _ _ _ => Unit
  | .fetch _ => FetchResult
  | .clearCache => Unit
  | .log _ => Unit
  | .fallback _ _ _ => AclDecision
  | .grant _ => Option VoucherGrant

/-- The request that an operation has sent, if it has. -/
def sent : Event Res → Option FetchRequest
  | ⟨.load origin, .fetched _⟩ => some (keysRequest origin)
  | ⟨.refetch origin, some _⟩ => some (keysRequest origin)
  | ⟨.fetch request, _⟩ => some request
  | _ => none

/-- What `checkState` throws. -/
inductive Thrown where
  /-- A `MintUnavailableError`. -/
  | mint (error : MintUnavailableError)
  /-- Another error. -/
  | other
  deriving DecidableEq

/-- What a call comes to. -/
inductive Outcome where
  /-- It died before it returned. -/
  | aborted
  /-- It threw an error. -/
  | threw
  /-- The resolver has decided. -/
  | decided (decision : AclDecision)
  /-- `getKey` has returned a key or thrown. -/
  | key (result : Except MintUnavailableError String)
  /-- `checkState` has returned a state or thrown. -/
  | state (result : Except Thrown ProofState)
  /-- A call without a result has returned. -/
  | done

/-- The programs of the resolver and its mint client. -/
abbrev Program : Type → Type := Prog Res

/-- The program of one operation. -/
abbrev perform (o : Op) : Program (Res o) := Prog.op o

variable (P : VoucherPlatform)

/-! ## The mint client -/

section MintClient

variable (M : MintClientOptions)

/-- `requireAllowedOrigin`. -/
def requireAllowedOrigin (mintUrl : String) : Except MintUnavailableError String :=
  match M.allowlist.resolve P mintUrl with
  | some origin => .ok origin
  | none => .error ⟨.mintNotAllowed, "mint_url is not in the allowlist"⟩

/-- The end of `loadKeysets`: the answer to a request is parsed and cached. -/
def cacheKeysets (origin : String) (result : FetchResult) (refreshed : Bool) :
    Program (Except MintUnavailableError Keysets) :=
  match readKeysets P origin result with
  | .error error => return .error error
  | .ok keysets => do
    perform (.store origin keysets refreshed)
    return .ok keysets

/-- `loadKeysets`, where nothing was deleted before. -/
def loadKeysets (origin : String) : Program (Except MintUnavailableError Keysets) := do
  match ← perform (.load origin) with
  | .cached keysets => return .ok keysets
  | .fetched result => cacheKeysets P origin result false

/-- The second part of `getKey`, for a keyset that the loaded keysets lack: they are asked for again,
unless they have been before. -/
def refetchKey (origin keysetId : String) (amount : JsNumber) :
    Program (Except MintUnavailableError String) := do
  match ← perform (.refetch origin) with
  | none => return selectKey P origin keysetId amount none
  | some result =>
    -- Nothing is cached after the deletion, so `loadKeysets` goes on with the request.
    match ← cacheKeysets P origin result true with
    | .error error => return .error error
    | .ok keysets => return selectKey P origin keysetId amount (keysets.lookup keysetId)

/-- `getKey`. -/
def getKey (mintUrl keysetId : String) (amount : JsNumber) :
    Program (Except MintUnavailableError String) :=
  match requireAllowedOrigin P M mintUrl with
  | .error error => return .error error
  | .ok origin => do
    match ← loadKeysets P origin with
    | .error error => return .error error
    | .ok keysets =>
      match keysets.lookup keysetId with
      | some keyset => return selectKey P origin keysetId amount (some keyset)
      | none => refetchKey P origin keysetId amount

/-- `checkState`. -/
def checkState (mintUrl secret : String) : Program (Except Thrown ProofState) :=
  match requireAllowedOrigin P M mintUrl with
  | .error error => return .error (.mint error)
  | .ok origin =>
    match proofY P secret with
    | none => return .error .other
    | some Y => do
      let result ← perform (.fetch (checkStateRequest origin Y))
      return (readState P origin Y result).mapError .mint

end MintClient

/-! ## The checks that need no mint -/

/-- `[0-9a-f]` without regard to case. -/
def isHexDigitAnyCase (c : Char) : Bool := isHexDigit c || ('A' ≤ c && c ≤ 'F')

/-- `/^[0-9a-f]{n}$/i`. -/
def isHexAnyCase (n : ℕ) (s : String) : Bool :=
  s.toList.length == n && s.toList.all isHexDigitAnyCase

/-- `/^0[23][0-9a-f]{64}$/`, over the given digits. -/
def isCompressed (digit : Char → Bool) (s : String) : Bool :=
  match s.toList with
  | '0' :: c :: rest => (c == '2' || c == '3') && rest.length == 64 && rest.all digit
  | _ => false

/-- `lockKeyMatchesPubkey`. -/
def lockKeyMatchesPubkey (lockKey pubkey : String) : Bool :=
  let lock := normalized P lockKey
  let signer := normalized P pubkey
  if !isHex 64 signer then false
  else if isCompressed isHexDigit lock then JsString.slice lock 2 == signer
  else isHex 64 lock && lock == signer

/-- The key of an issuer without the prefix of a compressed one. -/
def issuerKey (issuerPubkey : String) : String :=
  if isCompressed isHexDigitAnyCase issuerPubkey then JsString.slice issuerPubkey 2
  else issuerPubkey

/-- `verifyIssuerSignature`. -/
def verifyIssuerSignature (secret : ParsedVoucherSecret) : Bool :=
  match secret.issuerSig, secret.issuerPubkey with
  | some issuerSig, some issuerPubkey =>
    let key := issuerKey issuerPubkey
    if !isHexAnyCase 64 key || !isHexAnyCase 128 issuerSig then false
    else
      (P.schnorrVerify (hexToBytes issuerSig) (P.sha256 (voucherCanonicalBytes P secret))
        (hexToBytes key)).getD false
  | _, _ => false

variable (O : VoucherAclResolverOptions)

/-- A credential that has passed the checks that need no mint. -/
structure CheckedVoucher where
  /-- The origin as the allowlist has it. -/
  mintUrl : String
  keysetId : String
  /-- The secret as it was presented. -/
  text : String
  signature : String
  amount : JsonNumber
  /-- The secret as it was parsed. -/
  secret : ParsedVoucherSecret
  issuerPubkey : String

/-- A denial: its code, and what the audit log is told besides. -/
abbrev Denial : Type := VoucherDenialCode × VoucherAuditDetails

/-- A finite number in a log. -/
def finiteJson (q : ℚ) : Json := .num ⟨.fin q, JsNumber.noConfusion⟩

/-- The checks of a secret that has been parsed: (d), (g), (e) and (f). Their result is the key of
the issuer. -/
def checkSecret (mintUrl pubkey : String) (now : ℤ) (secret : ParsedVoucherSecret) :
    Except Denial String :=
  -- (d) Only a locked voucher can be bound.
  if !secret.lockKey.any fun key => lockKeyMatchesPubkey P key pubkey then
    .error (.bindingMismatch, some [("kind", .str secret.kind.text)])
  else
    match (secret.expiresAt P).filter fun expiresAt => expiresAt ≤ (now : ℚ) with
    | some expiresAt => .error (.expired, some [("expires_at", finiteJson expiresAt)])
    | none =>
      match secret.issuerPubkey with
      | none => .error (.issuerUntrusted, none)
      | some issuerPubkey =>
        if !verifyIssuerSignature P secret || issuerPubkey == "" then .error (.issuerUntrusted, none)
        else if !O.issuerAllowlist.allows P mintUrl issuerPubkey then
          .error (.issuerUntrusted, some [("issuer_pubkey", .str issuerPubkey)])
        else .ok issuerPubkey

/-- The checks of a presented credential that need no mint. -/
def checkLocal (pubkey : String) (now : ℤ) (credential : Json) : Except Denial CheckedVoucher :=
  -- (a) The allowlist comes first.
  match ((credential.get? "mint_url").bind Json.str?).bind (O.mintAllowlist.resolve P) with
  | none => .error (.mintNotAllowed, none)
  | some mintUrl =>
    match (credential.get? "secret").bind Json.str?, (credential.get? "signature").bind Json.str?,
        (credential.get? "keyset_id").bind Json.str?, (credential.get? "amount").bind Json.num? with
    | some text, some signature, some keysetId, some amount =>
      -- (c) The secret is parsed.
      match parseVoucherSecret P text with
      | none => .error (.malformed, none)
      | some secret =>
        (checkSecret P O mintUrl pubkey now secret).map fun issuerPubkey =>
          { mintUrl, keysetId, text, signature, amount, secret, issuerPubkey }
    | _, _, _, _ => .error (.malformed, none)

/-! ## The resolver -/

/-- `undeclaredKeys`. -/
def undeclaredKeys (granted : Option VoucherGrant) : List String :=
  match O.permissionRegistry with
  | none => []
  | some registry =>
    ((granted.map VoucherGrant.permissions).getD []).filter (· ∉ registry.permissions) ++
      ((granted.map VoucherGrant.roles).getD []).filter (· ∉ registry.roles)

/-- `DENY`. -/
def denial (code : VoucherDenialCode) : AclDecision :=
  ⟨false, [], [], some code.text, false, none⟩

/-- `deny`. -/
def deny (npub pubkey : String) (code : VoucherDenialCode) (details : VoucherAuditDetails) :
    Program Outcome := do
  perform (.log ⟨code.text, npub, pubkey, .failure, details⟩)
  return .decided (denial code)

/-- A decision that allows, until the voucher expires. -/
def allowing (granted : VoucherGrant) (reason : Option String) (secret : ParsedVoucherSecret) :
    AclDecision :=
  ⟨true, granted.roles, granted.permissions, reason, false, (secret.expiresAt P).map .fin⟩

/-- The `catch` of `resolve`: a mint that did not answer may degrade. -/
def mintFailed (npub pubkey : String) (secret : ParsedVoucherSecret)
    (error : MintUnavailableError) : Program Outcome :=
  match O.availability.decide error.reason with
  | .deny reason => deny npub pubkey .mintUnavailable (some [("reason", .str reason.text)])
  | .degrade grant =>
    let degradedUnknown := undeclaredKeys O (some grant)
    if degradedUnknown ≠ [] then
      deny npub pubkey .grantNotInRegistry
        (some [("unknown", .arr (degradedUnknown.map .str)), ("degraded", .bool true)])
    else do
      perform (.log ⟨VoucherDenialCode.text .mintUnavailable, npub, pubkey, .success,
        some [("reason", .str error.reason.text), ("degraded", .bool true)]⟩)
      return .decided (allowing P grant (some "NAP_VOUCHER_DEGRADED") secret)

/-- A string or `null`. -/
def nullable : Option String → Json
  | some s => .str s
  | none => .null

/-- (i) The end of `resolve` for a voucher that is good: the application decides what it is worth. -/
def accept (npub pubkey : String) (checked : CheckedVoucher) : Program Outcome := do
  let granted ← perform (.grant ⟨checked.mintUrl, checked.issuerPubkey, pubkey, checked.secret⟩)
  let unknown := undeclaredKeys O granted
  if unknown ≠ [] then
    deny npub pubkey .grantNotInRegistry (some [("unknown", .arr (unknown.map .str))])
  else
    perform (.log ⟨"NAP_VOUCHER_ACCEPTED", npub, pubkey, .success,
      some [("mint_url", .str checked.mintUrl), ("voucher_id", nullable checked.secret.voucherId),
        ("issuer", nullable checked.secret.issuer)]⟩)
    return .decided (allowing P (granted.getD ⟨[], []⟩) none checked.secret)

/-- The `dleq` of a credential, if it has the three texts. -/
def readDleq (credential : Json) : Option Dleq := do
  let dleq ← credential.get? "dleq"
  return ⟨← (← dleq.get? "e").str?, ← (← dleq.get? "s").str?, ← (← dleq.get? "r").str?⟩

/-- (h) What the state of a proof decides: only an unspent one is accepted. -/
def decideState (npub pubkey : String) (checked : CheckedVoucher) :
    Except Thrown ProofState → Program Outcome
  | .error .other => return .threw
  | .error (.mint error) => mintFailed P O npub pubkey checked.secret error
  | .ok state =>
    if state ≠ .unspent then deny npub pubkey .spent (some [("state", .str state.text)])
    else accept P O npub pubkey checked

/-- The part of `resolve` that needs the mint. -/
def resolveAtMint (npub pubkey : String) (credential : Json) (checked : CheckedVoucher) :
    Program Outcome := do
  match ← getKey P O.mintClient checked.mintUrl checked.keysetId checked.amount.val with
  | .error error => mintFailed P O npub pubkey checked.secret error
  | .ok A =>
    match readDleq credential with
    | none => deny npub pubkey .malformed none
    | some dleq =>
      -- (b) The mint has signed this proof.
      if !verifyProofDleq P A checked.text checked.signature dleq then
        deny npub pubkey .dleqInvalid none
      else do
        let state ← checkState P O.mintClient checked.mintUrl checked.text
        decideState P O npub pubkey checked state

/-- Whether a value is truthy. -/
def truthy : Json → Bool
  | .null => false
  | .bool b => b
  | .num n => n.val != .fin 0
  | .str s => s != ""
  | _ => true

/-- The start of `resolve` without a credential. -/
def resolveAbsent (npub pubkey : String) (context : Option VoucherContext) : Program Outcome :=
  if O.fallback then do
    return .decided (← perform (.fallback npub pubkey context))
  else
    match context.bind VoucherContext.session with
    | none => deny npub pubkey .absent (some [])
    | some (roles, permissions) =>
      if O.onMissingCredential = some .trustSession then
        return .decided ⟨true, roles, permissions, none, false, none⟩
      else
        deny npub pubkey .absent (some [("note",
          .str "guard re-resolution has no credential; see onMissingCredential")])

/-- The credential that a context presents, and its clock. A context always has one. -/
def presented (context : Option VoucherContext) : Option (Json × ℤ) := do
  let context ← context
  let credential ← context.voucher
  if truthy credential then return (credential, context.now) else none

/-- `resolve`. -/
def resolve (npub pubkey : String) (context : Option VoucherContext) : Program Outcome :=
  match presented context with
  | none => resolveAbsent O npub pubkey context
  | some (credential, now) =>
    match checkLocal P O pubkey now credential with
    | .error (code, details) => deny npub pubkey code details
    | .ok checked => resolveAtMint P O npub pubkey credential checked

/-- The calls of the resolver, and those of its mint client. -/
inductive Call where
  /-- `resolve`. -/
  | resolve (npub pubkey : String) (context : Option VoucherContext)
  /-- `getKey`. -/
  | getKey (mintUrl keysetId : String) (amount : JsNumber)
  /-- `checkState`. -/
  | checkState (mintUrl secret : String)
  /-- `clearCache`. -/
  | clearCache

/-- The program of a call. -/
def body : Call → Program Outcome
  | .resolve npub pubkey context => resolve P O npub pubkey context
  | .getKey mintUrl keysetId amount => do
    return .key (← getKey P O.mintClient mintUrl keysetId amount)
  | .checkState mintUrl secret => do
    return .state (← checkState P O.mintClient mintUrl secret)
  | .clearCache => do
    perform .clearCache
    return .done

end NapAuth.Voucher

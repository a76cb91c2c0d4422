import NapAuth.Codec
import NapAuth.Types

/-!
# The proof of a completion

What a client sends to complete a login: a request body (`parseAuthCompleteRequest` of
`packages/nap-server/src/server.ts`) and a signed event in the `Authorization` header
(`packages/nap-core/src/header.ts`, `url.ts` and `validate.ts`). `verifyNip98Completion` checks them
one condition after another, and `Nip98Valid` is the conjunction of what it checks:
`verifyNip98Completion_ok` says that the two agree.

The signature check, SHA-256, the URL parser, the JSON parser and the text decoder are a `Platform`.
-/

namespace NapAuth

/-- What the code uses from its platform and from the libraries that are not part of it. `none` is
a thrown exception. -/
structure Platform where
  /-- `new TextDecoder().decode`. -/
  textDecode : List UInt8 → String
  /-- `JSON.parse`. -/
  jsonParse : String → Option Json
  /-- `verifyEvent` of nostr-tools: the id is the hash of the event, and the signature is valid. -/
  verifyEvent : Nip98Event → Bool
  /-- SHA-256. -/
  sha256 : List UInt8 → List UInt8
  /-- `new URL(value).toString()`. -/
  newUrl : String → Option String
  /-- `toUpperCase`. -/
  toUpperCase : String → String
  /-- `nip19.decode`: the type, and the data where it is a string. -/
  nip19Decode : String → Option (String × Option String)

variable (P : Platform)

/-- `decodeBase64String`. -/
def decodeBase64String (value : String) : Option String :=
  (Codec.decodeBase64Bytes value).toOption.map P.textDecode

/-- `sha256Hex`. -/
def sha256Hex (value : List UInt8) : String := Codec.bytesToHex (P.sha256 value)

/-! ## The request body -/

/-- A property that is a string and not empty. -/
def nonEmptyString (candidate : Json) (key : String) : Option String := do
  let s ← (← candidate.get? key).str?
  if s = "" then none else some s

/-- `parseVoucherCredential`: the shape of a presented voucher. -/
def parseVoucherCredential (value : Json) : Option VoucherCredential := do
  if !value.isObject then none
  let mintUrl ← nonEmptyString value "mint_url"
  let keysetId ← nonEmptyString value "keyset_id"
  let secret ← nonEmptyString value "secret"
  let signature ← nonEmptyString value "signature"
  let amount ← (← (← value.get? "amount").num?).val.integer?
  if amount ≤ 0 then none
  let dleq ← value.get? "dleq"
  if !dleq.isObject then none
  let e ← nonEmptyString dleq "e"
  let s ← nonEmptyString dleq "s"
  let r ← nonEmptyString dleq "r"
  let witness ← match value.get? "witness" with
    | none => some none
    | some w => w.str?.map some
  return { mintUrl, keysetId, secret, signature, amount, dleq := ⟨e, s, r⟩, witness }

/-- `parseAuthCompleteRequest`. A voucher that is present but malformed refuses the request. -/
def parseAuthCompleteRequest (rawBody : List UInt8) : Option AuthCompleteRequest := do
  let parsed ← P.jsonParse (P.textDecode rawBody)
  let challengeId ← nonEmptyString parsed "challenge_id"
  let stepUp ← match parsed.get? "step_up" with
    | none => some false
    | some (.bool b) => some b
    | some _ => none
  let voucher ← match parsed.get? "voucher" with
    | none => some none
    | some v => (parseVoucherCredential v).map some
  return { challengeId, stepUp, voucher }

/-! ## The Authorization header -/

/-- `isStringArrayArray`, as the arrays that a value is. -/
def stringArrayArray (value : Json) : Option (List (List String)) := do
  (← value.arr?).mapM fun entry => do (← entry.arr?).mapM Json.str?

/-- The event that a parsed payload is. -/
def eventOfJson (parsed : Json) : Option Nip98Event := do
  let id ← (← parsed.get? "id").str?
  let pubkey ← (← parsed.get? "pubkey").str?
  let createdAt ← (← parsed.get? "created_at").num?
  let kind ← (← parsed.get? "kind").num?
  let content ← (← parsed.get? "content").str?
  let sig ← (← parsed.get? "sig").str?
  let tags ← stringArrayArray (← parsed.get? "tags")
  return { id, pubkey, createdAt, kind, tags, content, sig }

/-- `parseNostrAuthorizationHeader`. -/
def parseNostrAuthorizationHeader (header : String) : Option Nip98Event :=
  if header = "" || !JsString.startsWith header "Nostr " then none
  else
    let payload := JsString.trim (JsString.slice header 6)
    if payload = "" then none
    else do
      let decoded ← decodeBase64String P payload
      let parsed ← P.jsonParse decoded
      eventOfJson parsed

/-! ## The checks -/

/-- `exactUrlMatch`. -/
def exactUrlMatch (left right : String) : Bool :=
  match P.newUrl left, P.newUrl right with
  | some l, some r => l == r
  | _, _ => false

/-- The failure of `getSingleTag`, by the name of the tag. -/
def missingTag (tagName : String) : NapErrorCode :=
  if tagName = "payload" then .completeMissingPayload
  else if tagName = "challenge_id" then .completeMissingChallengeId
  else .completeInvalidEventJson

/-- `getSingleTag`: the value of the only tag with a name. -/
def getSingleTag (event : Nip98Event) (tagName : String) :
    Except VerifyCompleteFailure String :=
  match event.tags.filter fun tag => tag[0]? == some tagName with
  | [tag] =>
    match tag[1]? with
    | some value => .ok value
    | none => .error (failure (missingTag tagName))
  | _ => .error (failure (missingTag tagName))

/-- `validateCreatedAtWindow`. -/
def validateCreatedAtWindow (createdAt : JsonNumber) (now maxClockSkewSeconds : ℤ) : Bool :=
  !(JsNumber.ofInt maxClockSkewSeconds).lt (JsNumber.absDiff now createdAt.val)

/-- An integer is within the clock skew when its distance to the clock is. -/
theorem validateCreatedAtWindow_ofInt {t now maxClockSkewSeconds : ℤ} :
    validateCreatedAtWindow (JsonNumber.ofInt t) now maxClockSkewSeconds = true ↔
      |now - t| ≤ maxClockSkewSeconds := by
  have habs : |(now : ℚ) - t| = (|now - t| : ℤ) := by push_cast; rfl
  simp only [validateCreatedAtWindow, JsonNumber.ofInt, JsNumber.absDiff, JsNumber.ofInt, JsNumber.lt]
  rw [habs]
  simp only [Bool.not_eq_true', decide_eq_false_iff_not, not_lt, Int.cast_le]

/-- `validateChallengeBoundCreatedAt`. -/
def validateChallengeBoundCreatedAt (createdAt : JsonNumber) (issuedAt expiresAt
    lowerBoundGraceSeconds upperBoundGraceSeconds : ℤ) : Bool :=
  !(createdAt.val.lt (.ofInt (issuedAt - lowerBoundGraceSeconds)) ||
    (JsNumber.ofInt (expiresAt + upperBoundGraceSeconds)).lt createdAt.val)

/-- `VerifyNip98CompletionInput`. -/
structure VerifyNip98CompletionInput where
  authorization : Option String
  method : String
  url : String
  body : AuthCompleteRequest
  rawBody : List UInt8
  now : ℤ
  maxClockSkewSeconds : ℤ

/-- `if (!ok) return failure(code)`. -/
def check (ok : Bool) (code : NapErrorCode) : Except VerifyCompleteFailure Unit :=
  if ok then .ok () else .error (failure code)

/-- `if (!value) return failure(code)`. -/
def orFail {α : Type} (value : Option α) (code : NapErrorCode) : Except VerifyCompleteFailure α :=
  match value with
  | some a => .ok a
  | none => .error (failure code)

/-- `verifyNip98Completion`. -/
def verifyNip98Completion (input : VerifyNip98CompletionInput) :
    Except VerifyCompleteFailure VerifiedNip98Completion := do
  let authorization := input.authorization.getD ""
  check (authorization != "") .completeMissingAuthHeader
  check (JsString.startsWith authorization "Nostr ") .completeInvalidAuthScheme
  let event ← orFail (parseNostrAuthorizationHeader P authorization) .completeInvalidEventJson
  check (event.kind = JsonNumber.ofInt 27235) .completeInvalidKind
  check (event.content = "") .completeInvalidEventJson
  check (P.verifyEvent event) .completeInvalidSignature
  check (validateCreatedAtWindow event.createdAt input.now input.maxClockSkewSeconds)
    .completeCreatedAtOutOfRange
  let urlTag ← getSingleTag event "u"
  check (exactUrlMatch P urlTag input.url) .completeUrlMismatch
  let methodTag ← getSingleTag event "method"
  check (methodTag = P.toUpperCase input.method) .completeMethodMismatch
  let payloadTag ← getSingleTag event "payload"
  check (payloadTag = sha256Hex P input.rawBody) .completePayloadMismatch
  let challengeIdTag ← getSingleTag event "challenge_id"
  check (input.body.challengeId != "" && challengeIdTag = input.body.challengeId)
    .completeMissingChallengeId
  let challengeTag ← orFail (getSingleTag event "challenge").toOption .completeChallengeMismatch
  return { event, challenge := challengeTag, challengeId := challengeIdTag, payload := payloadTag }

/-! ## What an accepted proof is -/

/-- Exactly one tag of the event has the name, and it has the value. -/
def HasSingleTag (event : Nip98Event) (name value : String) : Prop :=
  ∃ tag, event.tags.filter (fun tag => tag[0]? == some name) = [tag] ∧ tag[1]? = some value

/-- What `verifyNip98Completion` has checked when it accepts. -/
structure Nip98Valid (input : VerifyNip98CompletionInput) (value : VerifiedNip98Completion) :
    Prop where
  /-- The header decodes to the event. -/
  decoded : parseNostrAuthorizationHeader P (input.authorization.getD "") = some value.event
  /-- The event is a NIP-98 event. -/
  kind : value.event.kind = JsonNumber.ofInt 27235
  /-- It has no content. -/
  content : value.event.content = ""
  /-- Its signature is valid. -/
  signature : P.verifyEvent value.event = true
  /-- It was made within the clock skew. -/
  window : validateCreatedAtWindow value.event.createdAt input.now input.maxClockSkewSeconds = true
  /-- It is meant for the server's URL. -/
  url : ∃ u, HasSingleTag value.event "u" u ∧ exactUrlMatch P u input.url = true
  /-- It is meant for the request's method. -/
  method : HasSingleTag value.event "method" (P.toUpperCase input.method)
  /-- It names a payload. -/
  payload : HasSingleTag value.event "payload" value.payload
  /-- The payload is the hash of the request's body. -/
  payload_eq : value.payload = sha256Hex P input.rawBody
  /-- It names a challenge. -/
  challengeId : HasSingleTag value.event "challenge_id" value.challengeId
  /-- The body names the same challenge. -/
  challengeId_eq : value.challengeId = input.body.challengeId
  /-- That name is not empty. -/
  challengeId_ne : input.body.challengeId ≠ ""
  /-- It quotes the challenge. -/
  challenge : HasSingleTag value.event "challenge" value.challenge

variable {P}

theorem getSingleTag_eq_ok {event : Nip98Event} {name value : String} :
    getSingleTag event name = .ok value ↔ HasSingleTag event name value := by
  unfold getSingleTag HasSingleTag
  split
  · rename_i tag htags
    rw [htags]
    cases htag : tag[1]? with
    | none => simp [htag]
    | some v => simp [htag]
  · rename_i hne
    simp only [reduceCtorEq, false_iff, not_exists, not_and]
    exact fun tag htag => absurd htag (hne tag)

/-- A check that has passed. -/
theorem check_eq_ok {ok : Bool} {code : NapErrorCode} {u : Unit} :
    check ok code = .ok u ↔ ok = true := by
  cases ok <;> simp [check]

/-- A value that was there. -/
theorem orFail_eq_ok {α : Type} {value : Option α} {code : NapErrorCode} {a : α} :
    orFail value code = .ok a ↔ value = some a := by
  cases value <;> simp [orFail]

/-- A sequence of checks passes when each of them does. -/
theorem bind_eq_ok {ε α β : Type} {x : Except ε α} {f : α → Except ε β} {b : β} :
    (x >>= f) = .ok b ↔ ∃ a, x = .ok a ∧ f a = .ok b := by
  cases x <;> simp [bind, Except.bind]

/-- A header that decodes to an event has the scheme. -/
theorem startsWith_of_parse {header : String} {event : Nip98Event}
    (h : parseNostrAuthorizationHeader P header = some event) :
    header ≠ "" ∧ JsString.startsWith header "Nostr " = true := by
  unfold parseNostrAuthorizationHeader at h
  split at h
  · cases h
  · rename_i hhead
    simpa using hhead

/-- `verifyNip98Completion` accepts exactly the valid proofs. -/
theorem verifyNip98Completion_ok {input : VerifyNip98CompletionInput}
    {value : VerifiedNip98Completion} :
    verifyNip98Completion P input = .ok value ↔ Nip98Valid P input value := by
  unfold verifyNip98Completion
  have htag : ∀ event name tag, (getSingleTag event name).toOption = some tag ↔
      HasSingleTag event name tag := by
    intro event name tag
    rw [← getSingleTag_eq_ok]
    cases getSingleTag event name <;> simp [Except.toOption]
  simp only [bind_eq_ok, check_eq_ok, orFail_eq_ok, getSingleTag_eq_ok, htag, exists_const]
  constructor
  · rintro ⟨-, -, event, hevent, hkind, hcontent, hsig, hwindow, u, hu, hurl, m, hm, hmethod, p, hp,
      hpayload, cid, hcid, hbody, c, hc, hvalue⟩
    obtain rfl := Except.ok.inj hvalue
    simp only [decide_eq_true_eq] at hkind hcontent hmethod hpayload
    simp only [bne_iff_ne, Bool.and_eq_true, decide_eq_true_eq] at hbody
    exact ⟨hevent, hkind, hcontent, hsig, hwindow, ⟨u, hu, hurl⟩, hmethod ▸ hm, hp, hpayload, hcid,
      hbody.2, hbody.1, hc⟩
  · intro hv
    obtain ⟨u, hu, hurl⟩ := hv.url
    obtain ⟨hne, hstart⟩ := startsWith_of_parse hv.decoded
    refine ⟨by simpa using hne, hstart, value.event, hv.decoded, by simpa using hv.kind,
      by simpa using hv.content, hv.signature, hv.window, u, hu, hurl, _, hv.method, by simp,
      value.payload, hv.payload, by simpa using hv.payload_eq, value.challengeId, hv.challengeId,
      by simpa using ⟨hv.challengeId_ne, hv.challengeId_eq⟩, value.challenge, hv.challenge, rfl⟩

end NapAuth

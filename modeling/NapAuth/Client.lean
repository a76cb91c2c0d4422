import NapAuth.Interleaving.Replay
import NapAuth.Server.Runs

/-!
# What a client sends

`buildAuthCompleteRequest` of `packages/nap-client-http/src/client.ts` makes the request that
completes a login, and `built_valid` says that the server accepts its proof, within the clock skew,
if the server's platform reads what the client's has written. After that, `verifyCompletion` depends
on the proof only through the time (`verifyCompletion_proven`).

The client's JSON serialization and its signer are a `Client`. The last part has the requests of one
client and computes runs with them.
-/

namespace NapAuth

open Interleaving

/-- `EventTemplate`. -/
structure EventTemplate where
  createdAt : JsonNumber
  kind : JsonNumber
  tags : List (List String)
  content : String
  deriving DecidableEq

/-- What the client uses from its platform and from the signer. -/
structure Client where
  /-- `JSON.stringify` of a request body. -/
  stringifyBody : AuthCompleteRequest → String
  /-- `JSON.stringify` of an event. -/
  stringifyEvent : Nip98Event → String
  /-- `signer.signEvent`. -/
  signEvent : EventTemplate → Nip98Event

/-- `utf8Bytes`. -/
def utf8Bytes (s : String) : List UInt8 := s.toUTF8.data.toList

/-- Strings with the same bytes are the same. -/
theorem utf8Bytes_injective : Function.Injective utf8Bytes :=
  fun _ _ h => encodeText_injective (congrArg (List.map UInt8.toNat) h)

/-- `encodeBase64String`. -/
def encodeBase64String (value : String) : String := Codec.encodeBase64Bytes (utf8Bytes value)

variable (P : Platform) (C : Client)

/-- The event that a client has signed. -/
def completionTemplate (challenge : AuthInitResponse) (payloadHash : String)
    (createdAt : JsonNumber) : EventTemplate where
  kind := JsonNumber.ofInt 27235
  createdAt := createdAt
  tags := [["u", challenge.authUrl], ["method", challenge.authMethod], ["payload", payloadHash],
    ["challenge", challenge.challenge], ["challenge_id", challenge.challengeId]]
  content := ""

/-- `BuiltAuthCompleteRequest`. -/
structure BuiltAuthCompleteRequest where
  method : String
  url : String
  body : AuthCompleteRequest
  rawBody : List UInt8
  payloadHash : String
  event : Nip98Event
  authorization : String

/-- `buildAuthCompleteRequest`. -/
def buildAuthCompleteRequest (challenge : AuthInitResponse) (createdAt : JsonNumber) (stepUp : Bool)
    (voucher : Option VoucherCredential) : BuiltAuthCompleteRequest :=
  let body : AuthCompleteRequest := ⟨challenge.challengeId, stepUp, voucher⟩
  let rawBody := utf8Bytes (C.stringifyBody body)
  let payloadHash := sha256Hex P rawBody
  let event := C.signEvent (completionTemplate challenge payloadHash createdAt)
  { method := challenge.authMethod
    url := challenge.authUrl
    body
    rawBody
    payloadHash
    event
    authorization := "Nostr " ++ encodeBase64String (C.stringifyEvent event) }

/-- The request as the server receives it. -/
def BuiltAuthCompleteRequest.input (request : BuiltAuthCompleteRequest) (clientIp : Option String) :
    VerifyCompletionInput where
  authorization := some request.authorization
  method := request.method
  url := request.url
  rawBody := request.rawBody
  clientIp := clientIp

/-- The proof that the server makes of the request. -/
def BuiltAuthCompleteRequest.proof (request : BuiltAuthCompleteRequest)
    (challenge : AuthInitResponse) : VerifiedNip98Completion where
  event := request.event
  challenge := challenge.challenge
  challengeId := challenge.challengeId
  payload := request.payloadHash

/-- The signer signs the event that it is given. -/
def Client.SignsAsGiven : Prop :=
  ∀ template, (C.signEvent template).createdAt = template.createdAt ∧
    (C.signEvent template).kind = template.kind ∧ (C.signEvent template).tags = template.tags ∧
    (C.signEvent template).content = template.content

/-- The server's platform reads what the client's has written: the texts of a request, and the
signature of its event. -/
structure Reads (request : BuiltAuthCompleteRequest) : Prop where
  /-- A text is decoded as it was encoded. -/
  decode : ∀ s, P.textDecode (utf8Bytes s) = s
  /-- The body is parsed as it was serialized. -/
  body : parseAuthCompleteRequest P request.rawBody = some request.body
  /-- An event is never serialized as the empty text. -/
  nonempty : C.stringifyEvent request.event ≠ ""
  /-- It is parsed as it was serialized. -/
  event : (P.jsonParse (C.stringifyEvent request.event)).bind eventOfJson = some request.event
  /-- The signature is valid. -/
  signature : P.verifyEvent request.event = true

variable {P C}

/-- What is decoded of an encoded text. -/
theorem decodeBase64String_encode {text : String} (hdecode : P.textDecode (utf8Bytes text) = text) :
    decodeBase64String P (encodeBase64String text) = some text := by
  rw [decodeBase64String, encodeBase64String, Codec.decodeBase64Bytes_encode]
  exact congrArg some hdecode

/-- The server reads the event from the header that the client has made of it. -/
theorem parseNostrAuthorizationHeader_encode {text : String} {event : Nip98Event}
    (hdecode : P.textDecode (utf8Bytes text) = text)
    (hevent : (P.jsonParse text).bind eventOfJson = some event)
    (hne : text ≠ "") :
    parseNostrAuthorizationHeader P ("Nostr " ++ encodeBase64String text) = some event := by
  have hstart := JsString.startsWith_append "Nostr " (encodeBase64String text)
  have hslice : JsString.slice ("Nostr " ++ encodeBase64String text) 6 = encodeBase64String text :=
    JsString.slice_append "Nostr " (encodeBase64String text)
  have htrim : JsString.trim (encodeBase64String text) = encodeBase64String text := by
    apply JsString.trim_of_not_space
    intro c hc
    rw [encodeBase64String, Codec.encodeBase64Bytes, String.toList_ofList] at hc
    exact Codec.isSpace_encodeChunks hc
  have hpayload : encodeBase64String text ≠ "" := by
    -- The text would have no bytes.
    intro hempty
    have hbytes := Codec.decodeBase64Bytes_encode (utf8Bytes text)
    rw [show Codec.encodeBase64Bytes (utf8Bytes text) = "" from hempty] at hbytes
    have hnil : [] = utf8Bytes text := Except.ok.inj hbytes
    apply hne
    rw [← String.toByteArray_inj]
    exact ByteArray.ext (Array.toList_inj.mp hnil.symm)
  have hscheme : ¬ (("Nostr " ++ encodeBase64String text = "" ||
      !JsString.startsWith ("Nostr " ++ encodeBase64String text) "Nostr ") = true) := by
    rw [hstart]
    simp
  rw [parseNostrAuthorizationHeader, if_neg hscheme]
  simp only [hslice, htrim, if_neg hpayload, decodeBase64String_encode hdecode]
  exact hevent

/-- The tags of a completion are read as they were written. -/
theorem hasSingleTag_completion {event : Nip98Event} {challenge : AuthInitResponse}
    {payloadHash : String} {createdAt : JsonNumber}
    (htags : event.tags = (completionTemplate challenge payloadHash createdAt).tags) :
    HasSingleTag event "u" challenge.authUrl ∧ HasSingleTag event "method" challenge.authMethod ∧
      HasSingleTag event "payload" payloadHash ∧ HasSingleTag event "challenge" challenge.challenge ∧
      HasSingleTag event "challenge_id" challenge.challengeId := by
  unfold HasSingleTag
  rw [htags]
  exact ⟨⟨_, rfl, rfl⟩, ⟨_, rfl, rfl⟩, ⟨_, rfl, rfl⟩, ⟨_, rfl, rfl⟩, ⟨_, rfl, rfl⟩⟩

/-- The proof of a request that a client has built is valid within the clock skew, when the server
reads its event. -/
theorem built_valid_at {challenge : AuthInitResponse} {createdAt : JsonNumber} {stepUp : Bool}
    {voucher : Option VoucherCredential} {request : BuiltAuthCompleteRequest} {now skew : ℤ}
    (hrequest : buildAuthCompleteRequest P C challenge createdAt stepUp voucher = request)
    (hsigns : C.SignsAsGiven)
    (hdecoded : parseNostrAuthorizationHeader P request.authorization = some request.event)
    (hsignature : P.verifyEvent request.event = true) (hid : challenge.challengeId ≠ "")
    (hurl : (P.newUrl challenge.authUrl).isSome = true)
    (hmethod : P.toUpperCase challenge.authMethod = challenge.authMethod)
    (hwindow : validateCreatedAtWindow createdAt now skew = true) :
    Nip98Valid P ⟨some request.authorization, request.method, request.url, request.body,
      request.rawBody, now, skew⟩ (request.proof challenge) := by
  subst hrequest
  obtain ⟨hcreated, hkind, htags, hcontent⟩ := hsigns (completionTemplate challenge _ createdAt)
  obtain ⟨hu, hm, hp, hc, hcid⟩ := hasSingleTag_completion htags
  refine
    { decoded := hdecoded
      kind := hkind
      content := hcontent
      signature := hsignature
      window := hcreated ▸ hwindow
      url := ⟨_, hu, ?_⟩
      method := hmethod.symm ▸ hm
      payload := hp
      payload_eq := rfl
      challengeId := hcid
      challengeId_eq := rfl
      challengeId_ne := hid
      challenge := hc }
  obtain ⟨url, hurl⟩ := Option.isSome_iff_exists.mp hurl
  show exactUrlMatch P challenge.authUrl challenge.authUrl = true
  rw [exactUrlMatch, hurl]
  exact beq_self_eq_true url

/-- The server accepts the proof of a request that a client has built, within the clock skew. -/
theorem built_valid {challenge : AuthInitResponse} {createdAt : JsonNumber} {stepUp : Bool}
    {voucher : Option VoucherCredential} {request : BuiltAuthCompleteRequest} {O : NapServerOptions}
    {clientIp : Option String} {now : ℤ}
    (hrequest : buildAuthCompleteRequest P C challenge createdAt stepUp voucher = request)
    (hsigns : C.SignsAsGiven) (hreads : Reads P C request) (hid : challenge.challengeId ≠ "")
    (hurl : (P.newUrl challenge.authUrl).isSome = true)
    (hmethod : P.toUpperCase challenge.authMethod = challenge.authMethod)
    (hwindow : validateCreatedAtWindow createdAt now (O.maxClockSkewSeconds.getD 60) = true) :
    Nip98Valid P (proofInput O (request.input clientIp) request.body now)
      (request.proof challenge) := by
  have hdecoded : parseNostrAuthorizationHeader P request.authorization = some request.event := by
    subst hrequest
    exact parseNostrAuthorizationHeader_encode (hreads.decode _) hreads.event hreads.nonempty
  exact built_valid_at hrequest hsigns hdecoded hreads.signature hid hurl hmethod hwindow

/-! ## The server's side -/

/-- A proof that is valid at some time is accepted exactly within the clock skew, and is refused
outside of it for the event's time. -/
theorem verifyNip98Completion_at {input : VerifyNip98CompletionInput} {t : ℤ}
    {proof : VerifiedNip98Completion} (hv : Nip98Valid P { input with now := t } proof) :
    verifyNip98Completion P input =
      if validateCreatedAtWindow proof.event.createdAt input.now input.maxClockSkewSeconds then
        .ok proof
      else .error (failure .completeCreatedAtOutOfRange) := by
  split
  · rename_i hwindow
    exact verifyNip98Completion_ok.mpr { hv with window := hwindow }
  · rename_i hwindow
    -- The checks before that of the time pass, and that one fails.
    obtain ⟨hne, hstart⟩ := startsWith_of_parse hv.decoded
    have hdecoded : parseNostrAuthorizationHeader P (input.authorization.getD "") =
        some proof.event := hv.decoded
    have hne' : (input.authorization.getD "" != "") = true := bne_iff_ne.mpr hne
    have hkind : decide (proof.event.kind = JsonNumber.ofInt 27235) = true :=
      decide_eq_true hv.kind
    have hcontent : decide (proof.event.content = "") = true := decide_eq_true hv.content
    have hlate := Bool.eq_false_iff.mpr hwindow
    rw [verifyNip98Completion, hne', hstart, hdecoded]
    simp only [check, orFail, if_true, bind, Except.bind, hkind, hcontent, hv.signature, hlate,
      Bool.false_eq_true, if_false]

variable (O : NapServerOptions)

/-- `verifyCompletion` with a body that parses and a proof that is valid at some time. -/
def completeProven (input : VerifyCompletionInput) (body : AuthCompleteRequest)
    (proof : VerifiedNip98Completion) : Program Outcome := do
  perform (.count .authCompleteTotal)
  let (rateLimit, now) ← perform (.checkRateLimit ⟨.complete, none, none, input.clientIp⟩)
  if rateLimit.allowed = false then
    refuse .completeRateLimited none (challengeDetails body.challengeId) rateLimit.retryAfterSeconds
  else if validateCreatedAtWindow proof.event.createdAt now (O.maxClockSkewSeconds.getD 60) then do
    let (provenRateLimit, _) ←
      perform (.checkRateLimit ⟨.complete, none, some proof.event.pubkey, none⟩)
    if provenRateLimit.allowed = false then
      refuse .completeRateLimited (some proof.event.pubkey) (challengeDetails body.challengeId)
        provenRateLimit.retryAfterSeconds
    else
      match ← perform (.challengeGet proof.challengeId) with
      | none => fail .completeUnknownChallenge (challengeDetails proof.challengeId)
      | some challenge => completeChallenge O body proof now challenge
  else do
    perform (.log (failureEvent .completeCreatedAtOutOfRange (some [("url", .str input.url)])))
    return .failed (failure .completeCreatedAtOutOfRange)

variable {O}

/-- A completion with such a body and such a proof depends on the proof only through the time. -/
theorem verifyCompletion_proven {input : VerifyCompletionInput} {body : AuthCompleteRequest}
    {proof : VerifiedNip98Completion} {t : ℤ}
    (hbody : parseAuthCompleteRequest P input.rawBody = some body)
    (hproof : Nip98Valid P (proofInput O input body t) proof) :
    verifyCompletion P O input = completeProven O input body proof := by
  unfold verifyCompletion completeProven
  rw [hbody]
  refine congrArg (Prog.call (Op.count .authCompleteTotal)) (funext fun _ => ?_)
  refine congrArg (Prog.call (Op.checkRateLimit ⟨.complete, none, none, input.clientIp⟩))
    (funext fun ⟨rateLimit, now⟩ => ?_)
  have hat : verifyNip98Completion P (proofInput O input body now) =
      ite (validateCreatedAtWindow proof.event.createdAt now (O.maxClockSkewSeconds.getD 60) = true)
        (.ok proof) (.error (failure .completeCreatedAtOutOfRange)) :=
    verifyNip98Completion_at hproof
  show (if rateLimit.allowed = false then _ else _) = (if rateLimit.allowed = false then _ else _)
  split
  · rfl
  · rw [hat]
    cases validateCreatedAtWindow proof.event.createdAt now (O.maxClockSkewSeconds.getD 60) <;> rfl

/-! ## A login

The requests of one client, without and with a step-up token asked for, whose event and signature
are those of the private key 3. The platforms know these requests and nothing else. -/

namespace Sample

/-- The principal's key. -/
def pubkey : String := "f9308a019258c31049344f85f89d5229b531c845836f99b08601f113bce036f9"

/-- The principal. -/
def npub : String := "npub1lycg5qvjtrp3qjf5f7zl382j9x6nrjz9sdhenvyxq8c3808qxmus6gq266"

/-- The id of the challenge. -/
def challengeId : String := "AQEBAQEBAQEBAQEB"

/-- Its text. -/
def challengeText : String := "AgICAgICAgICAgICAgICAgICAgICAgICAgICAgICAgI"

/-- The server's URL. -/
def url : String := "https://api.example.com/auth/complete"

/-- The hash of the request body. -/
def payload : Bool → String
  | false => "1bb9bd7decdc40655ae4147cb3a68ccf5740dd052392356e75822bfe0e450427"
  | true => "070b8c2d63f428eba1bc931586ed4adb1049ad2e6d0ae7ec2c0ad4f2bf040062"

/-- The id of the event. -/
def eventId : Bool → String
  | false => "bfef061fe42459a53c1bb890ee23b3ee8952388c5d6989c0d325f67c03540602"
  | true => "c1dee24426b84ec95bf605587ab11409f1668f2481c8c793260d5d4ac8121e2c"

/-- Its signature. -/
def signature : Bool → String
  | false =>
    "efe034b2cf46837331fdc2c53ee76582581546ca1370451b96e157a4e898e2f6" ++
    "2ed012e471ffbf053f82e5621a59258304650d79c298d36f1a723c95a9678839"
  | true =>
    "8451a99fa03d2a4e3197cf952e8a4f7a7639c1cf9c4c0bb0ef20cf39ff1c29fb" ++
    "33c8e70fc009a7509e22c6a933d8c281203699722e785be239a60fd18fb4a0cd"

/-- The tags of the event. -/
def tags (stepUp : Bool) : List (List String) :=
  [["u", url], ["method", "POST"], ["payload", payload stepUp], ["challenge", challengeText],
    ["challenge_id", challengeId]]

/-- The event. -/
def event (stepUp : Bool) : Nip98Event where
  id := eventId stepUp
  pubkey := pubkey
  createdAt := JsonNumber.ofInt 1000
  kind := JsonNumber.ofInt 27235
  tags := tags stepUp
  content := ""
  sig := signature stepUp

/-- The event as a JSON value. -/
def eventJson (stepUp : Bool) : Json :=
  .obj [("kind", .num (JsonNumber.ofInt 27235)), ("created_at", .num (JsonNumber.ofInt 1000)),
    ("tags", .arr ((tags stepUp).map fun tag => .arr (tag.map .str))), ("content", .str ""),
    ("pubkey", .str pubkey), ("id", .str (eventId stepUp)), ("sig", .str (signature stepUp))]

/-- The event as a JSON text. -/
def eventText (stepUp : Bool) : String :=
  "\x7b\"kind\":27235,\"created_at\":1000,\"tags\":[" ++
  ("[\"u\",\"https://api.example.com/auth/complete\"],[\"method\",\"POST\"],[\"payload\",\"" ++
  (payload stepUp ++
  ("\"],[\"challenge\",\"AgICAgICAgICAgICAgICAgICAgICAgICAgICAgICAgI\"],[\"challenge_id\",\"AQEBAQEBAQEBAQEB\"]]," ++
  ("\"content\":\"\",\"pubkey\":\"f9308a019258c31049344f85f89d5229b531c845836f99b08601f113bce036f9\",\"id\":\"" ++
  (eventId stepUp ++ ("\",\"sig\":\"" ++ (signature stepUp ++ "\"\x7d")))))))

/-- The request body as a JSON value. -/
def bodyJson (stepUp : Bool) : Json :=
  .obj (("challenge_id", .str challengeId) :: if stepUp then [("step_up", .bool true)] else [])

/-- The request body as a JSON text. -/
def bodyText : Bool → String
  | false => "\x7b\"challenge_id\":\"AQEBAQEBAQEBAQEB\"\x7d"
  | true => "\x7b\"challenge_id\":\"AQEBAQEBAQEBAQEB\",\"step_up\":true\x7d"

/-- The request body. -/
def body (stepUp : Bool) : AuthCompleteRequest := ⟨challengeId, stepUp, none⟩

/-- `JSON.parse`, of the texts of these requests. -/
def jsonParse (text : String) : Option Json :=
  if text = eventText false then some (eventJson false)
  else if text = eventText true then some (eventJson true)
  else if text = bodyText false then some (bodyJson false)
  else if text = bodyText true then some (bodyJson true)
  else none

/-- The server's platform. -/
def platform : Platform where
  textDecode bytes := (String.fromUTF8? ⟨⟨bytes⟩⟩).getD ""
  jsonParse := jsonParse
  verifyEvent e := e = event false ∨ e = event true
  sha256 bytes :=
    if bytes = utf8Bytes (bodyText false) then
      [27, 185, 189, 125, 236, 220, 64, 101, 90, 228, 20, 124, 179, 166, 140, 207, 87, 64, 221, 5, 35, 146, 53, 110,
        117, 130, 43, 254, 14, 69, 4, 39]
    else if bytes = utf8Bytes (bodyText true) then
      [7, 11, 140, 45, 99, 244, 40, 235, 161, 188, 147, 21, 134, 237, 74, 219, 16, 73, 173, 46, 109, 10, 231, 236,
        44, 10, 212, 242, 191, 4, 0, 98]
    else []
  newUrl value := if value = url then some url else none
  toUpperCase value := value.map Char.toUpper
  nip19Decode value := if value = npub then some ("npub", some pubkey) else none

/-- The client. -/
def client : Client where
  stringifyBody body := bodyText body.stepUp
  stringifyEvent e := eventText (e.id = eventId true)
  signEvent template :=
    let stepUp : Bool := template.tags = tags true
    { template with id := eventId stepUp, pubkey, sig := signature stepUp }

/-- A text is decoded as it was encoded. -/
theorem textDecode_utf8Bytes (s : String) : platform.textDecode (utf8Bytes s) = s := by
  show (String.fromUTF8? s.toByteArray).getD "" = s
  rw [String.fromUTF8?, dif_pos s.isValidUTF8]
  rfl

/-- The method is in upper case. -/
theorem toUpperCase_post : platform.toUpperCase "POST" = "POST" := by
  show String.map Char.toUpper "POST" = "POST"
  rw [← String.toList_inj, String.toList_map]
  decide

/-- The hashes differ. -/
theorem payload_ne : payload true ≠ payload false := by simp [payload]

/-- So do the events, as texts. -/
theorem eventText_ne : eventText true ≠ eventText false := by
  unfold eventText
  rw [Ne, String.append_right_inj, String.append_right_inj]
  intro h
  have hrest := congrArg String.toList h
  rw [@String.toList_append (payload true), @String.toList_append (payload false)] at hrest
  have hlen : (payload true).toList.length = (payload false).toList.length := by
    simp [payload]
  exact payload_ne (String.toList_inj.mp (List.append_inj hrest hlen).1)

/-- The third character of a text is that of its first part. -/
theorem third_append {s : String} (s' : String) {c : Char} (hs : s.toList[2]? = some c) :
    (s ++ s').toList[2]? = some c := by
  rw [String.toList_append, List.getElem?_append_left (List.getElem?_eq_some_iff.mp hs).1, hs]

/-- The third character of an event. -/
theorem eventText_third (stepUp : Bool) : (eventText stepUp).toList[2]? = some 'k' :=
  third_append _ (by simp)

/-- It tells an event from a body. -/
theorem bodyText_ne_eventText (stepUp stepUp' : Bool) : bodyText stepUp ≠ eventText stepUp' := by
  have hbody : (bodyText stepUp).toList[2]? = some 'c' := by cases stepUp <;> simp [bodyText]
  intro h
  rw [h, eventText_third] at hbody
  exact absurd hbody (by decide)

/-- The bodies differ. -/
theorem bodyText_ne : bodyText true ≠ bodyText false := by simp [bodyText]

/-- The texts are parsed. -/
theorem jsonParse_eventText (stepUp : Bool) :
    jsonParse (eventText stepUp) = some (eventJson stepUp) := by
  unfold jsonParse
  cases stepUp with
  | false => rw [if_pos rfl]
  | true => rw [if_neg eventText_ne, if_pos rfl]

theorem jsonParse_bodyText (stepUp : Bool) :
    jsonParse (bodyText stepUp) = some (bodyJson stepUp) := by
  have hnot := bodyText_ne_eventText stepUp
  unfold jsonParse
  rw [if_neg (hnot false), if_neg (hnot true)]
  cases stepUp with
  | false => rw [if_pos rfl]
  | true => rw [if_neg bodyText_ne, if_pos rfl]

/-- The answer to the request for a challenge. -/
def initResponse : AuthInitResponse where
  challengeId := challengeId
  challenge := challengeText
  authUrl := url
  authMethod := "POST"
  issuedAt := 1000
  expiresAt := 1060
  supportedExtensions := none

/-- The request that the client builds. -/
def request (stepUp : Bool) : BuiltAuthCompleteRequest :=
  buildAuthCompleteRequest platform client initResponse (JsonNumber.ofInt 1000) stepUp none

/-- Its hash is that of its body. -/
theorem request_payloadHash (stepUp : Bool) : (request stepUp).payloadHash = payload stepUp := by
  cases stepUp <;> rfl

/-- Its event is the one that was signed. -/
theorem request_event (stepUp : Bool) : (request stepUp).event = event stepUp := by
  have htags : decide (tags stepUp = tags true) = stepUp := by
    cases stepUp <;> simp [tags, payload]
  have htemplate : (request stepUp).event = client.signEvent
      (completionTemplate initResponse (request stepUp).payloadHash (JsonNumber.ofInt 1000)) := rfl
  rw [htemplate, request_payloadHash]
  show (⟨eventId (decide (tags stepUp = tags true)), pubkey, _, _, tags stepUp, "",
    signature (decide (tags stepUp = tags true))⟩ : Nip98Event) = event stepUp
  rw [htags]
  rfl

/-- What the client has written of an event. -/
theorem stringify_request (stepUp : Bool) :
    client.stringifyEvent (request stepUp).event = eventText stepUp := by
  have hid : decide (eventId stepUp = eventId true) = stepUp := by
    cases stepUp <;> simp [eventId]
  rw [request_event]
  exact congrArg eventText hid

/-- The server's platform reads the request. -/
theorem reads_request (stepUp : Bool) : Reads platform client (request stepUp) where
  decode := textDecode_utf8Bytes
  body := by
    have hparse : platform.jsonParse (platform.textDecode (request stepUp).rawBody) =
        some (bodyJson stepUp) := by
      rw [← jsonParse_bodyText]
      exact congrArg jsonParse (textDecode_utf8Bytes _)
    rw [parseAuthCompleteRequest, hparse]
    cases stepUp <;> rfl
  nonempty := by
    intro h
    have hthird := eventText_third stepUp
    rw [← stringify_request, h] at hthird
    exact absurd hthird (by decide)
  event := by
    rw [stringify_request, request_event]
    show (jsonParse (eventText stepUp)).bind eventOfJson = _
    rw [jsonParse_eventText]
    cases stepUp <;> rfl
  signature := by
    rw [request_event]
    refine decide_eq_true ?_
    cases stepUp with
    | false => exact Or.inl rfl
    | true => exact Or.inr rfl

/-- The proof of the request. -/
def proof (stepUp : Bool) : VerifiedNip98Completion :=
  ⟨event stepUp, challengeText, challengeId, payload stepUp⟩

/-- The configuration without any options. -/
def options : NapServerOptions where
  challengeTtlSeconds := none
  sessionTtlSeconds := none
  resultCacheTtlSeconds := none
  maxClockSkewSeconds := none
  lowerBoundGraceSeconds := none
  upperBoundGraceSeconds := none
  stepUpTtlSeconds := none
  refreshTtlSeconds := none
  maxSessionLifetimeSeconds := none
  maxOutstandingChallengesPerNpub := none
  maxOutstandingChallengesPerIp := none
  maxFailuresPerChallenge := none
  supportedExtensions := []

/-- The proof is valid when the event is made. -/
theorem valid_request {O : NapServerOptions} (hskew : O.maxClockSkewSeconds = none) (stepUp : Bool)
    (clientIp : Option String) : Nip98Valid platform
      (proofInput O ((request stepUp).input clientIp) (body stepUp) 1000) (proof stepUp) := by
  have hproof : proof stepUp = (request stepUp).proof initResponse := by
    rw [BuiltAuthCompleteRequest.proof, request_event, request_payloadHash]
    rfl
  rw [hproof]
  refine built_valid rfl (fun template => ⟨rfl, rfl, rfl, rfl⟩) (reads_request stepUp) ?_ ?_ ?_ ?_
  · decide
  · decide
  · exact toUpperCase_post
  · rw [hskew]
    exact validateCreatedAtWindow_ofInt.mpr (by decide)

/-- The programs of calls whose completions are those of the client. -/
def program (O : NapServerOptions) : Call → Program Outcome
  | .verifyCompletion input =>
    let stepUp : Bool := input.rawBody = utf8Bytes (bodyText true)
    completeProven O input (body stepUp) (proof stepUp)
  | call => NapAuth.body platform O call

/-- The call that completes the login. -/
def complete (stepUp : Bool) (clientIp : Option String) : Call :=
  .verifyCompletion ((request stepUp).input clientIp)

/-- It runs the program of its call. -/
theorem program_complete {O : NapServerOptions} (hskew : O.maxClockSkewSeconds = none)
    (stepUp : Bool) (clientIp : Option String) :
    program O (complete stepUp clientIp) = NapAuth.body platform O (complete stepUp clientIp) := by
  have hbody : decide (utf8Bytes (bodyText stepUp) = utf8Bytes (bodyText true)) = stepUp := by
    cases stepUp with
    | false => exact decide_eq_false fun h => bodyText_ne (utf8Bytes_injective h).symm
    | true => exact decide_eq_true rfl
  have hraw : ((request stepUp).input clientIp).rawBody = utf8Bytes (bodyText stepUp) := rfl
  show completeProven O _ (body (decide (((request stepUp).input clientIp).rawBody = _)))
    (proof (decide (((request stepUp).input clientIp).rawBody = _))) = _
  rw [hraw, hbody]
  exact (verifyCompletion_proven (reads_request stepUp).body (valid_request hskew stepUp clientIp)).symm

/-- The call that issues the challenge. -/
def issue (clientIp : Option String) : Call := .issueChallenge ⟨npub, url, none, clientIp⟩

/-- A call whose program can be computed. -/
def Computed (O : NapServerOptions) (call : Call) : Prop :=
  program O call = NapAuth.body platform O call

theorem computed_complete {O : NapServerOptions} (hskew : O.maxClockSkewSeconds = none)
    (stepUp : Bool) (clientIp : Option String) : Computed O (complete stepUp clientIp) :=
  program_complete hskew stepUp clientIp

/-- The `n`-th random bytes. -/
def draws (n : ℕ) : Draws where
  id := List.replicate 12 (UInt8.ofNat (4 * n + 1))
  secret := List.replicate 32 (UInt8.ofNat (4 * n + 2))
  stepUp := List.replicate 32 (UInt8.ofNat (4 * n + 3))
  refresh := List.replicate 32 (UInt8.ofNat (4 * n + 4))

/-- The ACL lets the principal in. -/
def allowed : AclDecision := ⟨true, ["user"], ["read"], none, false, none⟩

/-- One clock, no rate limits, and the given random bytes. -/
def env (now : ℤ) (n : ℕ) : Env := ⟨now, now, ⟨true, none⟩, allowed, draws n⟩

variable {O : NapServerOptions} {cb sb : Backend}

/-- The moves of a call that starts and executes `n` operations. -/
def turn (call : Call) (tid n : ℕ) (e : Env) : List (server platform O cb sb).Label :=
  .start call :: List.replicate n (.run tid e)

/-- A login: the challenge is issued at one time, and the request is answered at another. -/
def login (issuedAt completedAt : ℤ) (stepUp : Bool) : List (server platform O cb sb).Label :=
  turn (issue none) 0 4 (env issuedAt 0) ++ turn (complete stepUp none) 1 8 (env completedAt 1)

/-- The session that a call has returned. -/
def session? (c : (server platform O cb sb).Config) (tid : ℕ) : Option SessionRecord :=
  match c.returned? tid with
  | some (.ok s) => some s
  | _ => none

/-- A run that has been computed, and the calls that it starts. -/
theorem exists_run (ls : List (server platform O cb sb).Label)
    (calls : List Call) (p : (server platform O cb sb).Config → Bool)
    (hstarts : System.starts ls = calls) (hcalls : ∀ call ∈ calls, Computed O call)
    (h : (System.replay (program O) (server platform O cb sb).initial ls).any p = true) :
    ∃ c, (server platform O cb sb).Reachable c ∧ c.calls = calls ∧ p c = true :=
  hstarts ▸ System.exists_replay (hstarts ▸ hcalls) h

/-- A run in two parts that has been computed, and the calls that each of them starts. -/
theorem exists_run_append (ls ls' : List (server platform O cb sb).Label) (calls calls' : List Call)
    (p : (server platform O cb sb).Config → (server platform O cb sb).Config → Bool)
    (hstarts : System.starts ls = calls) (hstarts' : System.starts ls' = calls')
    (hcalls : ∀ call ∈ calls ++ calls', Computed O call)
    (h : ((System.replay (program O) (server platform O cb sb).initial ls).any fun c =>
      (System.replay (program O) c ls').any (p c)) = true) :
    ∃ c c', (server platform O cb sb).Reachable c ∧ (server platform O cb sb).Reaches c c' ∧
      c.calls = calls ∧ c'.calls = calls ++ calls' ∧ p c c' = true := by
  subst hstarts hstarts'
  exact System.exists_replay_append ls ls' p hcalls h

/-- The programs of a login can be computed. -/
theorem computed_login (hskew : O.maxClockSkewSeconds = none) (stepUp : Bool) :
    ∀ call ∈ [issue none, complete stepUp none], Computed O call := by
  intro call hcall
  rcases List.mem_pair.mp hcall with rfl | rfl
  · rfl
  · exact computed_complete hskew stepUp none

/-- So they can with the request sent twice. -/
theorem computed_login_retry (hskew : O.maxClockSkewSeconds = none) (stepUp : Bool) :
    ∀ call ∈ [issue none, complete stepUp none, complete stepUp none], Computed O call := by
  intro call hcall
  refine computed_login hskew stepUp call ?_
  simpa using hcall

/-- A call that a run has started and that has returned. -/
theorem returned_of_run {c : (server platform O cb sb).Config} {calls : List Call}
    (hcalls : c.calls = calls) {tid : ℕ} {call : Call} {outcome : Outcome}
    (hcall : calls[tid]? = some call) (hout : c.returned? tid = some outcome) :
    Returned c tid call outcome :=
  System.thread_of_returned (hcalls ▸ hcall) hout

/-- A call that has returned a session. -/
theorem returned_of_session {c : (server platform O cb sb).Config} {calls : List Call}
    (hcalls : c.calls = calls) {tid : ℕ} {call : Call} (hcall : calls[tid]? = some call)
    {s : SessionRecord} (hs : session? c tid = some s) : Returned c tid call (.ok s) := by
  unfold session? at hs
  split at hs
  · rename_i s' hout
    exact returned_of_run hcalls hcall (hout.trans (congrArg _ (congrArg _ (Option.some.inj hs))))
  · cases hs

end Sample

end NapAuth

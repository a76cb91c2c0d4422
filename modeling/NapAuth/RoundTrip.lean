import NapAuth.Client

/-!
# From the client's request to the server

`buildAuthCompleteRequest` writes a body as JSON and an event as base64 of JSON. The server reads both
with parsers of its own, which check every shape again. `client_request_read` says that the two ends
agree: the body and the event are read as they were built, and the proof is accepted at every time
within the clock skew. Each object that is written has a function to `Json` here, and a lemma that the
server's parser is its inverse.

JSON texts, the text decoder, the URL parser and the signature check are the platforms'.
-/

namespace NapAuth

/-! ## What is written -/

/-- A property that is there if it has a value. -/
def optionalField (key : String) (value : Option Json) : List (String × Json) :=
  (value.map fun v => (key, v)).toList

/-- The object of a voucher credential. -/
def VoucherCredential.toJson (v : VoucherCredential) : Json :=
  .obj ([("mint_url", .str v.mintUrl), ("keyset_id", .str v.keysetId), ("secret", .str v.secret),
    ("signature", .str v.signature), ("amount", .num (JsonNumber.ofInt v.amount)),
    ("dleq", .obj [("e", .str v.dleq.e), ("s", .str v.dleq.s), ("r", .str v.dleq.r)])] ++
    optionalField "witness" (v.witness.map .str))

/-- The object of a request body. -/
def AuthCompleteRequest.toJson (body : AuthCompleteRequest) : Json :=
  .obj (("challenge_id", .str body.challengeId) ::
    (optionalField "step_up" (if body.stepUp then some (.bool true) else none) ++
      optionalField "voucher" (body.voucher.map VoucherCredential.toJson)))

/-- The object of a signed event. -/
def Nip98Event.toJson (event : Nip98Event) : Json :=
  .obj [("kind", .num event.kind), ("created_at", .num event.createdAt),
    ("tags", .arr (event.tags.map fun tag => .arr (tag.map .str))), ("content", .str event.content),
    ("pubkey", .str event.pubkey), ("id", .str event.id), ("sig", .str event.sig)]

/-- A credential that has the shape of the type: its texts are there, and its amount is positive. -/
structure VoucherCredential.WellFormed (v : VoucherCredential) : Prop where
  mintUrl : v.mintUrl ≠ ""
  keysetId : v.keysetId ≠ ""
  secret : v.secret ≠ ""
  signature : v.signature ≠ ""
  amount : 0 < v.amount
  e : v.dleq.e ≠ ""
  s : v.dleq.s ≠ ""
  r : v.dleq.r ≠ ""

/-! ## What is read -/

/-- A text that is there and is not empty. -/
theorem nonEmptyString_eq {candidate : Json} {key s : String}
    (hget : candidate.get? key = some (.str s)) (hne : s ≠ "") :
    nonEmptyString candidate key = some s := by
  unfold nonEmptyString
  rw [hget]
  show (if s = "" then none else some s) = some s
  rw [if_neg hne]

/-- A voucher is read as it was written. -/
theorem parseVoucherCredential_toJson {v : VoucherCredential} (hv : v.WellFormed) :
    parseVoucherCredential v.toJson = some v := by
  have hmint : nonEmptyString v.toJson "mint_url" = some v.mintUrl := nonEmptyString_eq rfl hv.mintUrl
  have hkeyset : nonEmptyString v.toJson "keyset_id" = some v.keysetId :=
    nonEmptyString_eq rfl hv.keysetId
  have hsecret : nonEmptyString v.toJson "secret" = some v.secret := nonEmptyString_eq rfl hv.secret
  have hsignature : nonEmptyString v.toJson "signature" = some v.signature :=
    nonEmptyString_eq rfl hv.signature
  have hamount : (JsonNumber.ofInt v.amount).val.integer? = some v.amount := by
    show (if ((v.amount : ℚ)).den = 1 then some ((v.amount : ℚ)).num else none) = some v.amount
    rw [if_pos (Rat.den_intCast _), Rat.num_intCast]
  have hpositive : ¬ v.amount ≤ 0 := Int.not_le.mpr hv.amount
  have he : nonEmptyString (.obj [("e", .str v.dleq.e), ("s", .str v.dleq.s), ("r", .str v.dleq.r)]) "e" =
      some v.dleq.e := nonEmptyString_eq rfl hv.e
  have hs : nonEmptyString (.obj [("e", .str v.dleq.e), ("s", .str v.dleq.s), ("r", .str v.dleq.r)]) "s" =
      some v.dleq.s := nonEmptyString_eq rfl hv.s
  have hr : nonEmptyString (.obj [("e", .str v.dleq.e), ("s", .str v.dleq.s), ("r", .str v.dleq.r)]) "r" =
      some v.dleq.r := nonEmptyString_eq rfl hv.r
  have hgetAmount : v.toJson.get? "amount" = some (.num (JsonNumber.ofInt v.amount)) := rfl
  have hgetDleq : v.toJson.get? "dleq" =
      some (.obj [("e", .str v.dleq.e), ("s", .str v.dleq.s), ("r", .str v.dleq.r)]) := rfl
  have hwitness : v.toJson.get? "witness" = v.witness.map .str := by
    cases hcase : v.witness <;> simp [VoucherCredential.toJson, optionalField, Json.get?, hcase]
  unfold parseVoucherCredential
  simp only [hmint, hkeyset, hsecret, hsignature, hgetAmount, hgetDleq, hwitness,
    Json.num?, hamount, hpositive, Json.isObject, he, hs, hr, Option.bind_eq_bind, Option.bind_some,
    Bool.false_eq_true, Bool.not_true, if_false]
  cases hcase : v.witness with
  | none =>
    obtain ⟨_, _, _, _, _, _, witness⟩ := v
    obtain rfl : witness = none := hcase
    rfl
  | some w =>
    obtain ⟨_, _, _, _, _, _, witness⟩ := v
    obtain rfl : witness = some w := hcase
    rfl

/-- What is written entry by entry is read entry by entry. -/
theorem mapM_map {α β : Type} (write : α → β) (read : β → Option α)
    (h : ∀ a, read (write a) = some a) (l : List α) : (l.map write).mapM read = some l := by
  induction l with
  | nil => rfl
  | cons a l ih =>
    rw [List.map_cons, List.mapM_cons, h, ih]
    rfl

/-- The tags of an event are read as they were written. -/
theorem stringArrayArray_map (tags : List (List String)) :
    stringArrayArray (.arr (tags.map fun tag => .arr (tag.map .str))) = some tags := by
  have htag : ∀ tag : List String, (tag.map Json.str).mapM Json.str? = some tag := by
    intro tag
    exact mapM_map Json.str Json.str? (fun _ => rfl) tag
  exact mapM_map (fun tag : List String => Json.arr (tag.map .str))
    (fun entry : Json => entry.arr?.bind fun l => l.mapM Json.str?) htag tags

/-- An event is read as it was written. -/
theorem eventOfJson_toJson (event : Nip98Event) : eventOfJson event.toJson = some event := by
  have htags : stringArrayArray (.arr (event.tags.map fun tag => .arr (tag.map .str))) =
      some event.tags := stringArrayArray_map event.tags
  show (stringArrayArray (.arr (event.tags.map fun tag => .arr (tag.map .str)))).bind _ = some event
  rw [htags]
  rfl

/-- What is needed of a value's text: the parser of texts returns the value, and the text is decoded
as it was encoded. No value has the empty text. -/
structure ReadsBack (P : Platform) (stringify : Json → String) (value : Json) : Prop where
  parse : P.jsonParse (stringify value) = some value
  decode : P.textDecode (utf8Bytes (stringify value)) = stringify value
  nonempty : stringify value ≠ ""

variable {P : Platform} {stringify : Json → String}

/-- A body is read as it was written. -/
theorem parseAuthCompleteRequest_toJson {body : AuthCompleteRequest}
    (hreads : ReadsBack P stringify body.toJson) (hid : body.challengeId ≠ "")
    (hvoucher : ∀ v, body.voucher = some v → v.WellFormed) :
    parseAuthCompleteRequest P (utf8Bytes (stringify body.toJson)) = some body := by
  obtain ⟨challengeId, stepUp, voucher⟩ := body
  have hchallenge : nonEmptyString (AuthCompleteRequest.mk challengeId stepUp voucher).toJson
      "challenge_id" = some challengeId := nonEmptyString_eq rfl hid
  have hstepUp : (AuthCompleteRequest.mk challengeId stepUp voucher).toJson.get? "step_up" =
      if stepUp then some (.bool true) else none := by
    cases stepUp <;> cases voucher <;> rfl
  have hgetVoucher : (AuthCompleteRequest.mk challengeId stepUp voucher).toJson.get? "voucher" =
      voucher.map VoucherCredential.toJson := by
    cases stepUp <;> cases voucher <;> rfl
  unfold parseAuthCompleteRequest
  rw [hreads.decode, hreads.parse]
  simp only [Option.bind_eq_bind, Option.bind_some, hchallenge, hstepUp, hgetVoucher]
  cases voucher with
  | none => cases stepUp <;> rfl
  | some v =>
    simp only [Option.map_some, parseVoucherCredential_toJson (hvoucher v rfl)]
    cases stepUp <;> rfl

/-! ## The two ends -/

/-- A client that writes bodies and events as JSON. -/
def jsonClient (stringify : Json → String) (signEvent : EventTemplate → Nip98Event) : Client where
  stringifyBody body := stringify body.toJson
  stringifyEvent event := stringify event.toJson
  signEvent := signEvent

/-- A request that is built for a challenge with a URL that parses, by a signer that signs what it is
given, is read as it was built, and its proof is accepted at every time within the clock skew. -/
theorem client_request_read {signEvent : EventTemplate → Nip98Event} {challenge : AuthInitResponse}
    {createdAt : JsonNumber} {stepUp : Bool} {voucher : Option VoucherCredential}
    {request : BuiltAuthCompleteRequest}
    (hrequest : buildAuthCompleteRequest P (jsonClient stringify signEvent) challenge createdAt stepUp
      voucher = request)
    (hid : challenge.challengeId ≠ "") (hurl : (P.newUrl challenge.authUrl).isSome = true)
    (hmethod : challenge.authMethod = "POST") (hupper : P.toUpperCase "POST" = "POST")
    (hvoucher : ∀ v, voucher = some v → v.WellFormed)
    (hsigns : (jsonClient stringify signEvent).SignsAsGiven)
    (hsignature : P.verifyEvent request.event = true)
    (hbody : ReadsBack P stringify request.body.toJson)
    (hevent : ReadsBack P stringify request.event.toJson) :
    parseAuthCompleteRequest P request.rawBody = some request.body ∧
      parseNostrAuthorizationHeader P request.authorization = some request.event ∧
      ∀ now skew, validateCreatedAtWindow createdAt now skew = true →
        ∃ value, verifyNip98Completion P ⟨some request.authorization, request.method, request.url,
            request.body, request.rawBody, now, skew⟩ = .ok value ∧
          value.challengeId = challenge.challengeId ∧ value.challenge = challenge.challenge := by
  have hdecoded : parseNostrAuthorizationHeader P request.authorization = some request.event := by
    subst hrequest
    refine parseNostrAuthorizationHeader_encode hevent.decode ?_ hevent.nonempty
    exact (congrArg (Option.bind · eventOfJson) hevent.parse).trans (eventOfJson_toJson _)
  refine ⟨?_, hdecoded, fun now skew hwindow => ?_⟩
  · subst hrequest
    exact parseAuthCompleteRequest_toJson hbody hid hvoucher
  · have hvalid := built_valid_at hrequest hsigns hdecoded hsignature hid hurl
      (hmethod ▸ hupper) hwindow
    exact ⟨_, verifyNip98Completion_ok.mpr hvalid, rfl, rfl⟩

namespace Sample

/-- `JSON.stringify`, of the bodies and the events of the client. -/
def stringifyJson (value : Json) : String :=
  match (value.get? "id").bind Json.str? with
  | some id => eventText (id = eventId true)
  | none => bodyText (value.get? "step_up").isSome

/-- They are read back. -/
theorem readsBack_body (stepUp : Bool) : ReadsBack platform stringifyJson (body stepUp).toJson := by
  have htext : stringifyJson (body stepUp).toJson = bodyText stepUp := by cases stepUp <;> rfl
  refine ⟨?_, textDecode_utf8Bytes _, ?_⟩
  · rw [htext]
    show jsonParse (bodyText stepUp) = _
    rw [jsonParse_bodyText]
    cases stepUp <;> rfl
  · rw [htext]
    cases stepUp <;> simp [bodyText]

theorem readsBack_event (stepUp : Bool) :
    ReadsBack platform stringifyJson (event stepUp).toJson := by
  have htext : stringifyJson (event stepUp).toJson = eventText stepUp := by
    show eventText (decide (eventId stepUp = eventId true)) = eventText stepUp
    cases stepUp <;> simp [eventId]
  refine ⟨?_, textDecode_utf8Bytes _, fun hempty => ?_⟩
  · rw [htext]
    show jsonParse (eventText stepUp) = _
    rw [jsonParse_eventText]
    rfl
  · have hthird := eventText_third stepUp
    rw [← htext, hempty] at hthird
    exact absurd hthird (by decide)

/-- The request that is built with this JSON. -/
def jsonRequest (stepUp : Bool) : BuiltAuthCompleteRequest :=
  buildAuthCompleteRequest platform (jsonClient stringifyJson client.signEvent) initResponse
    (JsonNumber.ofInt 1000) stepUp none

/-- Its event is the one that was signed. -/
theorem jsonRequest_event (stepUp : Bool) : (jsonRequest stepUp).event = event stepUp := by
  have hpayload : (jsonRequest stepUp).payloadHash = (request stepUp).payloadHash := by
    have htext : stringifyJson (body stepUp).toJson = bodyText stepUp := by cases stepUp <;> rfl
    exact congrArg (fun text => sha256Hex platform (utf8Bytes text)) htext
  have hevent : (jsonRequest stepUp).event = client.signEvent (completionTemplate initResponse
      (jsonRequest stepUp).payloadHash (JsonNumber.ofInt 1000)) := rfl
  rw [hevent, hpayload]
  exact request_event stepUp

end Sample

open Sample in
/-- The request of the client that asks for a step-up token is read, and its proof is accepted a
minute after it was made. -/
theorem client_request_read_here :
    parseAuthCompleteRequest platform (jsonRequest true).rawBody = some (Sample.body true) ∧
      parseNostrAuthorizationHeader platform (jsonRequest true).authorization =
        some (Sample.event true) ∧
      ∃ value, verifyNip98Completion platform ⟨some (jsonRequest true).authorization,
          (jsonRequest true).method, (jsonRequest true).url, (jsonRequest true).body,
          (jsonRequest true).rawBody, 1060, 60⟩ = .ok value ∧
        value.challengeId = challengeId ∧ value.challenge = challengeText := by
  have hrequest : buildAuthCompleteRequest platform (jsonClient stringifyJson client.signEvent)
      initResponse (JsonNumber.ofInt 1000) true none = jsonRequest true := rfl
  have hsignature : platform.verifyEvent (jsonRequest true).event = true := by
    rw [jsonRequest_event]
    show decide (Sample.event true = Sample.event false ∨ Sample.event true = Sample.event true) = true
    exact decide_eq_true (Or.inr rfl)
  have hreadsEvent := readsBack_event true
  rw [← jsonRequest_event] at hreadsEvent
  obtain ⟨hbody, hevent, hvalid⟩ := client_request_read hrequest (by decide) (by decide) rfl
    toUpperCase_post (fun v hv => by cases hv) (fun template => ⟨rfl, rfl, rfl, rfl⟩) hsignature
    (readsBack_body true) hreadsEvent
  rw [jsonRequest_event] at hevent
  exact ⟨hbody, hevent, hvalid 1060 60 (validateCreatedAtWindow_ofInt.mpr (by decide))⟩

end NapAuth

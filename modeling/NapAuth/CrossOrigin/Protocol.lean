import NapAuth.Client

/-!
# The messages between a relying page and a signer page

`packages/nap-client-web/src/crossOriginProtocol.ts`: what the two windows post to each other, how a
page parses what arrives, and the origins that both ends compare. The sender's origin is in no
message: the browser reports it with the message (`MessageEvent`).

Data that arrives is a `Json`. What structured clone can carry besides is refused by the same checks
as a value of another wrong type. The URL parser is a parameter.
-/

namespace NapAuth.CrossOrigin

/-- `URL`: the parts of a parsed URL that the code reads. -/
structure Url where
  href : String
  protocol : String
  username : String
  password : String
  pathname : String
  search : String
  hash : String
  origin : String
  deriving DecidableEq

/-- `CROSS_ORIGIN_PROTOCOL`. -/
def crossOriginProtocol : String := "nap-cross-origin-signer/1"

/-- `MAX_GRANT_TTL_SECONDS`. -/
def maxGrantTtlSeconds : ℤ := 900

/-- `DEFAULT_CREATED_AT_SKEW_SECONDS`. -/
def defaultCreatedAtSkewSeconds : ℚ := 300

/-- `CrossOriginErrorCode`. -/
inductive CrossOriginErrorCode where
  | notAvailable
  | popupBlocked
  | declined
  | refused
  | grantExpired
  | revoked
  | channelClosed
  | timeout
  | signerError
  deriving DecidableEq

/-- The text of a code. -/
def CrossOriginErrorCode.text : CrossOriginErrorCode → String
  | notAvailable => "NOT_AVAILABLE"
  | popupBlocked => "POPUP_BLOCKED"
  | declined => "DECLINED"
  | refused => "REFUSED"
  | grantExpired => "GRANT_EXPIRED"
  | revoked => "REVOKED"
  | channelClosed => "CHANNEL_CLOSED"
  | timeout => "TIMEOUT"
  | signerError => "SIGNER_ERROR"

/-- `ERROR_CODES`. -/
def errorCodes : List CrossOriginErrorCode :=
  [.notAvailable, .popupBlocked, .declined, .refused, .grantExpired, .revoked, .channelClosed,
    .timeout, .signerError]

/-- `GrantInfo`. -/
structure GrantInfo where
  grantId : String
  pubkey : String
  kinds : List ℤ
  audiences : List String
  /-- Unix seconds. -/
  expiresAt : ℚ
  deriving DecidableEq

/-- `CrossOriginMessage`. -/
inductive CrossOriginMessage where
  | ready
  | connect (id : String) (kinds : List ℤ) (audiences : List String) (expectedPubkey : Option String)
  | connected (id : String) (grant : GrantInfo)
  | sign (id grantId : String) (template : EventTemplate)
  | signed (id : String) (event : Nip98Event)
  | error (id : Option String) (code : CrossOriginErrorCode)
  | revoked (grantId : String)
  | disconnect (grantId : String)
  deriving DecidableEq

/-- `MessageEventLike`. The browser sets the origin and the source, and windows have numbers. -/
structure MessageEvent where
  data : Json
  origin : String
  /-- The window that has posted the message, if it is known. -/
  source : Option ℕ

/-! ## Parsing what arrives -/

/-- `HEX64.test(s)`. -/
def isHex64 (s : String) : Bool :=
  s.toList.length = 64 && s.toList.all fun c => c.isDigit || ('a' ≤ c && c ≤ 'f')

/-- `isId`, as the id. -/
def idOf (value : Json) : Option String := do
  let s ← value.str?
  if s ≠ "" ∧ JsString.length s ≤ 128 then some s else none

/-- A number that is an integer. -/
def integerOf (value : Json) : Option ℤ := do (← value.num?).val.integer?

/-- `isKindList`, as the kinds. -/
def kindListOf (value : Json) : Option (List ℤ) := do
  let l ← value.arr?
  if l = [] ∨ 32 < l.length then none
  else l.mapM fun v => do
    let kind ← integerOf v
    if 0 ≤ kind ∧ kind ≤ 65535 then some kind else none

/-- `isStringList`, as the strings. -/
def stringListOf (value : Json) : Option (List String) := do
  let l ← value.arr?
  if l = [] ∨ 32 < l.length then none
  else l.mapM fun v => do
    let s ← v.str?
    if JsString.length s ≤ 512 then some s else none

/-- The tags of an event template: at most 64, of 1 to 16 parts. -/
def tagsOf (value : Json) : Option (List (List String)) := do
  let tags ← value.arr?
  if 64 < tags.length then none
  else tags.mapM fun tag => do
    let parts ← tag.arr?
    if parts = [] ∨ 16 < parts.length then none
    else parts.mapM fun part => do
      let s ← part.str?
      if JsString.length s ≤ 4096 then some s else none

/-- `isEventTemplate`, as the template. -/
def eventTemplateOf (value : Json) : Option EventTemplate := do
  if !value.isObject then none
  let kind ← integerOf (← value.get? "kind")
  let createdAt ← integerOf (← value.get? "created_at")
  let content ← (← value.get? "content").str?
  if 65536 < JsString.length content then none
  let tags ← tagsOf (← value.get? "tags")
  return { createdAt := JsonNumber.ofInt createdAt, kind := JsonNumber.ofInt kind, tags, content }

/-- `isGrantInfo`, as the grant. -/
def grantInfoOf (value : Json) : Option GrantInfo := do
  if !value.isObject then none
  let grantId ← idOf (← value.get? "grantId")
  let pubkey ← (← value.get? "pubkey").str?
  if !isHex64 pubkey then none
  let kinds ← kindListOf (← value.get? "kinds")
  let audiences ← stringListOf (← value.get? "audiences")
  let expiresAt ← integerOf (← value.get? "expiresAt")
  return { grantId, pubkey, kinds, audiences, expiresAt }

/-- A property that may be absent, and is checked when it is there. -/
def optionalOf {α : Type} (value : Option Json) (check : Json → Option α) : Option (Option α) :=
  match value with
  | none => some none
  | some v => (check v).map some

/-- The event of a `signed` message. -/
def signedEventOf (raw : Json) : Option Nip98Event := do
  let template ← eventTemplateOf raw
  let id ← (← raw.get? "id").str?
  let pubkey ← (← raw.get? "pubkey").str?
  let sig ← (← raw.get? "sig").str?
  return {
    id
    pubkey
    createdAt := template.createdAt
    kind := template.kind
    tags := template.tags
    content := template.content
    sig }

/-- `parseMessage`. -/
def parseMessage (data : Json) : Option CrossOriginMessage := do
  let nap ← (← data.get? "nap").str?
  if nap ≠ crossOriginProtocol then none
  let type ← (← data.get? "type").str?
  if type = "ready" then return .ready
  else if type = "connect" then
    let id ← idOf (← data.get? "id")
    let kinds ← kindListOf (← data.get? "kinds")
    let audiences ← stringListOf (← data.get? "audiences")
    let expectedPubkey ← optionalOf (data.get? "expectedPubkey") fun v => do
      let s ← v.str?
      if isHex64 s then some s else none
    return .connect id kinds audiences expectedPubkey
  else if type = "connected" then
    return .connected (← idOf (← data.get? "id")) (← grantInfoOf (← data.get? "grant"))
  else if type = "sign" then
    return .sign (← idOf (← data.get? "id")) (← idOf (← data.get? "grantId"))
      (← eventTemplateOf (← data.get? "template"))
  else if type = "signed" then
    return .signed (← idOf (← data.get? "id")) (← signedEventOf (← data.get? "event"))
  else if type = "error" then
    let text ← (← data.get? "code").str?
    let code ← errorCodes.find? fun code => code.text == text
    let id ← optionalOf (data.get? "id") idOf
    return .error id code
  else if type = "revoked" then return .revoked (← idOf (← data.get? "grantId"))
  else if type = "disconnect" then return .disconnect (← idOf (← data.get? "grantId"))
  else none

/-! ## Origins -/

variable (newURL : String → Option Url)

/-- `value.trim().replace(/\/$/, '')`. -/
def trimSlash (value : String) : String :=
  let trimmed := JsString.trim value
  if JsString.endsWith trimmed "/" then String.ofList trimmed.toList.dropLast else trimmed

/-- `normalizeOrigin`. -/
def normalizeOrigin (value : String) : Except String String :=
  match newURL value with
  | none => .error ("'" ++ value ++ "' is not an origin")
  | some url =>
    if url.protocol ≠ "https:" ∧ url.protocol ≠ "http:" then
      .error ("'" ++ value ++ "' must use http or https")
    else if url.username ≠ "" ∨ url.password ≠ "" ∨ (url.pathname ≠ "/" ∧ url.pathname ≠ "") ∨
        url.search ≠ "" ∨ url.hash ≠ "" then
      .error ("'" ++ value ++
        "' must be an origin (scheme://host[:port]) with no path, query, userinfo or fragment")
    else if trimSlash value ≠ url.origin then
      .error ("'" ++ value ++ "' is not in canonical form; use '" ++ url.origin ++ "'")
    else .ok url.origin

/-- The only tag with a name. -/
def singleTag (tags : List (List String)) (name : String) : Option (List String) :=
  match tags.filter fun tag => tag[0]? == some name with
  | [tag] => some tag
  | _ => none

/-- `audienceOf`: the origin of an event's single `u` tag. -/
def audienceOf (template : EventTemplate) : Option String := do
  let tag ← singleTag template.tags "u"
  let url ← newURL (← tag[1]?)
  if url.protocol ≠ "https:" ∧ url.protocol ≠ "http:" then none
  else if url.username ≠ "" ∨ url.password ≠ "" then none
  else some url.origin

/-- Whether a template is a NAP completion proof: it carries a `challenge` tag. -/
def isCompletion (template : EventTemplate) : Bool :=
  template.tags.any fun tag => tag[0]? == some "challenge"

/-- `sameEvent` of the signer page, and `sameTemplate` of the relying page. -/
def sameEvent (template : EventTemplate) (event : Nip98Event) : Bool :=
  event.kind = template.kind && event.createdAt = template.createdAt &&
    event.content = template.content && event.tags = template.tags

variable {newURL}

/-- An event that is the same as its template. -/
theorem sameEvent_iff {template : EventTemplate} {event : Nip98Event} :
    sameEvent template event = true ↔ event.kind = template.kind ∧
      event.createdAt = template.createdAt ∧ event.content = template.content ∧
      event.tags = template.tags := by
  simp only [sameEvent, Bool.and_eq_true, decide_eq_true_eq, and_assoc]

/-- An audience is the origin of the URL of a tag, which is the only one with its name. -/
theorem exists_tag_of_audience {template : EventTemplate} {audience : String}
    (h : audienceOf newURL template = some audience) :
    ∃ tag value url, template.tags.filter (fun tag => tag[0]? == some "u") = [tag] ∧
      tag[1]? = some value ∧ newURL value = some url ∧ url.origin = audience := by
  unfold audienceOf singleTag at h
  obtain ⟨tag, htag, h⟩ := Option.bind_eq_some_iff.mp h
  obtain ⟨value, hvalue, h⟩ := Option.bind_eq_some_iff.mp h
  obtain ⟨url, hurl, h⟩ := Option.bind_eq_some_iff.mp h
  have hfilter : template.tags.filter (fun tag => tag[0]? == some "u") = [tag] := by
    split at htag
    · rename_i tag' htags
      obtain rfl := Option.some.inj htag
      exact htags
    · cases htag
  refine ⟨tag, value, url, hfilter, hvalue, hurl, ?_⟩
  split_ifs at h
  exact Option.some.inj h

end NapAuth.CrossOrigin

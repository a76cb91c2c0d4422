import NapAuth.Voucher.Dleq

/-!
# Voucher secrets

`packages/nap-voucher/src/secret.ts`: what a NUT-10 secret says (`parseVoucherSecret`), and the bytes
that its issuer has signed (`voucherCanonicalBytes`). A repeated tag makes a secret malformed, so a
parsed secret has no two tags with one key, and it carries the proof of that.
-/

namespace NapAuth.Voucher

/-- `VoucherKind`. -/
inductive VoucherKind where
  | voucher
  | p2pkVoucher
  deriving DecidableEq

/-- The text of a kind. -/
def VoucherKind.text : VoucherKind → String
  | voucher => "VOUCHER"
  | p2pkVoucher => "P2PK_VOUCHER"

/-- A tag: its key, which comes first, and the values after it. -/
structure Tag where
  key : String
  values : List String
  deriving DecidableEq

/-- The first value of the first tag with the given key and any value: `tagValue`. -/
def tagValue (tags : List Tag) (key : String) : Option String :=
  (tags.find? fun tag => tag.key == key && !tag.values.isEmpty).bind (·.values.head?)

/-- `ParsedVoucherSecret`. The other properties of the source's record are functions of these. -/
structure ParsedVoucherSecret where
  kind : VoucherKind
  nonce : Option String
  data : String
  /-- The tags in wire order. -/
  tags : List Tag
  /-- No two tags have the same key. -/
  nodup : (tags.map Tag.key).Nodup
  deriving DecidableEq

variable (P : VoucherPlatform)

/-- `numericTagValue`. -/
def numericTagValue (tags : List Tag) (key : String) : Option ℚ :=
  (tagValue tags key).bind fun raw => (P.toNumber raw).finite?

namespace ParsedVoucherSecret

variable (s : ParsedVoucherSecret)

/-- The key that a voucher is locked to, if it is of the kind that has one. -/
def lockKey : Option String :=
  match s.kind with
  | .p2pkVoucher => some s.data
  | .voucher => none

/-- The id of a voucher, which is the `data` of one that is not locked. -/
def voucherId : Option String :=
  match s.kind with
  | .p2pkVoucher => tagValue s.tags "voucher_id"
  | .voucher => some s.data

/-- The name of the issuer. -/
def issuer : Option String := tagValue s.tags "issuer"

/-- The key of the issuer. -/
def issuerPubkey : Option String := tagValue s.tags "issuer_pubkey"

/-- The signature of the issuer. -/
def issuerSig : Option String := tagValue s.tags "issuer_sig"

/-- When the voucher expires. -/
def expiresAt : Option ℚ := numericTagValue P s.tags "expires_at"

/-- What the voucher is counted in. -/
def unit : Option String := tagValue s.tags "unit"

/-- What it is worth. -/
def faceValue : Option ℚ := numericTagValue P s.tags "face_value"

end ParsedVoucherSecret

/-! ## Parsing -/

/-- A value of a tag: a string, or a finite number, which becomes a string. -/
def tagText : Json → Option String
  | .str s => some s
  | .num n =>
    match n.val with
    | .fin q => some (P.numberToString (.fin q))
    | _ => none
  | _ => none

/-- One tag. -/
def parseTag (tag : Json) : Option Tag := do
  match ← (← tag.arr?).mapM (tagText P) with
  | [] => none
  | key :: values => return ⟨key, values⟩

/-- The tags, of which none may have a key that was seen before. -/
def parseTags : List Json → List String → Option (List Tag)
  | [], _ => some []
  | tag :: rest, seenKeys => do
    let parsed ← parseTag P tag
    if parsed.key ∈ seenKeys then none
    else return parsed :: (← parseTags rest (parsed.key :: seenKeys))

/-- The keys of parsed tags are new and differ. -/
theorem parseTags_keys {rest : List Json} {seenKeys : List String} {tags : List Tag}
    (h : parseTags P rest seenKeys = some tags) :
    (tags.map Tag.key).Nodup ∧ ∀ tag ∈ tags, tag.key ∉ seenKeys := by
  induction rest generalizing seenKeys tags with
  | nil =>
    obtain rfl := Option.some.inj h
    simp
  | cons tag rest ih =>
    simp only [parseTags, Option.bind_eq_bind, Option.bind_eq_some_iff] at h
    obtain ⟨parsed, -, h⟩ := h
    split at h
    · cases h
    · rename_i hnew
      obtain ⟨more, hmore, heq⟩ := Option.bind_eq_some_iff.mp h
      obtain rfl := Option.some.inj heq
      obtain ⟨hnodup, hseen⟩ := ih hmore
      have hhead : parsed.key ∉ more.map Tag.key := by
        intro hmem
        obtain ⟨tag', htag', hkey⟩ := List.mem_map.mp hmem
        exact hseen tag' htag' (hkey ▸ List.mem_cons_self)
      refine ⟨List.nodup_cons.mpr ⟨hhead, hnodup⟩, ?_⟩
      intro tag' htag'
      rcases List.mem_cons.mp htag' with rfl | htag'
      · exact hnew
      · exact fun hmem => hseen tag' htag' (List.mem_cons_of_mem _ hmem)

/-- The tags of a body: they may be absent or `null`. -/
def bodyTags (body : Json) : Option (List Json) :=
  match body.get? "tags" with
  | none | some .null => some []
  | some tags => tags.arr?

/-- The nonce of a body: a string, or absent or `null`. -/
def bodyNonce (body : Json) : Option (Option String) :=
  match body.get? "nonce" with
  | none | some .null => some none
  | some nonce => nonce.str?.map some

/-- The kind that a value names. -/
def parseKind (kind : Json) : Option VoucherKind :=
  if kind.str? = some "VOUCHER" then some .voucher
  else if kind.str? = some "P2PK_VOUCHER" then some .p2pkVoucher
  else none

/-- `parseVoucherSecret`. -/
def parseVoucherSecret (secret : String) : Option ParsedVoucherSecret :=
  if secret = "" then none
  else
    match P.jsonParse secret with
    | some (.arr [kind, body]) => do
      let kind ← parseKind kind
      if !body.isObject then none
      let nonce ← bodyNonce body
      let data ← (← body.get? "data").str?
      match h : (bodyTags body).bind fun tags => parseTags P tags [] with
      | none => none
      | some tags =>
        return { kind, nonce, data, tags, nodup := by
                  obtain ⟨rest, -, hrest⟩ := Option.bind_eq_some_iff.mp h
                  exact (parseTags_keys P hrest).1 }
    | _ => none

/-! ## What the issuer signs -/

/-- The tags that are written as bare numbers: `NUMERIC_TAGS`. -/
def isNumericTag (key : String) : Bool :=
  key ∈ ["face_value", "expires_at", "face_decimals", "issuance_ratio"]

/-- The tags that carry the signature: `ADDED_AFTER_SIGNING`. -/
def addedAfterSigning (key : String) : Bool := key ∈ ["issuer_sig", "issuer_pubkey"]

/-- One character of `escapeJson`. -/
def escapeChar (c : Char) : List Char :=
  match c with
  | '"' => ['\\', '"']
  | '\\' => ['\\', '\\']
  | '\n' => ['\\', 'n']
  | '\r' => ['\\', 'r']
  | '\t' => ['\\', 't']
  | c =>
    if c.toNat = 8 then ['\\', 'b']
    else if c.toNat = 12 then ['\\', 'f']
    else if c.toNat < 32 then
      ['\\', 'u', '0', '0', Codec.hexDigit (c.toNat / 16), Codec.hexDigit (c.toNat % 16)]
    else [c]

/-- `escapeJson`. -/
def escapeJson (input : String) : String := String.ofList (input.toList.flatMap escapeChar)

/-- `renderNumber`. The text of an integer and that of a fraction are both `String`'s. -/
def renderNumber (raw : String) : String :=
  match P.toNumber raw with
  | .fin q => P.numberToString (.fin q)
  | _ => "0"

/-- A value of a tag, as it is signed. -/
def renderValue (key value : String) : String :=
  if isNumericTag key then renderNumber P value else "\"" ++ escapeJson value ++ "\""

/-- A tag, as it is signed. -/
def renderTag (tag : Tag) : String :=
  "[\"" ++ escapeJson tag.key ++ "\"" ++
    String.join (tag.values.map fun value => "," ++ renderValue P tag.key value) ++ "]"

/-- The text that the issuer signs. The `data` and the nonce are written as they are. -/
def voucherCanonicalText (secret : ParsedVoucherSecret) : String :=
  let tags := secret.tags.filter fun tag => !addedAfterSigning tag.key
  "[\"" ++ secret.kind.text ++ "\",\"" ++ secret.data ++ "\",\"" ++ secret.nonce.getD "" ++ "\",[" ++
    ",".intercalate (tags.map (renderTag P)) ++ "]]"

/-- `voucherCanonicalBytes`. -/
def voucherCanonicalBytes (secret : ParsedVoucherSecret) : List UInt8 :=
  textEncode (voucherCanonicalText P secret)

end NapAuth.Voucher

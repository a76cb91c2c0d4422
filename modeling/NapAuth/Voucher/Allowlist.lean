import NapAuth.Voucher.Dleq

/-!
# Mint and issuer allowlists

`packages/nap-voucher/src/allowlist.ts`: the mints whose vouchers are honoured, and on each of them
the issuers. A mint that a credential names is only ever matched against the list, and what is found
there is the origin that was configured (`MintAllowlist.resolve_mem`).
-/

namespace NapAuth.Voucher

variable (P : VoucherPlatform)

/-! ## Mints -/

/-- `AllowedMint`, of which the scheme is always `https`. -/
structure AllowedMint where
  /-- Lowercase, with a port that is not the default one. -/
  host : String
  /-- What comparisons use. -/
  origin : String

/-- What every refusal of a mint entry begins with. -/
def mintEntryError (entry rest : String) : String :=
  "NAP voucher mint allowlist entry '" ++ entry ++ "' " ++ rest

/-- `parseMintEntry`. -/
def parseMintEntry (entry : String) : Except String AllowedMint :=
  let raw := JsString.trim entry
  if raw = "" then .error "NAP voucher mint allowlist contains an empty entry"
  else if JsString.includes raw '*' then
    .error (mintEntryError entry
      "must be an exact origin: wildcards would trust any subdomain to mint authorization claims")
  else
    match P.parseUrl raw with
    | none => .error (mintEntryError entry
        "is not an absolute URL: pass a scheme-pinned origin, e.g. \"https://mint.example.com\"")
    | some url =>
      if url.protocol ≠ "https:" then
        .error (mintEntryError entry ("must use https: the state check decides an authorization, " ++
          "and over plaintext anyone on the path can forge it"))
      else if url.username ≠ "" ∨ url.password ≠ "" then
        .error (mintEntryError entry "must not carry userinfo")
      else if url.pathname ≠ "/" ∨ url.search ≠ "" ∨ url.hash ≠ "" then
        .error (mintEntryError entry "must be a bare origin with no path, query, or fragment")
      else .ok ⟨P.toLowerCase url.host, P.toLowerCase url.origin⟩

/-- `canonicalizeMintUrl`. -/
def canonicalizeMintUrl (mintUrl : String) : Option String :=
  let raw := JsString.trim mintUrl
  if raw = "" then none
  else
    match P.parseUrl raw with
    | none => none
    | some url =>
      if url.protocol ≠ "https:" ∨ url.username ≠ "" ∨ url.password ≠ "" then none
      else some (P.toLowerCase url.origin)

/-- `MintAllowlist`: the origins that were configured. -/
structure MintAllowlist where
  origins : List String
  /-- There is no list that allows every mint by being empty. -/
  nonempty : origins ≠ []
  /-- No two entries are the same. -/
  nodup : origins.Nodup

/-- The configured origin of a mint, if it is allowed. -/
def MintAllowlist.resolve (allowlist : MintAllowlist) (mintUrl : String) : Option String :=
  match canonicalizeMintUrl P mintUrl with
  | none => none
  | some candidate =>
    if candidate = "" then none else allowlist.origins.find? fun origin => origin == candidate

/-- A mint that is found is one of those configured, and the credential's as it is compared. -/
theorem MintAllowlist.resolve_mem {allowlist : MintAllowlist} {mintUrl origin : String}
    (h : allowlist.resolve P mintUrl = some origin) :
    origin ∈ allowlist.origins ∧ canonicalizeMintUrl P mintUrl = some origin := by
  unfold resolve at h
  split at h
  · cases h
  · rename_i candidate hcandidate
    split at h
    · cases h
    · have heq : origin = candidate := by simpa using List.find?_some h
      exact ⟨List.mem_of_find?_eq_some h, heq ▸ hcandidate⟩

/-- Results of something are not nothing. -/
theorem ne_nil_of_mapM_ok {A B : Type} {f : A → Except String B} {xs : List A} {ys : List B}
    (h : xs.mapM f = .ok ys) (hne : xs ≠ []) : ys ≠ [] := by
  rintro rfl
  exact hne (List.map_eq_nil_iff.mp (mapM_eq_ok_iff.mp h))

/-- `createMintAllowlist`. -/
def createMintAllowlist (allowedMints : List String) : Except String MintAllowlist :=
  if hne : allowedMints = [] then
    .error ("NAP voucher authorization requires a non-empty mint allowlist: pass the exact mint " ++
      "origins this server honours, e.g. [\"https://mint.example.com\"]. Any mint can sign a " ++
      "voucher claiming any role, so there is no safe default.")
  else
    match h : allowedMints.mapM (parseMintEntry P) with
    | .error error => .error error
    | .ok parsed =>
      if hnodup : (parsed.map AllowedMint.origin).Nodup then
        .ok ⟨parsed.map AllowedMint.origin,
          mt List.map_eq_nil_iff.mp (ne_nil_of_mapM_ok h hne), hnodup⟩
      else
        .error ("NAP voucher mint allowlist contains duplicate origins after normalization: " ++
          ", ".intercalate (parsed.map AllowedMint.origin))

/-! ## Issuers -/

/-- `AllowedIssuer`, and `IssuerAllowlistEntry` before it is normalized. -/
structure AllowedIssuer where
  mint : String
  issuerPubkey : String

/-- The key of a pair. -/
def AllowedIssuer.key (entry : AllowedIssuer) : String := entry.mint ++ "|" ++ entry.issuerPubkey

/-- `IssuerAllowlist`: the pairs that were configured. -/
structure IssuerAllowlist where
  entries : List AllowedIssuer
  /-- There is no list that allows every issuer by being empty. -/
  nonempty : entries ≠ []
  /-- No two pairs are the same. -/
  nodup : (entries.map AllowedIssuer.key).Nodup

/-- Whether vouchers of an issuer are honoured on a mint. -/
def IssuerAllowlist.allows (allowlist : IssuerAllowlist) (mintOrigin issuerPubkey : String) : Bool :=
  (allowlist.entries.map AllowedIssuer.key).contains
    (P.toLowerCase mintOrigin ++ "|" ++ normalized P issuerPubkey)

end NapAuth.Voucher

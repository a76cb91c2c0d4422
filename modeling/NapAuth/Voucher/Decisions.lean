import NapAuth.Voucher.Resolver

/-!
# What the voucher resolver decides

A resolution asks no mint before the credential has passed the checks that need none, and only mints
that were configured (`requests_checked`). A decision that allows is sound, unless degraded mode has
let a credential in whose proof was never checked (`allowed_sound_iff`): the request for the mint's
keysets comes before the check, and when it is not answered there is no key to check with.

What the cache of the mint client holds was published by its mint (`cache_published`).
-/

namespace NapAuth.Voucher

open Interleaving

variable {P : VoucherPlatform} {O : VoucherAclResolverOptions}

/-! ## What the cache holds -/

section Cache

variable {h h' pre : History O.mintClient} {e : Step (machine O.mintClient)}

/-- Every operation of a run is warranted, by what its own call has seen. -/
theorem warranted {c : (resolver P O).Config} (hc : (resolver P O).Reachable c)
    (ho : Occurs c.history pre e) : ∃ th, c.threads[e.tid]? = some th ∧
      Warranted P O th.call ((machine O.mintClient).own e.tid pre) e.op := by
  obtain ⟨-, th, hth, -, k, hfol⟩ := hc.coherent.occurs pre e ho
  exact ⟨th, hth, ((body_warrants th.call).follows hfol).1⟩

variable (P) in
/-- A mint has published keysets. -/
def Published (h : History O.mintClient) (origin : String) (keysets : Keysets) : Prop :=
  ∃ pre e, Occurs h pre e ∧ Publishes P ((machine O.mintClient).event pre e) origin keysets

/-- It stays so. -/
theorem Published.mono {origin : String} {keysets : Keysets} (hpub : Published P h origin keysets)
    (hp : h <+: h') : Published P h' origin keysets := by
  obtain ⟨pre, e, ho, hpublishes⟩ := hpub
  exact ⟨pre, e, ho.mono hp, hpublishes⟩

/-- What one operation leaves in the cache: what was there, or what it stores. -/
theorem lookup_exec {op : Op} {env : Env} {cache : Cache} {origin : String} {entry : CacheEntry}
    (hentry : (exec O.mintClient op env cache).2.lookup origin = some entry) :
    cache.lookup origin = some entry ∨ ∃ refreshed, op = .store origin entry.keysets refreshed := by
  cases op with
  | load origin' =>
    left
    simp only [exec] at hentry
    split at hentry
    · exact hentry
    · exact hentry
  | refetch origin' =>
    left
    simp only [exec] at hentry
    split at hentry
    · split at hentry
      · exact hentry
      · -- What is deleted is not found.
        by_cases heq : origin = origin'
        · subst heq
          rw [AList.lookup_erase] at hentry
          cases hentry
        · rwa [AList.lookup_erase_ne heq] at hentry
    · exact hentry
  | store origin' keysets refreshed =>
    unfold exec at hentry
    rw [JsMap.lookup_insert_eq] at hentry
    split at hentry
    · rename_i heq
      subst heq
      obtain rfl := Option.some.inj hentry
      exact Or.inr ⟨refreshed, rfl⟩
    · exact Or.inl hentry
  | clearCache =>
    unfold exec at hentry
    rw [AList.lookup_empty] at hentry
    cases hentry
  | fetch _ | log _ | fallback _ _ _ | grant _ => exact Or.inl hentry

/-- What the cache holds was published. -/
theorem cache_published (hv : (resolver P O).Valid h) {origin : String} {entry : CacheEntry}
    (hentry : ((machine O.mintClient).after h).lookup origin = some entry) :
    Published P h origin entry.keysets := by
  induction h using List.reverseRecOn generalizing entry with
  | nil =>
    rw [Machine.after_nil, AList.lookup_empty] at hentry
    cases hentry
  | append_singleton h e ih =>
    have hp : h <+: h ++ [e] := List.prefix_append _ _
    rw [Machine.after_concat] at hentry
    rcases lookup_exec hentry with hold | ⟨refreshed, hop⟩
    · exact (ih (hv.restrict hp) hold).mono hp
    · -- A call stores what was published to it.
      have hwarrant : MintOp P O.mintClient ((machine O.mintClient).own e.tid h) e.op :=
        hv.of_occurs (fun call => (body_warrants call).mono (fun _ _ hw => hw.1) fun _ _ _ => trivial)
          Occurs.last
      rw [hop] at hwarrant
      obtain ⟨ev, hev, hpublishes⟩ := hwarrant
      obtain ⟨pre, e', ho, -, rfl⟩ := mem_own.mp hev
      exact ⟨pre, e', ho.mono hp, hpublishes⟩

/-- What a call has got was published. -/
theorem published_of_got (hv : (resolver P O).Valid h) {tid : ℕ} {origin : String}
    {keysets : Keysets} (hgot : Got P ((machine O.mintClient).own tid h) origin keysets) :
    Published P h origin keysets := by
  rcases hgot with hcached | ⟨ev, hev, hpublishes⟩
  · obtain ⟨pre, e, ho, -, hevent⟩ := mem_own.mp hcached
    obtain ⟨-, hexec⟩ := Machine.event_eq_iff _ |>.mp hevent
    have hbefore : pre <+: h := ho.before
    simp only [exec] at hexec
    split at hexec
    · rename_i entry hentry
      dsimp only at hexec
      split_ifs at hexec with hfresh
      injection hexec with hkeysets
      exact hkeysets ▸ (cache_published (hv.restrict hbefore) hentry).mono hbefore
    · cases hexec
  · obtain ⟨pre, e, ho, -, rfl⟩ := mem_own.mp hev
    exact ⟨pre, e, ho, hpublishes⟩

end Cache

/-! ## A voucher

A voucher of the issuer with the private key 5, locked to the principal with the private key 3, and
the proof of a mint whose private key is 7. The platform knows them and nothing else. -/

namespace Sample

/-- The origin of the mint. -/
def origin : String := "https://mint.example.com"

/-- The principal. -/
def pubkey : String := "f9308a019258c31049344f85f89d5229b531c845836f99b08601f113bce036f9"

/-- Its name. -/
def npub : String := "npub1lycg5qvjtrp3qjf5f7zl382j9x6nrjz9sdhenvyxq8c3808qxmus6gq266"

/-- The key that the voucher is locked to. -/
def lockKey : String := "02f9308a019258c31049344f85f89d5229b531c845836f99b08601f113bce036f9"

/-- The issuer. -/
def issuerPubkey : String := "2f8bde4d1a07209355b4a7250a5c5128e88b84bddc619ab7cba8d569b240efe4"

/-- The issuer's signature. -/
def issuerSig : String :=
  "4f5fe50b4b3b3bf573ce7907538b465a5f5309453cd57415874653692447951b" ++
  "aa4544ecdfcb11cd95beea875111a29adfba81294a67361e50fae5677b4b37be"

/-- The secret. -/
def secret : String :=
  "[\"P2PK_VOUCHER\",\x7b\"nonce\":\"00\",\"data\":" ++
  "\"02f9308a019258c31049344f85f89d5229b531c845836f99b08601f113bce036f9\"," ++
  "\"tags\":[[\"voucher_id\",\"v-1\"],[\"issuer\",\"acme\"],[\"unit\",\"sat\"]," ++
  "[\"face_value\",\"1000\"],[\"expires_at\",\"2000\"],[\"issuer_sig\",\"" ++
  "4f5fe50b4b3b3bf573ce7907538b465a5f5309453cd57415874653692447951b" ++
  "aa4544ecdfcb11cd95beea875111a29adfba81294a67361e50fae5677b4b37be" ++
  "\"],[\"issuer_pubkey\",\"2f8bde4d1a07209355b4a7250a5c5128e88b84bddc619ab7cba8d569b240efe4\"]]\x7d]"

/-- The secret as a JSON value. -/
def secretJson : Json :=
  .arr [.str "P2PK_VOUCHER", .obj [("nonce", .str "00"), ("data", .str lockKey),
    ("tags", .arr ([["voucher_id", "v-1"], ["issuer", "acme"], ["unit", "sat"],
      ["face_value", "1000"], ["expires_at", "2000"], ["issuer_sig", issuerSig],
      ["issuer_pubkey", issuerPubkey]].map fun tag => .arr (tag.map .str)))]]

/-- The points of the curve that the proof is about. -/
inductive SamplePoint where
  | base
  | A
  | C
  | Y
  | B_
  | C_
  | sG
  | eA
  | sB_
  | eC_
  | negEA
  | negEC_
  | rG
  | rA
  | R1
  | R2
  | other
  deriving DecidableEq

/-- Compressed points. -/
def compressed : List (SamplePoint × String) :=
  [(.A, "025cbdf0646e5db4eaa398f365f2ea7a0e3d419b7e0330e39ce92bddedcac4f9bc"),
    (.C, "039b4da2daf3ac60acad119d5a07ca801689f981567ce9611de664687e49e6c13d"),
    (.Y, "02101852b488acd5ff10a9128ee65c05d6a16269f205b1d40cd956a0d2007950b7"),
    (.B_, "03b05f17c24179b7493600ff05bcefcbc9d6d66e4b62e3c56a682ad1d7e49741f4"),
    (.C_, "03021f6324e2af73c0d5dd6989ab85c8a65402043c8a0e009aeee7516431b112fc")]

/-- Points that are not compressed. -/
def uncompressed : List (SamplePoint × String) :=
  [(.R1, "04f28773c2d975288bc7d1d205c3748651b075fbc6610e58cddeeddf8f19405aa8" ++
      "0ab0902e8d880a89758212eb65cdaf473a1a06da521fa91f29b5cb52db03ed81"),
    (.R2, "04167fea733b45afbbcab85fc7a7c78ce95f33a1b755ed13509e1d4295e64006c7" ++
      "79965bd75f3f377f9f345fdbddbaf33b43488ad7e70d383fa6644a8fa270e29f"),
    (.A, "045cbdf0646e5db4eaa398f365f2ea7a0e3d419b7e0330e39ce92bddedcac4f9bc" ++
      "6aebca40ba255960a3178d6d861a54dba813d0b813fde7b5a5082628087264da"),
    (.C_, "04021f6324e2af73c0d5dd6989ab85c8a65402043c8a0e009aeee7516431b112fc" ++
      "062a5d84c8f8c18fb8033f13f73000d5bcf800dbb8af7bbd51bdb79409821c8d")]

/-- The proof of the mint. -/
def dleq : Dleq where
  e := "f152871cb25f35ccb6287a700aaa9aadd110a4c08bb98328fa14752f419651a8"
  s := "9941b1c8e09a7898fb1b59104aaa3ac8575b53dbb65ed4b857a0fcfde9d6b41f"
  r := "000000000000000000000000000000000000000000000000000000000000000b"

/-- The curve. -/
def curve : Secp256k1 where
  Point := SamplePoint
  order := 0xfffffffffffffffffffffffffffffffebaaedce6af48a03bbfd25e8cd0364141
  base := .base
  add
    | .C, .rA => .C_
    | .Y, .rG => .B_
    | .sG, .negEA => .R1
    | .sB_, .negEC_ => .R2
    | _, _ => .other
  negate
    | .eA => .negEA
    | .eC_ => .negEC_
    | _ => .other
  multiply point scalar :=
    match point with
    | .base => if scalar.val = hexValue dleq.s then .sG else if scalar.val = 11 then .rG else .other
    | .A => if scalar.val = hexValue dleq.e then .eA else if scalar.val = 11 then .rA else .other
    | .B_ => if scalar.val = hexValue dleq.s then .sB_ else .other
    | .C_ => if scalar.val = hexValue dleq.e then .eC_ else .other
    | _ => .other
  fromHex text := (compressed.find? fun entry => entry.2 == text).map (·.1)
  toHex point isCompressed :=
    ((if isCompressed then compressed else uncompressed).find? fun entry => entry.1 == point).map (·.2)

/-- The hashes of the signed text, of the secret, of the first candidate for its point and of the
points of the proof, which have these lengths. -/
def sha256 (bytes : List UInt8) : List UInt8 :=
  match bytes.length with
  | 186 => hexToBytes "d630d97d9b1f769a6d480d15211dd6d27ec35f347722360f253e88fbe97920b5"
  | 473 => hexToBytes "f31176b255640f1045e444785a06e6c884eec431a738ff7c4679f07f56833c73"
  | 36 => hexToBytes "101852b488acd5ff10a9128ee65c05d6a16269f205b1d40cd956a0d2007950b7"
  | 520 => hexToBytes dleq.e
  | _ => []

/-- The platform. -/
def platform : VoucherPlatform where
  jsonParse text := if text = secret then some secretJson else none
  toNumber text := if text = "1000" then .fin 1000 else if text = "2000" then .fin 2000 else .nan
  numberToString
    | .fin q => toString q.num
    | _ => ""
  toLowerCase text := text
  parseUrl text :=
    if text = origin then some ⟨"https:", "", "", "mint.example.com", origin, "/", "", ""⟩ else none
  sha256 := sha256
  schnorrVerify signature message key :=
    some (signature == hexToBytes issuerSig && key == hexToBytes issuerPubkey &&
      message == hexToBytes "d630d97d9b1f769a6d480d15211dd6d27ec35f347722360f253e88fbe97920b5")
  curve := curve

/-- The credential. -/
def credential (dleq : Dleq) (signature : String) : Json :=
  .obj [("mint_url", .str origin), ("keyset_id", .str "00ad268c4d1f5826"), ("secret", .str secret),
    ("signature", .str signature), ("amount", .num (JsonNumber.ofInt 8)),
    ("dleq", .obj [("e", .str dleq.e), ("s", .str dleq.s), ("r", .str dleq.r)])]

/-- The answer to a request for the mint's keysets. -/
def keys : FetchResult :=
  .response 200 (.ok (.obj [("keysets", .arr [.obj [("id", .str "00ad268c4d1f5826"),
    ("unit", .str "sat"),
    ("keys", .obj [("8", .str
      "025cbdf0646e5db4eaa398f365f2ea7a0e3d419b7e0330e39ce92bddedcac4f9bc")])]])]))

/-- The answer to a request for the state of the proof. -/
def unspent : FetchResult :=
  .response 200 (.ok (.obj [("states", .arr [.obj [
    ("Y", .str "02101852b488acd5ff10a9128ee65c05d6a16269f205b1d40cd956a0d2007950b7"),
    ("state", .str "UNSPENT")]])]))

/-- The mint is the only one that is allowed. -/
def mints : MintAllowlist := ⟨[origin], List.cons_ne_nil _ _, List.nodup_singleton _⟩

/-- The issuer is the only one that is. -/
def issuers : IssuerAllowlist :=
  ⟨[⟨origin, issuerPubkey⟩], List.cons_ne_nil _ _, List.nodup_singleton _⟩

/-- A configuration. -/
def options (availability : MintAvailabilityPolicy) : VoucherAclResolverOptions where
  mintAllowlist := mints
  issuerAllowlist := issuers
  mintClient := ⟨mints, none, fun _ h => nomatch h⟩
  availability := availability
  permissionRegistry := none
  fallback := false
  onMissingCredential := none

/-- What the environment contributes to an operation whose request has a given result. -/
def env (result : FetchResult) : Env :=
  ⟨1000, result, ⟨false, [], [], none, false, none⟩, some ⟨["member"], ["voucher:view"]⟩⟩

/-- A login that presents the credential. -/
def login (dleq : Dleq) (signature : String) : Call :=
  .resolve npub pubkey (some ⟨some (credential dleq signature), 1000, none⟩)

/-- The secret as it is parsed. -/
def parsed : ParsedVoucherSecret where
  kind := .p2pkVoucher
  nonce := some "00"
  data := lockKey
  tags := [⟨"voucher_id", ["v-1"]⟩, ⟨"issuer", ["acme"]⟩, ⟨"unit", ["sat"]⟩,
    ⟨"face_value", ["1000"]⟩, ⟨"expires_at", ["2000"]⟩, ⟨"issuer_sig", [issuerSig]⟩,
    ⟨"issuer_pubkey", [issuerPubkey]⟩]
  nodup := by decide

/-- The credential that has passed the local checks. -/
def checked (signature : String) : CheckedVoucher :=
  ⟨origin, "00ad268c4d1f5826", secret, signature, JsonNumber.ofInt 8, parsed, issuerPubkey⟩

/-- It passes them, whatever its proof is. -/
theorem localChecks (availability : MintAvailabilityPolicy) (dleq : Dleq) (signature : String) :
    LocalChecks platform (options availability) pubkey 1000 (credential dleq signature)
      (checked signature) where
  mint := ⟨origin, by simp [credential, Json.get?], by
    show mints.resolve platform origin = some origin
    decide +kernel⟩
  text := by simp [credential, Json.get?, checked]
  signature := by simp [credential, Json.get?, checked]
  keysetId := by simp [credential, Json.get?, checked]
  amount := by simp [credential, Json.get?, checked]
  secret := by
    show parseVoucherSecret platform secret = some parsed
    decide +kernel
  locked := by
    refine ⟨lockKey, rfl, ?_⟩
    decide +kernel
  unexpired := by
    have hexpires : parsed.expiresAt platform = some 2000 := by decide +kernel
    intro expiresAt h
    obtain rfl := Option.some.inj (hexpires.symm.trans h)
    norm_num
  signed := by
    show verifyIssuerSignature platform parsed = true
    decide +kernel
  issuer := by
    show parsed.issuerPubkey = some issuerPubkey
    decide +kernel
  allowed := by
    show issuers.allows platform origin issuerPubkey = true
    decide +kernel

/-- The program of a login, after the local checks. -/
def program (availability : MintAvailabilityPolicy) (dleq : Dleq) (signature : String) :
    Program Outcome :=
  resolveAtMint platform (options availability) npub pubkey (credential dleq signature)
    (checked signature)

/-- The signature of the mint. -/
def signature : String := "039b4da2daf3ac60acad119d5a07ca801689f981567ce9611de664687e49e6c13d"

/-- The moves of a login whose operations get the given results. -/
def turn (availability : MintAvailabilityPolicy) (dleq : Dleq) (signature : String)
    (results : List FetchResult) : List (resolver platform (options availability)).Label :=
  .start (login dleq signature) :: results.map fun result => .run 0 (env result)

/-- A run that has been computed. -/
theorem exists_run (availability : MintAvailabilityPolicy) (dleq : Dleq) (signature : String)
    (results : List FetchResult) (p : (resolver platform (options availability)).Config → Bool)
    (h : (System.replay (fun _ => program availability dleq signature)
      (resolver platform (options availability)).initial
      (turn availability dleq signature results)).any p = true) :
    ∃ c, (resolver platform (options availability)).Reachable c ∧
      c.calls = [login dleq signature] ∧ p c = true := by
  have hruns : ∀ results : List FetchResult,
      System.starts (S := resolver platform (options availability))
        (results.map fun result => .run 0 (env result)) = [] := by
    intro results
    induction results with
    | nil => rfl
    | cons result results ih => exact ih
  have hstarts : System.starts (turn availability dleq signature results) =
      [login dleq signature] := congrArg (login dleq signature :: ·) (hruns results)
  rw [← hstarts]
  refine System.exists_replay ?_ h
  intro call hcall
  rw [hstarts] at hcall
  obtain rfl := List.mem_singleton.mp hcall
  have hpresented : presented (some ⟨some (credential dleq signature), 1000, none⟩) =
      some (credential dleq signature, 1000) := rfl
  have hresolve : resolve platform (options availability) npub pubkey
      (some ⟨some (credential dleq signature), 1000, none⟩) =
      resolveAtMint platform (options availability) npub pubkey (credential dleq signature)
        (checked signature) :=
    resolve_eq hpresented (localChecks availability dleq signature)
  rw [login, body_resolve, hresolve, program]

/-- Whether a call has returned a given decision. -/
def decided (o : Option Outcome) (d : AclDecision) : Bool :=
  match o with
  | some (.decided d') => d' = d
  | none | some .aborted | some .threw | some (.key _) | some (.state _) | some .done => false

theorem eq_of_decided {o : Option Outcome} {d : AclDecision} (h : decided o d = true) :
    o = some (.decided d) := by
  cases o with
  | none => cases h
  | some outcome =>
    cases outcome with
    | decided d' =>
      obtain rfl : d' = d := of_decide_eq_true h
      rfl
    | aborted | threw | key _ | state _ | done => cases h

/-- What is decided of a voucher that is good. -/
def decision : AclDecision := ⟨true, ["member"], ["voucher:view"], none, false, some (.fin 2000)⟩

/-- What is decided of one in degraded mode. -/
def degraded : AclDecision :=
  ⟨true, [], ["voucher:view"], some "NAP_VOUCHER_DEGRADED", false, some (.fin 2000)⟩

/-- A login whose requests are answered. -/
theorem exists_login : ∃ c, (resolver platform (options .deny)).Reachable c ∧
    ∃ th, c.threads[0]? = some th ∧ th.call = login dleq signature ∧
      th.prog = .pure (.decided decision) := by
  obtain ⟨c, hc, hcalls, hp⟩ := exists_run .deny dleq signature [keys, keys, unspent, keys, keys]
    (fun c => decided (c.returned? 0) decision) (by decide +kernel)
  exact ⟨c, hc, System.thread_of_returned (by rw [hcalls]; rfl) (eq_of_decided hp)⟩

end Sample

/-! ## Before a mint is asked -/

/-- What the mint client asks is at an origin that was configured. -/
theorem origin_of_requestOf {M : MintClientOptions} {xs : List (Event Res)} {op : Op}
    {request : FetchRequest} (hmint : MintOp P M xs op) (h : requestOf op = some request) :
    ∃ origin ∈ M.allowlist.origins, JsString.startsWith request.url origin = true := by
  cases op with
  | load origin | refetch origin =>
    obtain rfl := Option.some.inj h
    exact ⟨origin, hmint, JsString.startsWith_append origin _⟩
  | fetch request' =>
    obtain rfl := Option.some.inj h
    obtain ⟨origin, horigin, Y, rfl⟩ := hmint
    exact ⟨origin, horigin, JsString.startsWith_append origin _⟩
  | store _ _ _ | clearCache | log _ | fallback _ _ _ | grant _ => cases h

/-- A resolution that causes a request has a credential that has passed the local checks: its mint is
allowlisted, it is locked to the principal, it has not expired, its issuer has signed it and is
honoured on its mint. And the request is at an origin that was configured. -/
theorem requests_checked (hclient : O.mintClient.allowlist = O.mintAllowlist)
    {c : (resolver P O).Config} (hc : (resolver P O).Reachable c) {pre : History O.mintClient}
    {e : Step (machine O.mintClient)} (ho : Occurs c.history pre e)
    {th : Thread Res Call Outcome} (hth : c.threads[e.tid]? = some th) {npub pubkey : String}
    {context : Option VoucherContext} (hcall : th.call = .resolve npub pubkey context)
    {request : FetchRequest} (hsent : sent ((machine O.mintClient).event pre e) = some request) :
    ∃ credential now checked, presented context = some (credential, now) ∧
      LocalChecks P O pubkey now credential checked ∧
      ∃ origin ∈ O.mintAllowlist.origins, JsString.startsWith request.url origin = true := by
  obtain ⟨th', hth', hmint, hpassed⟩ := warranted hc ho
  obtain rfl : th = th' := Option.some.inj (hth.symm.trans hth')
  have hrequest : requestOf e.op = some request := requestOf_of_sent hsent
  have hlocal : HasPassed P O th.call := hpassed (by simp [hrequest])
  rw [hcall] at hlocal
  obtain ⟨credential, now, checked, hpresented, hchecks⟩ := hlocal
  obtain ⟨origin, horigin, hurl⟩ := origin_of_requestOf hmint hrequest
  exact ⟨credential, now, checked, hpresented, hchecks, origin, hclient ▸ horigin, hurl⟩

/-- The only step of a login whose request for keysets has been answered: it is for the allowlisted
mint's. -/
theorem requests_checked_login : ∃ checked,
    LocalChecks Sample.platform (Sample.options .deny) Sample.pubkey 1000
      (Sample.credential Sample.dleq Sample.signature) checked ∧
    ∃ origin ∈ Sample.mints.origins,
      JsString.startsWith (keysRequest Sample.origin).url origin = true := by
  obtain ⟨c, hc, hcalls, hp⟩ := Sample.exists_run .deny Sample.dleq Sample.signature [Sample.keys]
    (fun c => c.history.head?.any fun e =>
      e.tid == 0 && sent ((machine _).event [] e) == some (keysRequest Sample.origin))
    (by decide)
  obtain ⟨e, hhead, htid, hsent⟩ : ∃ e, c.history.head? = some e ∧ e.tid = 0 ∧
      sent ((machine _).event [] e) = some (keysRequest Sample.origin) := by
    simpa [Option.any_eq_true] using hp
  obtain ⟨th, hth, hcall⟩ : ∃ th, c.threads[e.tid]? = some th ∧
      th.call = Sample.login Sample.dleq Sample.signature := by
    rw [htid]
    exact System.thread_of_call (by rw [hcalls]; rfl)
  have ho : Occurs c.history [] e := by
    obtain ⟨later, hhistory⟩ := List.head?_eq_some_iff.mp hhead
    exact ⟨later, hhistory.symm⟩
  obtain ⟨credential, now, checked, hpresented, hlocal, horigin⟩ :=
    requests_checked rfl hc ho hth hcall hsent
  obtain ⟨rfl, rfl⟩ : Sample.credential Sample.dleq Sample.signature = credential ∧ 1000 = now :=
    Prod.mk.inj (Option.some.inj hpresented)
  exact ⟨checked, hlocal, horigin⟩

/-! ## What a decision that allows rests on -/

/-- The proof was accepted, under a key that its mint has published for its keyset and amount. -/
structure ProofSound (h : History O.mintClient) (credential : Json) (checked : CheckedVoucher)
    (origin key : String) (dleq : Dleq) : Prop where
  /-- The mint is the one that the client's allowlist has for the credential's. -/
  mint : O.mintClient.allowlist.resolve P checked.mintUrl = some origin
  /-- It has published the key. -/
  published : ∃ keysets keyset, Published P h origin keysets ∧
    keysets.lookup checked.keysetId = some keyset ∧
    keyFor P keyset checked.amount.val = some key
  /-- The credential has a proof, and it is accepted under the key. -/
  carried : readDleq credential = some dleq
  accepted : verifyProofDleq P key checked.text checked.signature dleq = true

/-- What has been got was published. -/
theorem ProofAccepted.sound {h : History O.mintClient} (hv : (resolver P O).Valid h) {tid : ℕ}
    {credential : Json} {checked : CheckedVoucher} {origin key : String} {dleq : Dleq}
    (haccepted : ProofAccepted P O ((machine O.mintClient).own tid h) credential checked origin key
      dleq) : ProofSound (P := P) h credential checked origin key dleq := by
  obtain ⟨keysets, keyset, hgot, hlookup, hkey⟩ := haccepted.published
  exact ⟨haccepted.mint, ⟨keysets, keyset, published_of_got hv hgot, hlookup, hkey⟩,
    haccepted.carried, haccepted.accepted⟩

/-- The proof is unspent, and what is granted is what the application grants, all of it declared. -/
def Unspent (P : VoucherPlatform) (O : VoucherAclResolverOptions) (xs : List (Event Res))
    (checked : CheckedVoucher) (pubkey origin Y : String) (result : FetchResult)
    (d : AclDecision) : Prop :=
  readState P origin Y result = .ok .unspent ∧
    ∃ granted : Option VoucherGrant, ⟨.grant (checked.verified pubkey), granted⟩ ∈ xs ∧
      d.roles = (granted.getD ⟨[], []⟩).roles ∧ d.permissions = (granted.getD ⟨[], []⟩).permissions ∧
      ∀ registry, O.permissionRegistry = some registry →
        d.permissions ⊆ registry.permissions ∧ d.roles ⊆ registry.roles

/-- The mint has not answered whether the proof is spent, and what is granted is what degraded mode
is configured to grant. -/
def SpendUnknown (O : VoucherAclResolverOptions) (result : FetchResult) (d : AclDecision) : Prop :=
  result.unanswered = true ∧ ∃ grant, O.availability = .degrade grant ∧ d.roles = grant.roles ∧
    d.permissions = grant.permissions

/-- A decision about a presented credential is sound: the credential has passed the local checks, its
proof was accepted, and the mint was asked whether it is spent, and has said that it is not or has
not answered. -/
def DecisionSound (P : VoucherPlatform) (O : VoucherAclResolverOptions) (h : History O.mintClient)
    (tid : ℕ) (pubkey : String) (now : ℤ) (credential : Json) (d : AclDecision) : Prop :=
  ∃ checked origin key dleq Y result, LocalChecks P O pubkey now credential checked ∧
    ProofSound (P := P) h credential checked origin key dleq ∧
    StateAsked P ((machine O.mintClient).own tid h) checked origin Y result ∧
    (Unspent P O ((machine O.mintClient).own tid h) checked pubkey origin Y result d ∨
      SpendUnknown O result d)

/-- A decision about a presented credential has a verdict, from the events of its call. -/
theorem verdict_of_decided {c : (resolver P O).Config} (hc : (resolver P O).Reachable c) {tid : ℕ}
    {th : Thread Res Call Outcome} (hth : c.threads[tid]? = some th) {npub pubkey : String}
    {context : Option VoucherContext} (hcall : th.call = .resolve npub pubkey context)
    {credential : Json} {now : ℤ} (hpresented : presented context = some (credential, now))
    {d : AclDecision} (hd : th.prog = .pure (.decided d)) :
    Verdict P O pubkey now credential ((machine O.mintClient).own tid c.history) d := by
  have hsat : ((resolver P O).body th.call).Sat (Warranted P O (.resolve npub pubkey context))
      (Judged P O pubkey now credential) [] := by
    rw [hcall]
    exact resolve_sat hpresented
  rcases hc.sat hth hsat hd with hdead | hjudged
  · cases hdead
  · exact hjudged d rfl

/-- What decides whether a decision that allows is sound: it is, unless degraded mode is configured
with a grant that is declared and a request of its own for the mint's keysets went unanswered. -/
theorem allowed_sound_iff {c : (resolver P O).Config} (hc : (resolver P O).Reachable c) {tid : ℕ}
    {th : Thread Res Call Outcome} (hth : c.threads[tid]? = some th) {npub pubkey : String}
    {context : Option VoucherContext} (hcall : th.call = .resolve npub pubkey context)
    {credential : Json} {now : ℤ} (hpresented : presented context = some (credential, now))
    {d : AclDecision} (hd : th.prog = .pure (.decided d)) :
    (d.allowed = true → DecisionSound P O c.history tid pubkey now credential d) ↔
      ¬ ((∃ grant, Degradable O grant) ∧
        ∃ ev ∈ (machine O.mintClient).own tid c.history, KeysUnanswered ev) := by
  have hv : (resolver P O).Valid c.history := System.Valid.of_reachable hc
  cases verdict_of_decided hc hth hcall hpresented hd with
  | denied hdenied hkeys =>
    constructor
    · rintro - ⟨⟨grant, hdegradable⟩, hun⟩
      exact hkeys hun grant hdegradable
    · intro _ hallowed
      rw [hdenied] at hallowed
      cases hallowed
  | @accepted checked origin key Y dleq result granted hlocal hproof hasked hunspent hgranted
      hdeclared hkeys hdec =>
    subst hdec
    have hsound : Unspent P O ((machine O.mintClient).own tid c.history) checked pubkey origin Y
        result (allowing P (granted.getD ⟨[], []⟩) none checked.secret) :=
      ⟨hunspent, granted, hgranted, rfl, rfl, undeclaredKeys_eq_nil_iff.mp hdeclared⟩
    constructor
    · exact fun _ hbad => hkeys hbad.2
    · exact fun _ _ => ⟨checked, origin, key, dleq, Y, result, hlocal, hproof.sound hv, hasked,
        Or.inl hsound⟩
  | @unknownState checked origin key Y dleq result grant hlocal hproof hasked hun hdegradable hkeys
      hdec =>
    subst hdec
    constructor
    · exact fun _ hbad => hkeys hbad.2
    · exact fun _ _ => ⟨checked, origin, key, dleq, Y, result, hlocal, hproof.sound hv, hasked,
        Or.inr ⟨hun, grant, hdegradable.1, rfl, rfl⟩⟩
  | @unknownKey checked grant hlocal hkeys hfetch hdegradable hdec =>
    subst hdec
    constructor
    · -- The mint was not asked for the state of the proof.
      intro hsound
      obtain ⟨_, origin, _, _, Y, result, -, -, hasked, -⟩ := hsound rfl
      exact absurd hasked.2 (hfetch _ _)
    · exact fun hnot => absurd ⟨⟨grant, hdegradable⟩, hkeys⟩ hnot

/-- A login whose requests are answered is let in, with what the application grants. -/
theorem allowed_sound_login : ∃ c d,
    (resolver Sample.platform (Sample.options .deny)).Reachable c ∧ d.allowed = true ∧
      DecisionSound Sample.platform (Sample.options .deny) c.history 0 Sample.pubkey 1000
        (Sample.credential Sample.dleq Sample.signature) d := by
  obtain ⟨c, hc, th, hth, hcall, hprog⟩ := Sample.exists_login
  have hnot : ¬ ∃ grant, Degradable (Sample.options .deny) grant := by
    rintro ⟨grant, hmode, -⟩
    cases hmode
  have hsound := (allowed_sound_iff hc hth hcall rfl hprog).mpr fun hbad => hnot hbad.1
  exact ⟨c, Sample.decision, hc, rfl, hsound rfl⟩

/-- Where the mint's keysets cannot be fetched, degraded mode lets a credential in whose proof is
made up: no key verifies it. -/
theorem allowed_unsound : ∃ c d,
    (resolver Sample.platform (Sample.options (.degrade ⟨[], ["voucher:view"]⟩))).Reachable c ∧
      c.calls = [Sample.login ⟨"0", "0", "0"⟩ "00"] ∧ c.returned? 0 = some (.decided d) ∧
      d.allowed = true ∧
      (∀ key, verifyProofDleq Sample.platform key Sample.secret "00" ⟨"0", "0", "0"⟩ = false) ∧
      ¬ DecisionSound Sample.platform (Sample.options (.degrade ⟨[], ["voucher:view"]⟩)) c.history 0
        Sample.pubkey 1000 (Sample.credential ⟨"0", "0", "0"⟩ "00") d := by
  obtain ⟨c, hc, hcalls, hp⟩ := Sample.exists_run (.degrade ⟨[], ["voucher:view"]⟩) ⟨"0", "0", "0"⟩
    "00" [.rejected "fetch failed", .rejected "fetch failed"]
    (fun c => Sample.decided (c.returned? 0) Sample.degraded) (by decide +kernel)
  have hforged : ∀ key, verifyProofDleq Sample.platform key Sample.secret "00" ⟨"0", "0", "0"⟩ =
      false := by
    have hpoint : parsePoint Sample.platform "00" = none := by
      have hnone : (parsePoint Sample.platform "00").isNone = true := by decide +kernel
      simpa using hnone
    intro key
    unfold verifyProofDleq
    rw [hpoint]
    cases parsePoint Sample.platform key <;> rfl
  refine ⟨c, Sample.degraded, hc, hcalls, Sample.eq_of_decided hp, rfl, hforged, ?_⟩
  -- The proof that a sound decision rests on is the credential's, with the credential's signature.
  rintro ⟨checked, origin, key, dleq, Y, result, hlocal, hproof, -⟩
  have htext : checked.text = Sample.secret := by
    have h := hlocal.text
    simp [Sample.credential, Json.get?] at h
    exact h.symm
  have hsignature : checked.signature = "00" := by
    have h := hlocal.signature
    simp [Sample.credential, Json.get?] at h
    exact h.symm
  have hdleq : dleq = ⟨"0", "0", "0"⟩ :=
    (Option.some.inj (hproof.carried.symm.trans (by simp [readDleq, Sample.credential, Json.get?]; rfl)))
  have haccepted := hproof.accepted
  rw [htext, hsignature, hdleq, hforged] at haccepted
  cases haccepted

end NapAuth.Voucher

import NapAuth.Guard
import NapAuth.Server.Warrant
import NapAuth.Voucher.Decisions

/-!
# The end of a voucher's sessions

A server whose ACL resolver is the voucher resolver (`Voucher.Decides`). Three comparisons are made with
the expiry of a voucher, each in another component: the resolver's, which refuses a voucher that has
expired; the server's, which clamps the session that it creates (`clampTtlToDecision`); and the guard's,
against the end that the session was given. A guard that compares with the end of a session that was
clamped finds it later than its clock only before the voucher's expiry (`lt_of_lt_clamp`), so that the
three together let no session outlive its voucher (`voucher_bounds_login`).
-/

namespace NapAuth

open Interleaving

/-! ## The resolver of a server -/

/-- A credential as `parseVoucherCredential` rebuilds it. -/
def VoucherCredential.json (credential : VoucherCredential) : Json :=
  .obj ([("mint_url", .str credential.mintUrl), ("keyset_id", .str credential.keysetId),
    ("secret", .str credential.secret), ("signature", .str credential.signature),
    ("amount", .num (JsonNumber.ofInt credential.amount)),
    ("dleq", .obj [("e", .str credential.dleq.e), ("s", .str credential.dleq.s),
      ("r", .str credential.dleq.r)])] ++
    (credential.witness.map fun witness => ("witness", Json.str witness)).toList)

/-- The context of a resolution, as the voucher resolver is given it. -/
def AclResolutionContext.forVoucher (context : AclResolutionContext) : Voucher.VoucherContext :=
  ⟨context.voucher.map VoucherCredential.json, context.now, context.session⟩

/-- The voucher resolver decides so when it is asked so: in some run of it a call has. -/
def Voucher.Decides (VP : Voucher.VoucherPlatform) (VO : Voucher.VoucherAclResolverOptions)
    (npub pubkey : String) (context : AclResolutionContext) (decision : AclDecision) : Prop :=
  ∃ (v : (Voucher.resolver VP VO).Config) (tid : ℕ)
    (th : Thread Voucher.Res Voucher.Call Voucher.Outcome), (Voucher.resolver VP VO).Reachable v ∧
    v.threads[tid]? = some th ∧ th.call = .resolve npub pubkey (some context.forVoucher) ∧
    th.prog = .pure (.decided decision)

variable {VP : Voucher.VoucherPlatform} {VO : Voucher.VoucherAclResolverOptions}

/-- A credential is presented. -/
theorem presented_forVoucher (credential : VoucherCredential) (now : ℤ)
    (session : Option (List String × List String)) :
    Voucher.presented (some (AclResolutionContext.forVoucher ⟨some credential, now, session⟩)) =
      some (credential.json, now) := rfl

/-- A voucher that the resolver accepts, normally or degraded, has not expired, and the decision has
its expiry. -/
theorem Voucher.Decides.expiresAt {npub pubkey : String} {credential : VoucherCredential} {now : ℤ}
    {session : Option (List String × List String)} {decision : AclDecision}
    (h : Voucher.Decides VP VO npub pubkey ⟨some credential, now, session⟩ decision)
    (hallowed : decision.allowed = true) {secret : Voucher.ParsedVoucherSecret}
    (hsecret : Voucher.parseVoucherSecret VP credential.secret = some secret) {ends : ℚ}
    (hends : secret.expiresAt VP = some ends) :
    decision.expiresAt = some (.fin ends) ∧ (now : ℚ) < ends := by
  obtain ⟨v, tid, th, hv, hth, hcall, hprog⟩ := h
  have hverdict := Voucher.verdict_of_decided hv hth hcall (presented_forVoucher credential now session)
    hprog
  -- Each way of accepting has passed the local checks and allows until the secret's expiry.
  have hchecked : ∃ checked granted reason,
      Voucher.LocalChecks VP VO pubkey now credential.json checked ∧
      decision = Voucher.allowing VP granted reason checked.secret := by
    cases hverdict with
    | denied hdenied hkeys =>
      rw [hdenied] at hallowed
      cases hallowed
    | accepted hlocal _ _ _ _ _ _ hd => exact ⟨_, _, _, hlocal, hd⟩
    | unknownState hlocal _ _ _ _ _ hd => exact ⟨_, _, _, hlocal, hd⟩
    | unknownKey hlocal _ _ _ hd => exact ⟨_, _, _, hlocal, hd⟩
  obtain ⟨checked, granted, reason, hlocal, rfl⟩ := hchecked
  -- The secret that was checked is the credential's.
  have htext : credential.secret = checked.text := by
    have hget : credential.json.get? "secret" = some (.str credential.secret) := by
      unfold VoucherCredential.json
      simp [Json.get?]
    have heq := hget.symm.trans hlocal.text
    injection heq with heq
    injection heq
  have hsame : checked.secret = secret := by
    have hparsed := hlocal.secret
    rw [← htext, hsecret] at hparsed
    exact (Option.some.inj hparsed).symm
  constructor
  · unfold Voucher.allowing
    rw [hsame, hends]
    rfl
  · exact hlocal.unexpired ends (hsame ▸ hends)

/-! ## The end of a session -/

/-- A time before the end of a clamped session is before the bound that it was clamped to, however long
the configured lifetime is. A session that is created in the last second before the bound ends in
the next one, but no integer lies in between. -/
theorem lt_of_lt_clamp {ttl now t : ℤ} {ends : ℚ} (hnow : (now : ℚ) < ends)
    (ht : t < now + clampTtlToDecision ttl (some (.fin ends)) now) : (t : ℚ) < ends := by
  have hclamp : clampTtlToDecision ttl (some (.fin ends)) now =
      if ttl ≤ ⌊ends⌋ - now then ttl else max 1 (⌊ends⌋ - now) := rfl
  have hfloor : (⌊ends⌋ : ℚ) ≤ ends := Int.floor_le ends
  rw [hclamp] at ht
  have hor : t < ⌊ends⌋ ∨ t ≤ now := by
    split_ifs at ht <;> omega
  rcases hor with hlt | hle
  · have hcast : (t : ℚ) < (⌊ends⌋ : ℚ) := by exact_mod_cast hlt
    exact hcast.trans_le hfloor
  · have hcast : (t : ℚ) ≤ (now : ℚ) := by exact_mod_cast hle
    exact hcast.trans_lt hnow

variable {P : Platform} {O : NapServerOptions} {cb sb : Backend} {h pre pre' : History cb sb}
  {e : Step (machine cb sb)} {id : String} {r s : SessionRecord}

/-- The step that has issued the access token of a session has also given the session its end. -/
def IssuedAt (h : History cb sb) (r : SessionRecord) : Prop :=
  ∃ pre e, Occurs h pre e ∧ r.accessToken = base64Url e.env.draws.secret ∧
    drawnBy e = e.env.draws.strings ∧
    ((∃ draft, e.op = .createForChallenge draft ∧
        r.expiresAt = (createSessionRecord draft e.env.draws).expiresAt) ∨
      ∃ id draft, e.op = .rotateRefreshToken id draft)

/-- It stays so. -/
theorem IssuedAt.mono (hi : IssuedAt pre r) (hp : pre <+: h) : IssuedAt h r := by
  obtain ⟨pre0, e, ho, hrest⟩ := hi
  exact ⟨pre0, e, ho.mono hp, hrest⟩

/-- So it is with every session that is held. -/
theorem issuedAt_of_valid (hv : (server P O cb sb).Valid h) (hr : rowsAt h id = some r) :
    IssuedAt h r := by
  refine hv.rec_on (P := fun h => ∀ id r, rowsAt h id = some r → IssuedAt h r)
    (fun id r hr => ?_) (fun h e _ hv' ih id r' hr' => ?_) id r hr
  · exact absurd (sound_nil.keys_drawn id r hr r.sessionId (by simp)) (by simp)
  have hp := List.prefix_append h [e]
  rcases rowsAt_cases hv' hr' with hr | ⟨draft, hev, rfl, -⟩ | ⟨draft, r, hev, rfl, hr⟩ |
    ⟨-, r, t, rfl, hr⟩
  · exact (ih id r' hr).mono hp
  · have hdraw : drawnBy e = e.env.draws.strings := by rw [drawnBy_eq hev]; rfl
    exact ⟨h, e, Occurs.last, rfl, hdraw, Or.inl ⟨draft, op_of_event hev, rfl⟩⟩
  · have hdraw : drawnBy e = e.env.draws.strings := by rw [drawnBy_eq hev]; rfl
    exact ⟨h, e, Occurs.last, rfl, hdraw, Or.inr ⟨id, draft, op_of_event hev⟩⟩
  · exact (ih id r hr).mono hp

/-- A session that has the access token of its login has the end that the login gave it. -/
theorem expiresAt_of_login (hv : (server P O cb sb).Valid h) (hp : pre' <+: h)
    (hr : rowsAt pre' id = some r) (ho : Occurs h pre e) {draft : SessionDraft}
    (hop : e.op = .createForChallenge draft)
    (htoken : r.accessToken = (createSessionRecord draft e.env.draws).accessToken) :
    r.expiresAt = (createSessionRecord draft e.env.draws).expiresAt := by
  obtain ⟨pre0, e0, ho0, htoken0, hdraw0, hissued⟩ :=
    (issuedAt_of_valid (hv.restrict hp) hr).mono hp
  have hdraw : drawnBy e = e.env.draws.strings := by
    unfold drawnBy
    rw [hop]
  -- No other step has drawn the token.
  obtain ⟨-, rfl⟩ : pre = pre0 ∧ e = e0 := by
    apply drawn_unique hv ho ho0 (t := r.accessToken)
    · rw [hdraw, htoken]
      simp [Draws.strings, createSessionRecord]
    · rw [hdraw0, htoken0]
      simp [Draws.strings]
  rcases hissued with ⟨draft', hop', hends⟩ | ⟨id', draft', hop'⟩
  · have heq := hop.symm.trans hop'
    injection heq with heq
    rw [heq]
    exact hends
  · cases hop.symm.trans hop'

/-! ## A voucher's sessions -/

/-- A session that was created from the decision on a voucher never outlives it: a guard that admits the
access token of the login has compared its clock with the session's end before the voucher's expiry. -/
theorem voucher_bounds_login {c : (server P O cb sb).Config} (hc : (server P O cb sb).Reachable c)
    (ho : Occurs c.history pre e) {draft : SessionDraft} (hop : e.op = .createForChallenge draft)
    {npub pubkey : String} {credential : VoucherCredential} {now resolvedAt : ℤ}
    {session : Option (List String × List String)} {decision : AclDecision}
    (hasked : ⟨.resolve npub pubkey ⟨some credential, now, session⟩, (decision, resolvedAt)⟩ ∈
      (machine cb sb).own e.tid pre)
    (hdecides : Voucher.Decides VP VO npub pubkey ⟨some credential, now, session⟩ decision)
    {secret : Voucher.ParsedVoucherSecret}
    (hsecret : Voucher.parseVoucherSecret VP credential.secret = some secret) {ends : ℚ}
    (hends : secret.expiresAt VP = some ends) {tid : ℕ} {req : GuardRequest} {hasResolver : Bool}
    {context : GuardContext}
    (hr : Returned c tid (.loadGuardContext req hasResolver) (.guarded context))
    (hs : context.session? = some s)
    (htoken : s.accessToken = (createSessionRecord draft e.env.draws).accessToken) :
    ∃ pre' e' token, Occurs c.history pre' e' ∧ e'.tid = tid ∧ e'.op = .getByAccessToken token ∧
      (e'.env.now : ℚ) < ends := by
  have hv := System.Valid.of_reachable hc
  -- The login has asked once, and has made its session of the answer.
  obtain ⟨th, input, j, -, -, hholds, hown, rfl⟩ := create_warrant hc ho hop
  rw [hown] at hasked
  obtain ⟨rfl, rfl⟩ : now = j.now ∧ decision = j.decision := by
    simp only [Judgement.opening, List.mem_cons, Sigma.mk.injEq, reduceCtorEq, false_and,
      Op.resolve.injEq, AclResolutionContext.mk.injEq, List.not_mem_nil, or_false, false_or]
      at hasked
    obtain ⟨⟨-, -, -, hnow, -⟩, hanswer⟩ := hasked
    exact ⟨hnow, congrArg Prod.fst (eq_of_heq hanswer)⟩
  obtain ⟨hbound, hunexpired⟩ := hdecides.expiresAt hholds.allowed hsecret hends
  -- The guard has found that session, before its end.
  obtain ⟨hnone, hlookup⟩ := guard_lookup hc hr
  cases hpresented : presentedToken req with
  | none =>
    rw [hnone hpresented] at hs
    cases hs
  | some token =>
    obtain ⟨pre', e', found, ho', htid, hev, hcontext⟩ := hlookup token hpresented
    obtain ⟨hrow, -, -, hlt⟩ := held_of_admitted (hv.restrict ho') hev (hcontext ▸ hs)
    have hend : s.expiresAt =
        j.now + clampTtlToDecision (O.sessionTtlSeconds.getD 900) (some (.fin ends)) j.now := by
      rw [expiresAt_of_login hv ho'.before hrow ho hop htoken, ← hbound]
      rfl
    rw [hend] at hlt
    exact ⟨pre', e', token, ho', htid, op_of_event hev, lt_of_lt_clamp hunexpired hlt⟩

/-! ## A login with a voucher

The request of a client that presents the voucher of `Voucher.Sample`, whose event and signature are those
of the same private key 3. -/

namespace VoucherLogin

/-- The credential. -/
def credential : VoucherCredential where
  mintUrl := Voucher.Sample.origin
  keysetId := "00ad268c4d1f5826"
  secret := Voucher.Sample.secret
  signature := Voucher.Sample.signature
  amount := 8
  dleq := Voucher.Sample.dleq
  witness := none

/-- The hash of the request body. -/
def payload : String := "00b084002e9fa6d91edaa86d5f881b9e2b4ed1794ea0363d9daae60a7e75a2fe"

/-- Its bytes. -/
def bodyHash : List UInt8 :=
  [0, 176, 132, 0, 46, 159, 166, 217, 30, 218, 168, 109, 95, 136, 27, 158, 43, 78, 209, 121, 78, 160, 54, 61, 157,
    170, 230, 10, 126, 117, 162, 254]

/-- The tags of the event. -/
def tags : List (List String) :=
  [["u", Sample.url], ["method", "POST"], ["payload", payload], ["challenge", Sample.challengeText],
    ["challenge_id", Sample.challengeId]]

/-- The event. -/
def event : Nip98Event where
  id := "6d4c9f822a210ed71bc2b4aa71916a0e0b159165b96a6cff6714a3e260b7139a"
  pubkey := Sample.pubkey
  createdAt := JsonNumber.ofInt 1000
  kind := JsonNumber.ofInt 27235
  tags := tags
  content := ""
  sig := "83a33e0f92acae842e7468db265772265f558cf7e76af6d92ace5f733251d731" ++
    "27b62b8c89be18e876ec11a7d3d6ef48b68ed5b721c5eb19d19a70c17da0c73e"

/-- The event as a JSON value. -/
def eventJson : Json :=
  .obj [("kind", .num (JsonNumber.ofInt 27235)), ("created_at", .num (JsonNumber.ofInt 1000)),
    ("tags", .arr (tags.map fun tag => .arr (tag.map .str))), ("content", .str ""),
    ("pubkey", .str event.pubkey), ("id", .str event.id), ("sig", .str event.sig)]

/-- The event as a JSON text. -/
def eventText : String :=
  "\x7b\"kind\":27235,\"created_at\":1000,\"tags\":[[\"u\",\"https://api.example.com/auth/compl" ++
  ("ete\"],[\"method\",\"POST\"],[\"payload\",\"00b084002e9fa6d91edaa86d5f881b9e2b4ed1794ea0363d" ++
    "9daae60a7e75a2fe\"],[\"challenge\",\"AgICAgICAgICAgICAgICAgICAgICAgICAgICAgICAgI\"],[\"chall" ++
    "enge_id\",\"AQEBAQEBAQEBAQEB\"]],\"content\":\"\",\"pubkey\":\"f9308a019258c31049344f85f89d5" ++
    "229b531c845836f99b08601f113bce036f9\",\"id\":\"6d4c9f822a210ed71bc2b4aa71916a0e0b159165b96a6" ++
    "cff6714a3e260b7139a\",\"sig\":\"83a33e0f92acae842e7468db265772265f558cf7e76af6d92ace5f733251" ++
    "d73127b62b8c89be18e876ec11a7d3d6ef48b68ed5b721c5eb19d19a70c17da0c73e\"\x7d")

/-- The request body as a JSON value. -/
def bodyJson : Json :=
  .obj [("challenge_id", .str Sample.challengeId), ("voucher", credential.json)]

/-- The request body as a JSON text. -/
def bodyText : String :=
  "\x7b\"challenge_id\":\"AQEBAQEBAQEBAQEB\",\"voucher\":\x7b\"mint_url\":\"https://mint.exampl" ++
  ("e.com\",\"keyset_id\":\"00ad268c4d1f5826\",\"secret\":\"[\\\"P2PK_VOUCHER\\\",\x7b\\\"nonce" ++
    "\\\":\\\"00\\\",\\\"data\\\":\\\"02f9308a019258c31049344f85f89d5229b531c845836f99b08601f113b" ++
    "ce036f9\\\",\\\"tags\\\":[[\\\"voucher_id\\\",\\\"v-1\\\"],[\\\"issuer\\\",\\\"acme\\\"],[\\" ++
    "\"unit\\\",\\\"sat\\\"],[\\\"face_value\\\",\\\"1000\\\"],[\\\"expires_at\\\",\\\"2000\\\"]," ++
    "[\\\"issuer_sig\\\",\\\"4f5fe50b4b3b3bf573ce7907538b465a5f5309453cd57415874653692447951baa45" ++
    "44ecdfcb11cd95beea875111a29adfba81294a67361e50fae5677b4b37be\\\"],[\\\"issuer_pubkey\\\",\\" ++
    "\"2f8bde4d1a07209355b4a7250a5c5128e88b84bddc619ab7cba8d569b240efe4\\\"]]\x7d]\",\"signature" ++
    "\":\"039b4da2daf3ac60acad119d5a07ca801689f981567ce9611de664687e49e6c13d\",\"amount\":8,\"dle" ++
    "q\":\x7b\"e\":\"f152871cb25f35ccb6287a700aaa9aadd110a4c08bb98328fa14752f419651a8\",\"s\":\"9" ++
    "941b1c8e09a7898fb1b59104aaa3ac8575b53dbb65ed4b857a0fcfde9d6b41f\",\"r\":\"000000000000000000" ++
    "000000000000000000000000000000000000000000000b\"\x7d\x7d\x7d")

/-- The texts differ in their third characters. -/
theorem bodyText_ne_eventText : bodyText ≠ eventText := by
  have hbody : bodyText.toList[2]? = some 'c' := Sample.third_append _ (by simp)
  have hevent : eventText.toList[2]? = some 'k' := Sample.third_append _ (by simp)
  intro h
  rw [h, hevent] at hbody
  exact absurd hbody (by decide)

/-- An event has a text. -/
theorem eventText_ne_empty : eventText ≠ "" := by
  have hevent : eventText.toList[2]? = some 'k' := Sample.third_append _ (by simp)
  intro h
  rw [h] at hevent
  exact absurd hevent (by decide)

-- From here on the texts are known only by their names.
attribute [local irreducible] eventText bodyText

/-- `JSON.parse`, of the texts of the request. -/
def jsonParse (text : String) : Option Json :=
  if text = eventText then some eventJson
  else if text = bodyText then some bodyJson
  else none

/-- SHA-256, of the body of the request. -/
def sha256 (bytes : List UInt8) : List UInt8 :=
  if bytes = utf8Bytes bodyText then bodyHash else []

/-- The server's platform. -/
def platform : Platform :=
  { Sample.platform with
    jsonParse := jsonParse
    verifyEvent := fun e => e = event
    sha256 := sha256 }

/-- The client. -/
def client : Client where
  stringifyBody _ := bodyText
  stringifyEvent _ := eventText
  signEvent template := { template with id := event.id, pubkey := event.pubkey, sig := event.sig }

/-- The request that the client builds. -/
def request : BuiltAuthCompleteRequest :=
  buildAuthCompleteRequest platform client Sample.initResponse (JsonNumber.ofInt 1000) false
    (some credential)

/-- The hash of the body. -/
theorem sha256Hex_bodyText : sha256Hex platform (utf8Bytes bodyText) = payload := by
  have hhash : sha256 (utf8Bytes bodyText) = bodyHash := if_pos rfl
  have hplatform : platform.sha256 = sha256 := rfl
  unfold sha256Hex
  rw [hplatform, hhash]
  decide

/-- The event of the request is the one that was signed. -/
theorem request_event : request.event = event := by
  unfold request buildAuthCompleteRequest client
  dsimp only
  rw [sha256Hex_bodyText]
  rfl

/-- The server's platform reads the request. -/
theorem reads_request : Reads platform client request where
  decode := Sample.textDecode_utf8Bytes
  body := by
    have hparse : jsonParse bodyText = some bodyJson := by
      unfold jsonParse
      rw [if_neg bodyText_ne_eventText, if_pos rfl]
    have htext : platform.textDecode request.rawBody = bodyText :=
      Sample.textDecode_utf8Bytes bodyText
    have hplatform : platform.jsonParse = jsonParse := rfl
    rw [parseAuthCompleteRequest, htext, hplatform, hparse]
    rfl
  nonempty := eventText_ne_empty
  event := by
    have hparse : jsonParse eventText = some eventJson := if_pos rfl
    have hplatform : platform.jsonParse = jsonParse := rfl
    have htext : client.stringifyEvent request.event = eventText := rfl
    rw [htext, hplatform, hparse, request_event]
    rfl
  signature := by
    have hplatform : ∀ e, platform.verifyEvent e = decide (e = event) := fun _ => rfl
    rw [request_event, hplatform]
    exact decide_eq_true rfl

/-- Sessions of an hour, which the voucher cuts short, and nothing else configured. -/
def options : NapServerOptions := { Sample.options with sessionTtlSeconds := some 3600 }

/-- The request body. -/
def body : AuthCompleteRequest := ⟨Sample.challengeId, false, some credential⟩

/-- The proof of the request. -/
def proof : VerifiedNip98Completion :=
  ⟨event, Sample.challengeText, Sample.challengeId, payload⟩

/-- The proof is valid when the event is made. -/
theorem valid_request :
    Nip98Valid platform (proofInput options (request.input none) body 1000) proof := by
  have hproof : proof = request.proof Sample.initResponse := by
    unfold BuiltAuthCompleteRequest.proof
    rw [request_event]
    show proof = ⟨event, _, _, sha256Hex platform (utf8Bytes bodyText)⟩
    rw [sha256Hex_bodyText]
    rfl
  rw [hproof]
  refine built_valid rfl (fun template => ⟨rfl, rfl, rfl, rfl⟩) reads_request ?_ ?_ ?_ ?_
  · decide
  · decide
  · exact Sample.toUpperCase_post
  · exact validateCreatedAtWindow_ofInt.mpr (by decide)

/-- The programs of calls whose completion is that of the client. -/
def program : Call → Program Outcome
  | .verifyCompletion input => completeProven options input body proof
  | call => NapAuth.body platform options call

/-- The call that completes the login. -/
def complete : Call := .verifyCompletion (request.input none)

/-- It runs the program of its call. -/
theorem program_complete : program complete = NapAuth.body platform options complete :=
  (verifyCompletion_proven reads_request.body valid_request).symm

/-- The server, over the stores in memory. -/
abbrev site : System Res Call Outcome := server platform options .memory .memory

/-- What the environment contributes: the resolver's decision, and the given random bytes. -/
def env (now : ℤ) (n : ℕ) : Env := { Sample.env now n with acl := Voucher.Sample.decision }

/-- A login, and a guard that is presented its access token in the voucher's last second. -/
def moves : List site.Label :=
  .start (Sample.issue none) :: List.replicate 4 (.run 0 (env 1000 0)) ++
    (.start complete :: List.replicate 8 (.run 1 (env 1000 1))) ++
    [.start (Sample.guard (Sample.accessToken 1)), .run 2 (env 1999 2)]

/-- Whether an event is the question to the resolver and its answer. -/
def asks : Event Res → Bool
  | ⟨.resolve npub pubkey context, (answer, now)⟩ => npub = Sample.npub && pubkey = Sample.pubkey &&
    context = ⟨some credential, 1000, none⟩ && answer = Voucher.Sample.decision && now = 1000
  | _ => false

/-- The access token of the session that a step creates. -/
def created? (e : Step (machine .memory .memory)) : Option String :=
  match e.op with
  | .createForChallenge draft => some (createSessionRecord draft e.env.draws).accessToken
  | _ => none

/-- The session that the guard acts for. -/
def guarded? (c : site.Config) : Option SessionRecord :=
  match c.returned? 2 with
  | some (.guarded context) => context.session?
  | _ => none

/-- What is to be computed of the run. -/
def expected (c : site.Config) : Bool :=
  (guarded? c).any fun s : SessionRecord =>
    c.history[9]?.any fun e : Step (machine .memory .memory) =>
      ((machine .memory .memory).own e.tid (c.history.take 9)).any asks &&
        created? e == some s.accessToken

/-- A run of it. -/
theorem exists_run : ∃ c, site.Reachable c ∧
    c.calls = [Sample.issue none, complete, Sample.guard (Sample.accessToken 1)] ∧
    expected c = true := by
  have hrun : (System.replay program site.initial moves).any expected = true := by decide +kernel
  refine System.exists_replay ?_ hrun
  intro call hcall
  have hmem : call ∈ [Sample.issue none, complete, Sample.guard (Sample.accessToken 1)] := hcall
  simp only [List.mem_cons, List.not_mem_nil, or_false] at hmem
  rcases hmem with rfl | rfl | rfl
  · rfl
  · exact program_complete
  · rfl

/-- The voucher is accepted, normally. -/
theorem decides : Voucher.Decides Voucher.Sample.platform (Voucher.Sample.options .deny)
    Sample.npub Sample.pubkey ⟨some credential, 1000, none⟩ Voucher.Sample.decision := by
  obtain ⟨c, hc, th, hth, hcall, hprog⟩ := Voucher.Sample.exists_login
  exact ⟨c, 0, th, hc, hth, hcall, hprog⟩

/-- Its expiry. -/
theorem expiresAt : Voucher.Sample.parsed.expiresAt Voucher.Sample.platform = some 2000 := by
  decide

end VoucherLogin

open VoucherLogin in
/-- A login with a voucher, and a guard that admits its token before the voucher expires. -/
theorem voucher_bounds_login_last : ∃ (c : site.Config) (context : GuardContext) (s : SessionRecord),
    site.Reachable c ∧ Returned c 2 (Sample.guard (Sample.accessToken 1)) (.guarded context) ∧
    context.session? = some s ∧
    ∃ pre e token, Occurs c.history pre e ∧ e.tid = 2 ∧ e.op = .getByAccessToken token ∧
      (e.env.now : ℚ) < 2000 := by
  obtain ⟨c, hc, hcalls, hp⟩ := exists_run
  obtain ⟨s, hs, hcreated⟩ := (Option.any_eq_true _ _).mp hp
  obtain ⟨e, he, hboth⟩ := (Option.any_eq_true _ _).mp hcreated
  rw [Bool.and_eq_true, beq_iff_eq] at hboth
  obtain ⟨hasked, htoken⟩ := hboth
  -- The guard's context.
  obtain ⟨context, hr, hcontext⟩ : ∃ context,
      Returned c 2 (Sample.guard (Sample.accessToken 1)) (.guarded context) ∧
      context.session? = some s := by
    unfold guarded? at hs
    split at hs
    · rename_i context hout
      exact ⟨context, System.thread_of_returned (by rw [hcalls]; rfl) hout, hs⟩
    · cases hs
  -- The login's session.
  obtain ⟨draft, hop, htoken⟩ : ∃ draft, e.op = .createForChallenge draft ∧
      s.accessToken = (createSessionRecord draft e.env.draws).accessToken := by
    unfold created? at htoken
    split at htoken
    · rename_i draft hop
      exact ⟨draft, hop, (Option.some.inj htoken).symm⟩
    · cases htoken
  -- And its question.
  obtain ⟨ev, hev, hasks⟩ := List.any_eq_true.mp hasked
  unfold asks at hasks
  split at hasks
  · rename_i npub pubkey answered answer now
    simp only [Bool.and_eq_true, decide_eq_true_eq] at hasks
    obtain ⟨⟨⟨⟨rfl, rfl⟩, rfl⟩, rfl⟩, rfl⟩ := hasks
    exact ⟨c, context, s, hc, hr, hcontext, voucher_bounds_login hc (occurs_take he) hop hev decides
      (Voucher.Sample.localChecks .deny Voucher.Sample.dleq Voucher.Sample.signature).secret expiresAt
      hr hcontext htoken⟩
  · cases hasks

end NapAuth

import NapAuth.Client
import NapAuth.Server.Sessions

/-!
# Completing a login

What a successful `verifyCompletion` means, in every run of the server. The events of the call say
what it has read and decided (`Accepted`); the lemmas of the first section say what that means for
the stores: which challenge was read, which step has redeemed it, and which session is held for it.
-/

namespace NapAuth

open Interleaving

variable {P : Platform} {O : NapServerOptions} {cb sb : Backend} {h pre : History cb sb}
  {e : Step (machine cb sb)} {tid : ℕ} {input : VerifyCompletionInput} {id : String}
  {j : Judgement} {s : SessionRecord}

/-! ## The events of a success -/

namespace Accepted

variable {xs : List (Event Res)}

/-- A success has passed every check. -/
theorem holds (ha : Accepted P O input j s xs) : j.Holds P O input := by
  cases ha with
  | redeemed holds => exact holds
  | repeated holds repeats => exact holds

/-- Its first events are those of its judgement. -/
theorem opening_first (ha : Accepted P O input j s xs) : j.opening input <+: xs := by
  cases ha <;> exact List.prefix_append _ _

/-- Its time is that of its judgement. -/
theorem requestTime_eq (ha : Accepted P O input j s xs) : requestTime xs = some j.now := by
  cases ha <;> rfl

/-- The ACL resolver's only verdict is that of its judgement. -/
theorem resolve_eq (ha : Accepted P O input j s xs) {npub pubkey : String}
    {context : AclResolutionContext} {verdict : AclDecision × ℤ}
    (hmem : ⟨.resolve npub pubkey context, verdict⟩ ∈ xs) : verdict = (j.decision, j.resolvedAt) := by
  cases ha <;>
  · simp only [Judgement.opening, List.cons_append, List.nil_append, List.mem_cons,
      Sigma.mk.injEq, reduceCtorEq, false_and, Op.resolve.injEq, List.not_mem_nil, or_false,
      false_or] at hmem
    obtain ⟨⟨rfl, rfl, rfl⟩, heq⟩ := hmem
    exact eq_of_heq heq

/-- It attempts to redeem no challenge but that of its judgement. -/
theorem redeem_eq (ha : Accepted P O input j s xs) {params : RedeemParams} {status : RedeemStatus}
    (hmem : ⟨.redeem id params, status⟩ ∈ xs) : id = j.challenge.challengeId := by
  cases ha <;>
  · simp only [Judgement.opening, List.cons_append, List.nil_append, List.mem_cons,
      Sigma.mk.injEq, reduceCtorEq, false_and, Op.redeem.injEq, List.not_mem_nil, or_false,
      false_or] at hmem
    exact hmem.1.1

/-- It has read the challenge that its body names. -/
theorem read (ha : Accepted P O input j s ((machine cb sb).own tid h))
    (hv : (server P O cb sb).Valid h) :
    ∃ pre, pre <+: h ∧ challengeAt pre j.body.challengeId = some j.challenge ∧
      j.challenge.challengeId = j.body.challengeId := by
  have hmem : (⟨.challengeGet j.proof.challengeId, some j.challenge⟩ : Event Res) ∈
      (machine cb sb).own tid h := ha.opening_first.mem (by simp [Judgement.opening])
  obtain ⟨pre, e, ho, -, hev⟩ := mem_own.mp hmem
  have hread := challengeAt_of_get hev
  rw [ha.holds.proven.challengeId_eq] at hread
  exact ⟨pre, ho.before, hread, challengeAt_id (hv.restrict ho.before) hread⟩

/-- Its challenge was redeemed by its event, for its session. -/
theorem redeem (ha : Accepted P O input j s ((machine cb sb).own tid h))
    (hv : (server P O cb sb).Valid h) :
    ∃ pre e params, Occurs h pre e ∧
      (machine cb sb).event pre e = ⟨.redeem j.challenge.challengeId params, .redeemed⟩ ∧
      params.eventId = j.proof.event.id ∧ params.sessionId = s.sessionId := by
  generalize hxs : (machine cb sb).own tid h = xs at ha
  cases ha with
  | redeemed holds =>
    have hmem : (⟨.redeem j.challenge.challengeId (j.redeemParams O s), .redeemed⟩ : Event Res) ∈
        (machine cb sb).own tid h := by rw [hxs]; simp
    obtain ⟨pre, e, ho, -, hev⟩ := mem_own.mp hmem
    exact ⟨pre, e, _, ho, hev, rfl, rfl⟩
  | @repeated created record holds repeats =>
    have hget : (⟨.challengeGet j.challenge.challengeId, some record⟩ : Event Res) ∈
        (machine cb sb).own tid h := by rw [hxs]; simp
    have hsession : (⟨.getBySessionId (record.redeemedSessionId.getD ""), some s⟩ : Event Res) ∈
        (machine cb sb).own tid h := by rw [hxs]; simp
    obtain ⟨pre1, e1, ho1, -, hev1⟩ := mem_own.mp hget
    obtain ⟨pre2, e2, ho2, -, hev2⟩ := mem_own.mp hsession
    simp only [repeatable, Bool.and_eq_true, beq_iff_eq] at repeats
    obtain ⟨⟨heventId, htruthy⟩, -⟩ := repeats
    obtain ⟨sid, hsid, -⟩ := truthyString_iff.mp htruthy
    -- What is on record was put there by the redemption.
    obtain ⟨pre, e, params, ho, hev, hred⟩ :=
      exists_redeem (hv.restrict ho1.before) (challengeAt_of_get hev1) (by simp [hsid])
    have hv2 := hv.restrict ho2.before
    have hrow := (rowsAt_of_getBySessionId hv2 hev2).1
    refine ⟨pre, e, params, ho.mono ho1.before, hev, ?_, ?_⟩
    · exact Option.some.inj (hred.eventId.symm.trans heventId)
    · rw [rowsAt_id hv2 hrow, hred.sessionId, Option.getD_some]

end Accepted

/-- The session of a redemption is a session for the challenge. -/
theorem challengeId_of_redeem (hv : (server P O cb sb).Valid h) (ho : Occurs h pre e)
    {params : RedeemParams} (hop : e.op = .redeem id params) {pre' : History cb sb}
    (hp : pre' <+: h) (hr : rowsAt pre' params.sessionId = some s) : s.challengeId = id := by
  have hj := justified hv ho
  rw [hop] at hj
  obtain ⟨-, -, draft, session, hmem, hid, hsession⟩ := hj
  obtain ⟨pre1, e1, ho1, -, hev1⟩ := mem_own.mp hmem
  have hv1 := hv.restrict (ho1.mono ho.before)
  obtain ⟨hrow, hcid⟩ := rowsAt_of_createForChallenge hv1 hev1
  have hsame := asCreated_agree hv hp (ho1.mono ho.before) hr (hsession ▸ hrow)
  exact (congrArg SessionRecord.challengeId hsame :).trans (hcid.trans hid)

/-- A success has turned to the session store for its challenge, and its session was held for that
challenge then or later. -/
theorem Accepted.create (ha : Accepted P O input j s ((machine cb sb).own tid h))
    (hv : (server P O cb sb).Valid h) :
    ∃ pre e p, Occurs h pre e ∧ e.tid = tid ∧ e.op = .createForChallenge (j.draft O) ∧
      pre ++ [e] <+: p ∧ p <+: h ∧ rowsAt p s.sessionId = some s ∧
      s.challengeId = j.challenge.challengeId := by
  obtain ⟨pre0, e0, params, ho0, hev0, -, hsid⟩ := ha.redeem hv
  generalize hxs : (machine cb sb).own tid h = xs at ha
  cases ha with
  | redeemed holds =>
    obtain ⟨pre, e, ho, htid, hev, -⟩ := exists_occurs_of_own hxs
    obtain ⟨hrow, hcid⟩ := rowsAt_of_createForChallenge (hv.restrict ho) hev
    exact ⟨pre, e, pre ++ [e], ho, htid, op_of_event hev, List.prefix_rfl, ho, hrow, hcid⟩
  | @repeated created record holds repeats =>
    have hsplit : (machine cb sb).own tid h = (j.opening input ++
        [⟨.createForChallenge (j.draft O), some created⟩,
          ⟨.redeem j.challenge.challengeId (j.redeemParams O created), .alreadyRedeemed⟩,
          ⟨.challengeGet j.challenge.challengeId, some record⟩]) ++
        ⟨.getBySessionId (record.redeemedSessionId.getD ""), some s⟩ ::
          [⟨.log (successEvent j.challenge.challengeId s.sessionId true), ()⟩] := by
      rw [hxs]; simp
    -- The session was read after the session store had been asked.
    obtain ⟨p, e2, ho2, -, hev2, hown⟩ := exists_occurs_of_own hsplit
    obtain ⟨pre, e, ho, htid, hev, -⟩ := exists_occurs_of_own hown
    have hv2 := hv.restrict ho2.before
    have hrow := (rowsAt_of_getBySessionId hv2 hev2).1
    have hrow' : rowsAt p s.sessionId = some s := by rw [rowsAt_id hv2 hrow]; exact hrow
    exact ⟨pre, e, p, ho.mono ho2.before, htid, op_of_event hev, ho, ho2.before, hrow',
      challengeId_of_redeem hv ho0 (op_of_event hev0) ho2.before (hsid ▸ hrow')⟩

/-! ## Soundness -/

/-- What a request has to prove: its header is an event that the principal of the challenge has
signed, in time, for this request and this challenge. -/
structure Proves (P : Platform) (O : NapServerOptions) (input : VerifyCompletionInput)
    (challenge : ChallengeRecord) (now : ℤ) (event : Nip98Event) : Prop where
  /-- The header decodes to the event. -/
  decoded : parseNostrAuthorizationHeader P (input.authorization.getD "") = some event
  /-- Its signature is valid. -/
  signature : P.verifyEvent event = true
  /-- It was signed by the key that the challenge was issued to. -/
  signer : event.pubkey = challenge.pubkey
  /-- It is a NIP-98 event. -/
  kind : event.kind = JsonNumber.ofInt 27235
  /-- It has no content. -/
  content : event.content = ""
  /-- Its only `u` tag is the server's URL. -/
  url : ∃ u, HasSingleTag event "u" u ∧ exactUrlMatch P u input.url = true
  /-- Its only `method` tag is the request's method. -/
  method : HasSingleTag event "method" (P.toUpperCase input.method)
  /-- Its only `payload` tag is the hash of the request's body. -/
  payload : HasSingleTag event "payload" (sha256Hex P input.rawBody)
  /-- Its only `challenge` tag is the text of the challenge. -/
  quoted : HasSingleTag event "challenge" challenge.challenge
  /-- Its only `challenge_id` tag is the id of the challenge. -/
  named : HasSingleTag event "challenge_id" challenge.challengeId
  /-- It was made within the clock skew and within the lifetime of the challenge. -/
  window : ∃ t : ℚ, event.createdAt.val = .fin t ∧
    |(now : ℚ) - t| ≤ (O.maxClockSkewSeconds.getD 60 : ℤ) ∧
    (challenge.issuedAt - O.lowerBoundGraceSeconds.getD 30 : ℤ) ≤ t ∧
    t ≤ (challenge.expiresAt + O.upperBoundGraceSeconds.getD 5 : ℤ)

/-- The challenge was redeemed for a session while it was alive: it was neither expired nor failed,
and it had not ended by the clock of the call that has redeemed it. -/
def RedeemedAlive (h : History cb sb) (challenge : ChallengeRecord) (sessionId : String) : Prop :=
  ∃ pre e params record, Occurs h pre e ∧
    (machine cb sb).event pre e = ⟨.redeem challenge.challengeId params, .redeemed⟩ ∧
    params.sessionId = sessionId ∧ challengeAt pre challenge.challengeId = some record ∧
    record.asIssued = challenge.asIssued ∧ record.state = .issued ∧
    HasRead ((machine cb sb).own e.tid pre) params.now ∧ params.now ≤ challenge.expiresAt

/-- A proof that has passed the checks proves what it has to. -/
theorem Judgement.Holds.proves (hj : j.Holds P O input)
    (hid : j.challenge.challengeId = j.body.challengeId) :
    Proves P O input j.challenge j.now j.proof.event where
  decoded := hj.proven.decoded
  signature := hj.proven.signature
  signer := hj.principal.symm
  kind := hj.proven.kind
  content := hj.proven.content
  url := hj.proven.url
  method := hj.proven.method
  payload := hj.proven.payload_eq ▸ hj.proven.payload
  quoted := hj.quoted ▸ hj.proven.challenge
  named := by
    rw [hid]
    exact hj.proven.challengeId_eq ▸ hj.proven.challengeId
  window := by
    have hskew := hj.proven.window
    simp only [validateCreatedAtWindow, Bool.not_eq_true'] at hskew
    obtain ⟨t, ht, hle⟩ := JsonNumber.absDiff_le hskew
    have hfresh := hj.fresh
    simp only [validateChallengeBoundCreatedAt, ht, JsNumber.lt_fin_ofInt, JsNumber.lt_ofInt_fin,
      Bool.not_eq_true', Bool.or_eq_false_iff, decide_eq_false_iff_not, not_lt] at hfresh
    exact ⟨t, ht, hle, hfresh.1, hfresh.2⟩

/-- Whoever completes a login with the session `s` has proved, at the time of the request, to hold
the key that the challenge was issued to; that key is the principal of the session; and the
challenge was redeemed for the session while it was alive. -/
theorem completion_sound {c : (server P O cb sb).Config} (hc : (server P O cb sb).Reachable c)
    (hr : Returned c tid (.verifyCompletion input) (.ok s)) :
    ∃ event challenge now, Proves P O input challenge now event ∧
      requestTime ((machine cb sb).own tid c.history) = some now ∧
      event.pubkey = s.principalPubkey ∧
      (∃ pre, pre <+: c.history ∧ challengeAt pre challenge.challengeId = some challenge) ∧
      (∃ pre e draft, Occurs c.history pre e ∧ e.op = .challengeCreate draft ∧
        draft.pubkey = event.pubkey ∧
        (challengeRecord draft e.env.draws).challengeId = challenge.challengeId) ∧
      RedeemedAlive c.history challenge s.sessionId := by
  have hv := System.Valid.of_reachable hc
  obtain ⟨j, ha⟩ := (explained hc hr).resolve_left (by simp)
  obtain ⟨p, hp, hread, hid⟩ := ha.read hv
  rw [← hid] at hread
  -- The session is for the challenge, and so for its principal.
  obtain ⟨-, -, p', -, -, -, -, hp', hrow, hcid⟩ := ha.create hv
  have hprincipal := (principal_of_challenge hv hp' hrow hp (hcid ▸ hread)).1
  -- It was created once, and it was redeemed as it was created.
  obtain ⟨pre1, e1, draft, ho1, hop1, hissue⟩ := exists_challengeCreate (hv.restrict hp) hread
  obtain ⟨pre2, e2, params, ho2, hev2, -, hsid⟩ := ha.redeem hv
  obtain ⟨record, hrecord, hstate, halive, -⟩ := redeem_spec hv ho2 hev2
  have hsame := asIssued_agree hv ho2.before hp hrecord hread
  have hread2 := justified hv ho2
  rw [op_of_event hev2] at hread2
  have hend : record.expiresAt = j.challenge.expiresAt :=
    (congrArg ChallengeRecord.expiresAt hsame :)
  refine ⟨j.proof.event, j.challenge, j.now, ha.holds.proves hid, ha.requestTime_eq, ?_,
    ⟨p, hp, hread⟩, ⟨pre1, e1, draft, ho1.mono hp, hop1, ?_, ?_⟩,
    ⟨pre2, e2, params, record, ho2, hev2, hsid, hrecord, hsame, hstate, hread2.1, hend ▸ halive⟩⟩
  · rw [hprincipal, ha.holds.principal]
  · rw [← ha.holds.principal]
    exact (congrArg ChallengeRecord.pubkey hissue :).symm
  · exact (congrArg ChallengeRecord.challengeId hissue :).symm

/-- A login, and its request once more: both succeed, and no session is found that is revoked. -/
theorem Sample.exists_login_again : ∃ c : (server platform options .memory .memory).Config,
    (server platform options .memory .memory).Reachable c ∧
    c.calls = [issue none, complete false none, complete false none] ∧
    (∃ s, session? c 1 = some s) ∧ (∃ s, session? c 2 = some s) ∧
    (∀ e ∈ c.history, 0 < e.env.now) ∧
    ∀ k < c.history.length, ∀ e ∈ c.history[k]?, (match e.op with
      | .createForChallenge draft =>
        (foundAt (c.history.take k) e draft.challenge.challengeId).all fun r => !r.revoked
      | _ => true) = true := by
  obtain ⟨c, hc, hcalls, hp⟩ := exists_run
    (login 1000 1010 false ++ turn (complete false none) 2 10 (env 1020 2))
    [issue none, complete false none, complete false none]
    (fun c : (server platform options .memory .memory).Config =>
      (session? c 1).isSome && (session? c 2).isSome && decide (∀ e ∈ c.history, 0 < e.env.now) &&
      decide (∀ k < c.history.length, ∀ e ∈ c.history[k]?, (match e.op with
        | .createForChallenge draft =>
          (foundAt (c.history.take k) e draft.challenge.challengeId).all fun r => !r.revoked
        | _ => true) = true))
    rfl (computed_login_retry rfl false) (by decide +kernel)
  simp only [Bool.and_eq_true, decide_eq_true_eq, Option.isSome_iff_exists] at hp
  obtain ⟨⟨⟨hfirst, hagain⟩, hpos⟩, hfound⟩ := hp
  exact ⟨c, hc, hcalls, hfirst, hagain, hpos, hfound⟩

open Sample in
/-- A login of one client. -/
theorem completion_sound_login : ∃ (c : (server platform options .memory .memory).Config)
    (s : SessionRecord), (server platform options .memory .memory).Reachable c ∧
    Returned c 1 (complete false none) (.ok s) ∧ ∃ event challenge now,
      Proves platform options ((request false).input none) challenge now event ∧
      event.pubkey = s.principalPubkey ∧ RedeemedAlive c.history challenge s.sessionId := by
  obtain ⟨c, hc, hcalls, ⟨s, hs⟩, -⟩ := exists_login_again
  have hr : Returned c 1 (complete false none) (.ok s) := returned_of_session hcalls rfl hs
  obtain ⟨event, challenge, now, hproves, -, hprincipal, -, -, hredeemed⟩ := completion_sound hc hr
  exact ⟨c, s, hc, hr, event, challenge, now, hproves, hprincipal, hredeemed⟩

/-! ## Single redemption -/

/-- The body of a request names a challenge. -/
def Names (P : Platform) (input : VerifyCompletionInput) (id : String) : Prop :=
  ∃ body, parseAuthCompleteRequest P input.rawBody = some body ∧ body.challengeId = id

/-- A success for a challenge: the challenge was redeemed, by this event and for this session. -/
theorem exists_redeem_of_ok {c : (server P O cb sb).Config} (hc : (server P O cb sb).Reachable c)
    (hr : Returned c tid (.verifyCompletion input) (.ok s)) (hn : Names P input id) :
    ∃ pre e params, Occurs c.history pre e ∧
      (machine cb sb).event pre e = ⟨.redeem id params, .redeemed⟩ ∧
      params.sessionId = s.sessionId ∧
      ∃ event, parseNostrAuthorizationHeader P (input.authorization.getD "") = some event ∧
        event.id = params.eventId := by
  have hv := System.Valid.of_reachable hc
  obtain ⟨j, ha⟩ := (explained hc hr).resolve_left (by simp)
  obtain ⟨body, hparsed, rfl⟩ := hn
  obtain rfl : j.body = body := Option.some.inj (ha.holds.parsed.symm.trans hparsed)
  obtain ⟨-, -, -, hid⟩ := ha.read hv
  obtain ⟨pre, e, params, ho, hev, hevent, hsid⟩ := ha.redeem hv
  exact ⟨pre, e, params, ho, hid ▸ hev, hsid, j.proof.event, ha.holds.proven.decoded, hevent.symm⟩

/-- Every success for a challenge has the same session. -/
theorem sessionId_eq_of_ok {c : (server P O cb sb).Config} (hc : (server P O cb sb).Reachable c)
    {tid' : ℕ} {input' : VerifyCompletionInput} {s' : SessionRecord}
    (hr : Returned c tid (.verifyCompletion input) (.ok s))
    (hr' : Returned c tid' (.verifyCompletion input') (.ok s')) (hn : Names P input id)
    (hn' : Names P input' id) : s.sessionId = s'.sessionId := by
  obtain ⟨pre, e, params, ho, hev, hsid, -⟩ := exists_redeem_of_ok hc hr hn
  obtain ⟨pre', e', params', ho', hev', hsid', -⟩ := exists_redeem_of_ok hc hr' hn'
  -- Both have the session of the one redemption.
  obtain ⟨rfl, rfl⟩ := redeem_unique (System.Valid.of_reachable hc) ho ho' hev hev'
  injection (op_of_event hev).symm.trans (op_of_event hev') with _ hparams
  rw [← hsid, ← hsid', hparams]

/-- A challenge is redeemed at most once. Every success for it has the same session, and comes from
a request with the event that is on record as having redeemed it. -/
theorem single_redemption {c : (server P O cb sb).Config} (hc : (server P O cb sb).Reachable c)
    (id : String) :
    (∀ pre e params pre' e' params', Occurs c.history pre e → Occurs c.history pre' e' →
      (machine cb sb).event pre e = ⟨.redeem id params, .redeemed⟩ →
      (machine cb sb).event pre' e' = ⟨.redeem id params', .redeemed⟩ → pre = pre' ∧ e = e') ∧
    (∀ tid tid' input input' s s', Returned c tid (.verifyCompletion input) (.ok s) →
      Returned c tid' (.verifyCompletion input') (.ok s') → Names P input id →
      Names P input' id → s.sessionId = s'.sessionId) ∧
    (∀ tid input s, Returned c tid (.verifyCompletion input) (.ok s) → Names P input id →
      ∃ event, parseNostrAuthorizationHeader P (input.authorization.getD "") = some event ∧
        (∃ pre e params, Occurs c.history pre e ∧
          (machine cb sb).event pre e = ⟨.redeem id params, .redeemed⟩ ∧
          params.eventId = event.id) ∧
        ∀ record, challengeAt c.history id = some record →
          record.redeemedEventId = some event.id) := by
  have hv := System.Valid.of_reachable hc
  refine ⟨fun pre e params pre' e' params' ho ho' hev hev' => redeem_unique hv ho ho' hev hev',
    fun tid tid' input input' s s' hr hr' hn hn' => ?_, fun tid input s hr hn => ?_⟩
  · exact sessionId_eq_of_ok hc hr hr' hn hn'
  · obtain ⟨pre, e, params, ho, hev, -, event, hevent, hid⟩ := exists_redeem_of_ok hc hr hn
    refine ⟨event, hevent, ⟨pre, e, params, ho, hev, hid.symm⟩, fun record hrecord => ?_⟩
    rw [hid]
    exact (redeemed_persists hv ho hev hrecord).eventId

open Sample in
/-- A login, and its request once more. -/
theorem single_redemption_retry : ∃ (c : (server platform options .memory .memory).Config)
    (s s' : SessionRecord), (server platform options .memory .memory).Reachable c ∧
    Returned c 1 (complete false none) (.ok s) ∧ Returned c 2 (complete false none) (.ok s') ∧
    s.sessionId = s'.sessionId := by
  obtain ⟨c, hc, hcalls, ⟨s, hs⟩, ⟨s', hs'⟩, -⟩ := exists_login_again
  have hr : Returned c 1 (complete false none) (.ok s) := returned_of_session hcalls rfl hs
  have hr' : Returned c 2 (complete false none) (.ok s') := returned_of_session hcalls rfl hs'
  have hnames : Names platform ((request false).input none) challengeId :=
    ⟨Sample.body false, (reads_request false).body, rfl⟩
  exact ⟨c, s, s', hc, hr, hr',
    (single_redemption hc challengeId).2.1 1 2 _ _ s s' hr hr' hnames hnames⟩

/-! ## What a redemption hands out -/

/-- A session reflects a request: it has a step-up token if the request asked for one, and the roles
and permissions that the ACL resolver has decided. -/
structure Reflects (s : SessionRecord) (body : AuthCompleteRequest) (decision : AclDecision) :
    Prop where
  /-- There is a step-up token if one was asked for. -/
  stepUp : s.stepUpToken.isSome = true ↔ body.stepUp = true
  /-- The roles are those of the decision. -/
  roles : s.roles = decision.roles
  /-- So are the permissions. -/
  permissions : s.permissions = decision.permissions

/-- A session that a completion makes for itself reflects the request. -/
theorem reflects_createSessionRecord (draws : Draws) :
    Reflects (createSessionRecord (j.draft O) draws) j.body j.decision := by
  refine ⟨?_, rfl, rfl⟩
  simp only [createSessionRecord, Judgement.draft, completionDraft]
  cases j.body.stepUp <;> simp

/-- The session of a completion that has redeemed the challenge reflects the request exactly when
the completion found no session for the challenge, or one that reflects the request as well. -/
theorem redemption_reflects_iff {c : (server P O cb sb).Config}
    (hc : (server P O cb sb).Reachable c) (hr : Returned c tid (.verifyCompletion input) (.ok s))
    {params : RedeemParams}
    (hredeem : ⟨.redeem id params, .redeemed⟩ ∈ (machine cb sb).own tid c.history)
    {body : AuthCompleteRequest} (hbody : parseAuthCompleteRequest P input.rawBody = some body)
    {npub pubkey : String} {context : AclResolutionContext} {decision : AclDecision} {now : ℤ}
    (hdecision : ⟨.resolve npub pubkey context, (decision, now)⟩ ∈
      (machine cb sb).own tid c.history)
    {pre : History cb sb} {e : Step (machine cb sb)} (ho : Occurs c.history pre e)
    (htid : e.tid = tid) {draft : SessionDraft} (hop : e.op = .createForChallenge draft) :
    Reflects s body decision ↔ ∀ r, foundAt pre e id = some r → Reflects r body decision := by
  have hv := System.Valid.of_reachable hc
  obtain ⟨j, ha⟩ := (explained hc hr).resolve_left (by simp)
  obtain rfl : j.body = body := Option.some.inj (ha.holds.parsed.symm.trans hbody)
  obtain rfl : decision = j.decision := congrArg Prod.fst (ha.resolve_eq hdecision)
  obtain rfl := ha.redeem_eq hredeem
  generalize hxs : (machine cb sb).own tid c.history = xs at ha
  cases ha with
  | repeated holds repeats =>
    -- Such a call has redeemed nothing.
    rw [hxs] at hredeem
    simp [Judgement.opening] at hredeem
  | redeemed holds =>
    rw [hxs] at hredeem
    obtain ⟨-, hev⟩ := ho.own_split htid hxs (by simp [hop, Judgement.opening])
    rcases createForChallenge_cases (hv.restrict ho) hev with
      ⟨r, hfound, -, -, -, hans⟩ | ⟨hfound, hans, -⟩
    · split_ifs at hans
      obtain rfl := Option.some.inj hans
      have hfound' : foundAt pre e j.challenge.challengeId = some s := hfound
      simp [hfound']
    · have hfound' : foundAt pre e j.challenge.challengeId = none := hfound
      obtain rfl := Option.some.inj hans
      simp [hfound', reflects_createSessionRecord]

/-- A success after eight operations has redeemed the challenge. -/
theorem exists_redeemed_of_countP {c : (server P O cb sb).Config}
    (hc : (server P O cb sb).Reachable c) (hr : Returned c tid (.verifyCompletion input) (.ok s))
    (hsteps : c.history.countP (fun e => e.tid = tid) = 8) : ∃ j : Judgement, j.Holds P O input ∧
    (machine cb sb).own tid c.history = j.opening input ++
      [⟨.createForChallenge (j.draft O), some s⟩,
        ⟨.redeem j.challenge.challengeId (j.redeemParams O s), .redeemed⟩,
        ⟨.log (successEvent j.challenge.challengeId s.sessionId false), ()⟩] := by
  obtain ⟨j, ha⟩ := (explained hc hr).resolve_left (by simp)
  have hlen := (machine cb sb).own_length tid c.history
  generalize hxs : (machine cb sb).own tid c.history = xs at ha hlen
  cases ha with
  | redeemed holds => exact ⟨j, holds, rfl⟩
  | repeated holds repeats =>
    rw [hsteps] at hlen
    simp [Judgement.opening] at hlen

open Sample in
/-- A login that asks for a step-up token, and that nobody has been there before. -/
theorem redemption_reflects_alone : ∃ (c : (server platform options .memory .memory).Config)
    (s : SessionRecord) (id : String) (decision : AclDecision) (pre : History .memory .memory)
    (e : Step (machine .memory .memory)), (server platform options .memory .memory).Reachable c ∧
    Returned c 1 (complete true none) (.ok s) ∧ Occurs c.history pre e ∧
    (Reflects s (Sample.body true) decision ↔
      ∀ r, foundAt pre e id = some r → Reflects r (Sample.body true) decision) := by
  obtain ⟨c, hc, hcalls, hp⟩ := exists_run (login 1000 1010 true) [issue none, complete true none]
    (fun c : (server platform options .memory .memory).Config => (session? c 1).isSome &&
      c.history.countP (fun e => e.tid = 1) == 8)
    rfl (computed_login rfl true) (by decide +kernel)
  rw [Bool.and_eq_true, beq_iff_eq] at hp
  obtain ⟨s, hs⟩ := Option.isSome_iff_exists.mp hp.1
  have hr : Returned c 1 (complete true none) (.ok s) := returned_of_session hcalls rfl hs
  obtain ⟨j, holds, hown⟩ := exists_redeemed_of_countP hc hr hp.2
  obtain ⟨pre, e, ho, htid, hev, -⟩ := exists_occurs_of_own hown
  have hredeem : (⟨.redeem j.challenge.challengeId (j.redeemParams options s), .redeemed⟩ :
      Event Res) ∈ (machine .memory .memory).own 1 c.history := by
    rw [hown]
    simp
  have hdecision : (⟨.resolve j.challenge.npub j.challenge.pubkey ⟨j.body.voucher, j.now, none⟩,
      (j.decision, j.resolvedAt)⟩ : Event Res) ∈ (machine .memory .memory).own 1 c.history := by
    rw [hown]
    simp [Judgement.opening]
  exact ⟨c, s, j.challenge.challengeId, j.decision, pre, e, hc, hr, ho, redemption_reflects_iff hc hr
    hredeem (reads_request true).body hdecision ho htid (op_of_event hev)⟩

open Sample in
/-- Two requests for one challenge, of which only the second asks for a step-up token. The first
creates the session, the second redeems the challenge, and is handed out the session of the first. -/
theorem redemption_shared : ∃ (c : (server platform options .memory .memory).Config)
    (s : SessionRecord) (id : String) (params : RedeemParams),
    (server platform options .memory .memory).Reachable c ∧
    Returned c 2 (complete true none) (.ok s) ∧
    ⟨.redeem id params, .redeemed⟩ ∈ (machine .memory .memory).own 2 c.history ∧
    parseAuthCompleteRequest platform ((request true).input none).rawBody =
      some (Sample.body true) ∧ (Sample.body true).stepUp = true ∧ s.stepUpToken = none := by
  obtain ⟨c, hc, hcalls, hp⟩ := exists_run
    (turn (issue none) 0 4 (env 1000 0) ++ turn (complete false none) 1 6 (env 1010 1) ++
      turn (complete true none) 2 8 (env 1020 2))
    [issue none, complete false none, complete true none]
    (fun c : (server platform options .memory .memory).Config =>
      (session? c 2).any (fun s => s.stepUpToken == none) &&
        c.history.countP (fun e => e.tid = 2) == 8)
    rfl (List.forall_mem_cons.mpr ⟨rfl, List.forall_mem_cons.mpr
      ⟨computed_complete rfl false none, List.forall_mem_singleton.mpr
        (computed_complete rfl true none)⟩⟩) (by decide +kernel)
  rw [Bool.and_eq_true, beq_iff_eq] at hp
  obtain ⟨s, hs, hnone⟩ := (Option.any_eq_true _ _).mp hp.1
  have hr : Returned c 2 (complete true none) (.ok s) := returned_of_session hcalls rfl hs
  obtain ⟨j, -, hown⟩ := exists_redeemed_of_countP hc hr hp.2
  exact ⟨c, s, j.challenge.challengeId, j.redeemParams options s, hc, hr, by rw [hown]; simp,
    (reads_request true).body, rfl, eq_of_beq hnone⟩

/-! ## Retries -/

/-- What a call is answered when it repeats a request for a redeemed challenge. -/
def RetryAnswer (challenge : ChallengeRecord) (params : RedeemParams) (time : ℤ)
    (xs : List (Event Res)) (ev : Event Res) : Prop :=
  (∀ t, requestTime (xs ++ [ev]) = some t → t = time) ∧
  match ev with
  | ⟨.checkRateLimit _, verdict⟩ => verdict.1.allowed = true
  | ⟨.challengeGet id, record⟩ => id = challenge.challengeId →
    ∃ r, record = some r ∧ r.asIssued = challenge.asIssued ∧ r.RedeemedBy params
  | ⟨.resolve _ _ _, verdict⟩ => verdict.1.allowed = true
  | ⟨.createForChallenge draft, session⟩ =>
    draft.challenge.challengeId = challenge.challengeId → session ≠ none
  | ⟨.redeem id _, status⟩ => id = challenge.challengeId → status = .alreadyRedeemed
  | ⟨.getBySessionId id, session⟩ => id = params.sessionId → ∃ r, session = some r ∧ r.sessionId = id
  | _ => True

/-- A repeated request for a redeemed challenge that is still alive succeeds with the session of the
redemption. -/
theorem verifyCompletion_retry {challenge : ChallengeRecord} {params : RedeemParams} {time : ℤ}
    {body : AuthCompleteRequest} {proof : VerifiedNip98Completion}
    (parsed : parseAuthCompleteRequest P input.rawBody = some body)
    (proven : Nip98Valid P (proofInput O input body time) proof)
    (named : body.challengeId = challenge.challengeId)
    (principal : challenge.pubkey = proof.event.pubkey)
    (quoted : challenge.challenge = proof.challenge)
    (fresh : validateChallengeBoundCreatedAt proof.event.createdAt challenge.issuedAt
      challenge.expiresAt (O.lowerBoundGraceSeconds.getD 30) (O.upperBoundGraceSeconds.getD 5) =
        true)
    (alive : time ≤ challenge.expiresAt) (cached : time ≤ params.resultCacheUntil)
    (eventId : params.eventId = proof.event.id) (sessionId : params.sessionId ≠ "") :
    (verifyCompletion P O input).Yields (RetryAnswer challenge params time)
      (fun _ a => ∃ s, a = .ok s ∧ s.sessionId = params.sessionId) [] := by
  refine Prog.yields_op_bind.mpr fun _ _ => ?_
  rw [parsed]
  refine Prog.yields_op_bind.mpr fun (verdict, now) hgood => ?_
  obtain rfl : now = time := hgood.1 now rfl
  have hallowed : verdict.allowed = true := hgood.2
  simp only [hallowed, Bool.true_eq_false, if_false, verifyNip98Completion_ok.mpr proven]
  refine Prog.yields_op_bind.mpr fun (verdict', _) hgood => ?_
  have hallowed' : verdict'.allowed = true := hgood.2
  simp only [hallowed', Bool.true_eq_false, if_false]
  refine Prog.yields_op_bind.mpr fun record hgood => ?_
  -- The challenge that it reads passes the checks that the first request has passed.
  obtain ⟨r, rfl, hissue, hred⟩ := hgood.2 (proven.challengeId_eq.trans named)
  have hid : r.challengeId = challenge.challengeId :=
    (congrArg ChallengeRecord.challengeId hissue :)
  have hpubkey : r.pubkey = challenge.pubkey := (congrArg ChallengeRecord.pubkey hissue :)
  have htext : r.challenge = challenge.challenge := (congrArg ChallengeRecord.challenge hissue :)
  have hstart : r.issuedAt = challenge.issuedAt := (congrArg ChallengeRecord.issuedAt hissue :)
  have hend : r.expiresAt = challenge.expiresAt := (congrArg ChallengeRecord.expiresAt hissue :)
  simp only [completeChallenge, hend, hstart, hpubkey, htext, hred.state, not_lt.mpr alive,
    principal, quoted, fresh, reduceCtorEq, or_self, if_false, ne_eq, not_true_eq_false,
    Bool.true_eq_false]
  refine Prog.yields_op_bind.mpr fun (decision, _) hgood => ?_
  have hdecision : decision.allowed = true := hgood.2
  simp only [hdecision, Bool.true_eq_false, if_false]
  refine Prog.yields_op_bind.mpr fun session hgood => ?_
  obtain ⟨session, rfl⟩ := Option.ne_none_iff_exists'.mp (hgood.2 hid)
  refine Prog.yields_op_bind.mpr fun status hgood => ?_
  obtain rfl : status = .alreadyRedeemed := hgood.2 hid
  -- The result of the first request is still there.
  refine Prog.yields_op_bind.mpr fun record hgood => ?_
  obtain ⟨r', rfl, -, hred'⟩ := hgood.2 hid
  have hrepeats : repeatable r' proof now = true := by
    simp [repeatable, hred'.eventId, eventId, hred'.sessionId, truthyString, sessionId,
      hred'.resultCacheUntil, cached]
  simp only [hrepeats, if_true]
  refine Prog.yields_op_bind.mpr fun session' hgood => ?_
  obtain ⟨s', rfl, hsid⟩ := hgood.2 (by simp [hred'.sessionId])
  refine Prog.yields_op_bind.mpr fun _ _ => ⟨s', rfl, ?_⟩
  rw [hsid, hred'.sessionId, Option.getD_some]

/-- The call `tid'` repeats, at the time `time`, the request of the call `tid`, which had succeeded
with the session `s` when `c` was reached. Nothing but the time has changed, and the call is over
before the end of the result cache. -/
structure Repeats (c c' : (server P O cb sb).Config) (tid tid' : ℕ) (input : VerifyCompletionInput)
    (s : SessionRecord) (resultCacheUntil time : ℤ) : Prop where
  /-- There is one clock. -/
  clock : OneClock c'.history
  /-- The call started after the success. -/
  started : StartedAfter c.history c' tid'
  /-- The request came at the time `time`. -/
  requested : requestTime ((machine cb sb).own tid' c'.history) = some time
  /-- The call ran before the end of the result cache. -/
  cached : ∀ e ∈ c'.history, e.tid = tid' → e.env.now ≤ resultCacheUntil
  /-- The proof is still within the clock skew. -/
  skew : ∀ event, parseNostrAuthorizationHeader P (input.authorization.getD "") = some event →
    validateCreatedAtWindow event.createdAt time (O.maxClockSkewSeconds.getD 60) = true
  /-- The rate limiter has allowed the call. -/
  allowed : ∀ key verdict, ⟨.checkRateLimit key, verdict⟩ ∈ (machine cb sb).own tid' c'.history →
    verdict.1.allowed = true
  /-- The ACL resolver has decided as before. -/
  decision : ∀ npub pubkey context verdict,
    ⟨.resolve npub pubkey context, verdict⟩ ∈ (machine cb sb).own tid' c'.history →
    ∃ npub' pubkey' context' verdict', ⟨.resolve npub' pubkey' context', verdict'⟩ ∈
      (machine cb sb).own tid c.history ∧ verdict.1 = verdict'.1
  /-- The session has been neither revoked nor dropped. -/
  held : ∃ r, rowsAt c'.history s.sessionId = some r ∧ r.revokedAt = none

/-- A call that repeats a request is answered as the retry of a redeemed challenge. -/
theorem Repeats.answers {c c' : (server P O cb sb).Config} (hc : (server P O cb sb).Reachable c)
    (hcc : (server P O cb sb).Reaches c c') {tid' : ℕ} {params : RedeemParams} {time : ℤ}
    (hrep : Repeats c c' tid tid' input s params.resultCacheUntil time)
    (ha : Accepted P O input j s ((machine cb sb).own tid c.history))
    (ho : Occurs c.history pre e)
    (hev : (machine cb sb).event pre e = ⟨.redeem j.challenge.challengeId params, .redeemed⟩)
    (hsid : params.sessionId = s.sessionId) {pre1 : History cb sb} {e1 : Step (machine cb sb)}
    (ho1 : Occurs c'.history pre1 e1) (htid : e1.tid = tid') :
    RetryAnswer j.challenge params time ((machine cb sb).own tid' pre1)
      ((machine cb sb).event pre1 e1) := by
  subst htid
  have hc' : (server P O cb sb).Reachable c' := hc.trans hcc
  have hv' := System.Valid.of_reachable hc'
  have hv1 := hv'.restrict ho1.before
  have hp := hrep.started.before hc' hcc.history_mono ho1
  have hmem : (machine cb sb).event pre1 e1 ∈ (machine cb sb).own e1.tid c'.history :=
    mem_own.mpr ⟨pre1, e1, ho1, rfl, rfl⟩
  -- The challenge is still held, as it was redeemed.
  obtain ⟨p, hpc, hread, hid⟩ := ha.read (System.Valid.of_reachable hc)
  rw [← hid] at hread
  have hheld : ∃ r, challengeAt pre1 j.challenge.challengeId = some r ∧
      r.asIssued = j.challenge.asIssued ∧ r.RedeemedBy params := by
    have hcached : ∀ e' ∈ pre1, e'.env.now ≤ params.resultCacheUntil := fun e' he' =>
      (hrep.clock.le ho1 he').trans (hrep.cached e1 (ho1.mem (by simp)) rfl)
    obtain ⟨r, hr⟩ := redeemed_held hv1 (hrep.clock.restrict ho1.before) (ho.mono hp) hev hcached
    exact ⟨r, hr, asIssued_eq hv1 (hpc.trans hp) hread hr,
      redeemed_persists hv1 (ho.mono hp) hev hr⟩
  -- So is the session.
  obtain ⟨-, -, q, -, -, -, -, hq, hrow, hcid⟩ := ha.create (System.Valid.of_reachable hc)
  obtain ⟨r, hr, hnone⟩ := hrep.held
  have hrows : ∀ {p' : History cb sb}, c.history <+: p' → p' <+: c'.history →
      ∃ r, rowsAt p' s.sessionId = some r ∧ r.revokedAt = none ∧
        r.challengeId = j.challenge.challengeId := by
    intro p' hp1 hp2
    obtain ⟨r', hr'⟩ := rowsAt_between hv' (hq.trans hp1) hp2 hrow hr
    have hsame := asCreated_agree hv' hp2 ((hq.trans hp1).trans hp2) hr' hrow
    exact ⟨r', hr', unrevoked_before hv' hp2 hr' hr hnone,
      (congrArg SessionRecord.challengeId hsame :).trans hcid⟩
  refine ⟨fun t ht => ?_, ?_⟩
  · rw [← Machine.own_concat_self] at ht
    exact Option.some.inj ((requestTime_mono (own_mono _ ho1) ht).symm.trans hrep.requested)
  generalize hev1 : (machine cb sb).event pre1 e1 = ev at hmem
  obtain ⟨op, answer⟩ := ev
  cases op with
  | checkRateLimit key => exact hrep.allowed key answer hmem
  | challengeGet id =>
    rintro rfl
    obtain ⟨r', hr', hissue, hred⟩ := hheld
    exact ⟨r', (challengeAt_of_get hev1).symm.trans hr', hissue, hred⟩
  | resolve npub pubkey context =>
    obtain ⟨_, _, _, verdict, hfirst, heq⟩ := hrep.decision _ _ _ _ hmem
    dsimp only
    rw [heq, ha.resolve_eq hfirst]
    exact ha.holds.allowed
  | createForChallenge draft =>
    intro hdraft
    obtain ⟨r', hr', hnone', hcid'⟩ := hrows (hp.trans (List.prefix_append _ _)) ho1
    rcases createForChallenge_cases (hv'.restrict ho1) hev1 with
      ⟨r1, hfound, -, -, -, hans⟩ | ⟨-, hans, -⟩
    · obtain ⟨r2, hr2, -⟩ := hrows hp ho1.before
      have hfound' := foundAt_of_rowsAt (hv'.restrict ho1) (op_of_event hev1) hr2 hr'
        (hcid'.trans hdraft.symm)
      obtain rfl := Option.some.inj (hfound.symm.trans hfound')
      simp [hans, sb.visible_of_unrevoked hnone']
    · simp [hans]
  | redeem id params' =>
    rintro rfl
    obtain ⟨r', hr', -, hred⟩ := hheld
    exact redeem_again hv' ho1 hev1 hr' hred.state
  | getBySessionId id =>
    intro hid'
    obtain ⟨r', hr', hnone', -⟩ := hrows hp ho1.before
    rw [hid', hsid] at hev1 ⊢
    exact ⟨r', getBySessionId_of_rowsAt hv1 hev1 hr' hnone', rowsAt_id hv1 hr'⟩
  | _ => trivial

/-- A repeated request succeeds again, with the same session, exactly when it comes before the end
of the challenge. After that, the result cache does not help. -/
theorem retry_iff {c c' : (server P O cb sb).Config} (hc : (server P O cb sb).Reachable c)
    (hcc : (server P O cb sb).Reaches c c')
    (hr : Returned c tid (.verifyCompletion input) (.ok s)) {tid' : ℕ} {outcome : Outcome}
    (hr' : Returned c' tid' (.verifyCompletion input) outcome) (halive : outcome ≠ .aborted)
    (hn : Names P input id) (ho : Occurs c.history pre e) {params : RedeemParams}
    (hev : (machine cb sb).event pre e = ⟨.redeem id params, .redeemed⟩)
    {challenge : ChallengeRecord} (hchallenge : challengeAt pre id = some challenge) {time : ℤ}
    (hrep : Repeats c c' tid tid' input s params.resultCacheUntil time) :
    (∃ s', outcome = .ok s' ∧ s'.sessionId = s.sessionId) ↔ time ≤ challenge.expiresAt := by
  have hc' : (server P O cb sb).Reachable c' := hc.trans hcc
  have hv := System.Valid.of_reachable hc
  have hv' := System.Valid.of_reachable hc'
  obtain ⟨j, ha⟩ := (explained hc hr).resolve_left (by simp)
  obtain ⟨p, hp, hread, hid⟩ := ha.read hv
  obtain ⟨body, hparsed, rfl⟩ := hn
  obtain rfl : j.body = body := Option.some.inj (ha.holds.parsed.symm.trans hparsed)
  have hend : j.challenge.expiresAt = challenge.expiresAt :=
    (congrArg ChallengeRecord.expiresAt (asIssued_agree hv hp ho.before hread hchallenge) :)
  constructor
  · -- A success has found the challenge alive.
    rintro ⟨s', rfl, -⟩
    obtain ⟨j', ha'⟩ := (explained hc' hr').resolve_left (by simp)
    obtain ⟨p', hp', hread', -⟩ := ha'.read hv'
    obtain rfl : time = j'.now := Option.some.inj (hrep.requested.symm.trans ha'.requestTime_eq)
    have hbody : j'.body = j.body :=
      Option.some.inj (ha'.holds.parsed.symm.trans ha.holds.parsed)
    rw [hbody] at hread'
    have hsame := asIssued_agree hv' hp' (ho.before.trans hcc.history_mono) hread' hchallenge
    have hend' : j'.challenge.expiresAt = challenge.expiresAt :=
      (congrArg ChallengeRecord.expiresAt hsame :)
    exact hend' ▸ ha'.holds.alive
  · intro htime
    obtain ⟨pre0, e0, params0, ho0, hev0, hevent, hsid⟩ := ha.redeem hv
    rw [hid] at hev0
    obtain ⟨rfl, rfl⟩ := redeem_unique hv ho ho0 hev hev0
    injection (op_of_event hev).symm.trans (op_of_event hev0) with _ hparams
    subst hparams
    -- The proof is valid at the new time as well.
    have hproven : Nip98Valid P (proofInput O input j.body time) j.proof :=
      { ha.holds.proven with window := hrep.skew _ ha.holds.proven.decoded }
    obtain ⟨pre1, e1, ho1, htid, rfl⟩ :=
      exists_occurs_of_hasRead (hasRead_of_requestTime hrep.requested)
    have hcached := hrep.cached e1 (ho1.mem (by simp)) htid
    obtain ⟨-, -, q, -, -, -, -, hq, hrow, -⟩ := ha.create hv
    have hne : s.sessionId ≠ "" :=
      ne_empty_of_drawn (hv.restrict hq) (drawn_of_rowsAt (hv.restrict hq) hrow)
    have hyields := verifyCompletion_retry ha.holds.parsed hproven hid.symm ha.holds.principal
      ha.holds.quoted ha.holds.fresh (hend ▸ htime) hcached hevent (hsid ▸ hne)
    obtain ⟨th, hth, hcall, hprog⟩ := hr'
    have hok := hc'.yields hth (by rw [hcall]; exact hyields)
      (fun pre1 e1 ho1 htid => hrep.answers hc hcc ha ho (hid ▸ hev) hsid ho1 htid) hprog
    rw [← hsid]
    exact hok.resolve_left halive

/-- In an environment that never changes its verdicts, a later request that comes in time repeats an
earlier one. -/
theorem repeats_steady {c c' : (server P O cb sb).Config} (hc : (server P O cb sb).Reachable c)
    (hcc : (server P O cb sb).Reaches c c') {tid' : ℕ}
    (hr : Returned c tid (.verifyCompletion input) (.ok s)) {d : AclDecision}
    {resultCacheUntil time : ℤ} (hclock : OneClock c'.history)
    (hsteady : ∀ e ∈ c'.history, e.env.rateLimit.allowed = true ∧ e.env.acl = d)
    (hstarted : StartedAfter c.history c' tid')
    (hrequested : requestTime ((machine cb sb).own tid' c'.history) = some time)
    (hcached : ∀ e ∈ c'.history, e.tid = tid' → e.env.now ≤ resultCacheUntil)
    (hskew : ∀ event, parseNostrAuthorizationHeader P (input.authorization.getD "") = some event →
      validateCreatedAtWindow event.createdAt time (O.maxClockSkewSeconds.getD 60) = true)
    (hheld : ∃ r, rowsAt c'.history s.sessionId = some r ∧ r.revokedAt = none) :
    Repeats c c' tid tid' input s resultCacheUntil time := by
  obtain ⟨j, ha⟩ := (explained hc hr).resolve_left (by simp)
  -- Every verdict is that of the environment.
  have hresolve : ∀ {tid npub pubkey context verdict},
      ⟨.resolve npub pubkey context, verdict⟩ ∈ (machine cb sb).own tid c'.history →
      verdict.1 = d := by
    intro tid npub pubkey context verdict hmem
    obtain ⟨pre, e, ho, -, hev⟩ := mem_own.mp hmem
    rw [← (Machine.event_eq_iff _ |>.mp hev).2]
    exact (hsteady e (ho.mem (by simp))).2
  refine
    { clock := hclock
      started := hstarted
      requested := hrequested
      cached := hcached
      skew := hskew
      allowed := fun key verdict hmem => ?_
      decision := fun npub pubkey context verdict hmem => ?_
      held := hheld }
  · obtain ⟨pre, e, ho, -, hev⟩ := mem_own.mp hmem
    rw [← (Machine.event_eq_iff _ |>.mp hev).2]
    exact (hsteady e (ho.mem (by simp))).1
  · have hfirst : (⟨.resolve j.challenge.npub j.challenge.pubkey ⟨j.body.voucher, j.now, none⟩,
        (j.decision, j.resolvedAt)⟩ : Event Res) ∈ (machine cb sb).own tid c.history :=
      ha.opening_first.mem (by simp [Judgement.opening])
    exact ⟨_, _, _, _, hfirst, (hresolve hmem).trans
      (hresolve ((own_mono tid hcc.history_mono).mem hfirst)).symm⟩

namespace Sample

/-- The system in which one client logs in. -/
abbrev client1 : System Res Call Outcome := server platform options .memory .memory

/-- What is to be computed of a login that was over in `c`, and of its request that was sent once
more until `c'`. -/
def retried (outcome : Outcome) (completedAt time : ℤ) (c c' : client1.Config) : Bool :=
  (session? c 1).any (fun s =>
    (Backend.memory.view.rows c'.state.sessions s.sessionId).any (·.revokedAt == none)) &&
  c'.returned? 2 == some outcome &&
  c.history.countP (fun e => e.tid = 1) == 8 &&
  requestTime ((machine .memory .memory).own 1 c.history) == some completedAt &&
  requestTime ((machine .memory .memory).own 2 c'.history) == some time &&
  decide (c'.history.Pairwise fun e e' => e.env.now ≤ e'.env.now) &&
  c'.history.all (fun e => e.env.storeNow == e.env.now && e.env.rateLimit.allowed &&
    e.env.acl == allowed && (e.tid != 2 || decide (e.env.now ≤ completedAt + 30))) &&
  (c'.threads[2]?).any (fun th => c.history.length ≤ th.started) &&
  validateCreatedAtWindow (JsonNumber.ofInt 1000) time 60

/-- Such a computation makes a run in which a request is repeated. -/
theorem repeats_of_retried {c c' : client1.Config} (hc : client1.Reachable c)
    (hcc : client1.Reaches c c') {calls : List Call} (hcalls : c.calls = calls)
    (hfirst : calls[1]? = some (complete false none)) {outcome : Outcome} {completedAt time : ℤ}
    (h : retried outcome completedAt time c c' = true) : ∃ s pre e params,
    Returned c 1 (complete false none) (.ok s) ∧ Occurs c.history pre e ∧
    (machine .memory .memory).event pre e = ⟨.redeem challengeId params, .redeemed⟩ ∧
    params.resultCacheUntil = completedAt + 30 ∧
    Repeats c c' 1 2 ((request false).input none) s params.resultCacheUntil time := by
  simp only [retried, Bool.and_eq_true, beq_iff_eq, decide_eq_true_eq, List.all_eq_true,
    Bool.or_eq_true, bne_iff_ne, ne_eq] at h
  obtain ⟨⟨⟨⟨⟨⟨⟨⟨hs, -⟩, hsteps⟩, hfirstTime⟩, htime⟩, hmono⟩, hsteady⟩, hstarted⟩, hskew⟩ := h
  obtain ⟨s, hs, hheld⟩ := (Option.any_eq_true _ _).mp hs
  have hr : Returned c 1 (complete false none) (.ok s) := returned_of_session hcalls hfirst hs
  obtain ⟨j, holds, hown⟩ := exists_redeemed_of_countP hc hr hsteps
  have ha : Accepted platform options ((request false).input none) j s
      ((machine .memory .memory).own 1 c.history) := hown ▸ .redeemed holds
  obtain ⟨-, -, -, hid⟩ := ha.read (System.Valid.of_reachable hc)
  have hredeem : (⟨.redeem j.challenge.challengeId (j.redeemParams options s), .redeemed⟩ :
      Event Res) ∈ (machine .memory .memory).own 1 c.history := by
    rw [hown]
    simp
  obtain ⟨pre, e, ho, -, hev⟩ := mem_own.mp hredeem
  obtain rfl : j.now = completedAt := Option.some.inj (ha.requestTime_eq.symm.trans hfirstTime)
  have hbody : j.body = Sample.body false :=
    Option.some.inj (holds.parsed.symm.trans (reads_request false).body)
  rw [hid, hbody] at hev
  refine ⟨s, pre, e, j.redeemParams options s, hr, ho, hev, rfl, ?_⟩
  refine repeats_steady (d := allowed) hc hcc hr ⟨fun e he => (hsteady e he).1.1.1, hmono⟩
    (fun e he => ⟨(hsteady e he).1.1.2, (hsteady e he).1.2⟩) ?_ htime ?_ ?_ ?_
  · obtain ⟨th, hth, hle⟩ := (Option.any_eq_true _ _).mp hstarted
    exact ⟨th, hth, of_decide_eq_true hle⟩
  · exact fun e he htid => (hsteady e he).2.resolve_left (by simp [htid])
  · intro ev hev
    have hdecoded : parseNostrAuthorizationHeader platform
        (((request false).input none).authorization.getD "") = some (event false) :=
      (valid_request (O := options) rfl false none).decoded
    rw [hdecoded] at hev
    exact Option.some.inj hev ▸ hskew
  · obtain ⟨r, hrow, hnone⟩ := (Option.any_eq_true _ _).mp hheld
    refine ⟨r, ?_, eq_of_beq hnone⟩
    rw [rowsAt, ← (System.Reachable.coherent (hc.trans hcc)).state_eq]
    exact hrow

end Sample

open Sample in
/-- A request that is repeated before the end of its challenge. -/
theorem retry_in_time : ∃ (c c' : client1.Config) (s : SessionRecord) (outcome : Outcome)
    (params : RedeemParams) (challenge : ChallengeRecord), client1.Reachable c ∧
    client1.Reaches c c' ∧ Returned c 1 (complete false none) (.ok s) ∧
    Returned c' 2 (complete false none) outcome ∧
    Repeats c c' 1 2 ((request false).input none) s params.resultCacheUntil 1025 ∧
    ((∃ s', outcome = .ok s' ∧ s'.sessionId = s.sessionId) ↔ 1025 ≤ challenge.expiresAt) := by
  obtain ⟨c, c', hc, hcc, hcalls, hcalls', hp⟩ := exists_run_append (login 1000 1010 false)
    (turn (complete false none) 2 10 (env 1025 2)) [issue none, complete false none]
    [complete false none]
    (fun c c' : client1.Config => (session? c' 2).any fun s => retried (.ok s) 1010 1025 c c')
    rfl rfl (computed_login_retry rfl false) (by decide +kernel)
  obtain ⟨s', hs', hretried⟩ := (Option.any_eq_true _ _).mp hp
  have hr' : Returned c' 2 (complete false none) (.ok s') := returned_of_session hcalls' rfl hs'
  obtain ⟨s, pre, e, params, hr, ho, hev, -, hrep⟩ := repeats_of_retried hc hcc hcalls rfl hretried
  obtain ⟨challenge, hchallenge, -⟩ := redeem_spec (System.Valid.of_reachable hc) ho hev
  exact ⟨c, c', s, .ok s', params, challenge, hc, hcc, hr, hr', hrep, retry_iff hc hcc hr hr' (by simp)
    ⟨Sample.body false, (reads_request false).body, rfl⟩ ho hev hchallenge hrep⟩

open Sample in
/-- A request that is repeated after the end of its challenge, but before that of the result cache.
The challenge was issued at 960 and ends at 1020. The login came at 1010 and is cached until 1040. -/
theorem retry_expired : ∃ (c c' : client1.Config) (s : SessionRecord) (params : RedeemParams),
    client1.Reachable c ∧ client1.Reaches c c' ∧ Returned c 1 (complete false none) (.ok s) ∧
    Returned c' 2 (complete false none) (.failed (failure .completeExpiredChallenge)) ∧
    params.resultCacheUntil = 1040 ∧
    Repeats c c' 1 2 ((request false).input none) s params.resultCacheUntil 1030 := by
  obtain ⟨c, c', hc, hcc, hcalls, hcalls', hp⟩ := exists_run_append (login 960 1010 false)
    (turn (complete false none) 2 5 (env 1030 2)) [issue none, complete false none]
    [complete false none] (retried (.failed (failure .completeExpiredChallenge)) 1010 1030)
    rfl rfl (computed_login_retry rfl false) (by decide +kernel)
  have hout : c'.returned? 2 = some (.failed (failure .completeExpiredChallenge)) := by
    simp only [retried, Bool.and_eq_true, beq_iff_eq] at hp
    exact hp.1.1.1.1.1.1.1.2
  obtain ⟨s, -, -, params, hr, -, -, huntil, hrep⟩ := repeats_of_retried hc hcc hcalls rfl hp
  exact ⟨c, c', s, params, hc, hcc, hr, returned_of_run hcalls' rfl hout, huntil, hrep⟩

/-! ## Revoked sessions -/

/-- No login of the history has found a revoked session for its challenge when it turned to the
session store. -/
def FoundUnrevoked (h : History cb sb) : Prop :=
  ∀ pre e draft r, Occurs h pre e → e.op = .createForChallenge draft →
    foundAt pre e draft.challenge.challengeId = some r → r.revoked = false

/-- The session had been revoked when the call `tid` started. -/
def RevokedBefore (c : (server P O cb sb).Config) (tid : ℕ) (sessionId : String) : Prop :=
  ∃ pre e, Occurs c.history pre e ∧ Revokes pre e sessionId ∧ StartedAfter (pre ++ [e]) c tid

/-- As long as no login finds a revoked session, no login succeeds with one. -/
theorem not_revokedBefore {c : (server P O cb sb).Config} (hc : (server P O cb sb).Reachable c)
    (hpos : PositiveClock c.history) (hfound : FoundUnrevoked c.history)
    (hr : Returned c tid (.verifyCompletion input) (.ok s)) :
    ¬ RevokedBefore c tid s.sessionId := by
  rintro ⟨pre, e, ho, hrevokes, hstart⟩
  have hv := System.Valid.of_reachable hc
  obtain ⟨j, ha⟩ := (explained hc hr).resolve_left (by simp)
  obtain ⟨pre1, e1, p, ho1, rfl, hop, hp1, hp, hrow, hcid⟩ := ha.create hv
  have hpre : pre ++ [e] <+: pre1 := hstart.before hc ho ho1
  have hv1 := hv.restrict ho1
  have hstep := List.prefix_append pre1 [e1]
  -- The session was held, and revoked, when the call turned to the session store.
  obtain ⟨r, hr0, hrevoked⟩ :=
    hrevokes.revokedAt ((hv1.restrict hstep).restrict ((List.prefix_append _ _).trans hpre))
  obtain ⟨r', hr'⟩ := rowsAt_between (hv.restrict hp) hpre (hstep.trans hp1) hr0 hrow
  obtain ⟨r1, hr1⟩ := rowsAt_between (hv.restrict hp) (hpre.trans hstep) hp1 hr0 hrow
  have hsame := asCreated_eq (hv.restrict hp) hp1 hr1 hrow
  have hcid1 : r1.challengeId = j.challenge.challengeId :=
    (congrArg SessionRecord.challengeId hsame :).symm.trans hcid
  -- So the call found it.
  have hunrevoked := hfound pre1 e1 _ r1 ho1 hop (foundAt_of_rowsAt hv1 hop hr' hr1 hcid1)
  rw [← Bool.not_eq_true, revoked_iff hv1 (hpos.restrict ho1) hr1] at hunrevoked
  exact hunrevoked (revokedAt_persists hv1 (hpre.trans hstep) hr0 hrevoked hr1)

/-- As long as no login finds a revoked session: no login succeeds with a session that had been
revoked when it started, and a request that repeats a successful one after its session has been
revoked fails. -/
theorem completion_unrevoked {c : (server P O cb sb).Config} (hc : (server P O cb sb).Reachable c)
    (hpos : PositiveClock c.history) (hfound : FoundUnrevoked c.history) :
    (∀ tid input s, Returned c tid (.verifyCompletion input) (.ok s) →
      ¬ RevokedBefore c tid s.sessionId) ∧
    (∀ tid tid' input s outcome, Returned c tid (.verifyCompletion input) (.ok s) →
      Returned c tid' (.verifyCompletion input) outcome → RevokedBefore c tid' s.sessionId →
      outcome = .aborted ∨ ∃ f, outcome = .failed f) := by
  have hv := System.Valid.of_reachable hc
  refine ⟨fun tid input s hr => not_revokedBefore hc hpos hfound hr,
    fun tid tid' input s outcome hr hr' hrev => ?_⟩
  obtain ⟨j, ha⟩ := (explained hc hr).resolve_left (by simp)
  rcases explained hc hr' with rfl | hexp
  · exact Or.inl rfl
  cases outcome with
  | aborted => exact Or.inl rfl
  | failed f => exact Or.inr ⟨f, rfl⟩
  | ok s' =>
    -- It would be the session of the first success.
    have hn : Names P input j.body.challengeId := ⟨j.body, ha.holds.parsed, rfl⟩
    have hsid := sessionId_eq_of_ok hc hr hr' hn hn
    exact absurd (hsid ▸ hrev) (not_revokedBefore hc hpos hfound hr')
  | threw =>
    -- The session store throws only when it finds a revoked session.
    obtain ⟨ys, draft, hown⟩ := hexp
    obtain ⟨pre, e, ho, -, hev, -⟩ := exists_occurs_of_own hown
    rcases createForChallenge_cases (hv.restrict ho) hev with
      ⟨r, hfoundr, -, hrow, -, hans⟩ | ⟨-, hans, -⟩
    · have hunrevoked := hfound pre e draft r ho (op_of_event hev) hfoundr
      rw [← Bool.not_eq_true, revoked_iff (hv.restrict ho.before) (hpos.restrict ho.before) hrow,
        not_not] at hunrevoked
      rw [if_pos (sb.visible_of_unrevoked hunrevoked)] at hans
      cases hans
    · cases hans
  | malformed => exact absurd (ha.holds.parsed.symm.trans hexp) (by simp)
  | issued response => exact hexp.elim
  | guarded context => exact hexp.elim
  | done => exact hexp.elim

/-- Which logins have found a revoked session can be computed from a history. -/
theorem foundUnrevoked_of_forall (hall : ∀ k < h.length, ∀ e, h[k]? = some e →
    (match e.op with
      | .createForChallenge draft =>
        (foundAt (h.take k) e draft.challenge.challengeId).all fun r => !r.revoked
      | _ => true) = true) : FoundUnrevoked h := by
  intro pre e draft r ho hop hr
  have hk := ho.getElem?
  have hcheck := hall pre.length (List.getElem?_eq_some_iff.mp hk).1 e hk
  have htake : h.take pre.length = pre := List.prefix_iff_eq_take.mp ho.before |>.symm
  rw [hop, htake] at hcheck
  have hunrevoked := (Option.all_eq_true _ _).mp hcheck r hr
  simpa using hunrevoked

/-- A revocation at an index that comes before the start of a call. -/
theorem revokedBefore_of_getElem? {c : (server P O cb sb).Config} {k : ℕ} {now : ℤ}
    (hk : c.history[k]? = some e) (hop : e.op = .revokeBySessionId id now)
    (hrow : ∃ r, rowsAt (c.history.take k) id = some r)
    (hstart : ∃ th, c.threads[tid]? = some th ∧ k + 1 ≤ th.started) : RevokedBefore c tid id := by
  obtain ⟨r, hr⟩ := hrow
  obtain ⟨th, hth, hle⟩ := hstart
  refine ⟨c.history.take k, e, occurs_take hk, ⟨r, now, hr, Or.inl hop⟩, th, hth, ?_⟩
  have hlen := List.length_take_le k c.history
  simp only [List.length_append, List.length_singleton]
  omega

open Sample in
/-- A login and its request once more. Nothing is revoked. -/
theorem completion_unrevoked_retry : ∃ (c : client1.Config) (s : SessionRecord),
    client1.Reachable c ∧ Returned c 2 (complete false none) (.ok s) ∧
    ¬ RevokedBefore c 2 s.sessionId := by
  obtain ⟨c, hc, hcalls, -, ⟨s, hs⟩, hpos, hfound⟩ := exists_login_again
  have hr : Returned c 2 (complete false none) (.ok s) := returned_of_session hcalls rfl hs
  exact ⟨c, s, hc, hr, (completion_unrevoked hc hpos (foundUnrevoked_of_forall hfound)).1 2 _ s hr⟩

/-- What is to be computed of a login, the revocation of its session as the step 13, and its request
once more. -/
def Sample.revoked (c : client1.Config) : Bool :=
  (session? c 1).isSome &&
  (session? c 3).any (fun s => s.revoked && s.sessionId == base64Url (draws 1).id) &&
  decide (∀ e ∈ c.history, 0 < e.env.now) &&
  c.history[13]?.any (fun e => e.op == .revokeBySessionId (base64Url (draws 1).id) 1015) &&
  (rowsAt (c.history.take 13) (base64Url (draws 1).id)).isSome &&
  c.threads[3]?.any (fun th => decide (14 ≤ th.started))

open Sample in
/-- A login, the revocation of its session, and its request once more, which is handed out the
revoked session. -/
theorem completion_revoked : ∃ (c : client1.Config) (s s' : SessionRecord),
    client1.Reachable c ∧ PositiveClock c.history ∧ Returned c 1 (complete false none) (.ok s) ∧
    Returned c 3 (complete false none) (.ok s') ∧ RevokedBefore c 3 s'.sessionId ∧
    s'.revoked = true := by
  have hcomputed : ∀ call ∈ [issue none, complete false none,
      .revokeSession (base64Url (draws 1).id), complete false none], Computed options call := by
    simp only [List.forall_mem_cons]
    exact ⟨rfl, computed_complete rfl false none, rfl, computed_complete rfl false none, by simp⟩
  obtain ⟨c, hc, hcalls, hp⟩ := exists_run
    (login 1000 1010 false ++ turn (.revokeSession (base64Url (draws 1).id)) 2 2 (env 1015 2) ++
      turn (complete false none) 3 10 (env 1020 2))
    [issue none, complete false none, .revokeSession (base64Url (draws 1).id), complete false none]
    Sample.revoked
    rfl hcomputed (by decide +kernel)
  simp only [Sample.revoked, Bool.and_eq_true, decide_eq_true_eq] at hp
  obtain ⟨⟨⟨⟨⟨hfirst, hagain⟩, hpos⟩, hrevoke⟩, hrow⟩, hstart⟩ := hp
  obtain ⟨s, hs⟩ := Option.isSome_iff_exists.mp hfirst
  obtain ⟨s', hs', hrevoked⟩ := (Option.any_eq_true _ _).mp hagain
  obtain ⟨e, he, hop⟩ := (Option.any_eq_true _ _).mp hrevoke
  obtain ⟨th, hth, hle⟩ := (Option.any_eq_true _ _).mp hstart
  rw [Bool.and_eq_true, beq_iff_eq] at hrevoked
  refine ⟨c, s, s', hc, hpos, returned_of_session hcalls rfl hs, returned_of_session hcalls rfl hs',
    ?_, hrevoked.1⟩
  rw [hrevoked.2]
  exact revokedBefore_of_getElem? he (eq_of_beq hop) (Option.isSome_iff_exists.mp hrow)
    ⟨th, hth, of_decide_eq_true hle⟩

end NapAuth

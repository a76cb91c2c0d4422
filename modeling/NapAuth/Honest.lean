import NapAuth.Completion
import NapAuth.Server.Warrant

/-!
# An honest login succeeds

The other results on logins say what a success means. This one says when a login succeeds: whoever
asks for a challenge for its own key and answers it before its end, within the clock skew and with
nobody else signing for that key, is logged in, if the rate limiter and the ACL allow it
(`honest_login`). Any number of other requests may run in between, with any other keys. What a request
without the key can do to a challenge is nothing (`prover_of_touches`), so the challenge that the
honest request finds is the one that was issued (`untouched`).
-/

namespace NapAuth

open Interleaving

/-! ## What a store does for an honest client -/

/-- A challenge store serves honest clients: it holds what it was given, and a challenge that is issued
and has not ended can be redeemed. At the very end of a challenge the two stores differ. -/
structure ChallengeStore.Serves (C : ChallengeStore) (WF : C.State → Prop) : Prop where
  /-- A new challenge is held as it was issued, unless its id is taken. -/
  create : ∀ {s now} {record : ChallengeRecord}, WF s → C.get record.challengeId s = none →
    record.IsNew → ∃ r, C.get record.challengeId (C.create now record s).2 = some r ∧
      r.asIssued = record.asIssued ∧ r.IsNew
  /-- An issued challenge can be redeemed before its end. -/
  redeem : ∀ {s id params r}, WF s → C.get id s = some r → r.state = .issued →
    params.now < r.expiresAt → (C.redeem id params s).1 = .redeemed

/-- The in-memory store holds what it was given last. -/
theorem MemoryChallenges.get_create (s : MemoryChallenges) (now : ℤ) (record : ChallengeRecord) :
    (s.create now record).2.get record.challengeId = some record :=
  (MemoryChallenges.get_update record.challengeId record.challengeId record (s.sweep now)).trans
    (if_pos rfl)

/-- In the in-memory store, an issued challenge can be redeemed until its end. -/
theorem MemoryChallenges.redeem_issued {s : MemoryChallenges} {id : String} {params : RedeemParams}
    {r : ChallengeRecord} (hr : s.get id = some r) (hissued : r.state = .issued)
    (halive : params.now ≤ r.expiresAt) : (s.redeem id params).1 = .redeemed := by
  have hlate : ¬ (r.expiresAt < params.now ∨ r.state = .expired) := by
    rw [hissued, or_iff_left (by simp)]
    omega
  simp only [MemoryChallenges.redeem, hr, if_neg hlate, if_pos hissued]

/-- The Postgres store holds what it has inserted. -/
theorem PostgresChallenges.get_create {rows : PostgresChallenges} (now : ℤ)
    {record : ChallengeRecord} (hnone : rows.get record.challengeId = none) :
    (rows.create now record).2.get record.challengeId =
      some { record with redeemedEventId := none, redeemedSessionId := none,
                         resultCacheUntil := none, failureCount := some 0 } := by
  simp only [create, hnone, Option.isSome_none, Bool.false_eq_true, if_false]
  have hfind := SqlTable.find?_append_singleton ChallengeRecord.challengeId
    { record with redeemedEventId := none, redeemedSessionId := none,
                  resultCacheUntil := none, failureCount := some 0 } hnone record.challengeId
  exact hfind.trans (if_pos rfl)

theorem MemoryChallenges.store_serves : MemoryChallenges.store.Serves MemoryChallenges.WF where
  create _ _ hnew := ⟨_, MemoryChallenges.get_create _ _ _, rfl, hnew⟩
  redeem _ hr hissued halive := MemoryChallenges.redeem_issued hr hissued halive.le

theorem PostgresChallenges.store_serves :
    PostgresChallenges.store.Serves PostgresChallenges.WF where
  create {_ now _} _ hnone hnew :=
    ⟨_, PostgresChallenges.get_create now hnone, rfl, hnew.state, rfl, rfl, rfl⟩
  redeem hwf hr hissued halive :=
    (PostgresChallenges.redeem_eq hwf _ _).2.mpr ⟨_, hr, hissued, halive⟩

theorem Backend.challengeStore_serves (b : Backend) : b.challengeStore.Serves b.ChallengesWF := by
  cases b
  · exact MemoryChallenges.store_serves
  · exact PostgresChallenges.store_serves

variable {P : Platform} {O : NapServerOptions} {cb sb : Backend} {h h' pre : History cb sb}
  {e : Step (machine cb sb)} {id key : String} {r : ChallengeRecord} {tid : ℕ}
  {input : VerifyCompletionInput}

/-! ## What others can do to a challenge -/

/-- The operation spends the challenge under an id, or counts a failure on it. -/
def Spends (id : String) : Op → Prop
  | .redeem id' _ => id' = id
  | .recordFailure id' _ _ => id' = id
  | _ => False

/-- The operation makes a session for the challenge under an id. -/
def Makes (id : String) : Op → Prop
  | .createForChallenge draft => draft.challenge.challengeId = id
  | _ => False

/-- A request that carries an event signed by a key. -/
def CarriesSignature (P : Platform) (input : VerifyCompletionInput) (key : String) : Prop :=
  ∃ event, parseNostrAuthorizationHeader P (input.authorization.getD "") = some event ∧
    P.verifyEvent event = true ∧ event.pubkey = key

/-- Whoever spends a challenge, or makes a session for it, has signed for the key that it was issued
to. -/
theorem prover_of_touches {c : (server P O cb sb).Config} (hc : (server P O cb sb).Reachable c)
    (ho : Occurs c.history pre e) (htouches : Spends id e.op ∨ Makes id e.op)
    (hp : h <+: c.history) (hr : challengeAt h id = some r) :
    ∃ th input, c.threads[e.tid]? = some th ∧ th.call = .verifyCompletion input ∧
      CarriesSignature P input r.pubkey := by
  have hv := System.Valid.of_reachable hc
  -- What the call has read under the id is the challenge as it was issued.
  have hkey : ∀ {xs : List (Event Res)} {id' : String} {challenge : ChallengeRecord},
      (machine cb sb).own e.tid pre = xs → ⟨.challengeGet id', some challenge⟩ ∈ xs →
      challenge.challengeId = id → challenge.pubkey = r.pubkey := by
    rintro xs id' challenge rfl hmem hid
    obtain ⟨p, e', ho', -, hev⟩ := mem_own.mp hmem
    have hread := challengeAt_of_get hev
    have hp' := ho'.before.trans ho.before
    obtain rfl := challengeAt_id (hv.restrict hp') hread
    exact (congrArg ChallengeRecord.pubkey (asIssued_agree hv hp' hp hread (hid ▸ hr)) :)
  obtain ⟨th, hth, hw⟩ := warranted hc ho
  generalize hown : (machine cb sb).own e.tid pre = xs at hw
  generalize hop : e.op = op at hw htouches
  have hjudged : ∀ {input : VerifyCompletionInput} {j : Judgement}, j.Holds P O input →
      (⟨.challengeGet j.proof.challengeId, some j.challenge⟩ : Event Res) ∈ xs →
      j.challenge.challengeId = id → CarriesSignature P input r.pubkey := by
    intro input j holds hmem hid
    exact ⟨j.proof.event, holds.proven.decoded, holds.proven.signature,
      holds.principal.symm.trans (hkey hown hmem hid)⟩
  cases op with
  | redeem id' params =>
    obtain rfl : id' = id := htouches.resolve_right fun hf => hf
    replace hw := hw trivial
    cases hcall : th.call with
    | verifyCompletion input =>
      rw [hcall] at hw
      obtain ⟨j, session, holds, hxs, rfl, -⟩ := hw
      exact ⟨th, input, hth, hcall, hjudged holds (by simp [hxs, Judgement.opening]) rfl⟩
    | _ =>
      rw [hcall] at hw
      exact hw.elim
  | recordFailure id' now maxFailures =>
    obtain rfl : id' = id := htouches.resolve_right fun hf => hf
    replace hw := hw trivial
    cases hcall : th.call with
    | verifyCompletion input =>
      rw [hcall] at hw
      obtain ⟨body, proof, challenge, -, -, hproof, hmem, hid, hprincipal, -⟩ := hw
      exact ⟨th, input, hth, hcall, proof.event, hproof.decoded, hproof.signature,
        hprincipal.symm.trans (hkey hown hmem hid)⟩
    | _ =>
      rw [hcall] at hw
      exact hw.elim
  | createForChallenge draft =>
    have hid : draft.challenge.challengeId = id := htouches.resolve_left fun hf => hf
    replace hw := hw trivial
    cases hcall : th.call with
    | verifyCompletion input =>
      rw [hcall] at hw
      obtain ⟨j, holds, hxs, rfl⟩ := hw
      exact ⟨th, input, hth, hcall, hjudged holds (by simp [hxs, Judgement.opening]) hid⟩
    | _ =>
      rw [hcall] at hw
      exact hw.elim
  | _ => exact htouches.elim False.elim False.elim

/-- A step that does not spend an issued challenge leaves it alone, until its end. -/
theorem issued_step (hv : (server P O cb sb).Valid (h ++ [e])) (hr : challengeAt h id = some r)
    (hnew : r.IsNew) (hnot : ¬ Spends id e.op) (hstore : e.env.storeNow ≤ r.expiresAt)
    (hmark : ∀ now, e.op = .markExpired now → now ≤ r.expiresAt) :
    challengeAt (h ++ [e]) id = some r := by
  rcases challenge_step hv id with heq | ⟨op, hop, hch⟩
  · rw [heq, hr]
  · rw [hr] at hch
    generalize challengeAt (h ++ [e]) id = after at hch
    cases hch with
    | same => rfl
    | evicted dead =>
      obtain ⟨draft, answer, -, rfl, -⟩ := challengeOp?_eq_some hop
      rw [ChallengeRecord.retainUntil, hnew.resultCacheUntil, Option.getD_none] at dead
      omega
    | redeemed issued alive =>
      rw [op_of_event (challengeOp?_eq_some hop)] at hnot
      exact absurd rfl hnot
    | late dead =>
      rw [op_of_event (challengeOp?_eq_some hop)] at hnot
      exact absurd rfl hnot
    | expired issued dead =>
      obtain ⟨n, hev⟩ := challengeOp?_eq_some hop
      have := hmark _ (op_of_event hev)
      omega
    | failed issued next =>
      obtain ⟨now, maxFailures, answer, hev⟩ := challengeOp?_eq_some hop
      rw [op_of_event hev] at hnot
      exact absurd rfl hnot

/-- Challenges are marked as expired by a time that was read. -/
theorem hasRead_of_markExpired {c : (server P O cb sb).Config} (hc : (server P O cb sb).Reachable c)
    (ho : Occurs c.history pre e) {now : ℤ} (hop : e.op = .markExpired now) :
    HasRead ((machine cb sb).own e.tid pre) now := by
  obtain ⟨-, th, hth, -, k, hfol⟩ := hc.coherent.occurs pre e ho
  obtain ⟨th', hth', hw⟩ := warranted hc ho
  obtain rfl := Option.some.inj (hth.symm.trans hth')
  rw [hop] at hw
  replace hw := hw trivial
  have hmarks : (markChallengesExpired).Sat
      (fun xs op => ∀ now, op = .markExpired now → HasRead xs now) (fun _ _ => True) [] := by
    refine Prog.sat_op_bind.mpr ⟨by simp, fun now => Prog.sat_op_bind.mpr ⟨?_, fun _ => trivial⟩⟩
    rintro _ ⟨⟩
    exact ⟨_, List.mem_cons_self, rfl⟩
  cases hcall : th.call with
  | markChallengesExpired =>
    rw [hcall] at hfol
    exact (hmarks.follows hfol).1 now hop
  | _ =>
    rw [hcall] at hw
    exact hw.elim

/-- Nobody but the call `tid` signs for the key. -/
def Sole (c : (server P O cb sb).Config) (tid : ℕ) (key : String) : Prop :=
  ∀ tid' th input, tid' ≠ tid → c.threads[tid']? = some th → th.call = .verifyCompletion input →
    ¬ CarriesSignature P input key

/-- The run is over before the time `t`, by every clock. -/
def OverBefore (h : History cb sb) (t : ℤ) : Prop :=
  ∀ e ∈ h, e.env.now < t ∧ e.env.storeNow < t

section Untouched

variable {c : (server P O cb sb).Config} (hc : (server P O cb sb).Reachable c)
  (hp : h <+: c.history) (hr : challengeAt h id = some r) (hsole : Sole c tid r.pubkey)
include hc hp hr hsole

/-- Where nobody else signs for its key, only the call itself spends a challenge or makes a session
for it. -/
theorem tid_of_touches (ho : Occurs c.history pre e) (htouches : Spends id e.op ∨ Makes id e.op) :
    e.tid = tid := by
  by_contra hne
  obtain ⟨th, input, hth, hcall, hsigned⟩ := prover_of_touches hc ho htouches hp hr
  exact hsole e.tid th input hne hth hcall hsigned

/-- Until the call spends it, and before its end, the challenge stays as it was issued. -/
theorem untouched (hnew : r.IsNew) (hover : OverBefore c.history r.expiresAt) (hpre : h <+: pre)
    (hpre' : pre <+: c.history) (hown : ∀ ev ∈ (machine cb sb).own tid pre, ¬ Spends id ev.1) :
    challengeAt pre id = some r := by
  have hv := System.Valid.of_reachable hc
  refine (hv.restrict hpre').persist (P := fun h1 => h1 <+: pre → challengeAt h1 id = some r) hpre
    (fun _ => hr) (fun h1 e hv1 _ ih hp1 => ?_) List.prefix_rfl
  have ho : Occurs pre h1 e := hp1
  have hmem : e ∈ c.history := (ho.mono hpre').mem (by simp)
  have hnot : ¬ Spends id e.op := by
    intro hspends
    have htid := tid_of_touches hc hp hr hsole (ho.mono hpre') (Or.inl hspends)
    exact hown _ (mem_own.mpr ⟨h1, e, ho, htid, rfl⟩) hspends
  refine issued_step hv1 (ih ((List.prefix_append _ _).trans hp1)) hnew hnot (hover e hmem).2.le
    fun now hop => ?_
  -- Challenges are marked by a time that was read.
  have hread := hasRead_of_markExpired hc (ho.mono hpre') hop
  obtain ⟨p, e', ho', -, rfl⟩ := exists_occurs_of_hasRead hread
  exact (hover e' ((ho'.mono ho.before |>.mono hpre').mem (by simp))).1.le

end Untouched

/-! ## The honest request -/

/-- What an honest completion is answered. As long as it has not spent the challenge itself, it finds
the challenge as it was issued; as long as it has not made a session, it is given the one that it
makes. -/
def HonestAnswer (challenge : ChallengeRecord) (time : ℤ) (xs : List (Event Res)) (ev : Event Res) :
    Prop :=
  (∀ t, requestTime (xs ++ [ev]) = some t → t = time) ∧
  match ev with
  | ⟨.checkRateLimit _, verdict⟩ => verdict.1.allowed = true
  | ⟨.challengeGet id, record⟩ => id = challenge.challengeId →
    (∀ ev ∈ xs, ¬ Spends challenge.challengeId ev.1) → record = some challenge
  | ⟨.resolve _ _ _, verdict⟩ => verdict.1.allowed = true
  | ⟨.createForChallenge draft, session⟩ => draft.challenge.challengeId = challenge.challengeId →
    (∀ ev ∈ xs, ¬ Makes challenge.challengeId ev.1) →
    ∃ draws, session = some (createSessionRecord draft draws)
  | ⟨.redeem id params, status⟩ => id = challenge.challengeId → params.now = time →
    (∀ ev ∈ xs, ¬ Spends challenge.challengeId ev.1) → status = .redeemed
  | _ => True

/-- The session that a completion makes for itself, and answers with. -/
def LoggedIn (O : NapServerOptions) (body : AuthCompleteRequest) (challenge : ChallengeRecord)
    (time : ℤ) (xs : List (Event Res)) (outcome : Outcome) : Prop :=
  ∃ (decision : AclDecision) (resolvedAt : ℤ) (draws : Draws),
    ⟨.resolve challenge.npub challenge.pubkey ⟨body.voucher, time, none⟩, (decision, resolvedAt)⟩ ∈
      xs ∧
    outcome = .ok (createSessionRecord (completionDraft O body time challenge decision) draws)

/-- An honest completion that is answered so succeeds with a session of its own. -/
theorem verifyCompletion_honest {challenge : ChallengeRecord} {time : ℤ}
    {body : AuthCompleteRequest} {proof : VerifiedNip98Completion}
    (parsed : parseAuthCompleteRequest P input.rawBody = some body)
    (proven : Nip98Valid P (proofInput O input body time) proof)
    (named : body.challengeId = challenge.challengeId) (new : challenge.IsNew)
    (principal : challenge.pubkey = proof.event.pubkey)
    (quoted : challenge.challenge = proof.challenge)
    (fresh : validateChallengeBoundCreatedAt proof.event.createdAt challenge.issuedAt
      challenge.expiresAt (O.lowerBoundGraceSeconds.getD 30) (O.upperBoundGraceSeconds.getD 5) =
        true)
    (alive : time ≤ challenge.expiresAt) :
    (verifyCompletion P O input).Yields (HonestAnswer challenge time)
      (LoggedIn O body challenge time) [] := by
  refine Prog.yields_op_bind.mpr fun _ _ => ?_
  rw [parsed]
  refine Prog.yields_op_bind.mpr ?_
  rintro ⟨verdict, now⟩ hgood
  obtain rfl : now = time := hgood.1 now rfl
  have hallowed : verdict.allowed = true := hgood.2
  simp only [hallowed, Bool.true_eq_false, if_false, verifyNip98Completion_ok.mpr proven]
  refine Prog.yields_op_bind.mpr ?_
  rintro ⟨verdict', _⟩ hgood
  have hallowed' : verdict'.allowed = true := hgood.2
  simp only [hallowed', Bool.true_eq_false, if_false]
  refine Prog.yields_op_bind.mpr fun record hgood => ?_
  -- The challenge is the one that was issued, and the request answers it.
  obtain rfl : record = some challenge :=
    hgood.2 (proven.challengeId_eq.trans named) (by simp [Spends])
  simp only [completeChallenge, new.state, not_lt.mpr alive, principal, quoted, fresh,
    reduceCtorEq, or_self, if_false, ne_eq, not_true_eq_false, Bool.true_eq_false]
  refine Prog.yields_op_bind.mpr ?_
  rintro ⟨decision, resolvedAt⟩ hgood
  have hdecision : decision.allowed = true := hgood.2
  simp only [hdecision, Bool.true_eq_false, if_false]
  refine Prog.yields_op_bind.mpr fun session hgood => ?_
  obtain ⟨draws, rfl⟩ := hgood.2 rfl (by simp [Makes])
  refine Prog.yields_op_bind.mpr fun status hgood => ?_
  obtain rfl : status = .redeemed := hgood.2 rfl rfl (by simp [Spends])
  refine Prog.yields_op_bind.mpr fun _ _ => ⟨decision, resolvedAt, draws, ?_, rfl⟩
  simp [principal]

/-- A completion whose challenge nobody else signs for is answered as an honest one. -/
theorem honest_answers {c : (server P O cb sb).Config} (hc : (server P O cb sb).Reachable c)
    {challenge : ChallengeRecord} {time : ℤ} (hp : h <+: c.history)
    (hr : challengeAt h challenge.challengeId = some challenge) (hnew : challenge.IsNew)
    (hsole : Sole c tid challenge.pubkey) (hover : OverBefore c.history challenge.expiresAt)
    (hstart : StartedAfter h c tid)
    (htime : requestTime ((machine cb sb).own tid c.history) = some time)
    (hallowed : ∀ key verdict, ⟨.checkRateLimit key, verdict⟩ ∈ (machine cb sb).own tid c.history →
      verdict.1.allowed = true)
    (hdecided : ∀ npub pubkey context verdict, ⟨.resolve npub pubkey context, verdict⟩ ∈
      (machine cb sb).own tid c.history → verdict.1.allowed = true)
    {e1 : Step (machine cb sb)} (ho1 : Occurs c.history pre e1) (htid : e1.tid = tid) :
    HonestAnswer challenge time ((machine cb sb).own tid pre) ((machine cb sb).event pre e1) := by
  subst htid
  have hv := System.Valid.of_reachable hc
  have hhp := hstart.before hc hp ho1
  have hmem : (machine cb sb).event pre e1 ∈ (machine cb sb).own e1.tid c.history :=
    mem_own.mpr ⟨pre, e1, ho1, rfl, rfl⟩
  have hheld := untouched hc hp hr hsole hnew hover hhp ho1.before
  refine ⟨fun t ht => ?_, ?_⟩
  · rw [← Machine.own_concat_self] at ht
    exact Option.some.inj ((requestTime_mono (own_mono _ ho1) ht).symm.trans htime)
  generalize hev1 : (machine cb sb).event pre e1 = ev at hmem
  obtain ⟨op, answer⟩ := ev
  cases op with
  | checkRateLimit key => exact hallowed key answer hmem
  | resolve npub pubkey context => exact hdecided npub pubkey context answer hmem
  | challengeGet id =>
    rintro rfl hown
    exact (challengeAt_of_get hev1).symm.trans (hheld hown)
  | createForChallenge draft =>
    intro hdraft hown
    rcases createForChallenge_cases (hv.restrict ho1) hev1 with
      ⟨r, hfound, hcid, hrow, -, -⟩ | ⟨-, hans, -⟩
    · -- A session for the challenge would have been made by this call, which has made none.
      exfalso
      obtain ⟨p, e', draft', ho', hev', hcreated⟩ :=
        exists_createForChallenge (hv.restrict ho1.before) hrow
      have hsame : r.challengeId = draft'.challenge.challengeId :=
        (congrArg SessionRecord.challengeId hcreated :)
      have hmakes : Makes challenge.challengeId e'.op := by
        rw [op_of_event hev']
        exact hsame.symm.trans (hcid.trans hdraft)
      have htid' := tid_of_touches hc hp hr hsole (ho'.mono ho1.before) (Or.inr hmakes)
      refine hown _ (mem_own.mpr ⟨p, e', ho', htid', hev'⟩) ?_
      rw [op_of_event hev'] at hmakes
      exact hmakes
    · exact ⟨e1.env.draws, hans⟩
  | redeem id params =>
    rintro rfl hnow hown
    obtain ⟨hop, hanswer⟩ := Machine.event_eq_iff _ |>.mp hev1
    have hread := hasRead_of_requestTime htime
    obtain ⟨p, e', ho', -, ht⟩ := exists_occurs_of_hasRead hread
    rw [← hanswer]
    refine cb.challengeStore_serves.redeem (sound_of_valid (hv.restrict ho1.before)).challenges_wf
      (hheld hown) hnew.state ?_
    rw [hnow, ← ht]
    exact (hover e' (ho'.mem (by simp))).1
  | _ => trivial

/-! ## The challenge -/

/-- What explains that a challenge was issued: it was created for the key of the `npub`. -/
def IssueExplained (P : Platform) (O : NapServerOptions) (i : IssueChallengeInput)
    (xs : List (Event Res)) (outcome : Outcome) : Prop :=
  ∀ response, outcome = .issued response → ∃ draft record,
    ⟨.challengeCreate draft, some record⟩ ∈ xs ∧ decodeNpub P i.npub = some draft.pubkey ∧
    response = authInitResponse O record

/-- `issueChallenge` issues the challenge that it has created. -/
theorem issueChallenge_explained {i : IssueChallengeInput} :
    (issueChallenge P O i).Sat (fun _ _ => True) (IssueExplained P O i) [] := by
  have hfail : ∀ code details (xs : List (Event Res)),
      (fail code details).Sat (fun _ _ => True) (IssueExplained P O i) xs := fun _ _ _ =>
    Prog.sat_op_bind.mpr ⟨trivial, fun _ _ h => by cases h⟩
  have hrefuse : ∀ code pubkey details retry (xs : List (Event Res)),
      (refuse code pubkey details retry).Sat (fun _ _ => True) (IssueExplained P O i) xs :=
    fun _ _ _ _ _ => Prog.sat_op_bind.mpr ⟨trivial, fun _ _ h => by cases h⟩
  unfold issueChallenge
  cases resolveChallengeTtl O with
  | none => exact fun _ h => by cases h
  | some ttl =>
  refine Prog.sat_op_bind.mpr ⟨trivial, fun _ => Prog.sat_op_bind.mpr ⟨trivial, ?_⟩⟩
  rintro ⟨rateLimit, now⟩
  dsimp only
  split
  · exact hrefuse _ _ _ _ _
  cases hnpub : decodeNpub P i.npub with
  | none => exact hfail _ _ _
  | some pubkey =>
  dsimp only
  split
  · exact hfail _ _ _
  refine Prog.Sat.bind ((findExceededOutstandingCap_sat (O := O) (Ψ := fun _ _ => True)
    fun _ _ => trivial).mono (fun _ _ _ => trivial) fun ys exceeded _ => ?_)
  cases exceeded with
  | some cap => exact hrefuse _ _ _ _ _
  | none =>
    refine Prog.sat_op_bind.mpr ⟨trivial, fun created => ?_⟩
    cases created with
    | none => exact hfail _ _ _
    | some record =>
      rintro response ⟨⟩
      exact ⟨_, record, List.mem_append_right _ (List.mem_singleton_self _), hnpub, rfl⟩

/-- A challenge that was issued is held as it was issued right after its creation. -/
theorem exists_issued {c : (server P O cb sb).Config} (hc : (server P O cb sb).Reachable c)
    {i : IssueChallengeInput} {response : AuthInitResponse}
    (hr : Returned c tid (.issueChallenge i) (.issued response)) :
    ∃ pre e r, Occurs c.history pre e ∧
      challengeAt (pre ++ [e]) r.challengeId = some r ∧ r.IsNew ∧
      decodeNpub P i.npub = some r.pubkey ∧ response = authInitResponse O r := by
  have hv := System.Valid.of_reachable hc
  obtain ⟨th, hth, hcall, hprog⟩ := hr
  have hexp := (hc.sat hth (by rw [hcall]; exact issueChallenge_explained) hprog).resolve_left
    (by simp)
  obtain ⟨draft, record, hmem, hnpub, hresponse⟩ := hexp response rfl
  obtain ⟨pre, e, ho, -, hev⟩ := mem_own.mp hmem
  obtain ⟨hop, hanswer⟩ := Machine.event_eq_iff _ |>.mp hev
  have hs := sound_of_valid (hv.restrict ho.before)
  have hnone := hs.challenge_unused hop (hv.admissible ho)
  obtain ⟨r, hr, hissue, hnew⟩ := @ChallengeStore.Serves.create _ _ cb.challengeStore_serves
    _ e.env.storeNow _ hs.challenges_wf hnone ⟨rfl, rfl, rfl, rfl⟩
  have hrecord : record = challengeRecord draft e.env.draws := by
    have hcreated : (if (cb.challengeStore.create e.env.storeNow
        (challengeRecord draft e.env.draws) ((machine cb sb).after pre).challenges).1 = true then
          some (challengeRecord draft e.env.draws) else none) = some record := hanswer
    split_ifs at hcreated
    exact (Option.some.inj hcreated).symm
  have hid : r.challengeId = record.challengeId :=
    (congrArg ChallengeRecord.challengeId hissue :).trans (hrecord ▸ rfl)
  refine ⟨pre, e, r, ho, ?_, hnew, ?_, ?_⟩
  · rw [challengeAt, Machine.after_concat, Machine.next, hop, hid, hrecord]
    exact hr
  · rw [hnpub]
    exact congrArg some (congrArg ChallengeRecord.pubkey hissue :).symm
  · have hsame := congrArg (authInitResponse O) (hissue.trans (congrArg _ hrecord.symm))
    rw [hresponse]
    exact hsame.symm

/-! ## Honest logins -/

/-- An honest login succeeds. A client asks for a challenge for its key and is given `response`; it
builds its request for that challenge and sends it. If nobody else signs for its key, the run is over
before the end of the challenge, the client's clock is within the skew and the challenge's lifetime,
and the rate limiter and the ACL allow the request, then the client is logged in, with a session of its
own key that is for its challenge and is made as the request and the ACL say. -/
theorem honest_login {C : Client} {c0 c : (server P O cb sb).Config}
    (hc0 : (server P O cb sb).Reachable c0) (hcc : (server P O cb sb).Reaches c0 c) {tid0 : ℕ}
    {i : IssueChallengeInput} {response : AuthInitResponse}
    (hissued : Returned c0 tid0 (.issueChallenge i) (.issued response))
    {createdAt : JsonNumber} {stepUp : Bool} {voucher : Option VoucherCredential}
    {request : BuiltAuthCompleteRequest} {clientIp : Option String} {outcome : Outcome} {time : ℤ}
    (hrequest : buildAuthCompleteRequest P C response createdAt stepUp voucher = request)
    (hsigns : C.SignsAsGiven) (hreads : Reads P C request)
    (howner : decodeNpub P i.npub = some request.event.pubkey)
    (hurl : (P.newUrl response.authUrl).isSome = true)
    (hmethod : P.toUpperCase response.authMethod = response.authMethod)
    (hr : Returned c tid (.verifyCompletion (request.input clientIp)) outcome)
    (halive : outcome ≠ .aborted) (hstart : StartedAfter c0.history c tid)
    (htime : requestTime ((machine cb sb).own tid c.history) = some time)
    (hskew : validateCreatedAtWindow createdAt time (O.maxClockSkewSeconds.getD 60) = true)
    (hfresh : validateChallengeBoundCreatedAt createdAt response.issuedAt response.expiresAt
      (O.lowerBoundGraceSeconds.getD 30) (O.upperBoundGraceSeconds.getD 5) = true)
    (hover : OverBefore c.history response.expiresAt)
    (hsole : Sole c tid request.event.pubkey)
    (hallowed : ∀ key verdict, ⟨.checkRateLimit key, verdict⟩ ∈ (machine cb sb).own tid c.history →
      verdict.1.allowed = true)
    (hdecided : ∀ npub pubkey context verdict, ⟨.resolve npub pubkey context, verdict⟩ ∈
      (machine cb sb).own tid c.history → verdict.1.allowed = true) :
    ∃ s decision, outcome = .ok s ∧ s.challengeId = response.challengeId ∧
      s.principalPubkey = request.event.pubkey ∧ Reflects s request.body decision ∧
      ∃ npub context resolvedAt, ⟨.resolve npub request.event.pubkey context,
        (decision, resolvedAt)⟩ ∈ (machine cb sb).own tid c.history := by
  have hc : (server P O cb sb).Reachable c := hc0.trans hcc
  have hv := System.Valid.of_reachable hc
  obtain ⟨pre, e, r, ho0, hheld, hnew, hnpub, rfl⟩ := exists_issued hc0 hissued
  have ho := ho0.mono hcc.history_mono
  have hstarted : StartedAfter (pre ++ [e]) c tid := by
    obtain ⟨th, hth, hle⟩ := hstart
    exact ⟨th, hth, ho0.length_le.trans hle⟩
  have hpubkey : r.pubkey = request.event.pubkey := Option.some.inj (hnpub.symm.trans howner)
  have hid : r.challengeId ≠ "" := ne_empty_of_drawn (hv.restrict ho)
    ((sound_of_valid (hv.restrict ho)).id_drawn _ r hheld)
  have hproven : Nip98Valid P (proofInput O (request.input clientIp) request.body time)
      (request.proof (authInitResponse O r)) := built_valid hrequest hsigns hreads hid hurl hmethod hskew
  have hcreated : request.event.createdAt = createdAt := by
    subst hrequest
    exact (hsigns _).1
  have htime_alive : time ≤ r.expiresAt := by
    obtain ⟨p, e', ho', -, rfl⟩ := exists_occurs_of_hasRead (hasRead_of_requestTime htime)
    exact (hover e' (ho'.mem (by simp))).1.le
  have hnamed : request.body.challengeId = r.challengeId := by
    subst hrequest
    rfl
  have hyields : (verifyCompletion P O (request.input clientIp)).Yields (HonestAnswer r time)
      (LoggedIn O request.body r time) [] :=
    verifyCompletion_honest hreads.body hproven hnamed hnew hpubkey rfl (hcreated.symm ▸ hfresh)
      htime_alive
  have hgood : ∀ p e1, Occurs c.history p e1 → e1.tid = tid →
      HonestAnswer r time ((machine cb sb).own tid p) ((machine cb sb).event p e1) :=
    fun p e1 ho1 htid => honest_answers hc ho hheld hnew (hpubkey ▸ hsole) hover hstarted htime
      hallowed hdecided ho1 htid
  obtain ⟨th, hth, hcall, hprog⟩ := hr
  obtain ⟨decision, resolvedAt, draws, hmem, rfl⟩ :=
    (hc.yields hth (by rw [hcall]; exact hyields) hgood hprog).resolve_left halive
  refine ⟨_, decision, rfl, rfl, hpubkey, ⟨?_, rfl, rfl⟩, r.npub, _, resolvedAt, hpubkey ▸ hmem⟩
  simp only [createSessionRecord, completionDraft]
  cases request.body.stepUp <;> simp

/-- What is to be computed of a login whose challenge was issued when `c0` was reached. -/
def Sample.honest (c0 c : (server platform options .memory .memory).Config) : Bool :=
  c0.returned? 0 == some (.issued initResponse) && (session? c 2).isSome &&
  requestTime ((machine .memory .memory).own 2 c.history) == some 1010 &&
  c.history.all (fun e => decide (e.env.now < 1060) && decide (e.env.storeNow < 1060) &&
    e.env.rateLimit.allowed && e.env.acl.allowed) &&
  (c.threads[2]?).any fun th => decide (c0.history.length ≤ th.started)

open Sample in
/-- A client that asks for a challenge and answers it, while a timer marks overdue challenges. -/
theorem honest_login_here : ∃ (c0 c : (server platform options .memory .memory).Config)
    (s : SessionRecord), (server platform options .memory .memory).Reachable c0 ∧
    (server platform options .memory .memory).Reaches c0 c ∧
    Returned c0 0 (issue none) (.issued initResponse) ∧
    Returned c 2 (complete false none) (.ok s) ∧ s.principalPubkey = pubkey ∧
    s.challengeId = challengeId := by
  have hcomputed : ∀ call ∈ [issue none] ++ [.markChallengesExpired, complete false none],
      Computed options call := by
    simp only [List.singleton_append, List.forall_mem_cons]
    exact ⟨rfl, rfl, computed_complete rfl false none, by simp⟩
  obtain ⟨c0, c, hc0, hcc, hcalls0, hcalls, hp⟩ := exists_run_append
    (turn (issue none) 0 4 (env 1000 0))
    (turn .markChallengesExpired 1 2 (env 1005 1) ++ turn (complete false none) 2 8 (env 1010 1))
    [issue none] [.markChallengesExpired, complete false none] honest rfl rfl hcomputed
    (by decide +kernel)
  simp only [honest, Bool.and_eq_true, beq_iff_eq, List.all_eq_true, decide_eq_true_eq] at hp
  obtain ⟨⟨⟨⟨hissued, hsession⟩, htime⟩, hsteady⟩, hstarted⟩ := hp
  obtain ⟨s, hs⟩ := Option.isSome_iff_exists.mp hsession
  have hr : Returned c 2 (complete false none) (.ok s) := returned_of_session hcalls rfl hs
  have hi : Returned c0 0 (issue none) (.issued initResponse) := returned_of_run hcalls0 rfl hissued
  have hpubkey : (request false).event.pubkey = pubkey := by
    rw [request_event]
    rfl
  have hstart : StartedAfter c0.history c 2 := by
    obtain ⟨th, hth, hle⟩ := (Option.any_eq_true _ _).mp hstarted
    exact ⟨th, hth, of_decide_eq_true hle⟩
  have hsole : Sole c 2 (request false).event.pubkey := by
    intro tid' th input hne hth hcall _
    have hmem : (([issue none] ++ [.markChallengesExpired, complete false none])[tid']? :
        Option Call) = some (.verifyCompletion input) := by
      rw [← hcalls, System.Config.calls, List.getElem?_map, hth, Option.map_some, hcall]
    rcases tid' with _ | _ | _ | n
    · cases hmem
    · cases hmem
    · exact hne rfl
    · cases hmem
  have hallowed : ∀ {ev : Event Res}, ev ∈ (machine .memory .memory).own 2 c.history →
      ∃ pre e, Occurs c.history pre e ∧ (machine .memory .memory).event pre e = ev ∧
        e.env.rateLimit.allowed = true ∧ e.env.acl.allowed = true := by
    intro ev hev
    obtain ⟨pre, e, ho, -, hev⟩ := mem_own.mp hev
    have hall := hsteady e (ho.mem (by simp))
    exact ⟨pre, e, ho, hev, hall.1.2, hall.2⟩
  obtain ⟨s', decision, hout, hcid, hprincipal, -⟩ := honest_login hc0 hcc hi
    (show _ = request false from rfl) (fun template => ⟨rfl, rfl, rfl, rfl⟩) (reads_request false)
    (by rw [hpubkey]; rfl) (by decide) toUpperCase_post hr (by simp) hstart htime
    (by decide +kernel) (by decide +kernel)
    (fun e he => ⟨(hsteady e he).1.1.1, (hsteady e he).1.1.2⟩) hsole
    (fun key verdict hmem => by
      obtain ⟨pre, e, -, hev, hlimit, -⟩ := hallowed hmem
      rw [← (Machine.event_eq_iff _ |>.mp hev).2]
      exact hlimit)
    (fun npub key context verdict hmem => by
      obtain ⟨pre, e, -, hev, -, hacl⟩ := hallowed hmem
      rw [← (Machine.event_eq_iff _ |>.mp hev).2]
      exact hacl)
  obtain rfl := Outcome.ok.inj hout
  exact ⟨c0, c, s, hc0, hcc, hi, hr, hprincipal.trans hpubkey, hcid⟩

end NapAuth

import NapAuth.Completion
import NapAuth.Server.Warrant

/-!
# The failure budget of a challenge

`verifyCompletion` counts a failure on a challenge only after it has verified the event and found it
signed by the challenge's own key, so nobody else can use up a challenge (`signedBy_of_changed`,
`exists_signer`). The store ends a challenge in the step that counts its last failure, so the count
never passes the bound (`WithinBudget`), and an ended challenge stays so (`failed_persists`).
-/

namespace NapAuth

open Interleaving

variable {P : Platform} {O : NapServerOptions} {cb sb : Backend} {h h' pre pre' : History cb sb}
  {e : Step (machine cb sb)} {id : String} {r r' : ChallengeRecord}

/-! ## What a step counts -/

/-- `recordFailure` counts a failure on an issued challenge. -/
theorem challengeAt_recordFailure (hv : (server P O cb sb).Valid h) {now maxFailures : ℤ}
    (hop : e.op = .recordFailure id now maxFailures) (hr : challengeAt h id = some r)
    (hissued : r.state = .issued) : challengeAt (h ++ [e]) id = some (r.fail maxFailures) := by
  rw [challengeAt, Machine.after_concat, Machine.next, hop]
  exact cb.challengeStore_tallies.recordFailure (sound_of_valid hv).challenges_wf hr hissued

/-- A challenge that a step creates has no failures. -/
theorem failureCount_created (hv : (server P O cb sb).Valid (h ++ [e])) {draft : ChallengeDraft}
    (hop : e.op = .challengeCreate draft)
    (hr : challengeAt (h ++ [e]) (challengeRecord draft e.env.draws).challengeId = some r) :
    r.failureCount.getD 0 = 0 := by
  have hsound := sound_of_valid (hv.restrict (List.prefix_append _ _))
  have hnone := hsound.challenge_unused hop (hv.admissible Occurs.last)
  rw [challengeAt, Machine.after_concat, Machine.next, hop] at hr
  exact cb.challengeStore_tallies.create hsound.challenges_wf hnone rfl hr

/-! ## Who may change a challenge -/

/-- The event of a completion verifies, at the time of the request, and the key has signed it. -/
def SignedBy (P : Platform) (O : NapServerOptions) (input : VerifyCompletionInput)
    (xs : List (Event Res)) (pubkey : String) : Prop :=
  ∃ body now proof, parseAuthCompleteRequest P input.rawBody = some body ∧
    requestTime xs = some now ∧
    verifyNip98Completion P (proofInput O input body now) = .ok proof ∧
    proof.event.pubkey = pubkey

/-- Whoever counts a failure has signed with the challenge's key, under a bound that is positive. -/
theorem exists_signer_recordFailure {c : (server P O cb sb).Config}
    (hc : (server P O cb sb).Reachable c) (ho : Occurs c.history pre e) {now maxFailures : ℤ}
    (hop : e.op = .recordFailure id now maxFailures) (hr : challengeAt pre id = some r) :
    (∃ th input, c.threads[e.tid]? = some th ∧ th.call = .verifyCompletion input ∧
      SignedBy P O input ((machine cb sb).own e.tid pre) r.pubkey) ∧
    maxFailures = O.maxFailuresPerChallenge.getD 5 ∧ 0 < maxFailures := by
  have hv := (System.Valid.of_reachable hc).restrict ho.before
  obtain ⟨th, input, hth, hcall, body, proof, challenge, hparsed, htime, hproof, hread, rfl,
    hprincipal, hbound⟩ := failure_warrant hc ho hop
  have hpubkey : r.pubkey = challenge.pubkey :=
    (congrArg ChallengeRecord.pubkey (asIssued_of_read hv hread hr) :)
  exact ⟨⟨th, input, hth, hcall, body, now, proof, hparsed, htime,
    verifyNip98Completion_ok.mpr hproof, (hpubkey.trans hprincipal).symm⟩, hbound⟩

/-- A completion that changes a challenge at all is signed with the challenge's key. -/
theorem signedBy_of_changed {c : (server P O cb sb).Config} (hc : (server P O cb sb).Reachable c)
    (ho : Occurs c.history pre e) {input : VerifyCompletionInput}
    (hcall : ∃ th, c.threads[e.tid]? = some th ∧ th.call = .verifyCompletion input)
    (hr : challengeAt pre id = some r) (hne : challengeAt (pre ++ [e]) id ≠ some r) :
    SignedBy P O input ((machine cb sb).own e.tid pre) r.pubkey := by
  obtain ⟨th, hth, hcall⟩ := hcall
  have hv := System.Valid.of_reachable hc
  obtain ⟨th', hth', hw⟩ := warranted hc ho
  obtain rfl : th' = th := Option.some.inj (hth'.symm.trans hth)
  rw [hcall] at hw
  -- A redemption is warranted by a judgement.
  have hredeem : ∀ params, e.op = .redeem id params →
      SignedBy P O input ((machine cb sb).own e.tid pre) r.pubkey := by
    intro params hop
    rw [hop] at hw
    obtain ⟨j, session, holds, hown, rfl, -⟩ := hw trivial
    have hread : ⟨.challengeGet j.proof.challengeId, some j.challenge⟩ ∈
        (machine cb sb).own e.tid pre := by rw [hown]; simp [Judgement.opening]
    have hpubkey : r.pubkey = j.challenge.pubkey :=
      (congrArg ChallengeRecord.pubkey (asIssued_of_read (hv.restrict ho.before) hread hr) :)
    have htime : requestTime ((machine cb sb).own e.tid pre) = some j.now := by rw [hown]; rfl
    exact ⟨j.body, j.now, j.proof, holds.parsed, htime, verifyNip98Completion_ok.mpr holds.proven,
      (hpubkey.trans holds.principal).symm⟩
  rcases challenge_step (hv.restrict ho) id with heq | ⟨op, hop, hch⟩
  · exact absurd (heq.trans hr) hne
  · rw [hr] at hch
    generalize hafter : challengeAt (pre ++ [e]) id = after at hch hne
    cases hch with
    | same => exact absurd rfl hne
    | evicted dead =>
      -- Completions create no challenges.
      obtain ⟨draft, answer, hev, -⟩ := challengeOp?_eq_some hop
      rw [op_of_event hev] at hw
      exact (hw trivial).elim
    | redeemed issued alive => exact hredeem _ (op_of_event (challengeOp?_eq_some hop))
    | late dead => exact hredeem _ (op_of_event (challengeOp?_eq_some hop))
    | expired issued dead =>
      obtain ⟨n, hev⟩ := challengeOp?_eq_some hop
      rw [op_of_event hev] at hw
      exact (hw trivial).elim
    | failed issued next =>
      obtain ⟨now, maxFailures, answer, hev⟩ := challengeOp?_eq_some hop
      obtain ⟨⟨th1, input1, hth1, hcall1, hsigned⟩, -⟩ :=
        exists_signer_recordFailure hc ho (op_of_event hev) hr
      obtain rfl : th1 = th' := Option.some.inj (hth1.symm.trans hth')
      injection hcall1.symm.trans hcall with hinput
      exact hinput ▸ hsigned

/-- A step that counts a failure on a challenge, or ends it for its failures, belongs to a
completion that is signed with the challenge's key. -/
theorem exists_signer {c : (server P O cb sb).Config} (hc : (server P O cb sb).Reachable c)
    (ho : Occurs c.history pre e) (hr : challengeAt pre id = some r)
    (hr' : challengeAt (pre ++ [e]) id = some r')
    (hne : r'.failureCount ≠ r.failureCount ∨
      r'.state = .failedTerminal ∧ r.state ≠ .failedTerminal) :
    ∃ th input, c.threads[e.tid]? = some th ∧ th.call = .verifyCompletion input ∧
      SignedBy P O input ((machine cb sb).own e.tid pre) r.pubkey := by
  rcases challenge_step ((System.Valid.of_reachable hc).restrict ho) id with heq | ⟨op, hop, hch⟩
  · rw [hr', hr] at heq
    simp [Option.some.inj heq] at hne
  · rw [hr, hr'] at hch
    cases hch with
    | same => simp at hne
    | redeemed issued alive => simp [ChallengeRecord.redeem] at hne
    | late dead => simp at hne
    | expired issued dead => simp at hne
    | failed issued next =>
      obtain ⟨now, maxFailures, answer, hev⟩ := challengeOp?_eq_some hop
      exact (exists_signer_recordFailure hc ho (op_of_event hev) hr).1

/-! ## The budget -/

/-- A challenge has at most as many failures as configured, and fewer while it is issued. A bound
that is not positive switches the count off. -/
structure WithinBudget (O : NapServerOptions) (r : ChallengeRecord) : Prop where
  /-- There are at most as many failures as configured. -/
  le : r.failureCount.getD 0 ≤ max (O.maxFailuresPerChallenge.getD 5) 0
  /-- There are fewer while it is issued. -/
  lt : r.state = .issued → 0 < O.maxFailuresPerChallenge.getD 5 →
    r.failureCount.getD 0 < O.maxFailuresPerChallenge.getD 5

/-- A challenge without failures is within its budget. -/
theorem WithinBudget.of_zero (hzero : r.failureCount.getD 0 = 0) : WithinBudget O r :=
  ⟨by omega, fun _ hpos => by omega⟩

/-- One more failure on an issued challenge is within the budget. -/
theorem WithinBudget.fail (hb : WithinBudget O r) (hissued : r.state = .issued)
    (hpos : 0 < O.maxFailuresPerChallenge.getD 5) :
    WithinBudget O (r.fail (O.maxFailuresPerChallenge.getD 5)) := by
  have hlt := hb.lt hissued hpos
  refine ⟨?_, fun hstate _ => ?_⟩
  · show r.failureCount.getD 0 + 1 ≤ _
    omega
  · -- It is still issued, so the bound has not been reached.
    show r.failureCount.getD 0 + 1 < _
    simp only [ChallengeRecord.fail] at hstate
    split_ifs at hstate with hlast
    omega

/-- Every challenge of a run is within its budget. -/
theorem withinBudget {c : (server P O cb sb).Config} (hc : (server P O cb sb).Reachable c)
    (hp : h <+: c.history) (hr : challengeAt h id = some r) : WithinBudget O r := by
  have hv := System.Valid.of_reachable hc
  refine (hv.restrict hp).rec_on (P := fun h => h <+: c.history →
    ∀ r, challengeAt h id = some r → WithinBudget O r) (fun _ r hr => ?_)
    (fun h e _ hv' ih hp r' hr' => ?_) hp r hr
  · exact absurd (sound_nil.id_drawn id r hr) (by simp)
  have hold := ih ((List.prefix_append _ _).trans hp)
  rcases challenge_step hv' id with heq | ⟨op, hop, hch⟩
  · exact hold r' (heq ▸ hr')
  · rw [hr'] at hch
    generalize hbefore : challengeAt h id = before at hch
    cases hch with
    | same => exact hold r' hbefore
    | created issue new =>
      obtain ⟨draft, answer, hev, -, rfl, -⟩ := challengeOp?_eq_some hop
      exact WithinBudget.of_zero (failureCount_created hv' (op_of_event hev) hr')
    | @redeemed _ _ r issued alive => exact ⟨(hold r hbefore).le, fun hstate => by cases hstate⟩
    | @late _ _ r dead => exact ⟨(hold r hbefore).le, fun hstate => by cases hstate⟩
    | @expired _ _ r issued dead => exact ⟨(hold r hbefore).le, fun hstate => by cases hstate⟩
    | @failed _ _ _ r issued next =>
      obtain ⟨now, maxFailures, answer, hev⟩ := challengeOp?_eq_some hop
      obtain ⟨-, rfl, hpos⟩ := exists_signer_recordFailure hc hp (op_of_event hev) hbefore
      have hafter := challengeAt_recordFailure (hv'.restrict (List.prefix_append _ _))
        (op_of_event hev) hbefore issued
      rw [Option.some.inj (hr'.symm.trans hafter)]
      exact (hold r hbefore).fail issued hpos

/-! ## The end -/

/-- A challenge that has failed stays so. -/
theorem failed_persists (hv : (server P O cb sb).Valid h') (hp : h <+: h')
    (hr : challengeAt h id = some r) (hfailed : r.state = .failedTerminal)
    (hr' : challengeAt h' id = some r') : r'.state = .failedTerminal := by
  have hd : id ∈ drawn h := (sound_of_valid (hv.restrict hp)).id_drawn id r hr
  refine hv.persist (P := fun h => ∀ r, challengeAt h id = some r → r.state = .failedTerminal) hp
    (fun r1 hr1 => ?_) (fun h1 e1 hv1 hp1 ih r2 hr2 => ?_) r' hr'
  · rw [← Option.some.inj (hr.symm.trans hr1), hfailed]
  · cases hr1 : challengeAt h1 id with
    | none =>
      rw [challengeAt_gone hv1 (List.prefix_append _ _) (drawn_mono hp1 hd) hr1] at hr2
      cases hr2
    | some r1 =>
      have hstate := ih r1 hr1
      rcases challenge_step hv1 id with heq | ⟨op, hop, hch⟩
      · rw [hr2, hr1] at heq
        rw [Option.some.inj heq, hstate]
      · rw [hr1, hr2] at hch
        cases hch with
        | same => exact hstate
        | redeemed issued alive => simp [hstate] at issued
        | expired issued dead => simp [hstate] at issued
        | failed issued next => simp [hstate] at issued
        | late dead =>
          -- No request comes this late.
          have halive := redeem_alive hv1 Occurs.last (op_of_event (challengeOp?_eq_some hop)) hr1
          omega

/-- A challenge that is redeemed never fails. -/
theorem not_failed_of_redeem (hv : (server P O cb sb).Valid h) (ho : Occurs h pre e)
    {params : RedeemParams}
    (hev : (machine cb sb).event pre e = ⟨.redeem id params, .redeemed⟩) (hp : pre' <+: h)
    (hr : challengeAt pre' id = some r) : r.state ≠ .failedTerminal := by
  intro hfailed
  obtain ⟨r0, hr0, hissued, -, hafter⟩ := redeem_spec hv ho hev
  rcases List.prefix_or_prefix_of_prefix hp (ho : pre ++ [e] <+: h) with hle | hle
  · -- It would still be failed when it is redeemed.
    have hstate := failed_persists (hv.restrict ho) hle hr hfailed hafter
    cases hstate
  · have hred := redeemed_persists (hv.restrict hp) hle hev hr
    rw [hred.state] at hfailed
    cases hfailed

/-- A completion that attempts to redeem a challenge does not succeed if that challenge has failed
at some time. -/
theorem not_ok_of_failed {c : (server P O cb sb).Config} (hc : (server P O cb sb).Reachable c)
    (hp : pre' <+: c.history) (hr : challengeAt pre' id = some r)
    (hfailed : r.state = .failedTerminal) (ho : Occurs c.history pre e) {params : RedeemParams}
    (hop : e.op = .redeem id params) {input : VerifyCompletionInput} {s : SessionRecord} :
    ¬ Returned c e.tid (.verifyCompletion input) (.ok s) := by
  intro hreturned
  have hv := System.Valid.of_reachable hc
  obtain ⟨j, ha⟩ := (explained hc hreturned).resolve_left (by simp)
  -- The only challenge that it attempts to redeem is its own, which was redeemed by some step.
  obtain ⟨status, hev⟩ : ∃ status : RedeemStatus,
      (machine cb sb).event pre e = ⟨.redeem id params, status⟩ :=
    ⟨_, Machine.event_eq_iff _ |>.mpr ⟨hop, rfl⟩⟩
  obtain rfl := ha.redeem_eq (mem_own.mpr ⟨pre, e, ho, rfl, hev⟩)
  obtain ⟨pre1, e1, params1, ho1, hev1, -⟩ := ha.redeem hv
  exact not_failed_of_redeem hv ho1 hev1 hp hr hfailed

/-- Only a completion that is signed with a challenge's key counts a failure on it or ends it, and
every other completion leaves it as it is; there are never more failures than configured; and a
challenge that has failed stays so and lets no completion succeed. -/
theorem failure_budget {c : (server P O cb sb).Config} (hc : (server P O cb sb).Reachable c) :
    (∀ pre e id r r', Occurs c.history pre e → challengeAt pre id = some r →
      challengeAt (pre ++ [e]) id = some r' →
      (r'.failureCount ≠ r.failureCount ∨
        r'.state = .failedTerminal ∧ r.state ≠ .failedTerminal) →
      ∃ th input, c.threads[e.tid]? = some th ∧ th.call = .verifyCompletion input ∧
        SignedBy P O input ((machine cb sb).own e.tid pre) r.pubkey) ∧
    (∀ pre e id r input, Occurs c.history pre e → challengeAt pre id = some r →
      (∃ th, c.threads[e.tid]? = some th ∧ th.call = .verifyCompletion input) →
      ¬ SignedBy P O input ((machine cb sb).own e.tid pre) r.pubkey →
      challengeAt (pre ++ [e]) id = some r) ∧
    (∀ h id r, h <+: c.history → challengeAt h id = some r →
      r.failureCount.getD 0 ≤ max (O.maxFailuresPerChallenge.getD 5) 0) ∧
    (∀ h h' id r r', h <+: h' → h' <+: c.history → challengeAt h id = some r →
      r.state = .failedTerminal → challengeAt h' id = some r' → r'.state = .failedTerminal) ∧
    (∀ h id r pre e params input s, h <+: c.history → challengeAt h id = some r →
      r.state = .failedTerminal → Occurs c.history pre e → e.op = .redeem id params →
      ¬ Returned c e.tid (.verifyCompletion input) (.ok s)) := by
  have hv := System.Valid.of_reachable hc
  refine ⟨fun pre e id r r' ho hr hr' hne => exists_signer hc ho hr hr' hne,
    fun pre e id r input ho hr hcall hnot => ?_, fun h id r hp hr => (withinBudget hc hp hr).le,
    fun h h' id r r' hp hp' hr hfailed hr' => failed_persists (hv.restrict hp') hp hr hfailed hr',
    fun h id r pre e params input s hp hr hfailed ho hop => not_ok_of_failed hc hp hr hfailed ho hop⟩
  by_contra hne
  exact hnot (signedBy_of_changed hc ho hcall hr hne)

namespace Sample

/-- One failure ends a challenge. -/
def oneFailure : NapServerOptions := { options with maxFailuresPerChallenge := some 1 }

/-- Logins that may fail once. -/
abbrev strict : System Res Call Outcome := server platform oneFailure .memory .memory

/-- Whether the `k`-th step ends the challenge. -/
def ends (c : strict.Config) (k : ℕ) : Bool :=
  (c.history[k]?).any fun e =>
    (challengeAt (c.history.take k) challengeId).any (fun r => decide (r.state = .issued)) &&
    (challengeAt (c.history.take k ++ [e]) challengeId).any
      fun r => decide (r.state = .failedTerminal)

end Sample

open Sample in
/-- A challenge that is issued long after the event was made. The only attempt ends it, and the
principal has made it. -/
theorem failure_budget_ended : ∃ (c : strict.Config) (pre : History .memory .memory)
    (e : Step (machine .memory .memory)) (r : ChallengeRecord), strict.Reachable c ∧
    Occurs c.history pre e ∧ challengeAt (pre ++ [e]) challengeId = some r ∧
    r.state = .failedTerminal ∧ r.failureCount.getD 0 ≤ 1 ∧
    ∃ th input, c.threads[e.tid]? = some th ∧ th.call = .verifyCompletion input ∧
      SignedBy platform oneFailure input ((machine .memory .memory).own e.tid pre) r.pubkey := by
  obtain ⟨c, hc, -, hp⟩ := exists_run
    (turn (issue none) 0 4 (env 1040 0) ++ turn (complete false none) 1 7 (env 1045 1))
    [issue none, complete false none]
    (fun c : strict.Config => ends c 8) rfl (computed_login rfl false) (by decide +kernel)
  obtain ⟨e, he, hboth⟩ := (Option.any_eq_true _ _).mp hp
  rw [Bool.and_eq_true, Option.any_eq_true, Option.any_eq_true] at hboth
  obtain ⟨⟨r, hr, hissued⟩, r', hr', hfailed⟩ := hboth
  have ho := occurs_take he
  have hstate := of_decide_eq_true hfailed
  obtain ⟨hsigned, -, hbound, -⟩ := failure_budget hc
  have hpubkey : r'.pubkey = r.pubkey :=
    (congrArg ChallengeRecord.pubkey
      (asIssued_step ((System.Valid.of_reachable hc).restrict ho) hr hr') :)
  refine ⟨c, _, e, r', hc, ho, hr', hstate, hbound _ _ r' ho hr', ?_⟩
  rw [hpubkey]
  refine hsigned _ e _ r r' ho hr hr' (Or.inr ⟨hstate, ?_⟩)
  rw [of_decide_eq_true hissued]
  decide

end NapAuth

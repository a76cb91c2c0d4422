import NapAuth.CrossOrigin.Grants

/-!
# What a connection's consent covers

The consent to a connection covers one completion proof. A program that is admitted to sign one
claims it before its first await (`SignerState.admitSign`), so that of all the programs that sign
completions under one grant at once only one can have found it unclaimed: the claim is never taken
back (`completionUsed_persists`). Every other one is refused or approved as a completion
(`completion_rides_once`).

A consent that is asked for while the grants are revoked still opens a grant
(`revoked_connect_opens_iff`): only grants that are there can be revoked.
-/

namespace NapAuth.CrossOrigin

open Interleaving

variable {W : WebPlatform} {O : CrossOriginSignerOptions} {h pre pre' : List (Step (signerMachine W O))}
  {e e' : Step (signerMachine W O)} {grant grant' : GrantState}

/-! ## The completion of a connection -/

variable (W O)

/-- A step passes a completion proof to the signer, under a grant. -/
structure AsksCompletion (pre : List (Step (signerMachine W O))) (e : Step (signerMachine W O))
    (grantId : String) (template : EventTemplate) : Prop where
  op : e.op = .ask (.signEvent template)
  isCompletion : isCompletion template = true
  admitted : ∃ origin source grant needsPrompt,
    ⟨.admitSign origin source grantId template, .admitted grant needsPrompt⟩ ∈
      (signerMachine W O).own e.tid pre

/-- Every grant with an id has used its completion. -/
def CompletionUsed (h : List (Step (signerMachine W O))) (grantId : String) : Prop :=
  ∀ g ∈ grantsAt W O h, g.grantId = grantId → g.completionUsed = true

variable {W O}

/-- A completion that is admitted without a prompt is claimed, and was not before. -/
theorem completionUsed_of_admitted {origin grantId : String} {source : Option ℕ}
    {template : EventTemplate} (hcompletion : isCompletion template = true)
    (hev : (signerMachine W O).event pre e =
      ⟨.admitSign origin source grantId template, .admitted grant false⟩) :
    grant.completionUsed = false ∧ CompletionUsed W O (pre ++ [e]) grantId := by
  obtain ⟨hop, -, hid, -, -, -, -, -, hprompt⟩ := event_admitted hev
  rw [hcompletion, Bool.true_and] at hprompt
  refine ⟨hprompt.symm, ?_⟩
  have hres := ((signerMachine W O).event_eq_iff.mp hev).2
  have hafter : (signerMachine W O).after (pre ++ [e]) =
      (SignerState.admitSign W.newURL O.skew ((signerMachine W O).after pre) origin source grantId
        template e.env.now).2 := by
    obtain ⟨tid, op, env⟩ := e
    obtain rfl : op = .admitSign origin source grantId template := hop
    rw [Machine.after_concat]
    rfl
  change (SignerState.admitSign W.newURL O.skew _ origin source grantId template e.env.now).1 =
    _ at hres
  unfold CompletionUsed grantsAt
  rw [hafter]
  unfold SignerState.admitSign at hres ⊢
  split at hres
  · cases hres
  · rename_i g hfound
    dsimp only at hres
    split_ifs at hres with hforeign hexpired houtside hclaim
    · obtain ⟨rfl, -⟩ := SignAdmission.admitted.inj hres
      rw [if_neg hforeign, if_neg hexpired, if_neg houtside]
      dsimp only
      rw [if_pos hclaim]
      -- Every grant with this id is marked.
      intro g' hg' hid'
      obtain ⟨g0, -, rfl⟩ := List.mem_map.mp hg'
      split
      · rfl
      · rename_i hne
        rw [if_neg hne] at hid'
        exact absurd (hid'.trans hid.symm) hne
    · obtain ⟨rfl, -⟩ := SignAdmission.admitted.inj hres
      rw [hcompletion, ← hprompt] at hclaim
      exact absurd rfl hclaim

/-- A completion that has been claimed stays so: the grant keeps its mark while it is there, and no
other grant gets its id. -/
theorem completionUsed_persists (hv : (signerPage W O).Valid h) (hp : pre <+: h)
    (ho : Opened W O pre grant) (hused : CompletionUsed W O pre grant.grantId) :
    CompletionUsed W O h grant.grantId := by
  refine hv.persist (P := fun h => CompletionUsed W O h grant.grantId) hp hused
    fun h1 e1 hv1 hp1 hused1 => ?_
  intro g hg1 hid
  rcases grants_step hg1 with ⟨g0, hg0, hsame, hkeep⟩ | ⟨approved, expectedPubkey, draft, hev⟩
  · exact hkeep (hused1 g0 hg0 ((claimed_eq hsame).1 ▸ hid))
  · -- A new grant has a new id.
    obtain ⟨hop, -, -, -, hnew⟩ := event_opened hev
    obtain ⟨pre0, e0, approved0, expectedPubkey0, draft0, hocc0, hev0⟩ := ho
    obtain ⟨hop0, -, -, -, hopened⟩ := event_opened hev0
    have hdraws : e0.env.randomId = e1.env.randomId := by
      rw [hnew, hopened] at hid
      exact hid.symm
    refine absurd hdraws (connect_fresh hv1 Occurs.last (hocc0.mono hp1) ?_ ?_)
    · rw [hop]
      rfl
    · rw [hop0]
      rfl

/-- A program is admitted to sign at most once. -/
theorem admitted_unique (hv : (signerPage W O).Valid h) {e1 e2 : Step (signerMachine W O)}
    {pre1 pre2 : List (Step (signerMachine W O))} (ho1 : Occurs h pre1 e1) (ho2 : Occurs h pre2 e2)
    (htid : e1.tid = e2.tid) {origin1 origin2 grantId1 grantId2 : String} {source1 source2 : Option ℕ}
    {template1 template2 : EventTemplate} (hop1 : e1.op = .admitSign origin1 source1 grantId1 template1)
    (hop2 : e2.op = .admitSign origin2 source2 grantId2 template2) : pre1 = pre2 ∧ e1 = e2 := by
  -- The later of two would find the earlier one among its events.
  have hlater : ∀ {e1 e2 : Step (signerMachine W O)} {pre1 pre2 : List (Step (signerMachine W O))}
      {origin1 origin2 grantId1 grantId2 : String} {source1 source2 : Option ℕ}
      {template1 template2 : EventTemplate}, Occurs h pre1 e1 → Occurs pre1 pre2 e2 →
      e1.tid = e2.tid → e1.op = .admitSign origin1 source1 grantId1 template1 →
      e2.op = .admitSign origin2 source2 grantId2 template2 → False := by
    intro e1 e2 pre1 pre2 origin1 origin2 grantId1 grantId2 source1 source2 template1 template2
      ho1 hbefore htid hop1 hop2
    obtain ⟨call, hwarrant⟩ := warranted hv ho1
    rw [hop1] at hwarrant
    obtain ⟨tid, op, env⟩ := e2
    obtain rfl : op = .admitSign origin2 source2 grantId2 template2 := hop2
    exact hwarrant _ _ _ _ _ (mem_own.mpr ⟨pre2, _, hbefore, htid.symm, rfl⟩)
  rcases ho1.trichotomy ho2 with ⟨rfl, rfl⟩ | hbefore | hbefore
  · exact ⟨rfl, rfl⟩
  · exact (hlater ho1 hbefore htid hop1 hop2).elim
  · exact (hlater ho2 hbefore htid.symm hop2 hop1).elim

/-- A program puts at most one template to the signer. -/
theorem signEvent_unique (hv : (signerPage W O).Valid h) (ho : Occurs h pre e)
    (ho' : Occurs h pre' e') (htid : e.tid = e'.tid) {template template' : EventTemplate}
    (hop : e.op = .ask (.signEvent template)) (hop' : e'.op = .ask (.signEvent template')) :
    pre = pre' ∧ e = e' := by
  have hlater : ∀ {e1 e2 : Step (signerMachine W O)} {pre1 pre2 : List (Step (signerMachine W O))}
      {t1 t2 : EventTemplate}, Occurs h pre1 e1 → Occurs pre1 pre2 e2 → e1.tid = e2.tid →
      e1.op = .ask (.signEvent t1) → e2.op = .ask (.signEvent t2) → False := by
    intro e1 e2 pre1 pre2 t1 t2 ho1 hbefore htid hop1 hop2
    obtain ⟨call, hwarrant⟩ := warranted hv ho1
    rw [hop1] at hwarrant
    obtain ⟨tid, op, env⟩ := e2
    obtain rfl : op = .ask (.signEvent t2) := hop2
    exact hwarrant.2 _ (mem_own.mpr ⟨pre2, _, hbefore, htid.symm, rfl⟩)
  rcases ho.trichotomy ho' with ⟨rfl, rfl⟩ | hbefore | hbefore
  · exact ⟨rfl, rfl⟩
  · exact (hlater ho hbefore htid hop hop').elim
  · exact (hlater ho' hbefore htid.symm hop' hop).elim

/-- What stands behind a completion that is put to the signer: its own program's admission, without
a prompt unless there has been an approval. -/
theorem AsksCompletion.exists_admission {grantId : String} {template : EventTemplate}
    (ha : AsksCompletion W O pre e grantId template) (hv : (signerPage W O).Valid h) (ho : Occurs h pre e) :
    ∃ pre0 e0 origin source grant needsPrompt, Occurs pre pre0 e0 ∧ e0.tid = e.tid ∧
      (signerMachine W O).event pre0 e0 =
        ⟨.admitSign origin source grantId template, .admitted grant needsPrompt⟩ ∧
      (needsPrompt = true → O.hasOnSign = true ∧
        ApprovedCompletion ((signerMachine W O).own e.tid pre) grantId template) := by
  obtain ⟨origin, source, grant, needsPrompt, hmem⟩ := ha.admitted
  obtain ⟨pre0, e0, hocc0, htid0, hev0⟩ := mem_own.mp hmem
  obtain ⟨call, hwarrant⟩ := warranted hv ho
  rw [ha.op] at hwarrant
  obtain ⟨⟨event, id, grantId', grant', needsPrompt', hadmitted, hprompt⟩, -⟩ := hwarrant
  obtain ⟨pre1, e1, hocc1, htid1, hev1⟩ := mem_own.mp hadmitted.admitted
  -- The program has one admission.
  obtain ⟨rfl, rfl⟩ := admitted_unique (hv.restrict ho.before) hocc0 hocc1 (htid0.trans htid1.symm)
    (event_admitted hev0).1 (event_admitted hev1).1
  have hevs := hev0.symm.trans hev1
  have hid := (event_admitted hev1).2.2.1
  obtain ⟨-, -, rfl, -⟩ := SignerOp.admitSign.inj (congrArg Sigma.fst hevs)
  refine ⟨pre0, e0, event.origin, event.source, grant', needsPrompt', hocc0, htid0, hev1, ?_⟩
  rwa [hid] at hprompt

/-- Two completions under one grant that were admitted without a prompt are one. -/
theorem unprompted_once (hv : (signerPage W O).Valid h) {pre1 pre2 : List (Step (signerMachine W O))}
    {e1 e2 : Step (signerMachine W O)} (ho1 : Occurs h pre1 e1) (ho2 : Occurs h pre2 e2)
    {origin1 origin2 grantId : String} {source1 source2 : Option ℕ}
    {template1 template2 : EventTemplate} {grant1 grant2 : GrantState}
    (hcompletion1 : isCompletion template1 = true) (hcompletion2 : isCompletion template2 = true)
    (hev1 : (signerMachine W O).event pre1 e1 =
      ⟨.admitSign origin1 source1 grantId template1, .admitted grant1 false⟩)
    (hev2 : (signerMachine W O).event pre2 e2 =
      ⟨.admitSign origin2 source2 grantId template2, .admitted grant2 false⟩) :
    pre1 = pre2 ∧ e1 = e2 := by
  have hlater : ∀ {pre1 pre2 : List (Step (signerMachine W O))} {e1 e2 : Step (signerMachine W O)}
      {origin1 origin2 : String} {source1 source2 : Option ℕ} {template1 template2 : EventTemplate}
      {grant1 grant2 : GrantState}, Occurs h pre1 e1 → Occurs pre1 pre2 e2 →
      isCompletion template1 = true → isCompletion template2 = true →
      (signerMachine W O).event pre1 e1 =
        ⟨.admitSign origin1 source1 grantId template1, .admitted grant1 false⟩ →
      (signerMachine W O).event pre2 e2 =
        ⟨.admitSign origin2 source2 grantId template2, .admitted grant2 false⟩ → False := by
    intro pre1 pre2 e1 e2 origin1 origin2 source1 source2 template1 template2 grant1 grant2 ho1
      hbefore hcompletion1 hcompletion2 hev1 hev2
    obtain ⟨hunused, -⟩ := completionUsed_of_admitted hcompletion1 hev1
    obtain ⟨-, hused⟩ := completionUsed_of_admitted hcompletion2 hev2
    obtain ⟨-, hgrant1, hid1, -⟩ := event_admitted hev1
    obtain ⟨-, hgrant2, hid2, -⟩ := event_admitted hev2
    obtain ⟨opened, hopened, hsame⟩ := opened_of_mem hgrant2
    obtain rfl : opened.grantId = grantId := by rw [← (claimed_eq hsame).1, hid2]
    -- The earlier one has left its mark on the grant, and the later one has not found it.
    have hstill : CompletionUsed W O pre1 opened.grantId :=
      completionUsed_persists (hv.restrict ho1.before) hbefore (hopened.mono (List.prefix_append _ _))
        hused
    rw [hstill grant1 hgrant1 hid1] at hunused
    cases hunused
  rcases ho1.trichotomy ho2 with ⟨rfl, rfl⟩ | hbefore | hbefore
  · exact ⟨rfl, rfl⟩
  · exact (hlater ho1 hbefore hcompletion1 hcompletion2 hev1 hev2).elim
  · exact (hlater ho2 hbefore hcompletion2 hcompletion1 hev2 hev1).elim

/-- Every completion that is put to the signer is put to it under a grant. -/
theorem exists_asksCompletion (hv : (signerPage W O).Valid h) (ho : Occurs h pre e)
    {template : EventTemplate} (hop : e.op = .ask (.signEvent template))
    (hcompletion : isCompletion template = true) :
    ∃ grantId, AsksCompletion W O pre e grantId template := by
  obtain ⟨call, hwarrant⟩ := warranted hv ho
  rw [hop] at hwarrant
  obtain ⟨⟨event, id, grantId, grant, needsPrompt, hadmitted, -⟩, -⟩ := hwarrant
  exact ⟨grantId, hop, hcompletion, event.origin, event.source, grant, needsPrompt, hadmitted.admitted⟩

/-- At most one completion proof under a grant is put to the signer without an approval of it as
another completion, in whatever order programs are admitted, asked and answered. Where there are no
prompts, at most one is put to it at all. -/
theorem completion_rides_once {c : (signerPage W O).Config} (hr : (signerPage W O).Reachable c) :
    (∀ pre e template, Occurs c.history pre e → e.op = .ask (.signEvent template) →
      isCompletion template = true → ∃ grantId, AsksCompletion W O pre e grantId template) ∧
    ∀ pre e pre' e' grantId template template', Occurs c.history pre e → Occurs c.history pre' e' →
      AsksCompletion W O pre e grantId template → AsksCompletion W O pre' e' grantId template' →
      (O.hasOnSign = false ∨
        ¬ ApprovedCompletion ((signerMachine W O).own e.tid pre) grantId template ∧
        ¬ ApprovedCompletion ((signerMachine W O).own e'.tid pre') grantId template') →
      pre = pre' ∧ e = e' := by
  have hv := System.Valid.of_reachable hr
  refine ⟨fun pre e template ho hop hcompletion => exists_asksCompletion hv ho hop hcompletion, ?_⟩
  intro pre e pre' e' grantId template template' ho ho' ha ha' hunapproved
  obtain ⟨pre1, e1, origin1, source1, grant1, needs1, hocc1, htid1, hev1, hprompt1⟩ :=
    ha.exists_admission hv ho
  obtain ⟨pre2, e2, origin2, source2, grant2, needs2, hocc2, htid2, hev2, hprompt2⟩ :=
    ha'.exists_admission hv ho'
  obtain rfl : needs1 = false := by
    rw [Bool.eq_false_iff]
    intro hneeds
    rcases hunapproved with hno | ⟨hno, -⟩
    · rw [(hprompt1 hneeds).1] at hno
      cases hno
    · exact hno (hprompt1 hneeds).2
  obtain rfl : needs2 = false := by
    rw [Bool.eq_false_iff]
    intro hneeds
    rcases hunapproved with hno | ⟨-, hno⟩
    · rw [(hprompt2 hneeds).1] at hno
      cases hno
    · exact hno (hprompt2 hneeds).2
  obtain ⟨rfl, rfl⟩ := unprompted_once hv (hocc1.mono ho.before) (hocc2.mono ho'.before)
    ha.isCompletion ha'.isCompletion hev1 hev2
  exact signEvent_unique hv ho ho' (htid1.symm.trans htid2) ha.op ha'.op

namespace SignerSample

/-- The template that an operation puts to the signer. -/
def asked : SignerOp → Option EventTemplate
  | .ask (.signEvent template) => some template
  | _ => none

/-- The page is asked for the same completion twice, and puts the first one to the signer. -/
def movesTwice : List (signerPage platform options).Label :=
  .start connect :: List.replicate 14 (.run 0 (env 900)) ++
    (.start sign :: .start sign :: List.replicate 3 (.run 1 (env 1000)) ++
      List.replicate 3 (.run 2 (env 1000)))

/-- Whether a step puts the completion to the signer. -/
def asksCompletion (e : Step (signerMachine platform options)) : Bool :=
  (asked e.op).any fun template => isCompletion template && sameEvent template (Sample.event false)

/-- The only template that is put to the signer there. -/
theorem completion_asked : ∃ c pre e template, (signerPage platform options).Reachable c ∧
    Occurs c.history pre e ∧ e.op = .ask (.signEvent template) ∧ isCompletion template = true ∧
    sameEvent template (Sample.event false) = true := by
  have hrun : (System.replay (signerBody platform options) (signerPage platform options).initial
      movesTwice).any (fun c => c.history[16]?.any asksCompletion) = true := by decide +kernel
  obtain ⟨c, hr, -, hp⟩ := System.exists_replay (fun _ _ => rfl) hrun
  obtain ⟨e, he, hasks⟩ := (Option.any_eq_true _ _).mp hp
  obtain ⟨template, htemplate, hcompletion⟩ := (Option.any_eq_true _ _).mp hasks
  refine ⟨c, _, e, template, hr, occurs_take he, ?_, Bool.and_eq_true_iff.mp hcompletion⟩
  unfold asked at htemplate
  split at htemplate
  · rename_i t hop
    rw [hop, Option.some.inj htemplate]
  · cases htemplate

end SignerSample

/-- On a page without prompts, one completion is the only one of its grant. -/
theorem completion_rides_once_here : ∃ c pre e grantId template,
    (signerPage SignerSample.platform SignerSample.options).Reachable c ∧ Occurs c.history pre e ∧
    AsksCompletion SignerSample.platform SignerSample.options pre e grantId template ∧
    ∀ pre' e' template', Occurs c.history pre' e' →
      AsksCompletion SignerSample.platform SignerSample.options pre' e' grantId template' →
      pre' = pre ∧ e' = e := by
  obtain ⟨c, pre, e, template, hr, ho, hop, hcompletion, -⟩ := SignerSample.completion_asked
  obtain ⟨hsome, honce⟩ := completion_rides_once hr
  obtain ⟨grantId, ha⟩ := hsome pre e template ho hop hcompletion
  exact ⟨c, pre, e, grantId, template, hr, ho, ha, fun pre' e' template' ho' ha' =>
    honce pre' e' pre e grantId template' template ho' ho ha' ha (Or.inl rfl)⟩

/-! ## A connection and a revocation -/

/-- The calls of `revokeAll`: the application's and those for broadcasts, that of `close`, and that of
a signature by another key than the grant's. -/
def revokesAll : Event SignerRes → Bool
  | ⟨.dropGrants .all, _⟩ => true
  | ⟨.close, dropped⟩ => dropped.isSome
  | ⟨.finishSign _ _ _ _ _, .identityChanged _⟩ => true
  | _ => false

variable (W O)

/-- A step ends a connection, and the grants were revoked after its `ensureUnlocked`. -/
def RevokedDuring (pre : List (Step (signerMachine W O))) (e : Step (signerMachine W O)) : Prop :=
  ∃ pre1 e1 pre2 e2, Occurs pre pre2 e2 ∧ revokesAll ((signerMachine W O).event pre2 e2) = true ∧
    Occurs pre2 pre1 e1 ∧ e1.tid = e.tid ∧
    (signerMachine W O).event pre1 e1 = ⟨.answer .ensureUnlocked, true⟩

/-- A step ends a connection with a grant that is live in the run. -/
def YieldsLive (h pre : List (Step (signerMachine W O))) (e : Step (signerMachine W O)) : Prop :=
  ∃ approved expectedPubkey draft grant h' live, (signerMachine W O).event pre e =
      ⟨.finishConnect approved expectedPubkey draft, .opened grant⟩ ∧
    pre ++ [e] <+: h' ∧ h' <+: h ∧ live ∈ grantsAt W O h' ∧ live.claimed = grant.claimed

/-- A connection does not come to a grant: the page has been closed, or there is no consent, or the
signer's identity is not the expected one. -/
def Ungranted (pre : List (Step (signerMachine W O))) (e : Step (signerMachine W O)) : Prop :=
  ∀ approved expectedPubkey draft, e.op = .finishConnect approved expectedPubkey draft →
    ((signerMachine W O).after pre).closed = true ∨ ¬ Consented ((signerMachine W O).own e.tid pre) ∨
    ∃ expected pubkey, expectedPubkey = some expected ∧
      answeredPubkey W ((signerMachine W O).own e.tid pre) = some pubkey ∧ expected ≠ pubkey

variable {W O}

/-- The grant that a connection opens is there. -/
theorem opened_mem {approved : Bool} {expectedPubkey : Option String} {draft : GrantDraft}
    (hev : (signerMachine W O).event pre e =
      ⟨.finishConnect approved expectedPubkey draft, .opened grant⟩) :
    grant ∈ grantsAt W O (pre ++ [e]) := by
  obtain ⟨hop, hclosed, rfl, hexpected, rfl⟩ := event_opened hev
  obtain ⟨tid, op, env⟩ := e
  obtain rfl : op = .finishConnect true expectedPubkey draft := hop
  unfold grantsAt
  rw [Machine.after_concat]
  show _ ∈ (SignerState.finishConnect ((signerMachine W O).after pre) true expectedPubkey draft
    env.randomId env.now).2.grants
  have hany : ¬ (expectedPubkey.any fun pubkey => pubkey != draft.pubkey) = true := by
    cases expectedPubkey with
    | none => simp
    | some pubkey => simpa using hexpected
  unfold SignerState.finishConnect
  rw [hclosed, if_neg (by simp), if_neg (by simp), if_neg hany]
  unfold SignerState.setGrant
  dsimp only
  split
  · -- The id is in use: the grant with the id is replaced.
    rename_i hsome
    obtain ⟨g, hg⟩ := Option.isSome_iff_exists.mp hsome
    refine List.mem_map.mpr ⟨g, List.mem_of_find?_eq_some hg, ?_⟩
    rw [if_pos (by simpa using List.find?_some hg)]
  · exact List.mem_append_right _ (List.mem_singleton_self _)

/-- When a connection that ends opens a grant. -/
theorem opens_iff {approved : Bool} {expectedPubkey : Option String} {draft : GrantDraft}
    (hop : e.op = .finishConnect approved expectedPubkey draft) :
    (∃ grant, (signerMachine W O).event pre e =
      ⟨.finishConnect approved expectedPubkey draft, .opened grant⟩) ↔
    ¬ ((signerMachine W O).after pre).closed = true ∧ approved = true ∧
      ∀ expected, expectedPubkey = some expected → expected = draft.pubkey := by
  constructor
  · rintro ⟨grant, hev⟩
    obtain ⟨-, hclosed, happroved, hexpected, -⟩ := event_opened hev
    refine ⟨by simp [hclosed], happroved, ?_⟩
    rintro expected rfl
    simpa using hexpected
  · rintro ⟨hclosed, happroved, hexpected⟩
    have hany : ¬ (expectedPubkey.any fun pubkey => pubkey != draft.pubkey) = true := by
      cases expectedPubkey with
      | none => simp
      | some expected => simpa using hexpected expected rfl
    have hres : ∃ grant, (SignerState.finishConnect ((signerMachine W O).after pre) approved
        expectedPubkey draft e.env.randomId e.env.now).1 = .opened grant := by
      unfold SignerState.finishConnect
      rw [if_neg hclosed, if_neg (by simp [happroved]), if_neg hany]
      exact ⟨_, rfl⟩
    obtain ⟨grant, hres⟩ := hres
    exact ⟨grant, (signerMachine W O).event_eq_iff.mpr ⟨hop, hres⟩⟩

/-- A connection that ends opens a grant unless it does not come to one. Revocations play no part. -/
theorem yieldsLive_iff (hv : (signerPage W O).Valid h) (ho : Occurs h pre e) {approved : Bool}
    {expectedPubkey : Option String} {draft : GrantDraft}
    (hop : e.op = .finishConnect approved expectedPubkey draft) :
    YieldsLive W O h pre e ↔ ¬ Ungranted W O pre e := by
  obtain ⟨call, hwarrant⟩ := warranted hv ho
  rw [hop] at hwarrant
  obtain ⟨hconsented, hidentity, -⟩ := hwarrant
  constructor
  · rintro ⟨approved', expectedPubkey', draft', grant, h', live, hev, -⟩ hnot
    obtain ⟨rfl, rfl, rfl⟩ := SignerOp.finishConnect.inj (hop.symm.trans (event_opened hev).1)
    obtain ⟨hclosed, happroved, hexpected⟩ := (opens_iff hop).mp ⟨grant, hev⟩
    rcases hnot _ _ _ hop with hclosed' | hno | ⟨expected, pubkey, hsome, hpubkey, hne⟩
    · exact hclosed hclosed'
    · exact hno (hconsented.mp happroved)
    · obtain rfl : draft.pubkey = pubkey := Option.some.inj (hidentity.symm.trans hpubkey)
      exact hne (hexpected expected hsome)
  · intro hgranted
    have hopens : ∃ grant, (signerMachine W O).event pre e =
        ⟨.finishConnect approved expectedPubkey draft, .opened grant⟩ := by
      rw [opens_iff hop]
      by_contra hnot
      refine hgranted fun approved' expectedPubkey' draft' hop' => ?_
      obtain ⟨rfl, rfl, rfl⟩ := SignerOp.finishConnect.inj (hop.symm.trans hop')
      by_contra hcase
      simp only [not_or, not_not, not_exists, not_and] at hcase
      obtain ⟨hclosed, hyes, hmatch⟩ := hcase
      exact hnot ⟨hclosed, hconsented.mpr hyes, fun expected hsome =>
        hmatch expected draft.pubkey hsome hidentity⟩
    obtain ⟨grant, hev⟩ := hopens
    exact ⟨approved, expectedPubkey, draft, grant, pre ++ [e], grant, hev, List.prefix_rfl, ho,
      opened_mem hev, rfl⟩

/-- No grant of a run survives a revocation during its connection exactly when every connection with
a revocation in it does not come to a grant for another reason. -/
theorem revoked_connect_opens_iff {c : (signerPage W O).Config} (hr : (signerPage W O).Reachable c) :
    (∀ pre e, Occurs c.history pre e → RevokedDuring W O pre e →
      ¬ YieldsLive W O c.history pre e) ↔
    ∀ pre e, Occurs c.history pre e → RevokedDuring W O pre e → Ungranted W O pre e := by
  have hv := System.Valid.of_reachable hr
  constructor
  · intro hnone pre e ho hrevoked approved expectedPubkey draft hop
    have hungranted := mt (yieldsLive_iff hv ho hop).mpr (hnone pre e ho hrevoked)
    exact not_not.mp hungranted approved expectedPubkey draft hop
  · intro hungranted pre e ho hrevoked hlive
    obtain ⟨approved, expectedPubkey, draft, grant, h', live, hev, -⟩ := id hlive
    exact (yieldsLive_iff hv ho (event_opened hev).1).mp hlive (hungranted pre e ho hrevoked)

namespace SignerSample

/-- The session is locked while the user is asked for the consent, who then answers. -/
def movesLocked (answered : List SignerEnv) : List (signerPage platform options).Label :=
  .start connect :: List.replicate 8 (.run 0 (env 900)) ++
    (.start (.broadcast (.str "lock")) :: .run 1 (env 900) :: answered.map (.run 0 ·))

/-- The user declines. -/
def declining : SignerEnv :=
  { env 900 with
    answer := fun query =>
      match query with
      | .onConsent _ => some false
      | query => answer query }

/-- Whether an event is that of a key that has been unlocked. -/
def isUnlocked : Event SignerRes → Bool
  | ⟨.answer .ensureUnlocked, unlocked⟩ => unlocked
  | _ => false

/-- Whether the connection of a history is revoked after it has unlocked the key. -/
def isRevoked (pre : List (Step (signerMachine platform options))) : Bool :=
  (pre[8]?.any fun e2 : Step (signerMachine platform options) =>
      revokesAll ((signerMachine platform options).event (pre.take 8) e2)) &&
    (pre.take 8)[2]?.any fun e1 : Step (signerMachine platform options) => decide (e1.tid = 0) &&
      isUnlocked ((signerMachine platform options).event ((pre.take 8).take 2) e1)

/-- Whether a step of the connection opens a grant. -/
def isOpening (pre : List (Step (signerMachine platform options)))
    (e : Step (signerMachine platform options)) : Bool :=
  decide (e.tid = 0) &&
    match (signerMachine platform options).event pre e with
    | ⟨.finishConnect _ _ _, .opened _⟩ => true
    | _ => false

section Checks

variable {h pre : List (Step (signerMachine platform options))}
  {e : Step (signerMachine platform options)}

/-- What `isRevoked` has found. -/
theorem revokedDuring_of_isRevoked (hrevoked : isRevoked pre = true) (htid : e.tid = 0) :
    RevokedDuring platform options pre e := by
  unfold isRevoked at hrevoked
  rw [Bool.and_eq_true] at hrevoked
  obtain ⟨e2, he2, hall⟩ := (Option.any_eq_true _ _).mp hrevoked.1
  obtain ⟨e1, he1, hunlocked⟩ := (Option.any_eq_true _ _).mp hrevoked.2
  rw [Bool.and_eq_true, decide_eq_true_eq] at hunlocked
  refine ⟨_, e1, _, e2, occurs_take he2, hall, occurs_take he1, hunlocked.1.trans htid.symm, ?_⟩
  have hevent := hunlocked.2
  unfold isUnlocked at hevent
  split at hevent
  · rename_i heq
    rw [heq, hevent]
  · cases hevent

/-- What `isOpening` has found. -/
theorem yieldsLive_of_isOpening (ho : Occurs h pre e) (hopens : isOpening pre e = true) :
    e.tid = 0 ∧ YieldsLive platform options h pre e := by
  unfold isOpening at hopens
  rw [Bool.and_eq_true, decide_eq_true_eq] at hopens
  obtain ⟨htid, hopens⟩ := hopens
  refine ⟨htid, ?_⟩
  split at hopens
  · rename_i approved expectedPubkey draft grant hev
    exact ⟨approved, expectedPubkey, draft, grant, pre ++ [e], grant, hev, List.prefix_rfl, ho,
      opened_mem hev, rfl⟩
  · cases hopens

end Checks

/-- Whether a step ends a connection that the user has declined, if it ends one. -/
def isDeclined (e : Step (signerMachine platform options)) : Bool :=
  match Step.op e with
  | .finishConnect approved _ _ => !approved
  | _ => true

/-- The connection that the user declines comes to nothing. -/
theorem declined_connect : ∃ c pre e, (signerPage platform options).Reachable c ∧
    Occurs c.history pre e ∧ RevokedDuring platform options pre e ∧ e.op.isFinishConnect = true ∧
    ∀ pre e, Occurs c.history pre e → Ungranted platform options pre e := by
  have hrun : (System.replay (signerBody platform options) (signerPage platform options).initial
      (movesLocked (List.replicate 3 declining))).any (fun c => isRevoked (c.history.take 10) &&
        c.history.all isDeclined && c.history[10]?.any fun e : Step (signerMachine platform options) =>
          decide (e.tid = 0) && e.op.isFinishConnect) = true := by decide +kernel
  obtain ⟨c, hr, -, hp⟩ := System.exists_replay (fun _ _ => rfl) hrun
  obtain ⟨hchecked, hends⟩ := Bool.and_eq_true_iff.mp hp
  obtain ⟨hrevoked, hdeclined⟩ := Bool.and_eq_true_iff.mp hchecked
  obtain ⟨e, he, hend⟩ := (Option.any_eq_true _ _).mp hends
  rw [Bool.and_eq_true, decide_eq_true_eq] at hend
  refine ⟨c, _, e, hr, occurs_take he, revokedDuring_of_isRevoked hrevoked hend.1, hend.2,
    fun pre' e' ho' approved expectedPubkey draft hop => ?_⟩
  have hnot := List.all_eq_true.mp hdeclined e' (List.mem_of_getElem? ho'.getElem?)
  unfold isDeclined at hnot
  rw [hop] at hnot
  -- An approval that is remembered is a consent.
  obtain ⟨call, hwarrant⟩ := warranted (System.Valid.of_reachable hr) ho'
  rw [hop] at hwarrant
  refine Or.inr (Or.inl fun hconsented => ?_)
  rw [hwarrant.1.mpr hconsented] at hnot
  cases hnot

/-- The grant is opened although the session was locked. -/
theorem revoked_opening : ∃ c pre e, (signerPage platform options).Reachable c ∧
    Occurs c.history pre e ∧ RevokedDuring platform options pre e ∧
    YieldsLive platform options c.history pre e := by
  have hrun : (System.replay (signerBody platform options) (signerPage platform options).initial
      (movesLocked (List.replicate 6 (env 900)))).any (fun c => isRevoked (c.history.take 12) &&
        c.history[12]?.any (isOpening (c.history.take 12))) = true := by decide +kernel
  obtain ⟨c, hr, -, hp⟩ := System.exists_replay (fun _ _ => rfl) hrun
  rw [Bool.and_eq_true] at hp
  obtain ⟨e, he, hopens⟩ := (Option.any_eq_true _ _).mp hp.2
  obtain ⟨htid, hlive⟩ := yieldsLive_of_isOpening (occurs_take he) hopens
  exact ⟨c, _, e, hr, occurs_take he, revokedDuring_of_isRevoked hp.1 htid, hlive⟩

end SignerSample

/-- A grant survives a lock that lands while its consent is asked for. -/
theorem revoked_connect_opens : ¬ ∀ c,
    (signerPage SignerSample.platform SignerSample.options).Reachable c →
    ∀ pre e, Occurs c.history pre e →
      RevokedDuring SignerSample.platform SignerSample.options pre e →
      ¬ YieldsLive SignerSample.platform SignerSample.options c.history pre e := by
  intro h
  obtain ⟨c, pre, e, hr, ho, hrevoked, hlive⟩ := SignerSample.revoked_opening
  exact h c hr pre e ho hrevoked hlive

/-- A user who declines after the lock: no grant survives it. -/
theorem revoked_connect_declined : ∃ c pre e,
    (signerPage SignerSample.platform SignerSample.options).Reachable c ∧ Occurs c.history pre e ∧
    RevokedDuring SignerSample.platform SignerSample.options pre e ∧ e.op.isFinishConnect = true ∧
    ¬ YieldsLive SignerSample.platform SignerSample.options c.history pre e := by
  obtain ⟨c, pre, e, hr, ho, hrevoked, hends, hungranted⟩ := SignerSample.declined_connect
  exact ⟨c, pre, e, hr, ho, hrevoked, hends,
    (revoked_connect_opens_iff hr).mpr (fun pre e ho _ => hungranted pre e ho) pre e ho hrevoked⟩

end NapAuth.CrossOrigin

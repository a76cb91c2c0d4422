import NapAuth.CrossOrigin.Signer

/-!
# The grants of a signer page

Which messages a program of the signer page answers, and with which grant, is the logic of one call
(`signerBody_sat`). Where the grants in the page's memory come from is an invariant of its runs: each
of them was opened by a connection (`opened_of_mem`), and one id names one of them (`opened_same`).
Together they say what stands behind every signed reply (`signed_reply_covered`), whatever other
programs have done between the request and the reply.

The expiry of a grant is checked when a request is admitted, and not when its signature arrives
(`signed_in_time_iff`).
-/

namespace NapAuth.CrossOrigin

open Interleaving

variable {W : WebPlatform} {O : CrossOriginSignerOptions}

/-! ## The logic of one program -/

/-- A program answers a message: it comes from the opener, from an origin of the policy, and parses. -/
structure Arrived (O : CrossOriginSignerOptions) (call : SignerCall) (event : MessageEvent)
    (entry : CrossOriginPolicyEntry) (message : CrossOriginMessage) : Prop where
  call_eq : call = .message event
  isFramed : O.isFramed = false
  opener : O.opener.isSome = true
  source : event.source = O.opener
  policy : O.policy.entry? event.origin = some entry
  parsed : parseMessage event.data = some message

/-- A program has been admitted to sign a template with a grant. -/
structure Admitted (O : CrossOriginSignerOptions) (call : SignerCall) (xs : List (Event SignerRes))
    (event : MessageEvent) (id grantId : String) (template : EventTemplate) (grant : GrantState)
    (needsPrompt : Bool) : Prop where
  arrived : ∃ entry, Arrived O call event entry (.sign id grantId template)
  admitted : ⟨.admitSign event.origin event.source grantId template, .admitted grant needsPrompt⟩ ∈ xs

/-- A template has been approved as another completion under a grant. -/
def ApprovedCompletion (xs : List (Event SignerRes)) (grantId : String) (template : EventTemplate) :
    Prop :=
  ∃ request, request.reason = .completion ∧ request.grant.grantId = grantId ∧
    request.template = template ∧ ⟨.answer (.onSign request), some true⟩ ∈ xs

/-- A connection has been consented to: there was a consent before, or the user has given one and it
is remembered. -/
def Consented (xs : List (Event SignerRes)) : Prop :=
  (∃ origin pubkey scope, ⟨.answer (.consentHas origin pubkey scope), some true⟩ ∈ xs) ∨
  (∃ request, ⟨.answer (.onConsent request), some true⟩ ∈ xs) ∧
    ∃ origin pubkey scope, ⟨.answer (.consentRemember origin pubkey scope), true⟩ ∈ xs

/-- The identity that the signer has answered. -/
def answeredNpub : Event SignerRes → Option String
  | ⟨.answer .getNpub, npub⟩ => npub
  | _ => none

/-- Its public key. -/
def answeredPubkey (W : WebPlatform) (xs : List (Event SignerRes)) : Option String :=
  (xs.findSome? answeredNpub).bind (pubkeyOfNpub W)

/-- What stands behind an operation of a program, after its events. -/
def Warrant (W : WebPlatform) (O : CrossOriginSignerOptions) (call : SignerCall)
    (xs : List (Event SignerRes)) : SignerOp → Prop
  | .post origin message =>
    (O.policy.entry? origin).isSome = true ∧ ∀ id event, message ≠ .signed id event
  | .finishConnect approved expectedPubkey draft =>
    (approved = true ↔ Consented xs) ∧ answeredPubkey W xs = some draft.pubkey ∧
    ∃ event entry id kinds audiences,
      Arrived O call event entry (.connect id kinds audiences expectedPubkey) ∧
      draft.origin = event.origin ∧ draft.source = event.source ∧ draft.kinds ⊆ entry.kinds ∧
      draft.audiences ⊆ entry.audiences ∧ draft.maxTtlSeconds = entry.maxTtlSeconds
  | .ask (.signEvent template) =>
    (∃ event id grantId grant needsPrompt,
      Admitted O call xs event id grantId template grant needsPrompt ∧
      (needsPrompt = true → O.hasOnSign = true ∧ ApprovedCompletion xs grant.grantId template)) ∧
    ∀ t, ⟨.ask (.signEvent t), ()⟩ ∉ xs
  | .admitSign _ _ _ _ => ∀ origin source grantId template admission,
    ⟨.admitSign origin source grantId template, admission⟩ ∉ xs
  | .ask (.onSign _) => O.hasOnSign = true
  | .finishSign origin id grant template answer =>
    ∃ event grantId needsPrompt, event.origin = origin ∧
      Admitted O call xs event id grantId template grant needsPrompt ∧
      ⟨.answer (.signEvent template), some answer⟩ ∈ xs
  | _ => True

/-- What has been admitted stays admitted. -/
theorem Admitted.mono {call : SignerCall} {xs ys : List (Event SignerRes)} {event : MessageEvent}
    {id grantId : String} {template : EventTemplate} {grant : GrantState} {needsPrompt : Bool}
    (h : Admitted O call xs event id grantId template grant needsPrompt) (hsub : xs ⊆ ys) :
    Admitted O call ys event id grantId template grant needsPrompt := ⟨h.arrived, hsub h.admitted⟩

section Logic

variable {call : SignerCall} {xs : List (Event SignerRes)} {event : MessageEvent}
  {entry : CrossOriginPolicyEntry} {message : CrossOriginMessage}

/-- An error may be posted to an origin of the policy. -/
theorem fail_sat {origin id : String} {code : CrossOriginErrorCode}
    (hpolicy : (O.policy.entry? origin).isSome = true) :
    (fail origin id code).Sat (Warrant W O call) (fun _ _ => True) xs :=
  ⟨⟨hpolicy, fun _ _ h => by cases h⟩, fun _ => trivial⟩

theorem changedIf_sat (dropped : List GrantState) :
    (changedIf dropped).Sat (Warrant W O call) (fun _ _ => True) xs := by
  unfold changedIf
  split
  · trivial
  · exact ⟨trivial, fun _ => trivial⟩

theorem revoke_sat (which : Dropped) :
    (revoke which).Sat (Warrant W O call) (fun _ _ => True) xs :=
  ⟨trivial, fun dropped => changedIf_sat dropped⟩

/-- A message that has arrived may be answered. -/
theorem Arrived.policy_isSome (h : Arrived O call event entry message) :
    (O.policy.entry? event.origin).isSome = true := by
  rw [h.policy]
  rfl

/-- None of the questions of a connection has been answered. -/
def Unasked (xs : List (Event SignerRes)) : Prop := ∀ query answer, ⟨.answer query, answer⟩ ∉ xs

/-- The consent is asked for, or was given before. -/
theorem consent_sat {Ψ : List (Event SignerRes) → Bool → Prop} (request : ConsentRequest)
    (hxs : ∀ query answer, ⟨.answer query, answer⟩ ∈ xs → query = .ensureUnlocked ∨ query = .getNpub)
    (h : ∀ ys b, xs <+: ys → (b = true ↔ Consented ys) → Ψ ys b) :
    (consent request).Sat (Warrant W O call) Ψ xs := by
  have hhas : ∀ o p s, ⟨.answer (.consentHas o p s), some true⟩ ∉ xs := by
    intro o p s hmem
    simpa using hxs _ _ hmem
  have hon : ∀ r, ⟨.answer (.onConsent r), some true⟩ ∉ xs := by
    intro r hmem
    simpa using hxs _ _ hmem
  have hremember : ∀ o p s, ⟨.answer (.consentRemember o p s), true⟩ ∉ xs := by
    intro o p s hmem
    simpa using hxs _ _ hmem
  refine ⟨trivial, fun _ => ⟨trivial, fun answer => ?_⟩⟩
  cases answer with
  | none => exact h _ _ (by simp) (by simp [Consented, hhas, hon, hremember])
  | some known =>
    cases known with
    | true => exact h _ _ (by simp) (by simp [Consented, hhas, hon, hremember])
    | false =>
      refine ⟨trivial, fun _ => ⟨trivial, fun answer => ?_⟩⟩
      cases answer with
      | none => exact h _ _ (by simp) (by simp [Consented, hhas, hon, hremember])
      | some approved =>
        cases approved with
        | false => exact h _ _ (by simp) (by simp [Consented, hhas, hon, hremember])
        | true =>
          refine ⟨trivial, fun _ => ⟨trivial, fun b => ?_⟩⟩
          exact h _ _ (by simp) (by simp [Consented, hhas, hon, hremember])

/-- An identity that was answered stays the one that was. -/
theorem answeredPubkey_mono {ys : List (Event SignerRes)} {pubkey : String} (hp : xs <+: ys)
    (h : answeredPubkey W xs = some pubkey) : answeredPubkey W ys = some pubkey := by
  obtain ⟨zs, rfl⟩ := hp
  unfold answeredPubkey at h ⊢
  obtain ⟨npub, hnpub, hpubkey⟩ := Option.bind_eq_some_iff.mp h
  rw [List.findSome?_append, hnpub]
  exact hpubkey

/-- A connection is within the policy. -/
theorem handleConnect_sat {id : String} {kinds : List ℤ} {audiences : List String}
    {expectedPubkey : Option String}
    (h : Arrived O call event entry (.connect id kinds audiences expectedPubkey))
    (hxs : Unasked xs) :
    (handleConnect W entry event.origin event.source id kinds audiences expectedPubkey).Sat
      (Warrant W O call) (fun _ _ => True) xs := by
  have hfail : ∀ code ys, (fail event.origin id code).Sat (Warrant W O call) (fun _ _ => True) ys :=
    fun code ys => fail_sat h.policy_isSome
  unfold handleConnect
  cases audiences.mapM (normalizeOrigin W.newURL) with
  | error _ => exact hfail _ _
  | ok normalized =>
    show (if _ then _ else _ : SignerProgram Unit).Sat _ _ _
    split
    · exact hfail _ _
    · rename_i hwithin
      simp only [Bool.or_eq_true, Bool.not_eq_true', not_or, Bool.not_eq_false, List.all_eq_true,
        List.contains_iff_mem] at hwithin
      refine ⟨trivial, fun _ => ⟨trivial, fun unlocked => ?_⟩⟩
      cases unlocked with
      | false => exact hfail _ _
      | true =>
        refine ⟨trivial, fun _ => ⟨trivial, fun npub => ?_⟩⟩
        cases npub with
        | none => exact hfail _ _
        | some npub =>
          dsimp only [Prog.bind]
          cases hpubkey : pubkeyOfNpub W npub with
          | none => exact hfail _ _
          | some pubkey =>
            have hnone : xs.findSome? answeredNpub = none := by
              rw [List.findSome?_eq_none_iff]
              intro ev hev
              unfold answeredNpub
              split
              · exact absurd hev (hxs _ _)
              · rfl
            apply Prog.Sat.bind
            refine consent_sat _ (fun query answer hmem => ?_) fun ys approved hp happroved => ?_
            · simp only [List.mem_append, List.mem_singleton] at hmem
              rcases hmem with (((hmem | hmem) | hmem) | hmem) | hmem
              · exact absurd hmem (hxs _ _)
              · cases hmem
              · cases hmem
                exact Or.inl rfl
              · cases hmem
              · cases hmem
                exact Or.inr rfl
            have hidentity : answeredPubkey W ys = some pubkey := by
              refine answeredPubkey_mono hp ?_
              unfold answeredPubkey
              simp only [List.append_assoc, List.findSome?_append, hnone]
              exact hpubkey
            refine ⟨⟨happroved, hidentity, event, entry, id, kinds, audiences, h, rfl, rfl, hwithin.1,
              hwithin.2, rfl⟩, fun result => ?_⟩
            cases result with
            | closed => trivial
            | declined => exact hfail _ _
            | refused => exact hfail _ _
            | opened grant =>
              exact ⟨trivial, fun _ => ⟨⟨h.policy_isSome, fun _ _ heq => by cases heq⟩,
                fun _ => trivial⟩⟩

/-- A template that was admitted is signed. -/
theorem askSigner_sat {id grantId : String} {template : EventTemplate} {grant : GrantState}
    {needsPrompt : Bool} (h : Admitted O call xs event id grantId template grant needsPrompt)
    (hprompt : needsPrompt = true →
      O.hasOnSign = true ∧ ApprovedCompletion xs grant.grantId template)
    (hnot : ∀ t, ⟨.ask (.signEvent t), ()⟩ ∉ xs) :
    (askSigner event.origin id grant template).Sat (Warrant W O call) (fun _ _ => True) xs := by
  obtain ⟨entry, harrived⟩ := h.arrived
  refine ⟨⟨⟨event, id, grantId, grant, needsPrompt, h, hprompt⟩, hnot⟩, fun _ =>
    ⟨trivial, fun answer => ?_⟩⟩
  cases answer with
  | none => exact fail_sat harrived.policy_isSome
  | some answer =>
    refine ⟨⟨event, grantId, needsPrompt, rfl, h.mono fun ev hev => by simp [hev], by simp⟩,
      fun result => ?_⟩
    cases result with
    | identityChanged dropped => exact changedIf_sat dropped
    | revoked => trivial
    | mismatched => trivial
    | signed => trivial

/-- A signature is admitted, and approved if it has to be. -/
theorem handleSign_sat {id grantId : String} {template : EventTemplate}
    (h : Arrived O call event entry (.sign id grantId template))
    (hfirst : ∀ origin source grantId template admission,
      ⟨.admitSign origin source grantId template, admission⟩ ∉ xs)
    (hnot : ∀ t, ⟨.ask (.signEvent t), ()⟩ ∉ xs) :
    (handleSign O event.origin event.source id grantId template).Sat (Warrant W O call)
      (fun _ _ => True) xs := by
  have hfail : ∀ code ys, (fail event.origin id code).Sat (Warrant W O call) (fun _ _ => True) ys :=
    fun code ys => fail_sat h.policy_isSome
  refine ⟨hfirst, fun admission => ?_⟩
  cases admission with
  | revoked => exact hfail _ _
  | expired => exact ⟨trivial, fun _ => hfail _ _⟩
  | refused => exact hfail _ _
  | admitted grant needsPrompt =>
    have hadmitted : Admitted O call (xs ++ [⟨.admitSign event.origin event.source grantId template,
        .admitted grant needsPrompt⟩]) event id grantId template grant needsPrompt :=
      ⟨⟨entry, h⟩, by simp⟩
    show (if _ then _ else _ : SignerProgram Unit).Sat _ _ _
    split
    · show (if _ then _ else _ : SignerProgram Unit).Sat _ _ _
      split
      · exact hfail _ _
      · rename_i hon
        have hon' : O.hasOnSign = true := by simpa using hon
        refine ⟨hon', fun _ => ⟨trivial, fun answer => ?_⟩⟩
        cases answer with
        | none => exact hfail _ _
        | some approved =>
          cases approved with
          | false => exact hfail _ _
          | true =>
            refine ⟨trivial, fun live => ?_⟩
            cases live with
            | false => exact hfail _ _
            | true =>
              refine askSigner_sat (hadmitted.mono fun ev hev => List.mem_append_left _
                (List.mem_append_left _ (List.mem_append_left _ hev))) (fun hneeds => ?_)
                fun t ht => ?_
              · subst hneeds
                exact ⟨hon', ⟨event.origin, grant.info, template, .completion⟩, rfl, rfl, rfl, by simp⟩
              · simp only [List.mem_append, List.mem_singleton] at ht
                rcases ht with (((ht | ht) | ht) | ht) | ht
                · exact hnot t ht
                all_goals cases ht
    · rename_i hno
      refine askSigner_sat hadmitted (fun hneeds => ?_) ?_
      · subst hneeds
        exact absurd rfl hno
      · intro t ht
        rcases List.mem_append.mp ht with ht | ht
        · exact hnot t ht
        · cases List.mem_singleton.mp ht

variable (W O)

/-- The logic of the page's programs. -/
theorem signerBody_sat (call : SignerCall) :
    (signerBody W O call).Sat (Warrant W O call) (fun _ _ => True) [] := by
  unfold signerBody
  split
  · trivial
  · rename_i hmounted
    simp only [Bool.or_eq_true, not_or, Bool.not_eq_true, Option.isNone_eq_false_iff] at hmounted
    cases call with
    | announce =>
      have hall : ∀ (entries : Policy) ys, (∀ e ∈ entries, (O.policy.entry? e.1).isSome = true) →
          (entries.forM fun e => act (.post e.1 .ready)).Sat (Warrant W O .announce)
            (fun _ _ => True) ys := by
        intro entries
        induction entries with
        | nil => exact fun _ _ => trivial
        | cons e entries ih =>
          intro ys hpolicy
          exact ⟨⟨hpolicy e (by simp), fun _ _ heq => by cases heq⟩,
            fun _ => ih _ fun e' he' => hpolicy e' (by simp [he'])⟩
      refine hall O.policy [] fun e he => ?_
      unfold Policy.entry?
      rw [Option.isSome_map, List.find?_isSome]
      exact ⟨e, he, beq_self_eq_true _⟩
    | message event =>
      refine ⟨trivial, fun closed => ?_⟩
      show (if _ then _ else _ : SignerProgram Unit).Sat _ _ _
      split
      · trivial
      · rename_i hopen
        simp only [Bool.or_eq_true, not_or, bne_iff_ne, ne_eq, not_not] at hopen
        cases hentry : O.policy.entry? event.origin with
        | none => trivial
        | some entry =>
          cases hmessage : parseMessage event.data with
          | none => trivial
          | some message =>
            have harrived : Arrived O (.message event) event entry message :=
              ⟨rfl, hmounted.1, hmounted.2, hopen.2, hentry, hmessage⟩
            cases message with
            | connect id kinds audiences expectedPubkey =>
              refine handleConnect_sat harrived fun query answer hmem => ?_
              cases List.mem_singleton.mp hmem
            | sign id grantId template =>
              refine handleSign_sat harrived (fun _ _ _ _ _ hmem => ?_) fun t ht => ?_
              · cases List.mem_singleton.mp hmem
              · cases List.mem_singleton.mp ht
            | disconnect grantId => exact ⟨trivial, fun dropped => changedIf_sat dropped⟩
            | _ => trivial
    | broadcast data =>
      show (if _ then _ else _ : SignerProgram Unit).Sat _ _ _
      split
      · exact revoke_sat _
      · trivial
    | revoke key => exact revoke_sat _
    | revokeAll => exact revoke_sat _
    | close =>
      refine ⟨trivial, fun dropped => ?_⟩
      cases dropped with
      | none => trivial
      | some dropped => exact changedIf_sat dropped

end Logic

/-! ## The grants of a run -/

/-- A grant, but for whether its completion has been asked for: all of it that never changes. -/
def GrantState.claimed (grant : GrantState) : GrantState := { grant with completionUsed := true }

variable (W O)

/-- The grants after a history, oldest first. -/
def grantsAt (h : List (Step (signerMachine W O))) : List GrantState :=
  ((signerMachine W O).after h).grants

/-- A connection has opened a grant. -/
def Opened (h : List (Step (signerMachine W O))) (grant : GrantState) : Prop :=
  ∃ pre e approved expectedPubkey draft, Occurs h pre e ∧
    (signerMachine W O).event pre e = ⟨.finishConnect approved expectedPubkey draft, .opened grant⟩

variable {W O}

section Runs

variable {h pre : List (Step (signerMachine W O))} {e : Step (signerMachine W O)}
  {grant grant' : GrantState}

/-- What was opened stays so. -/
theorem Opened.mono (ho : Opened W O pre grant) (hp : pre <+: h) : Opened W O h grant := by
  obtain ⟨pre', e, approved, expectedPubkey, draft, hocc, hev⟩ := ho
  exact ⟨pre', e, approved, expectedPubkey, draft, hocc.mono hp, hev⟩

/-- The grant that a connection opens. -/
theorem event_opened {approved : Bool} {expectedPubkey : Option String} {draft : GrantDraft}
    (hev : (signerMachine W O).event pre e =
      ⟨.finishConnect approved expectedPubkey draft, .opened grant⟩) :
    e.op = .finishConnect approved expectedPubkey draft ∧
      ((signerMachine W O).after pre).closed = false ∧ approved = true ∧
      (expectedPubkey.all fun pubkey => pubkey = draft.pubkey) = true ∧
      grant = ⟨e.env.randomId, draft.origin, draft.pubkey, draft.kinds, draft.audiences,
        e.env.now + draft.maxTtlSeconds, false, draft.source⟩ := by
  obtain ⟨hop, hres⟩ := (signerMachine W O).event_eq_iff.mp hev
  refine ⟨hop, ?_⟩
  change (SignerState.finishConnect _ approved expectedPubkey draft e.env.randomId e.env.now).1 =
    _ at hres
  unfold SignerState.finishConnect at hres
  split_ifs at hres with hclosed happroved hexpected
  refine ⟨by simpa using hclosed, by simpa using happroved, ?_, (ConnectResult.opened.inj hres).symm⟩
  cases expectedPubkey with
  | none => rfl
  | some pubkey => simpa using hexpected

/-- A grant that is set is the only one that comes in. -/
theorem mem_setGrant {s : SignerState} (hg : grant ∈ (s.setGrant grant').grants) :
    grant ∈ s.grants ∨ grant = grant' := by
  unfold SignerState.setGrant at hg
  split_ifs at hg
  · obtain ⟨g, hg0, rfl⟩ := List.mem_map.mp hg
    split
    · exact Or.inr rfl
    · exact Or.inl hg0
  · rcases List.mem_append.mp hg with hg | hg
    · exact Or.inl hg
    · exact Or.inr (List.mem_singleton.mp hg)

/-- Claiming a completion changes nothing else of the grants. -/
theorem mem_useCompletion {s : SignerState} {grantId : String}
    (hg : grant ∈ (s.useCompletion grantId).grants) :
    ∃ g ∈ s.grants, grant.claimed = g.claimed ∧
      (g.completionUsed = true → grant.completionUsed = true) := by
  obtain ⟨g, hg0, rfl⟩ := List.mem_map.mp hg
  refine ⟨g, hg0, ?_⟩
  split
  · exact ⟨rfl, fun _ => rfl⟩
  · exact ⟨rfl, id⟩

/-- What one step does to the grants: each one after it was there before, up to its completion, which
stays used, or the step is the end of the connection that opens it. -/
theorem grants_step (hg : grant ∈ grantsAt W O (h ++ [e])) :
    (∃ g ∈ grantsAt W O h, grant.claimed = g.claimed ∧
      (g.completionUsed = true → grant.completionUsed = true)) ∨
    ∃ approved expectedPubkey draft, (signerMachine W O).event h e =
      ⟨.finishConnect approved expectedPubkey draft, .opened grant⟩ := by
  obtain ⟨tid, op, env⟩ := e
  unfold grantsAt at hg ⊢
  rw [Machine.after_concat] at hg
  generalize hs : (signerMachine W O).after h = s at hg ⊢
  have hsame : grant ∈ s.grants → (∃ g ∈ s.grants, grant.claimed = g.claimed ∧
      (g.completionUsed = true → grant.completionUsed = true)) := fun hg => ⟨grant, hg, rfl, id⟩
  cases op with
  | closed => exact Or.inl (hsame hg)
  | ask query => exact Or.inl (hsame hg)
  | answer query => exact Or.inl (hsame hg)
  | hasGrant grantId => exact Or.inl (hsame hg)
  | post origin message => exact Or.inl (hsame hg)
  | grantsChanged => exact Or.inl (hsame hg)
  | dropGrants which => exact Or.inl (hsame (List.mem_of_mem_filter hg))
  | close =>
    change grant ∈ (SignerState.close s).2.grants at hg
    unfold SignerState.close at hg
    split_ifs at hg
    · exact Or.inl (hsame hg)
    · cases hg
  | finishSign origin id granted template event =>
    change grant ∈ (SignerState.finishSign s granted template event).2.grants at hg
    unfold SignerState.finishSign at hg
    split_ifs at hg
    · exact Or.inl (hsame hg)
    · cases hg
    · exact Or.inl (hsame hg)
    · exact Or.inl (hsame hg)
  | admitSign origin source grantId template =>
    change grant ∈ (SignerState.admitSign W.newURL O.skew s origin source grantId template
      env.now).2.grants at hg
    unfold SignerState.admitSign at hg
    split at hg
    · exact Or.inl (hsame hg)
    · dsimp only at hg
      split_ifs at hg
      · exact Or.inl (hsame hg)
      · exact Or.inl (hsame (List.mem_of_mem_filter hg))
      · exact Or.inl (hsame hg)
      · exact Or.inl (mem_useCompletion hg)
      · exact Or.inl (hsame hg)
  | finishConnect approved expectedPubkey draft =>
    change grant ∈ (SignerState.finishConnect s approved expectedPubkey draft env.randomId
      env.now).2.grants at hg
    have hev : (signerMachine W O).event h ⟨tid, .finishConnect approved expectedPubkey draft, env⟩ =
        ⟨.finishConnect approved expectedPubkey draft, (SignerState.finishConnect s approved
          expectedPubkey draft env.randomId env.now).1⟩ := by
      subst hs
      rfl
    rw [hev]
    unfold SignerState.finishConnect at hg ⊢
    split_ifs at hg ⊢
    · exact Or.inl (hsame hg)
    · exact Or.inl (hsame hg)
    · exact Or.inl (hsame hg)
    · rcases mem_setGrant hg with hg | rfl
      · exact Or.inl (hsame hg)
      · exact Or.inr ⟨approved, expectedPubkey, draft, rfl⟩

/-- Every grant in the page's memory was opened by a connection. -/
theorem opened_of_mem (hg : grant ∈ grantsAt W O h) :
    ∃ opened, Opened W O h opened ∧ grant.claimed = opened.claimed := by
  induction h using List.reverseRecOn generalizing grant with
  | nil => cases hg
  | append_singleton h e ih =>
    rcases grants_step hg with ⟨g, hg0, hsame, -⟩ | ⟨approved, expectedPubkey, draft, hev⟩
    · obtain ⟨opened, ho, hsame'⟩ := ih hg0
      exact ⟨opened, ho.mono (List.prefix_append _ _), hsame.trans hsame'⟩
    · exact ⟨grant, ⟨h, e, approved, expectedPubkey, draft, Occurs.last, hev⟩, rfl⟩

/-- Of two connections, the later one has got an id that the earlier one has not. -/
theorem connect_fresh {pre' : List (Step (signerMachine W O))} {e' : Step (signerMachine W O)}
    (hv : (signerPage W O).Valid h) (ho : Occurs h pre e) (hbefore : Occurs pre pre' e')
    (hop : e.op.isFinishConnect = true) (hop' : e'.op.isFinishConnect = true) :
    e'.env.randomId ≠ e.env.randomId := by
  intro heq
  have hadm : (!e.op.isFinishConnect || pre.all fun e' =>
      !e'.op.isFinishConnect || e'.env.randomId != e.env.randomId) = true := hv.admissible ho
  rw [hop] at hadm
  have hmem : e' ∈ pre := hbefore.mem (by simp)
  have hne := List.all_eq_true.mp hadm e' hmem
  rw [hop', heq] at hne
  simp at hne

/-- One id names one grant, since every connection gets a new one. -/
theorem opened_same (hv : (signerPage W O).Valid h) (ho : Opened W O h grant)
    (ho' : Opened W O h grant') (hid : grant.grantId = grant'.grantId) : grant = grant' := by
  obtain ⟨pre, e, approved, expectedPubkey, draft, hocc, hev⟩ := ho
  obtain ⟨pre', e', approved', expectedPubkey', draft', hocc', hev'⟩ := ho'
  obtain ⟨hop, -, -, -, hgrant⟩ := event_opened hev
  obtain ⟨hop', -, -, -, hgrant'⟩ := event_opened hev'
  have hdraws : e.env.randomId = e'.env.randomId := by
    rw [hgrant, hgrant'] at hid
    exact hid
  have hconnect : e.op.isFinishConnect = true := by rw [hop]; rfl
  have hconnect' : e'.op.isFinishConnect = true := by rw [hop']; rfl
  rcases hocc.trichotomy hocc' with ⟨rfl, rfl⟩ | hbefore | hbefore
  · rw [hop] at hop'
    obtain ⟨rfl, rfl, rfl⟩ := SignerOp.finishConnect.inj hop'
    rw [hgrant, hgrant']
  · exact absurd hdraws.symm (connect_fresh hv hocc hbefore hconnect hconnect')
  · exact absurd hdraws (connect_fresh hv hocc' hbefore hconnect' hconnect)

/-- A request is admitted with a grant that is there, for its origin and window, and has not expired;
its template is inside. It needs a prompt when it is a completion and another one was claimed. -/
theorem event_admitted {origin grantId : String} {source : Option ℕ} {template : EventTemplate}
    {needsPrompt : Bool} (hev : (signerMachine W O).event pre e =
      ⟨.admitSign origin source grantId template, .admitted grant needsPrompt⟩) :
    e.op = .admitSign origin source grantId template ∧ grant ∈ grantsAt W O pre ∧
      grant.grantId = grantId ∧ grant.origin = origin ∧ grant.source = source ∧
      e.env.now < grant.expiresAt ∧ (∃ kind ∈ grant.kinds, template.kind = JsonNumber.ofInt kind) ∧
      (∃ audience ∈ grant.audiences, audienceOf W.newURL template = some audience) ∧
      needsPrompt = (isCompletion template && grant.completionUsed) := by
  obtain ⟨hop, hres⟩ := (signerMachine W O).event_eq_iff.mp hev
  refine ⟨hop, ?_⟩
  change (SignerState.admitSign W.newURL O.skew _ origin source grantId template e.env.now).1 =
    _ at hres
  unfold SignerState.admitSign at hres
  split at hres
  · cases hres
  · rename_i g hfound
    have hg : g ∈ grantsAt W O pre := List.mem_of_find?_eq_some hfound
    have hid : g.grantId = grantId := by simpa using List.find?_some hfound
    have hinside : ∀ {b}, SignAdmission.admitted g b = .admitted grant needsPrompt →
        g = grant ∧ b = needsPrompt := fun heq => SignAdmission.admitted.inj heq
    dsimp only at hres
    split_ifs at hres with hforeign hexpired houtside hclaim
    all_goals
      obtain ⟨rfl, rfl⟩ := hinside hres
      simp only [ne_eq, not_or, not_not] at hforeign
      simp only [Bool.or_eq_true, Bool.not_eq_true', not_or, Bool.not_eq_false, List.any_eq_true,
        decide_eq_true_eq, Option.any_eq_true, List.contains_iff_mem] at houtside
      obtain ⟨⟨hkind, audience, haudience, hin⟩, -⟩ := houtside
      exact ⟨hg, hid, hforeign.1, hforeign.2, not_le.mp hexpired, hkind, ⟨audience, hin, haudience⟩,
        rfl⟩

/-- A signed reply is posted by the end of a signature: the grant is there, the event carries its
pubkey and is what was asked for. -/
theorem event_signed {origin id : String} {template : EventTemplate} {event : Nip98Event} :
    (signerMachine W O).event pre e = ⟨.finishSign origin id grant template event, .signed⟩ ↔
      e.op = .finishSign origin id grant template event ∧
      (∃ g ∈ grantsAt W O pre, g.grantId = grant.grantId) ∧ event.pubkey = grant.pubkey ∧
      sameEvent template event = true := by
  rw [Machine.event_eq_iff]
  refine and_congr_right fun hop => ?_
  change (SignerState.finishSign _ grant template event).1 = SignResult.signed ↔ _
  have hlive : (((signerMachine W O).after pre).grant? grant.grantId).isSome = true ↔
      ∃ g ∈ grantsAt W O pre, g.grantId = grant.grantId := by
    unfold SignerState.grant?
    rw [List.find?_isSome]
    simp only [beq_iff_eq]
    rfl
  rw [← hlive]
  unfold SignerState.finishSign
  cases ((signerMachine W O).after pre).grant? grant.grantId with
  | none => simp
  | some g =>
    by_cases hkey : event.pubkey = grant.pubkey
    · by_cases hsame : sameEvent template event = true
      · simp [hkey, hsame]
      · simp [hkey, hsame]
    · simp [hkey]

/-- The only operation that posts a signed reply. -/
theorem signed_mem_postsOf {ev : Event SignerRes} {origin id : String} {event : Nip98Event}
    (hpost : (origin, .signed id event) ∈ postsOf ev)
    (hdirect : ∀ origin message, ev.1 = .post origin message → ∀ id event, message ≠ .signed id event) :
    ∃ grant template, ev = ⟨.finishSign origin id grant template event, .signed⟩ := by
  obtain ⟨op, res⟩ := ev
  cases op with
  | post origin' message =>
    have heq := List.mem_singleton.mp hpost
    obtain ⟨rfl, rfl⟩ := Prod.mk.inj heq
    exact absurd rfl (hdirect _ _ rfl id event)
  | finishSign origin' id' grant template event' =>
    cases res with
    | signed =>
      obtain ⟨rfl, hmessage⟩ := Prod.mk.inj (List.mem_singleton.mp hpost)
      obtain ⟨rfl, rfl⟩ := CrossOriginMessage.signed.inj hmessage
      exact ⟨grant, template, rfl⟩
    | revoked => cases List.mem_singleton.mp hpost
    | mismatched => cases List.mem_singleton.mp hpost
    | identityChanged dropped =>
      rcases List.mem_cons.mp hpost with heq | hmem
      · cases heq
      · obtain ⟨g, -, heq⟩ := List.mem_map.mp hmem
        cases heq
  | dropGrants which =>
    cases which with
    | disconnect origin' grantId => cases hpost
    | all =>
      obtain ⟨g, -, heq⟩ := List.mem_map.mp hpost
      cases heq
    | matching key =>
      obtain ⟨g, -, heq⟩ := List.mem_map.mp hpost
      cases heq
  | close =>
    obtain ⟨g, -, heq⟩ := List.mem_map.mp hpost
    cases heq
  | closed => cases hpost
  | ask query => cases hpost
  | answer query => cases hpost
  | finishConnect approved expectedPubkey draft => cases hpost
  | admitSign origin' source grantId template => cases hpost
  | hasGrant grantId => cases hpost
  | grantsChanged => cases hpost

/-! ## What stands behind a reply -/

/-- Two grants that differ at most in their completion agree in everything else. -/
theorem claimed_eq (heq : grant.claimed = grant'.claimed) :
    grant.grantId = grant'.grantId ∧ grant.origin = grant'.origin ∧ grant.pubkey = grant'.pubkey ∧
      grant.kinds = grant'.kinds ∧ grant.audiences = grant'.audiences ∧
      grant.expiresAt = grant'.expiresAt ∧ grant.source = grant'.source := by
  obtain ⟨h1, h2, h3, h4, h5, h6, -, h7⟩ := GrantState.mk.inj heq
  exact ⟨h1, h2, h3, h4, h5, h6, h7⟩

/-- What stands behind a step of a run, with the call whose program has taken it. -/
theorem warranted_call {c : (signerPage W O).Config} (hr : (signerPage W O).Reachable c)
    (ho : Occurs c.history pre e) : ∃ th, c.threads[e.tid]? = some th ∧
      Warrant W O th.call ((signerMachine W O).own e.tid pre) e.op := by
  obtain ⟨-, th, hth, -, k, hfol⟩ := hr.coherent.occurs pre e ho
  exact ⟨th, hth, ((signerBody_sat W O th.call).follows hfol).1⟩

/-- What stands behind a step of a run. -/
theorem warranted (hv : (signerPage W O).Valid h) (ho : Occurs h pre e) :
    ∃ call, Warrant W O call ((signerMachine W O).own e.tid pre) e.op := by
  obtain ⟨c, hr, rfl⟩ := hv
  obtain ⟨th, -, hwarrant⟩ := warranted_call hr ho
  exact ⟨th.call, hwarrant⟩

/-- A grant is within the entry of its origin. -/
def Within (O : CrossOriginSignerOptions) (grant : GrantState) : Prop :=
  ∃ entry, O.policy.entry? grant.origin = some entry ∧ grant.kinds ⊆ entry.kinds ∧
    grant.audiences ⊆ entry.audiences

/-- Every grant in the page's memory is within the policy. -/
theorem within_of_mem (hv : (signerPage W O).Valid h) (hg : grant ∈ grantsAt W O h) :
    Within O grant := by
  obtain ⟨opened, ⟨pre, e, approved, expectedPubkey, draft, hocc, hev⟩, hsame⟩ := opened_of_mem hg
  obtain ⟨hop, -, -, -, hopened⟩ := event_opened hev
  obtain ⟨call, hwarrant⟩ := warranted hv hocc
  rw [hop] at hwarrant
  obtain ⟨-, -, event, entry, id, kinds, audiences, harrived, horigin, -, hkinds, haudiences, -⟩ :=
    hwarrant
  obtain ⟨-, horigin', -, hkinds', haudiences', -, -⟩ := claimed_eq hsame
  rw [hopened] at horigin' hkinds' haudiences'
  refine ⟨entry, ?_, ?_, ?_⟩
  · rw [horigin']
    exact (congrArg _ horigin).trans harrived.policy
  · rw [hkinds']
    exact hkinds
  · rw [haudiences']
    exact haudiences

/-- Two grants of a run with one id differ at most in their completion. -/
theorem same_of_mem {h' : List (Step (signerMachine W O))} (hv : (signerPage W O).Valid h)
    (hp : h' <+: h) (hg : grant ∈ grantsAt W O h) (hg' : grant' ∈ grantsAt W O h')
    (hid : grant.grantId = grant'.grantId) : grant.claimed = grant'.claimed := by
  obtain ⟨opened, ho, hsame⟩ := opened_of_mem hg
  obtain ⟨opened', ho', hsame'⟩ := opened_of_mem hg'
  have hids : opened.grantId = opened'.grantId := by
    rw [← (claimed_eq hsame).1, ← (claimed_eq hsame').1, hid]
  rw [hsame, hsame', opened_same hv ho (ho'.mono hp) hids]

/-- The grants that an operation drops were in the page's memory. -/
theorem dropped_subset {which : Dropped} {dropped : List GrantState}
    (hev : (signerMachine W O).event pre e = ⟨.dropGrants which, dropped⟩) :
    dropped ⊆ grantsAt W O pre := by
  obtain ⟨-, rfl⟩ := (signerMachine W O).event_eq_iff.mp hev
  exact fun g hg => List.mem_of_mem_filter hg

/-- Every message goes to an origin of the policy. -/
theorem post_within (hv : (signerPage W O).Valid h) (ho : Occurs h pre e) {origin : String}
    {message : CrossOriginMessage}
    (hpost : (origin, message) ∈ postsOf ((signerMachine W O).event pre e)) :
    (O.policy.entry? origin).isSome = true := by
  obtain ⟨call, hwarrant⟩ := warranted hv ho
  have hgrant : ∀ {grants : List GrantState}, grants ⊆ grantsAt W O pre →
      (origin, message) ∈ (grants.map fun g => (g.origin, CrossOriginMessage.revoked g.grantId)) →
      (O.policy.entry? origin).isSome = true := by
    intro grants hsub hmem
    obtain ⟨g, hg, heq⟩ := List.mem_map.mp hmem
    obtain ⟨entry, hentry, -⟩ := within_of_mem (hv.restrict ho.before) (hsub hg)
    rw [← (Prod.mk.inj heq).1, hentry]
    rfl
  generalize hev : (signerMachine W O).event pre e = ev at hpost
  obtain ⟨op, res⟩ := ev
  obtain ⟨hop, hres⟩ := (signerMachine W O).event_eq_iff.mp hev
  rw [hop] at hwarrant
  cases op with
  | post origin' message' =>
    obtain ⟨rfl, -⟩ := Prod.mk.inj (List.mem_singleton.mp hpost)
    exact hwarrant.1
  | finishSign origin' id grant template event =>
    obtain ⟨request, grantId, needsPrompt, horigin, ⟨⟨entry, harrived⟩, -⟩, -⟩ := hwarrant
    have hpolicy : (O.policy.entry? origin').isSome = true := horigin ▸ harrived.policy_isSome
    cases res with
    | identityChanged dropped =>
      rcases List.mem_cons.mp hpost with heq | hmem
      · exact (Prod.mk.inj heq).1 ▸ hpolicy
      · refine hgrant ?_ hmem
        change (SignerState.finishSign _ grant template event).1 = _ at hres
        unfold SignerState.finishSign at hres
        split_ifs at hres
        obtain rfl := SignResult.identityChanged.inj hres
        exact List.Subset.refl _
    | revoked => exact (Prod.mk.inj (List.mem_singleton.mp hpost)).1 ▸ hpolicy
    | mismatched => exact (Prod.mk.inj (List.mem_singleton.mp hpost)).1 ▸ hpolicy
    | signed => exact (Prod.mk.inj (List.mem_singleton.mp hpost)).1 ▸ hpolicy
  | dropGrants which =>
    have hsub := dropped_subset hev
    cases which with
    | disconnect origin' grantId => cases hpost
    | all => exact hgrant hsub hpost
    | matching key => exact hgrant hsub hpost
  | close =>
    refine hgrant ?_ hpost
    change (SignerState.close _).1 = _ at hres
    unfold SignerState.close at hres
    split_ifs at hres
    · rw [← hres]
      exact List.nil_subset _
    · rw [← hres]
      exact List.Subset.refl _
  | closed => cases hpost
  | ask query => cases hpost
  | answer query => cases hpost
  | finishConnect approved expectedPubkey draft => cases hpost
  | admitSign origin' source grantId template => cases hpost
  | hasGrant grantId => cases hpost
  | grantsChanged => cases hpost

/-- A signed reply is covered: what it answers, and the grant and the entry of the policy that it is
under. -/
structure Covered (W : WebPlatform) (O : CrossOriginSignerOptions) (origin id : String)
    (event : Nip98Event) (request : MessageEvent) (template : EventTemplate) (grant : GrantState)
    (entry : CrossOriginPolicyEntry) : Prop where
  /-- It answers a request of the opener. -/
  asked : parseMessage request.data = some (.sign id grant.grantId template)
  opener : request.source = O.opener ∧ O.opener.isSome = true
  /-- The request, the reply and the grant have one origin, which the policy has. -/
  origin_eq : request.origin = origin
  granted : grant.origin = origin ∧ grant.source = request.source
  policy : O.policy.entry? origin = some entry
  /-- The kind is one of the grant's, and they are within the policy. -/
  kind : ∃ kind ∈ grant.kinds, template.kind = JsonNumber.ofInt kind
  kinds : grant.kinds ⊆ entry.kinds
  /-- And so is the audience. -/
  audience : ∃ audience ∈ grant.audiences, audienceOf W.newURL template = some audience
  audiences : grant.audiences ⊆ entry.audiences
  /-- The event is the template, signed by the grant's key. -/
  same : event.kind = template.kind ∧ event.createdAt = template.createdAt ∧
    event.content = template.content ∧ event.tags = template.tags
  pubkey : event.pubkey = grant.pubkey

/-- What stands behind the end of a signature: the message that has started its program, and a grant
that is there now. -/
theorem finishSign_covered {c : (signerPage W O).Config} (hr : (signerPage W O).Reachable c)
    (ho : Occurs c.history pre e) {origin id : String} {template : EventTemplate} {event : Nip98Event}
    (hev : (signerMachine W O).event pre e = ⟨.finishSign origin id grant template event, .signed⟩) :
    ∃ th request live entry, c.threads[e.tid]? = some th ∧ th.call = .message request ∧
      live ∈ grantsAt W O pre ∧ live.claimed = grant.claimed ∧
      Covered W O origin id event request template live entry := by
  obtain ⟨hop, ⟨live, hlive, hid⟩, hpubkey, hsame⟩ := event_signed.mp hev
  obtain ⟨th, hth, hwarrant⟩ := warranted_call hr ho
  rw [hop] at hwarrant
  obtain ⟨request, grantId, needsPrompt, rfl, ⟨⟨entry, harrived⟩, hadmitted⟩, -⟩ := hwarrant
  obtain ⟨pre0, e0, hocc0, -, hev0⟩ := mem_own.mp hadmitted
  obtain ⟨-, hgrant, hgrantId, horigin, hsource, -, hkind, haudience, -⟩ := event_admitted hev0
  have hv : (signerPage W O).Valid pre := (System.Valid.of_reachable hr).restrict ho.before
  -- The grant that is there now is the one that the request was admitted with.
  have hclaimed : live.claimed = grant.claimed := same_of_mem hv hocc0.before hlive hgrant hid
  obtain ⟨-, horigin', hpubkey', hkinds', haudiences', -, hsource'⟩ := claimed_eq hclaimed
  obtain ⟨entry', hentry', hkinds, haudiences⟩ := within_of_mem hv hlive
  -- The policy does not change, so its entry is the one that the message was let in by.
  obtain rfl : entry' = entry := by
    rw [horigin', horigin, harrived.policy] at hentry'
    exact (Option.some.inj hentry').symm
  refine ⟨th, request, live, entry', hth, harrived.call_eq, hlive, hclaimed, ?_⟩
  exact {
    asked := by rw [hid, hgrantId]; exact harrived.parsed
    opener := ⟨harrived.source, harrived.opener⟩
    origin_eq := rfl
    granted := ⟨horigin'.trans horigin, hsource'.trans hsource⟩
    policy := harrived.policy
    kind := hkinds' ▸ hkind
    kinds := hkinds
    audience := haudiences' ▸ haudience
    audiences := haudiences
    same := sameEvent_iff.mp hsame
    pubkey := hpubkey.trans hpubkey'.symm }

/-- A signed reply is posted by the end of a signature. -/
theorem event_of_signed_reply (hv : (signerPage W O).Valid h) (ho : Occurs h pre e)
    {origin id : String} {event : Nip98Event}
    (hpost : (origin, .signed id event) ∈ postsOf ((signerMachine W O).event pre e)) :
    ∃ grant template,
      (signerMachine W O).event pre e = ⟨.finishSign origin id grant template event, .signed⟩ := by
  obtain ⟨call, hwarrant⟩ := warranted hv ho
  -- What a program posts by itself is no signed reply.
  refine signed_mem_postsOf hpost fun origin message hop => ?_
  have hop : e.op = .post origin message := hop
  rw [hop] at hwarrant
  exact hwarrant.2

/-- Every signed reply is covered by a grant that is there when it is posted: it answers the message
that has started the program which posts it. And nothing is posted to an origin outside of the policy,
whatever the programs of the page and the windows' messages have done in between. -/
theorem signed_reply_covered {c : (signerPage W O).Config} (hr : (signerPage W O).Reachable c)
    (ho : Occurs c.history pre e) :
    (∀ origin id event, (origin, .signed id event) ∈ postsOf ((signerMachine W O).event pre e) →
      ∃ th request template grant entry, c.threads[e.tid]? = some th ∧ th.call = .message request ∧
        grant ∈ grantsAt W O pre ∧ Covered W O origin id event request template grant entry) ∧
    ∀ origin message, (origin, message) ∈ postsOf ((signerMachine W O).event pre e) →
      (O.policy.entry? origin).isSome = true := by
  have hv := System.Valid.of_reachable hr
  refine ⟨fun origin id event hpost => ?_, fun origin message hpost => post_within hv ho hpost⟩
  obtain ⟨grant, template, hev⟩ := event_of_signed_reply hv ho hpost
  obtain ⟨th, request, live, entry, hth, hcall, hlive, -, hcovered⟩ := finishSign_covered hr ho hev
  exact ⟨th, request, template, live, entry, hth, hcall, hlive, hcovered⟩

/-! ## When a reply is posted -/

/-- The grant that a signature which ends was admitted with. -/
def SignerOp.signing : SignerOp → Option GrantState
  | .finishSign _ _ grant _ _ => some grant
  | _ => none

variable (W O)

/-- The signer's answers to admitted requests come in time: before the grant expires, unless the
grant has been dropped by then, or the answer is of another key, or not what was asked for. -/
def AnsweredInTime (h : List (Step (signerMachine W O))) : Prop :=
  ∀ pre e, Occurs h pre e → ∀ origin id grant template event,
    e.op = .finishSign origin id grant template event →
    (∃ g ∈ grantsAt W O pre, g.grantId = grant.grantId) → event.pubkey = grant.pubkey →
    sameEvent template event = true → e.env.now < grant.expiresAt

variable {W O}

/-- A run posts no signed reply at or after the expiry of its grant exactly when the signer answers
in time: the clock is read when a request is admitted, and not again. -/
theorem signed_in_time_iff {c : (signerPage W O).Config} (hr : (signerPage W O).Reachable c) :
    (∀ pre e, Occurs c.history pre e → ∀ origin id event grant,
      (origin, .signed id event) ∈ postsOf ((signerMachine W O).event pre e) →
      e.op.signing = some grant → e.env.now < grant.expiresAt) ↔ AnsweredInTime W O c.history := by
  constructor
  · intro hintime pre e hocc origin id grant template event hop hlive hpubkey hsame
    have hev := event_signed.mpr ⟨hop, hlive, hpubkey, hsame⟩
    refine hintime pre e hocc origin id event grant ?_ ?_
    · rw [hev]
      exact List.mem_singleton_self _
    · rw [hop]
      rfl
  · intro hanswered pre e hocc origin id event grant hpost hgrant
    obtain ⟨granted, template, hev⟩ := event_of_signed_reply (System.Valid.of_reachable hr) hocc hpost
    obtain ⟨hop, hlive, hpubkey, hsame⟩ := event_signed.mp hev
    rw [hop] at hgrant
    obtain rfl : granted = grant := Option.some.inj hgrant
    exact hanswered pre e hocc origin id granted template event hop hlive hpubkey hsame

end Runs

/-! ## A page with one relying origin -/

namespace SignerSample

/-- The audience. -/
def audience : String := "https://api.example.com"

/-- The relying origin. -/
def relying : String := "https://shop.example"

/-- The URL parser, for the audience and the server's URL. -/
def newURL (value : String) : Option Url :=
  if value = Sample.url then
    some ⟨Sample.url, "https:", "", "", "/auth/complete", "", "", audience⟩
  else if value = audience ∨ value = "https://api.example.com/" then
    some ⟨"https://api.example.com/", "https:", "", "", "/", "", "", audience⟩
  else none

/-- The page's platform. -/
def platform : WebPlatform := ⟨newURL, Sample.platform.nip19Decode⟩

/-- The page's options: one origin, one kind, one audience, and no prompts. -/
def options : CrossOriginSignerOptions where
  policy := [(relying, ⟨[27235], [audience], 900, by decide, by decide⟩)]
  opener := some 1
  isFramed := false
  hasOnSign := false
  createdAtSkewSeconds := none

/-- A message of the relying page. -/
def message (type : String) (fields : List (String × Json)) : SignerCall :=
  .message ⟨.obj (("nap", .str crossOriginProtocol) :: ("type", .str type) :: fields), relying, some 1⟩

/-- It connects. -/
def connect : SignerCall :=
  message "connect" [("id", .str "c1"), ("kinds", .arr [.num (JsonNumber.ofInt 27235)]),
    ("audiences", .arr [.str audience])]

/-- It asks for a completion proof. -/
def sign : SignerCall :=
  message "sign" [("id", .str "s1"), ("grantId", .str "g1"), ("template", .obj
    [("kind", .num (JsonNumber.ofInt 27235)), ("created_at", .num (JsonNumber.ofInt 1000)),
      ("tags", .arr ((Sample.tags false).map fun tag => .arr (tag.map .str))), ("content", .str "")])]

/-- The user consents, and the signer signs. -/
def answer : (query : Query) → query.Answer
  | .ensureUnlocked => true
  | .getNpub => some Sample.npub
  | .consentHas _ _ _ => some false
  | .onConsent _ => some true
  | .consentRemember _ _ _ => true
  | .onSign _ => some true
  | .signEvent _ => some (Sample.event false)

/-- The page at a time. -/
def env (now : ℚ) : SignerEnv := ⟨now, "g1", answer⟩

/-- A grant is opened, and the signer answers the request at a later time. -/
def moves (answered : ℚ) : List (signerPage platform options).Label :=
  .start connect :: List.replicate 14 (.run 0 (env 900)) ++
    (.start sign :: List.replicate 3 (.run 1 (env 1000)) ++ List.replicate 2 (.run 1 (env answered)))

/-- Whether the last step has posted a signed reply. -/
def repliedAt (check : Step (signerMachine platform options) → Bool)
    (c : (signerPage platform options).Config) : Bool :=
  c.history[18]?.any fun e : Step (signerMachine platform options) => check e &&
    decide ((relying, .signed "s1" (Sample.event false)) ∈
      postsOf ((signerMachine platform options).event (c.history.take 18) e))

/-- The run of a signer that answers at a time. -/
theorem exists_run (answered : ℚ) (check : (signerPage platform options).Config →
      Step (signerMachine platform options) → Bool)
    (h : (System.replay (signerBody platform options) (signerPage platform options).initial
      (moves answered)).any (fun c => repliedAt (check c) c) = true) :
    ∃ c pre e, (signerPage platform options).Reachable c ∧ Occurs c.history pre e ∧
      check c e = true ∧ (relying, .signed "s1" (Sample.event false)) ∈
        postsOf ((signerMachine platform options).event pre e) := by
  obtain ⟨c, hr, -, hp⟩ := System.exists_replay (fun _ _ => rfl) h
  obtain ⟨e, he, hcheck⟩ := (Option.any_eq_true _ _).mp hp
  rw [Bool.and_eq_true, decide_eq_true_eq] at hcheck
  exact ⟨c, _, e, hr, occurs_take he, hcheck.1, hcheck.2⟩

/-- Whether a signature ends at or after the expiry of its grant. -/
def isLate (e : Step (signerMachine platform options)) : Bool :=
  e.op.signing.any fun grant => grant.expiresAt ≤ e.env.now

/-- A signer that answers after fifteen minutes and more: the reply is posted. -/
theorem late_reply : ∃ c pre e, (signerPage platform options).Reachable c ∧
    Occurs c.history pre e ∧ (∃ grant, e.op.signing = some grant ∧ grant.expiresAt ≤ e.env.now) ∧
    (relying, .signed "s1" (Sample.event false)) ∈
      postsOf ((signerMachine platform options).event pre e) := by
  obtain ⟨c, pre, e, hr, hocc, hlate, hpost⟩ := exists_run 2000 (fun _ e => isLate e) (by decide +kernel)
  obtain ⟨grant, hgrant, hle⟩ := (Option.any_eq_true _ _).mp hlate
  exact ⟨c, pre, e, hr, hocc, ⟨grant, hgrant, of_decide_eq_true hle⟩, hpost⟩

/-- A signer that answers in time. -/
theorem timely_reply : ∃ c pre e, (signerPage platform options).Reachable c ∧
    Occurs c.history pre e ∧ AnsweredInTime platform options c.history ∧
    (relying, .signed "s1" (Sample.event false)) ∈
      postsOf ((signerMachine platform options).event pre e) := by
  obtain ⟨c, pre, e, hr, hocc, htimely, hpost⟩ :=
    exists_run 1000 (fun c _ => c.history.all fun e => !isLate e) (by decide +kernel)
  refine ⟨c, pre, e, hr, hocc, fun pre' e' hocc' origin id grant template event hop _ _ _ => ?_, hpost⟩
  have hnot := List.all_eq_true.mp htimely e' (List.mem_of_getElem? hocc'.getElem?)
  by_contra hle
  have hlate : isLate e' = true := by
    unfold isLate
    rw [hop]
    exact decide_eq_true (not_lt.mp hle)
  rw [hlate] at hnot
  cases hnot

end SignerSample

section Witnesses

open SignerSample

/-- The reply of a page with one relying origin is covered. -/
theorem signed_reply_covered_here : ∃ c pre e, (signerPage platform options).Reachable c ∧
    Occurs c.history pre e ∧ ∃ th request template grant entry, c.threads[e.tid]? = some th ∧
      th.call = .message request ∧ grant ∈ grantsAt platform options pre ∧
      Covered platform options relying "s1" (Sample.event false) request template grant entry := by
  obtain ⟨c, pre, e, hr, hocc, -, hpost⟩ := late_reply
  exact ⟨c, pre, e, hr, hocc, (signed_reply_covered hr hocc).1 _ _ _ hpost⟩

/-- A reply is posted after its grant has expired. -/
theorem signed_too_late : ¬ ∀ c, (signerPage platform options).Reachable c →
    ∀ pre e, Occurs c.history pre e → ∀ origin id event grant,
      (origin, .signed id event) ∈ postsOf ((signerMachine platform options).event pre e) →
      e.op.signing = some grant → e.env.now < grant.expiresAt := by
  intro h
  obtain ⟨c, pre, e, hr, hocc, ⟨grant, hgrant, hle⟩, hpost⟩ := late_reply
  have hlt := h c hr pre e hocc _ _ _ grant hpost hgrant
  exact absurd hle (not_le.mpr hlt)

/-- A signer that has answered in time: the reply is posted before its grant expires. -/
theorem signed_in_time_here : ∃ c pre e, (signerPage platform options).Reachable c ∧
    Occurs c.history pre e ∧
    (relying, .signed "s1" (Sample.event false)) ∈
      postsOf ((signerMachine platform options).event pre e) ∧
    ∀ grant, e.op.signing = some grant → e.env.now < grant.expiresAt := by
  obtain ⟨c, pre, e, hr, hocc, hanswered, hpost⟩ := timely_reply
  exact ⟨c, pre, e, hr, hocc, hpost, fun grant hgrant =>
    (signed_in_time_iff hr).mpr hanswered pre e hocc _ _ _ grant hpost hgrant⟩

end Witnesses

end NapAuth.CrossOrigin

import Mathlib.Algebra.Order.BigOperators.Group.List
import NapAuth.CrossOrigin.Scope
import NapAuth.CrossOrigin.Grants
import NapAuth.CrossOrigin.Wire

/-!
# The replies of a signer page

Everything that the signer page posts is well formed, so the relying page reads it as what it is
(`replies_read`). The ids of its replies are those of the requests that it has parsed, and so are their
kinds, audiences and templates. What the page adds of its own has to be of the right form
(`ProperSigner`): the ids of its grants, the keys that its signer names, and the readings of its clock.
-/

namespace NapAuth.CrossOrigin

open Interleaving

variable {W : WebPlatform} {O : CrossOriginSignerOptions}

/-! ## What becomes of a request -/

/-- A part of a text is not longer. -/
theorem length_le_of_sublist {s t : String} (h : s.toList.Sublist t.toList) :
    JsString.length s ≤ JsString.length t := by
  unfold JsString.length
  exact (h.map _).sum_le_sum fun _ _ => Nat.zero_le _

/-- An origin is not longer than the text that it was read from. -/
theorem normalizeOrigin_length {newURL : String → Option Url} {value origin : String}
    (h : normalizeOrigin newURL value = .ok origin) :
    JsString.length origin ≤ JsString.length value := by
  have htrim : (JsString.trim value).toList.Sublist value.toList := by
    rw [JsString.trim, JsString.trimList, String.toList_ofList]
    have hend := (List.dropWhile_sublist JsString.isSpace
      (l := (value.toList.dropWhile JsString.isSpace).reverse)).reverse
    rw [List.reverse_reverse] at hend
    exact hend.trans (List.dropWhile_sublist _)
  have hslash : (trimSlash value).toList.Sublist value.toList := by
    unfold trimSlash
    dsimp only
    split
    · rw [String.toList_ofList]
      exact (List.dropLast_sublist _).trans htrim
    · exact htrim
  unfold normalizeOrigin at h
  split at h
  · cases h
  · split_ifs at h with _ _ hcanonical
    obtain rfl := Except.ok.inj h
    rw [not_not] at hcanonical
    rw [← hcanonical]
    exact length_le_of_sublist hslash

/-- A list without what it has twice is not longer. -/
theorem length_eraseDups_le {α : Type} [DecidableEq α] (l : List α) :
    l.eraseDups.length ≤ l.length :=
  ((nodup_eraseDups l).subperm fun _ h => List.mem_eraseDups.mp h).length_le

theorem eraseDups_ne_nil {α : Type} [DecidableEq α] {l : List α} (h : l ≠ []) : l.eraseDups ≠ [] := by
  intro hnil
  obtain ⟨a, ha⟩ := List.exists_mem_of_ne_nil l h
  have hmem := List.mem_eraseDups.mpr ha
  rw [hnil] at hmem
  cases hmem

/-- A list of kinds without repetitions is one. -/
theorem IsKindList.eraseDups {kinds : List ℤ} (h : IsKindList kinds) : IsKindList kinds.eraseDups where
  nonempty := eraseDups_ne_nil h.nonempty
  length_le := (length_eraseDups_le kinds).trans h.length_le
  kind kind hkind := h.kind kind (List.mem_eraseDups.mp hkind)

/-- The origins of a list of audiences are one, without repetitions. -/
theorem IsStringList.normalized {newURL : String → Option Url} {audiences normalized : List String}
    (h : IsStringList audiences) (hok : audiences.mapM (normalizeOrigin newURL) = .ok normalized) :
    IsStringList normalized.eraseDups := by
  have hlength : audiences.length = normalized.length := by
    simpa using congrArg List.length (mapM_eq_ok_iff.mp hok)
  refine ⟨eraseDups_ne_nil fun hnil => h.nonempty ?_, ?_, fun s hs => ?_⟩
  · rw [hnil, List.length_nil] at hlength
    exact List.length_eq_zero_iff.mp hlength
  · exact (length_eraseDups_le normalized).trans (hlength ▸ h.length_le)
  · obtain ⟨value, hvalue, heq⟩ := exists_of_mapM_eq_ok hok (List.mem_eraseDups.mp hs)
    exact (normalizeOrigin_length heq).trans (h.text value hvalue)

/-! ## The logic of one program -/

/-- The user consents to a connection: now, or before and it was remembered. -/
def ConsentGiven (request : ConsentRequest) (xs : List (Event SignerRes)) : Prop :=
  ⟨.answer (.consentHas request.origin request.pubkey (scopeKey request.kinds request.audiences)),
    some true⟩ ∈ xs ∨
  ⟨.answer (.onConsent request), some true⟩ ∈ xs

/-- What stands behind the messages of a program, after its events. -/
def ReplyWarrant (W : WebPlatform) (xs : List (Event SignerRes)) : SignerOp → Prop
  | .post origin message =>
    message = .ready ∨ (∃ id code, IsId id ∧ message = .error (some id) code) ∨
    ∃ id grant approved expectedPubkey draft, IsId id ∧ message = .connected id grant.info ∧
      draft.origin = origin ∧ ⟨.finishConnect approved expectedPubkey draft, .opened grant⟩ ∈ xs
  | .finishConnect approved expectedPubkey draft =>
    IsKindList draft.kinds ∧ IsStringList draft.audiences ∧
    ∃ npub, pubkeyOfNpub W npub = some draft.pubkey ∧ (approved = true → ConsentGiven
      ⟨draft.origin, draft.pubkey, npub, draft.kinds, draft.audiences, expectedPubkey⟩ xs)
  | .finishSign _ id _ template _ => IsId id ∧ IsTemplate template
  | _ => True

section Logic

variable {xs : List (Event SignerRes)} {origin id : String} {source : Option ℕ}

theorem fail_replies {code : CrossOriginErrorCode} (hid : IsId id) :
    (fail origin id code).Sat (ReplyWarrant W) (fun _ _ => True) xs :=
  ⟨Or.inr (Or.inl ⟨id, code, hid, rfl⟩), fun _ => trivial⟩

theorem changedIf_replies (dropped : List GrantState) :
    (changedIf dropped).Sat (ReplyWarrant W) (fun _ _ => True) xs := by
  unfold changedIf
  split
  · trivial
  · exact ⟨trivial, fun _ => trivial⟩

theorem consent_replies {Ψ : List (Event SignerRes) → Bool → Prop} (request : ConsentRequest)
    (h : ∀ ys b, (b = true → ConsentGiven request ys) → Ψ ys b) :
    (consent request).Sat (ReplyWarrant W) Ψ xs := by
  refine ⟨trivial, fun _ => ⟨trivial, fun answer => ?_⟩⟩
  cases answer with
  | none => exact h _ _ fun hfalse => by cases hfalse
  | some known =>
    cases known with
    | true => exact h _ _ fun _ => Or.inl (by simp)
    | false =>
      refine ⟨trivial, fun _ => ⟨trivial, fun answer => ?_⟩⟩
      cases answer with
      | none => exact h _ _ fun hfalse => by cases hfalse
      | some approved =>
        cases approved with
        | false => exact h _ _ fun hfalse => by cases hfalse
        | true => exact ⟨trivial, fun _ => ⟨trivial, fun b => h _ _ fun _ => Or.inr (by simp)⟩⟩

/-- A connection that is asked for is answered with its id. -/
theorem handleConnect_replies {entry : CrossOriginPolicyEntry} {kinds : List ℤ}
    {audiences : List String} {expectedPubkey : Option String} (hid : IsId id)
    (hkinds : IsKindList kinds) (haudiences : IsStringList audiences) :
    (handleConnect W entry origin source id kinds audiences expectedPubkey).Sat (ReplyWarrant W)
      (fun _ _ => True) xs := by
  have hfail : ∀ code ys, (fail origin id code).Sat (ReplyWarrant W) (fun _ _ => True) ys :=
    fun code ys => fail_replies hid
  unfold handleConnect
  cases hnormalized : audiences.mapM (normalizeOrigin W.newURL) with
  | error _ => exact hfail _ _
  | ok normalized =>
    show (if _ then _ else _ : SignerProgram Unit).Sat _ _ _
    split
    · exact hfail _ _
    · refine ⟨trivial, fun _ => ⟨trivial, fun unlocked => ?_⟩⟩
      cases unlocked with
      | false => exact hfail _ _
      | true =>
        refine ⟨trivial, fun _ => ⟨trivial, fun npub => ?_⟩⟩
        cases npub with
        | none => exact hfail _ _
        | some npub =>
          dsimp only [Prog.bind]
          cases hpubkey : pubkeyOfNpub W npub with
          | none => exact hfail _ _
          | some pubkey =>
            apply Prog.Sat.bind
            refine consent_replies _ fun ys approved hgiven => ⟨⟨hkinds.eraseDups,
              haudiences.normalized hnormalized, npub, hpubkey, hgiven⟩, fun result => ?_⟩
            cases result with
            | closed => trivial
            | declined => exact hfail _ _
            | refused => exact hfail _ _
            | opened grant =>
              exact ⟨trivial, fun _ => ⟨Or.inr (Or.inr ⟨id, grant, approved, expectedPubkey,
                ⟨origin, source, pubkey, kinds.eraseDups, normalized.eraseDups, entry.maxTtlSeconds⟩,
                hid, rfl, rfl, by simp⟩), fun _ => trivial⟩⟩

/-- A signature that is asked for is answered with its id. -/
theorem handleSign_replies {grantId : String} {template : EventTemplate} (hid : IsId id)
    (htemplate : IsTemplate template) :
    (handleSign O origin source id grantId template).Sat (ReplyWarrant W) (fun _ _ => True) xs := by
  have hfail : ∀ code ys, (fail origin id code).Sat (ReplyWarrant W) (fun _ _ => True) ys :=
    fun code ys => fail_replies hid
  have hask : ∀ grant ys, (askSigner origin id grant template).Sat (ReplyWarrant W)
      (fun _ _ => True) ys := by
    intro grant ys
    refine ⟨trivial, fun _ => ⟨trivial, fun answer => ?_⟩⟩
    cases answer with
    | none => exact hfail _ _
    | some event =>
      refine ⟨⟨hid, htemplate⟩, fun result => ?_⟩
      cases result with
      | identityChanged dropped => exact changedIf_replies dropped
      | _ => trivial
  refine ⟨trivial, fun admission => ?_⟩
  cases admission with
  | revoked => exact hfail _ _
  | expired => exact ⟨trivial, fun _ => hfail _ _⟩
  | refused => exact hfail _ _
  | admitted grant needsPrompt =>
    show (if _ then _ else _ : SignerProgram Unit).Sat _ _ _
    split
    · show (if _ then _ else _ : SignerProgram Unit).Sat _ _ _
      split
      · exact hfail _ _
      · refine ⟨trivial, fun _ => ⟨trivial, fun answer => ?_⟩⟩
        cases answer with
        | none => exact hfail _ _
        | some approved =>
          cases approved with
          | false => exact hfail _ _
          | true =>
            refine ⟨trivial, fun live => ?_⟩
            cases live with
            | false => exact hfail _ _
            | true => exact hask _ _
    · exact hask _ _

variable (W O)

/-- The logic of the page's programs. -/
theorem signerBody_replies (call : SignerCall) :
    (signerBody W O call).Sat (ReplyWarrant W) (fun _ _ => True) [] := by
  have hrevoke : ∀ which, (revoke which).Sat (ReplyWarrant W) (fun _ _ => True) [] :=
    fun which => ⟨trivial, fun dropped => changedIf_replies dropped⟩
  unfold signerBody
  split
  · trivial
  · cases call with
    | announce =>
      have hall : ∀ (entries : Policy) ys, (entries.forM fun e => act (.post e.1 .ready)).Sat
          (ReplyWarrant W) (fun _ _ => True) ys := by
        intro entries
        induction entries with
        | nil => exact fun _ => trivial
        | cons e entries ih => exact fun ys => ⟨Or.inl rfl, fun _ => ih _⟩
      exact hall O.policy []
    | message event =>
      refine ⟨trivial, fun closed => ?_⟩
      show (if _ then _ else _ : SignerProgram Unit).Sat _ _ _
      split
      · trivial
      · cases O.policy.entry? event.origin with
        | none => trivial
        | some entry =>
          cases hmessage : parseMessage event.data with
          | none => trivial
          | some message =>
            -- What has been parsed is well formed, and so is what is answered to it.
            have hwell := (parseMessage_eq_some.mp hmessage).1
            cases message with
            | connect id kinds audiences expectedPubkey =>
              exact handleConnect_replies hwell.1 hwell.2.1 hwell.2.2.1
            | sign id grantId template => exact handleSign_replies hwell.1 hwell.2.2
            | disconnect grantId => exact ⟨trivial, fun dropped => changedIf_replies dropped⟩
            | _ => trivial
    | broadcast data =>
      show (if _ then _ else _ : SignerProgram Unit).Sat _ _ _
      split
      · exact hrevoke _
      · trivial
    | revoke key => exact hrevoke _
    | revokeAll => exact hrevoke _
    | close =>
      refine ⟨trivial, fun dropped => ?_⟩
      cases dropped with
      | none => trivial
      | some dropped => exact changedIf_replies dropped

end Logic

/-! ## The replies of a run -/

variable (W O)

/-- What the page adds to its replies is of the right form: its signer names keys in hex, and a
connection gets an id, and an end in whole seconds. -/
structure ProperSigner (h : List (Step (signerMachine W O))) : Prop where
  pubkey : ∀ npub pubkey, pubkeyOfNpub W npub = some pubkey → isHex64 pubkey = true
  randomId : ∀ e ∈ h, e.op.isFinishConnect = true → IsId e.env.randomId
  now : ∀ e ∈ h, e.op.isFinishConnect = true → ∃ seconds : ℤ, e.env.now = seconds

variable {W O}

section Runs

variable {h pre : List (Step (signerMachine W O))} {e : Step (signerMachine W O)}

/-- What stands behind a step of a run. -/
theorem replies_warranted (hv : (signerPage W O).Valid h) (ho : Occurs h pre e) :
    ReplyWarrant W ((signerMachine W O).own e.tid pre) e.op := by
  obtain ⟨c, hr, rfl⟩ := hv
  obtain ⟨-, th, -, -, k, hfol⟩ := hr.coherent.occurs pre e ho
  exact ((signerBody_replies W O th.call).follows hfol).1

/-- A grant that a connection opens is well formed. -/
theorem isGrant_of_opened (hv : (signerPage W O).Valid h) (hproper : ProperSigner W O h)
    (ho : Occurs h pre e) {approved : Bool} {expectedPubkey : Option String} {draft : GrantDraft}
    {grant : GrantState} (hev : (signerMachine W O).event pre e =
      ⟨.finishConnect approved expectedPubkey draft, .opened grant⟩) : IsGrant grant.info := by
  obtain ⟨hop, -, -, -, hgrant⟩ := event_opened hev
  have hwarrant := replies_warranted hv ho
  rw [hop] at hwarrant
  obtain ⟨hkinds, haudiences, npub, hpubkey, -⟩ := hwarrant
  have hmem : e ∈ h := ho.mem (by simp)
  have hconnect : e.op.isFinishConnect = true := by rw [hop]; rfl
  obtain ⟨seconds, hnow⟩ := hproper.now e hmem hconnect
  rw [hgrant]
  refine ⟨hproper.randomId e hmem hconnect, hproper.pubkey npub _ hpubkey, hkinds, haudiences,
    seconds + draft.maxTtlSeconds, ?_⟩
  show e.env.now + (draft.maxTtlSeconds : ℚ) = _
  rw [hnow]
  push_cast
  rfl

/-- A grant in the page's memory has an id. -/
theorem isId_of_mem (hv : (signerPage W O).Valid h) (hproper : ProperSigner W O h) {grant : GrantState}
    (hg : grant ∈ grantsAt W O h) : IsId grant.grantId := by
  obtain ⟨opened, ⟨pre, e, approved, expectedPubkey, draft, ho, hev⟩, hsame⟩ := opened_of_mem hg
  rw [(claimed_eq hsame).1]
  exact (isGrant_of_opened hv hproper ho hev).grantId

/-- Whatever the page posts, the relying page reads as what it is: no reply is lost on the way for its
form. -/
theorem replies_read {c : (signerPage W O).Config} (hr : (signerPage W O).Reachable c)
    (hproper : ProperSigner W O c.history) (ho : Occurs c.history pre e) {origin : String}
    {message : CrossOriginMessage}
    (hpost : (origin, message) ∈ postsOf ((signerMachine W O).event pre e)) :
    parseMessage message.data = some message := by
  have hv := System.Valid.of_reachable hr
  have hwarrant := replies_warranted hv ho
  have hbefore : ProperSigner W O pre :=
    ⟨hproper.pubkey, fun e he => hproper.randomId e (ho.before.mem he),
      fun e he => hproper.now e (ho.before.mem he)⟩
  refine parseMessage_eq_some.mpr ⟨?_, reads_data message⟩
  -- The end of a grant that the page had.
  have hrevoked : ∀ {grants : List GrantState}, grants ⊆ grantsAt W O pre →
      (origin, message) ∈ (grants.map fun g => (g.origin, CrossOriginMessage.revoked g.grantId)) →
      message.WellFormed := by
    intro grants hsub hmem
    obtain ⟨g, hg, heq⟩ := List.mem_map.mp hmem
    rw [← (Prod.mk.inj heq).2]
    exact isId_of_mem (hv.restrict ho.before) hbefore (hsub hg)
  have herror : ∀ {origin' id : String} {code : CrossOriginErrorCode}, IsId id →
      (origin, message) = (origin', CrossOriginMessage.error (some id) code) →
      message.WellFormed := by
    intro origin' id code hid heq
    rw [(Prod.mk.inj heq).2]
    rintro s ⟨⟩
    exact hid
  generalize hev : (signerMachine W O).event pre e = ev at hpost
  obtain ⟨op, res⟩ := ev
  obtain ⟨hop, hres⟩ := (signerMachine W O).event_eq_iff.mp hev
  rw [hop] at hwarrant
  cases op with
  | post origin' message' =>
    obtain ⟨rfl, rfl⟩ := Prod.mk.inj (List.mem_singleton.mp hpost)
    rcases hwarrant with rfl | ⟨id, code, hid, rfl⟩ |
      ⟨id, grant, approved, expectedPubkey, draft, hid, rfl, -, hopened⟩
    · trivial
    · exact herror hid rfl
    · obtain ⟨pre', e', ho', -, hev'⟩ := mem_own.mp hopened
      exact ⟨hid, isGrant_of_opened (hv.restrict ho.before) hbefore ho' hev'⟩
  | finishSign origin' id grant template event =>
    obtain ⟨hid, htemplate⟩ := hwarrant
    cases res with
    | revoked => exact herror hid (List.mem_singleton.mp hpost)
    | mismatched => exact herror hid (List.mem_singleton.mp hpost)
    | identityChanged dropped =>
      rcases List.mem_cons.mp hpost with heq | hmem
      · exact herror hid heq
      · refine hrevoked ?_ hmem
        change (SignerState.finishSign _ grant template event).1 = _ at hres
        unfold SignerState.finishSign at hres
        split_ifs at hres
        obtain rfl := SignResult.identityChanged.inj hres
        exact List.Subset.refl _
    | signed =>
      rw [(Prod.mk.inj (List.mem_singleton.mp hpost)).2]
      obtain ⟨-, -, -, hsame⟩ := event_signed.mp hev
      obtain ⟨hkind, hcreatedAt, hcontent, htags⟩ := sameEvent_iff.mp hsame
      have heq : templateOf event = template := by
        rw [templateOf, hkind, hcreatedAt, hcontent, htags]
      exact ⟨hid, heq ▸ htemplate⟩
  | dropGrants which =>
    have hsub := dropped_subset hev
    cases which with
    | disconnect origin' grantId => cases hpost
    | all => exact hrevoked hsub hpost
    | matching key => exact hrevoked hsub hpost
  | close =>
    refine hrevoked ?_ hpost
    change (SignerState.close _).1 = _ at hres
    unfold SignerState.close at hres
    split_ifs at hres
    · rw [← hres]
      exact List.nil_subset _
    · rw [← hres]
      exact List.Subset.refl _
  | closed => cases hpost
  | ask query => cases hpost
  | answer query => cases hpost
  | finishConnect approved expectedPubkey draft => cases hpost
  | admitSign origin' source grantId template => cases hpost
  | hasGrant grantId => cases hpost
  | grantsChanged => cases hpost

end Runs

/-! ## A page with one relying origin -/

namespace RepliesSample

open SignerSample

/-- The id and the time of the connection are of the right form, and the last step has posted a signed
reply. -/
def repliesProperly (c : (signerPage platform options).Config) : Bool :=
  (c.history.all fun e => !SignerOp.isFinishConnect e.op ||
    (SignerEnv.randomId e.env == "g1" && decide (SignerEnv.now e.env = 900))) &&
  repliedAt (fun _ => true) c

/-- The page names its keys in hex. -/
theorem isHex64_of_npub {npub pubkey : String} (h : pubkeyOfNpub platform npub = some pubkey) :
    isHex64 pubkey = true := by
  have hdecode : platform.nip19Decode npub =
      if npub = Sample.npub then some ("npub", some Sample.pubkey) else none := rfl
  unfold pubkeyOfNpub at h
  rw [hdecode] at h
  split_ifs at h with hnpub
  · obtain rfl : Sample.pubkey = pubkey := Option.some.inj h
    decide +kernel
  · cases h

end RepliesSample

open SignerSample RepliesSample in
/-- A signed reply is read by the relying page. -/
theorem replies_read_here : ∃ c pre e, (signerPage platform options).Reachable c ∧
    Occurs c.history pre e ∧ (relying, .signed "s1" (Sample.event false)) ∈
      postsOf ((signerMachine platform options).event pre e) ∧
    parseMessage (CrossOriginMessage.signed "s1" (Sample.event false)).data =
      some (.signed "s1" (Sample.event false)) := by
  have hrun : (System.replay (signerBody platform options) (signerPage platform options).initial
      (moves 1000)).any repliesProperly = true := by decide +kernel
  obtain ⟨c, hr, -, hp⟩ := System.exists_replay (fun _ _ => rfl) hrun
  rw [repliesProperly, Bool.and_eq_true, List.all_eq_true] at hp
  obtain ⟨e, he, hreplied⟩ := (Option.any_eq_true _ _).mp hp.2
  rw [Bool.true_and, decide_eq_true_eq] at hreplied
  have hconnect : ∀ e ∈ c.history, e.op.isFinishConnect = true →
      e.env.randomId = "g1" ∧ e.env.now = 900 := by
    intro e he hop
    have h := hp.1 e he
    rw [hop, Bool.not_true, Bool.false_or, Bool.and_eq_true, beq_iff_eq, decide_eq_true_eq] at h
    exact h
  have hproper : ProperSigner platform options c.history := by
    refine ⟨fun npub pubkey => isHex64_of_npub, fun e he hop => ?_, fun e he hop => ⟨900, ?_⟩⟩
    · rw [(hconnect e he hop).1]
      exact ⟨by decide, by decide⟩
    · rw [(hconnect e he hop).2]
      rfl
  exact ⟨c, _, e, hr, occurs_take he, hreplied, replies_read hr hproper (occurs_take he) hreplied⟩

end NapAuth.CrossOrigin

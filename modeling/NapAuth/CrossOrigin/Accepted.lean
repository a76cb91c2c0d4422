import NapAuth.CrossOrigin.Settles

/-!
# What a relying page accepts

A request of a connection is resolved by a message of the popup, while it shows the key origin, that
names the request's id (`resolved_heard`). So a grant that is there was granted by such a message
(`grant_heard`), and an event that `signEvent` returns came in one, as the reply to the request that
the call has posted (`event_heard`).
-/

namespace NapAuth.CrossOrigin

open Interleaving RelyingState

variable {K : RelyingOptions} {P : Platform}

/-- The id of the request that a message may resolve. -/
def CrossOriginMessage.resolves : CrossOriginMessage → Option String
  | .connected id _ => some id
  | .signed id _ => some id
  | _ => none

/-! ## One operation -/

/-- An operation leaves the popup and resolves nothing. -/
structure Keeps (s s' : RelyingState) : Prop where
  popup : s'.popup = s.popup
  resolved : ∀ id message, (id, .resolved message) ∈ s'.settled → (id, .resolved message) ∈ s.settled

/-- It resolves one request, and leaves the popup. -/
structure Resolves (s s' : RelyingState) (message : CrossOriginMessage) : Prop where
  popup : s'.popup = s.popup
  resolved : ∃ id, message.resolves = some id ∧ s'.settled = s.settled ++ [(id, .resolved message)]

/-- The listener hears a message of the popup. -/
structure Hears (K : RelyingOptions) (s : RelyingState) (op : RelyingOp)
    (message : CrossOriginMessage) : Prop where
  event : ∃ event, op = .listener event ∧ event.origin = K.keyOrigin ∧ event.source = s.popup ∧
    parseMessage event.data = some message
  popup : s.popup.isSome = true

section Step

variable {s s' s'' : RelyingState} {id : String} {message : CrossOriginMessage}

theorem Keeps.refl : Keeps s s := ⟨rfl, fun _ _ h => h⟩

theorem Keeps.trans (h : Keeps s s') (h' : Keeps s' s'') : Keeps s s'' :=
  ⟨h'.popup.trans h.popup, fun id message hmem => h.resolved id message (h'.resolved id message hmem)⟩

theorem settleReady_keeps (rejected : Option CrossOriginErrorCode) :
    Keeps s (s.settleReady rejected) := by
  unfold settleReady
  split <;> exact ⟨rfl, fun _ _ h => h⟩

/-- The end rejects what is pending. -/
theorem endWith_keeps (code : CrossOriginErrorCode) : Keeps s (s.endWith code) := by
  unfold endWith
  split
  · exact Keeps.refl
  · refine ⟨(settleReady_keeps _).popup, fun id message h => ?_⟩
    rcases List.mem_append.mp h with h | h
    · exact h
    · obtain ⟨id', -, heq⟩ := List.mem_map.mp h
      cases heq

theorem settle_keeps (code : CrossOriginErrorCode) : Keeps s (s.settle id (.rejected code)) := by
  refine ⟨rfl, fun id' message h => ?_⟩
  rcases List.mem_append.mp h with h | h
  · exact h
  · cases List.mem_singleton.mp h

/-- A message resolves the request that it names, or nothing. -/
theorem handle_resolves (m : CrossOriginMessage) :
    Keeps s (s.handle m) ∨ Resolves s (s.handle m) m := by
  have hreply : ∀ id, m.resolves = some id →
      Keeps s (if s.pending.contains id then s.settle id (.resolved m) else s) ∨
      Resolves s (if s.pending.contains id then s.settle id (.resolved m) else s) m := by
    intro id hid
    split
    · exact Or.inr ⟨rfl, id, hid, rfl⟩
    · exact Or.inl Keeps.refl
  cases m with
  | ready =>
    refine Or.inl (show Keeps s (if _ then _ else if _ then _ else _) from ?_)
    split_ifs
    · have hsame : Keeps s { s with ready := true } := ⟨rfl, fun _ _ h => h⟩
      exact hsame.trans (settleReady_keeps _)
    · exact endWith_keeps _
    · exact Keeps.refl
  | revoked grantId =>
    refine Or.inl (show Keeps s (if _ then _ else _) from ?_)
    split_ifs
    · exact endWith_keeps _
    · exact Keeps.refl
  | connected id grant => exact hreply id rfl
  | signed id event => exact hreply id rfl
  | error id code =>
    cases id with
    | none => exact Or.inl Keeps.refl
    | some id =>
      refine Or.inl (show Keeps s (if _ then (if _ then _ else _) else _) from ?_)
      split_ifs
      · exact (settle_keeps code).trans (endWith_keeps code)
      · exact settle_keeps code
      · exact Keeps.refl
  | _ => exact Or.inl Keeps.refl

/-- What an operation does to the popup and to what is resolved: a connection that begins sets the
popup to the window that it has opened, and a request is resolved by hearing a message of the popup. -/
theorem exec_resolves (op : RelyingOp) (env : RelyingEnv) :
    Keeps s (relyingExec K op env s).2 ∨
    (op = .open ∧ (relyingExec K op env s).2.popup = env.popup ∧
      (relyingExec K op env s).2.settled = s.settled) ∨
    ∃ message, Hears K s op message ∧ Resolves s (relyingExec K op env s).2 message := by
  cases op with
  | «open» =>
    unfold relyingExec RelyingState.open
    dsimp only
    split
    · exact Or.inl Keeps.refl
    · split
      · exact Or.inl ⟨rfl, fun _ _ h => h⟩
      · rename_i window hwindow
        exact Or.inr (Or.inl ⟨rfl, hwindow.symm, rfl⟩)
  | awaitReady =>
    unfold relyingExec
    dsimp only
    split <;> exact Or.inl Keeps.refl
  | requestConnect =>
    unfold relyingExec request
    dsimp only
    split <;> exact Or.inl ⟨rfl, fun _ _ h => h⟩
  | awaitReply id =>
    unfold relyingExec
    dsimp only
    split <;> exact Or.inl Keeps.refl
  | accept grant => exact Or.inl ⟨rfl, fun _ _ h => h⟩
  | fail code => exact Or.inl (endWith_keeps _)
  | startSign template =>
    unfold relyingExec startSign
    dsimp only
    split
    · exact Or.inl Keeps.refl
    · exact Or.inl Keeps.refl
    · rename_i grant hgrant hended
      split
      · exact Or.inl (endWith_keeps _)
      · unfold request
        rw [hended]
        exact Or.inl ⟨rfl, fun _ _ h => h⟩
  | grant => exact Or.inl Keeps.refl
  | listener event =>
    unfold relyingExec RelyingState.listener
    dsimp only
    split
    · exact Or.inl Keeps.refl
    · rename_i hopen
      simp only [Bool.or_eq_true, not_or, bne_iff_ne, ne_eq, not_not, Bool.not_eq_true,
        Option.isNone_eq_false_iff] at hopen
      cases hmessage : parseMessage event.data with
      | none => exact Or.inl Keeps.refl
      | some message =>
        refine (handle_resolves message).imp_right fun hresolves => Or.inr ⟨message, ?_, hresolves⟩
        exact ⟨⟨event, rfl, hopen.2, hopen.1.2, hmessage⟩, hopen.1.1.2⟩
  | fireTimer id =>
    unfold relyingExec fireTimer
    dsimp only
    split
    · exact Or.inl (settle_keeps _)
    · exact Or.inl Keeps.refl
  | fireReadyTimer => exact Or.inl (settleReady_keeps _)
  | poll =>
    unfold relyingExec
    dsimp only
    split
    · exact Or.inl (endWith_keeps _)
    · exact Or.inl Keeps.refl
  | onEnd listener =>
    unfold relyingExec onEnd
    dsimp only
    split
    · exact Or.inl ⟨rfl, fun _ _ h => h⟩
    · split <;> exact Or.inl ⟨rfl, fun _ _ h => h⟩
  | offEnd listener => exact Or.inl ⟨rfl, fun _ _ h => h⟩
  | disconnect => exact Or.inl (endWith_keeps _)

end Step

/-! ## The logic of one program -/

/-- A grant is stored if it is within what was asked for, and the reply has brought it. -/
def AcceptWarrant (K : RelyingOptions) (xs : List (Event RelyingRes)) : RelyingOp → Prop
  | .accept grant => granted K grant = true ∧
    ∃ id id', ⟨.awaitReply id, .resolved (.connected id' grant)⟩ ∈ xs
  | _ => True

/-- An event is returned if the reply to the call's request has brought it. -/
def Replied (call : RelyingCall) (xs : List (Event RelyingRes)) : RelyingOutcome → Prop
  | .event event => ∃ template id grantId id', call = .signEvent template ∧
    ⟨.startSign template, .pending id grantId⟩ ∈ xs ∧
    ⟨.awaitReply id, .resolved (.signed id' event)⟩ ∈ xs
  | _ => True

variable (K P) in
/-- The logic of the programs. -/
theorem relyingBody_replied (call : RelyingCall) :
    (relyingBody K P call).Sat (AcceptWarrant K) (Replied call) [] := by
  have hfail : ∀ code ys, (giveUp code).Sat (AcceptWarrant K) (Replied call) ys :=
    fun code ys => ⟨trivial, fun _ => trivial⟩
  cases call with
  | connectCrossOrigin =>
    refine ⟨trivial, fun opening => ?_⟩
    cases opening with
    | again => trivial
    | blocked => trivial
    | opened =>
      refine ⟨trivial, fun rejected => ?_⟩
      cases rejected with
      | some code => exact hfail _ _
      | none =>
        refine ⟨trivial, fun requested => ?_⟩
        cases requested with
        | rejected code => exact hfail _ _
        | pending id =>
          refine ⟨trivial, fun settlement => ?_⟩
          cases settlement with
          | rejected code => exact hfail _ _
          | resolved message =>
            cases message with
            | connected id' grant =>
              show (if _ then _ else _ : RelyingProgram RelyingOutcome).Sat _ _ _
              split
              · rename_i hgranted
                exact ⟨⟨hgranted, id, id', by simp⟩, fun _ => trivial⟩
              · exact hfail _ _
            | _ => exact hfail _ _
  | signEvent template =>
    refine ⟨trivial, fun start => ?_⟩
    cases start with
    | failed code => trivial
    | pending id grantId =>
      refine ⟨trivial, fun settlement => ?_⟩
      cases settlement with
      | rejected code => trivial
      | resolved message =>
        cases message with
        | signed id' event =>
          refine ⟨trivial, fun grant => ?_⟩
          cases grant with
          | none => trivial
          | some grant =>
            show (if _ then _ else _ : RelyingProgram RelyingOutcome).Sat _ _ _
            split
            · trivial
            · exact ⟨template, id, grantId, id', rfl, by simp, by simp⟩
        | _ => trivial
  | _ => exact ⟨trivial, fun _ => trivial⟩

/-! ## What a connection has heard -/

section Runs

variable {h pre : List (Step (relyingMachine K))} {e : Step (relyingMachine K)}

/-- A request that is resolved was resolved by a message that was heard, and that names it. -/
theorem resolved_heard {id : String} {message : CrossOriginMessage}
    (hmem : (id, .resolved message) ∈ ((relyingMachine K).after h).settled) :
    message.resolves = some id ∧
      ∃ pre e, Occurs h pre e ∧ Hears K ((relyingMachine K).after pre) e.op message := by
  induction h using List.reverseRecOn with
  | nil => cases hmem
  | append_singleton h e ih =>
    rw [Machine.after_concat] at hmem
    have hold : (id, .resolved message) ∈ ((relyingMachine K).after h).settled →
        message.resolves = some id ∧ ∃ pre e', Occurs (h ++ [e]) pre e' ∧
          Hears K ((relyingMachine K).after pre) e'.op message := fun hmem => by
      obtain ⟨hid, pre, e', ho, hheard⟩ := ih hmem
      exact ⟨hid, pre, e', ho.mono (List.prefix_append _ _), hheard⟩
    rcases exec_resolves (K := K) e.op e.env with hkeeps | ⟨-, -, hsame⟩ | ⟨m, hheard, hresolves⟩
    · exact hold (hkeeps.resolved id message hmem)
    · exact hold (hsame ▸ hmem)
    · obtain ⟨id', hid, hsettled⟩ := hresolves.resolved
      rcases List.mem_append.mp (hsettled ▸ hmem) with hmem | hmem
      · exact hold hmem
      · obtain ⟨rfl, heq⟩ := Prod.mk.inj (List.mem_singleton.mp hmem)
        obtain rfl := Settlement.resolved.inj heq
        exact ⟨hid, h, e, Occurs.last, hheard⟩

/-- So was one whose reply has been awaited. -/
theorem reply_heard {id : String} {message : CrossOriginMessage} (ho : Occurs h pre e)
    (hev : (relyingMachine K).event pre e = ⟨.awaitReply id, .resolved message⟩) :
    message.resolves = some id ∧
      ∃ pre' e', Occurs h pre' e' ∧ Hears K ((relyingMachine K).after pre') e'.op message := by
  obtain ⟨hop, hres⟩ := (relyingMachine K).event_eq_iff.mp hev
  change (relyingExec K (.awaitReply id) e.env ((relyingMachine K).after pre)).1 = _ at hres
  unfold relyingExec at hres
  dsimp only at hres
  split at hres
  · rename_i p hfound
    obtain ⟨id', settlement⟩ := p
    obtain rfl : settlement = .resolved message := hres
    obtain rfl : id' = id := by simpa using List.find?_some hfound
    obtain ⟨hid, pre', e', ho', hheard⟩ := resolved_heard (List.mem_of_find?_eq_some hfound)
    exact ⟨hid, pre', e', ho'.mono ho.before, hheard⟩
  · cases hres

/-- The popup is a window that was opened. -/
theorem popup_opened {window : ℕ} (hpopup : ((relyingMachine K).after h).popup = some window) :
    ∃ e ∈ h, e.op = .open ∧ e.env.popup = some window := by
  induction h using List.reverseRecOn with
  | nil => cases hpopup
  | append_singleton h e ih =>
    rw [Machine.after_concat] at hpopup
    have hold : ((relyingMachine K).after h).popup = some window →
        ∃ e' ∈ h ++ [e], e'.op = .open ∧ e'.env.popup = some window := fun hpopup => by
      obtain ⟨e', hmem, hrest⟩ := ih hpopup
      exact ⟨e', List.mem_append_left _ hmem, hrest⟩
    rcases exec_resolves (K := K) e.op e.env with hkeeps | ⟨hop, hnew, -⟩ | ⟨m, -, hresolves⟩
    · exact hold (hkeeps.popup.symm.trans hpopup)
    · exact ⟨e, by simp, hop, hnew.symm.trans hpopup⟩
    · exact hold (hresolves.popup.symm.trans hpopup)

/-- A grant that is there is the one that was stored. -/
theorem accept_of_grant {grant : GrantInfo}
    (hg : ((relyingMachine K).after h).grant = some grant) :
    ∃ pre e, Occurs h pre e ∧ e.op = .accept grant := by
  induction h using List.reverseRecOn with
  | nil => cases hg
  | append_singleton h e ih =>
    by_cases hop : ∃ grant', e.op = .accept grant'
    · obtain ⟨grant', hop⟩ := hop
      obtain ⟨tid, op, env⟩ := e
      obtain rfl : op = .accept grant' := hop
      rw [Machine.after_concat] at hg
      obtain rfl : grant' = grant := Option.some.inj hg
      exact ⟨h, _, Occurs.last, rfl⟩
    · have hsame := step_grant (h := h) fun grant' heq => hop ⟨grant', heq⟩
      obtain ⟨pre, e', ho, hop'⟩ := ih (hsame.symm.trans hg)
      exact ⟨pre, e', ho.mono (List.prefix_append _ _), hop'⟩

/-- The grant of a connection is within what was asked for, and was granted by a message of the
popup. -/
theorem grant_heard (hv : (relyingPage K P).Valid h) {grant : GrantInfo}
    (hg : ((relyingMachine K).after h).grant = some grant) :
    granted K grant = true ∧ ∃ id pre e, Occurs h pre e ∧
      Hears K ((relyingMachine K).after pre) e.op (.connected id grant) := by
  obtain ⟨pre, e, ho, hop⟩ := accept_of_grant hg
  have hsat : ∀ call, (relyingBody K P call).Sat (AcceptWarrant K) (fun _ _ => True) [] := fun call =>
    (relyingBody_replied K P call).mono (fun _ _ h => h) fun _ _ _ => trivial
  have hwarrant := hv.of_occurs hsat ho
  rw [hop] at hwarrant
  obtain ⟨hgranted, id, id', hmem⟩ := hwarrant
  obtain ⟨pre', e', ho', -, hev⟩ := mem_own.mp hmem
  obtain ⟨-, pre0, e0, ho0, hheard⟩ := reply_heard ho' hev
  exact ⟨hgranted, id', pre0, e0, ho0.mono ho.before, hheard⟩

/-- One id is requested by one step. -/
theorem requested_unique (hv : (relyingPage K P).Valid h) {pre' : List (Step (relyingMachine K))}
    {e' : Step (relyingMachine K)} {id : String} (ho : Occurs h pre e) (ho' : Occurs h pre' e')
    (hid : requestedId ((relyingMachine K).event pre e) = some id)
    (hid' : requestedId ((relyingMachine K).event pre' e') = some id) : pre = pre' ∧ e = e' := by
  have hlater : ∀ {pre pre' : List (Step (relyingMachine K))} {e e' : Step (relyingMachine K)},
      Occurs h pre e → Occurs pre pre' e' →
      requestedId ((relyingMachine K).event pre e) = some id →
      requestedId ((relyingMachine K).event pre' e') = some id → False := by
    intro pre pre' e e' ho hbefore hid hid'
    have hnodup := requestedIds_nodup (hv.restrict ho)
    rw [requestedIds_concat, hid] at hnodup
    refine (List.nodup_append.mp hnodup).2.2 id ?_ id (by simp) rfl
    have hearly : id ∈ requestedIds K (pre' ++ [e']) := by
      rw [requestedIds_concat, hid']
      simp
    exact (((relyingMachine K).events_mono hbefore).filterMap requestedId).subset hearly
  rcases ho.trichotomy ho' with heq | hbefore | hbefore
  · exact heq
  · exact (hlater ho hbefore hid hid').elim
  · exact (hlater ho' hbefore hid' hid).elim

/-- A signature is asked for under the grant that is there. -/
theorem startSign_pending {template : EventTemplate} {id grantId : String}
    (hev : (relyingMachine K).event pre e = ⟨.startSign template, .pending id grantId⟩) :
    ∃ grant, ((relyingMachine K).after pre).grant = some grant ∧ grant.grantId = grantId := by
  obtain ⟨-, hres⟩ := (relyingMachine K).event_eq_iff.mp hev
  change (((relyingMachine K).after pre).startSign e.env.randomId e.env.now).1 = _ at hres
  unfold RelyingState.startSign request at hres
  split at hres
  · cases hres
  · cases hres
  · rename_i grant hgrant hended
    rw [hended] at hres
    split at hres
    · cases hres
    · exact ⟨grant, hgrant, (SignStart.pending.inj hres).2⟩

/-- What stands behind an event that `signEvent` returns: the call has asked for it under the grant that
is there, and a message of the popup that names this request has brought it. -/
theorem event_heard {c : (relyingPage K P).Config} (hr : (relyingPage K P).Reachable c) {tid : ℕ}
    {th : Thread RelyingRes RelyingCall RelyingOutcome} {template : EventTemplate} {event : Nip98Event}
    (hth : c.threads[tid]? = some th) (hcall : th.call = .signEvent template)
    (hprog : th.prog = .pure (.event event)) :
    sameEvent template event = true ∧ P.verifyEvent event = true ∧
    ∃ grant id, ((relyingMachine K).after c.history).grant = some grant ∧
      event.pubkey = grant.pubkey ∧
      ⟨.startSign template, .pending id grant.grantId⟩ ∈ (relyingMachine K).own tid c.history ∧
      ∃ pre e, Occurs c.history pre e ∧
        Hears K ((relyingMachine K).after pre) e.op (.signed id event) := by
  have hv := System.Valid.of_reachable hr
  have hsat := (relyingBody_sat K P th.call).and (relyingBody_replied K P th.call)
  obtain ⟨hjust, hreplied⟩ := (hr.sat hth hsat hprog).resolve_left fun hgone => by cases hgone
  obtain ⟨template', grant, hcall', hmem, hpubkey, hsame, hverified⟩ := hjust
  obtain rfl : template = template' := RelyingCall.signEvent.inj (hcall.symm.trans hcall')
  obtain ⟨template', id, grantId, id', hcall', hstarted, hawaited⟩ := hreplied
  obtain rfl : template = template' := RelyingCall.signEvent.inj (hcall.symm.trans hcall')
  obtain ⟨pre, e, ho, -, hev⟩ := mem_own.mp hmem
  have hgrant := grant_persists hv ho.before ((relyingMachine K).event_eq_iff.mp hev).2
  -- The grant that it was asked for under is the same one.
  obtain ⟨pre1, e1, ho1, -, hev1⟩ := mem_own.mp hstarted
  obtain ⟨grant1, hgrant1, rfl⟩ := startSign_pending hev1
  obtain rfl : grant1 = grant :=
    Option.some.inj ((grant_persists hv ho1.before hgrant1).symm.trans hgrant)
  obtain ⟨pre2, e2, ho2, -, hev2⟩ := mem_own.mp hawaited
  obtain ⟨hid, hheard⟩ := reply_heard ho2 hev2
  obtain rfl : id' = id := Option.some.inj hid
  exact ⟨hsame, hverified, grant1, id', hgrant, hpubkey, hstarted, hheard⟩

end Runs

end NapAuth.CrossOrigin

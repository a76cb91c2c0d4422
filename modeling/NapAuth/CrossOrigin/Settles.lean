import NapAuth.CrossOrigin.Relying

/-!
# Every request is settled once

What one operation of a connection does to its promises (`exec_effect`): a request that is made is
pending, with its timer running, and a pending one is settled by its reply, its timer or the end.
`Settles` is the invariant that comes of it. The ids that were requested are those that were settled
and those that are pending, each of them once, and nothing is pending after the end.

`connection_settles` is the whole of it for a run, with what `signEvent` adds: it posts nothing once
the connection has ended, and it returns what it was asked for, signed by the grant's key.
-/

namespace NapAuth.CrossOrigin

open Interleaving

namespace RelyingState

variable {s s' : RelyingState} {id : String} {code : CrossOriginErrorCode}

/-! ## What an operation does -/

/-- What the promises of the requests depend on. -/
def core (s : RelyingState) :
    Option CrossOriginErrorCode × List String × List String × List (String × Settlement) :=
  (s.ended, s.pending, s.timers, s.settled)

/-- What an operation does to the promises, and the ids that it requests. -/
inductive Effect (s s' : RelyingState) : List String → Prop
  /-- Nothing. -/
  | quiet (h : s'.core = s.core) : Effect s s' []
  /-- The connection ends, and every pending request is settled. -/
  | ended (code : CrossOriginErrorCode) (h : s'.core = (s.endWith code).core) : Effect s s' []
  /-- A request is settled. -/
  | settled (id : String) (settlement : Settlement) (hid : id ∈ s.pending ∨ id ∈ s.timers)
      (h : s'.core = (s.settle id settlement).core) : Effect s s' []
  /-- A request is settled, and the connection ends. -/
  | settledEnded (id : String) (settlement : Settlement) (code : CrossOriginErrorCode) (hid : id ∈ s.pending)
      (h : s'.core = ((s.settle id settlement).endWith code).core) : Effect s s' []
  /-- A request is made. -/
  | requested (id : String) (hended : s.ended = none)
      (h : s'.core = (none, s.pending ++ [id], s.timers ++ [id], s.settled)) : Effect s s' [id]

@[simp] theorem settleReady_core (rejected : Option CrossOriginErrorCode) :
    (s.settleReady rejected).core = s.core := by
  unfold settleReady
  split <;> rfl

/-- The grant, and that the connection has been begun, are not changed by what settles promises. -/
@[simp] theorem settleReady_grant (rejected : Option CrossOriginErrorCode) :
    (s.settleReady rejected).grant = s.grant ∧ (s.settleReady rejected).begun = s.begun := by
  unfold settleReady
  split <;> exact ⟨rfl, rfl⟩

@[simp] theorem endWith_grant : (s.endWith code).grant = s.grant ∧ (s.endWith code).begun = s.begun := by
  unfold endWith
  split
  · exact ⟨rfl, rfl⟩
  · exact settleReady_grant _

/-- What a message of the signer page does. -/
theorem handle_effect (message : CrossOriginMessage) :
    Effect s (s.handle message) [] ∧ (s.handle message).grant = s.grant ∧
      (s.handle message).begun = s.begun := by
  have hreply : ∀ id settlement,
      Effect s (if s.pending.contains id then s.settle id settlement else s) [] ∧
      (if s.pending.contains id then s.settle id settlement else s).grant = s.grant ∧
      (if s.pending.contains id then s.settle id settlement else s).begun = s.begun := by
    intro id settlement
    split
    · rename_i hid
      exact ⟨.settled id settlement (Or.inl (List.contains_iff_mem.mp hid)) rfl, rfl, rfl⟩
    · exact ⟨.quiet rfl, rfl, rfl⟩
  cases message with
  | ready =>
    show Effect s (if _ then _ else if _ then _ else _) [] ∧ (if _ then _ else if _ then _ else _ :
      RelyingState).grant = _ ∧ (if _ then _ else if _ then _ else _ : RelyingState).begun = _
    split_ifs
    · exact ⟨.quiet (settleReady_core _), settleReady_grant _⟩
    · exact ⟨.ended .revoked rfl, endWith_grant⟩
    · exact ⟨.quiet rfl, rfl, rfl⟩
  | revoked grantId =>
    show Effect s (if _ then _ else _) [] ∧ (if _ then _ else _ : RelyingState).grant = _ ∧
      (if _ then _ else _ : RelyingState).begun = _
    split_ifs
    · exact ⟨.ended .revoked rfl, endWith_grant⟩
    · exact ⟨.quiet rfl, rfl, rfl⟩
  | connected id grant => exact hreply id _
  | signed id event => exact hreply id _
  | error id code =>
    cases id with
    | none => exact ⟨.quiet rfl, rfl, rfl⟩
    | some id =>
      show Effect s (if _ then (if _ then _ else _) else _) [] ∧
        (if _ then (if _ then _ else _) else _ : RelyingState).grant = _ ∧
        (if _ then (if _ then _ else _) else _ : RelyingState).begun = _
      split_ifs with hid hover
      · exact ⟨.settledEnded id _ code (List.contains_iff_mem.mp hid) rfl, endWith_grant⟩
      · exact ⟨.settled id _ (Or.inl (List.contains_iff_mem.mp hid)) rfl, rfl, rfl⟩
      · exact ⟨.quiet rfl, rfl, rfl⟩
  | connect _ _ _ _ => exact ⟨.quiet rfl, rfl, rfl⟩
  | sign _ _ _ => exact ⟨.quiet rfl, rfl, rfl⟩
  | disconnect _ => exact ⟨.quiet rfl, rfl, rfl⟩

end RelyingState

open RelyingState

/-- The id that an operation requests. -/
def requestedId : Event RelyingRes → Option String
  | ⟨.requestConnect, .pending id⟩ => some id
  | ⟨.startSign _, .pending id _⟩ => some id
  | _ => none

variable {K : RelyingOptions} {P : Platform}

section Effects

variable {env : RelyingEnv} {s : RelyingState}

/-- What an operation does to the promises of the requests. -/
theorem exec_effect (op : RelyingOp) :
    Effect s (relyingExec K op env s).2
      (requestedId ⟨op, (relyingExec K op env s).1⟩).toList := by
  cases op with
  | «open» =>
    unfold relyingExec RelyingState.open
    split
    · exact .quiet rfl
    · split <;> exact .quiet rfl
  | awaitReady =>
    unfold relyingExec
    dsimp only
    split <;> exact .quiet rfl
  | requestConnect =>
    unfold relyingExec request
    dsimp only
    split
    · exact .quiet rfl
    · rename_i hended
      refine .requested env.randomId hended ?_
      unfold core
      rw [hended]
  | awaitReply id =>
    unfold relyingExec
    dsimp only
    split <;> exact .quiet rfl
  | accept grant => exact .quiet rfl
  | fail code => exact .ended code rfl
  | startSign template =>
    unfold relyingExec startSign
    dsimp only
    split
    · exact .quiet rfl
    · exact .quiet rfl
    · rename_i grant hgrant hended
      split
      · exact .ended .grantExpired rfl
      · unfold request
        rw [hended]
        refine .requested env.randomId hended ?_
        rfl
  | grant => exact .quiet rfl
  | listener event =>
    unfold relyingExec RelyingState.listener
    dsimp only
    split
    · exact .quiet rfl
    · split
      · exact .quiet rfl
      · exact (handle_effect _).1
  | fireTimer id =>
    unfold relyingExec fireTimer
    dsimp only
    split
    · rename_i hid
      exact .settled id _ (Or.inr (List.contains_iff_mem.mp hid)) rfl
    · exact .quiet rfl
  | fireReadyTimer => exact .quiet (settleReady_core _)
  | poll =>
    unfold relyingExec
    dsimp only
    split
    · exact .ended .channelClosed rfl
    · exact .quiet rfl
  | onEnd listener =>
    unfold relyingExec onEnd
    dsimp only
    split
    · exact .quiet rfl
    · split <;> exact .quiet rfl
  | offEnd listener => exact .quiet rfl
  | disconnect => exact .ended .revoked rfl

/-- An operation changes the grant only by storing one, and a connection stays begun. -/
theorem exec_grant (op : RelyingOp) :
    ((∀ grant, op ≠ .accept grant) → (relyingExec K op env s).2.grant = s.grant) ∧
      (s.begun = true → (relyingExec K op env s).2.begun = true) := by
  have hsame : ∀ {s' : RelyingState}, s'.grant = s.grant ∧ s'.begun = s.begun →
      ((∀ grant, op ≠ .accept grant) → s'.grant = s.grant) ∧ (s.begun = true → s'.begun = true) :=
    fun h => ⟨fun _ => h.1, fun hbegun => h.2.trans hbegun⟩
  cases op with
  | «open» =>
    unfold relyingExec RelyingState.open
    split
    · exact hsame ⟨rfl, rfl⟩
    · rename_i hbegun
      split <;> exact ⟨fun _ => rfl, fun _ => rfl⟩
  | awaitReady =>
    unfold relyingExec
    dsimp only
    split <;> exact hsame ⟨rfl, rfl⟩
  | requestConnect =>
    unfold relyingExec request
    dsimp only
    split <;> exact hsame ⟨rfl, rfl⟩
  | awaitReply id =>
    unfold relyingExec
    dsimp only
    split <;> exact hsame ⟨rfl, rfl⟩
  | accept grant => exact ⟨fun h => absurd rfl (h grant), id⟩
  | fail code => exact hsame endWith_grant
  | startSign template =>
    unfold relyingExec startSign
    dsimp only
    split
    · exact hsame ⟨rfl, rfl⟩
    · exact hsame ⟨rfl, rfl⟩
    · rename_i grant hgrant hended
      split
      · exact hsame endWith_grant
      · unfold request
        rw [hended]
        exact hsame ⟨rfl, rfl⟩
  | grant => exact hsame ⟨rfl, rfl⟩
  | listener event =>
    unfold relyingExec RelyingState.listener
    dsimp only
    split
    · exact hsame ⟨rfl, rfl⟩
    · split
      · exact hsame ⟨rfl, rfl⟩
      · exact hsame (handle_effect _).2
  | fireTimer id =>
    unfold relyingExec fireTimer
    dsimp only
    split <;> exact hsame ⟨rfl, rfl⟩
  | fireReadyTimer => exact hsame (settleReady_grant _)
  | poll =>
    unfold relyingExec
    dsimp only
    split
    · exact hsame endWith_grant
    · exact hsame ⟨rfl, rfl⟩
  | onEnd listener =>
    unfold relyingExec onEnd
    dsimp only
    split
    · exact hsame ⟨rfl, rfl⟩
    · split <;> exact hsame ⟨rfl, rfl⟩
  | offEnd listener => exact hsame ⟨rfl, rfl⟩
  | disconnect => exact hsame endWith_grant

end Effects

/-! ## The promises of a run -/

/-- The promises of the requests, of which these ids were requested. -/
structure Settles (requested : List String) (s : RelyingState) : Prop where
  /-- Each of them has been settled or is pending, and only once. -/
  once : (s.settled.map Prod.fst ++ s.pending).Perm requested
  /-- The timers of the pending ones are running. -/
  timers : s.timers = s.pending
  /-- After the end none is pending. -/
  ended : s.ended.isSome = true → s.pending = []

/-- The invariant is about the promises only. -/
theorem Settles.of_core {requested : List String} {s s' : RelyingState} (h : Settles requested s)
    (hcore : s'.core = s.core) : Settles requested s' := by
  obtain ⟨hended, hrest⟩ := Prod.mk.inj hcore
  obtain ⟨hpending, hrest⟩ := Prod.mk.inj hrest
  obtain ⟨htimers, hsettled⟩ := Prod.mk.inj hrest
  exact ⟨by rw [hsettled, hpending]; exact h.once, by rw [htimers, hpending]; exact h.timers,
    by rw [hended, hpending]; exact h.ended⟩

/-- The end settles what is pending. -/
theorem Settles.endWith {requested : List String} {s : RelyingState} (h : Settles requested s)
    (code : CrossOriginErrorCode) : Settles requested (s.endWith code) := by
  unfold RelyingState.endWith
  split
  · exact h
  · refine ⟨?_, ?_, fun _ => rfl⟩
    · have hids : (s.pending.map fun id => (id, Settlement.rejected code)).map Prod.fst = s.pending := by
        rw [List.map_map]
        exact List.map_id _
      dsimp only
      rw [List.map_append, hids, List.append_nil]
      exact h.once
    · dsimp only
      rw [h.timers, List.filter_eq_nil_iff]
      intro id hid
      simp [hid]

/-- Settling a pending request moves its id from one list to the other. -/
theorem Settles.settle {requested : List String} {s : RelyingState} (h : Settles requested s)
    {id : String} (hid : id ∈ s.pending) (settlement : Settlement) :
    Settles requested (s.settle id settlement) := by
  refine ⟨?_, ?_, fun hended => ?_⟩
  · have hperm : (s.settled.map Prod.fst ++ s.pending).Perm
        (s.settled.map Prod.fst ++ (id :: s.pending.erase id)) :=
      (List.perm_cons_erase hid).append_left _
    unfold RelyingState.settle
    dsimp only
    rw [List.map_append, List.append_assoc]
    exact hperm.symm.trans h.once
  · show s.timers.erase id = s.pending.erase id
    rw [h.timers]
  · -- Nothing was pending after the end.
    rw [h.ended hended] at hid
    cases hid

/-- A timer that runs settles its request. -/
theorem fireTimer_settles {s : RelyingState} {id : String} (hid : id ∈ s.timers) :
    id ∈ (s.fireTimer id).settled.map Prod.fst := by
  unfold RelyingState.fireTimer
  rw [if_pos (List.contains_iff_mem.mpr hid)]
  simp [RelyingState.settle]

/-- One operation keeps the invariant, and adds the id that it requests. -/
theorem Settles.effect {requested ids : List String} {s s' : RelyingState} (h : Settles requested s)
    (he : Effect s s' ids) : Settles (requested ++ ids) s' := by
  cases he with
  | quiet hcore =>
    rw [List.append_nil]
    exact h.of_core hcore
  | ended code hcore =>
    rw [List.append_nil]
    exact (h.endWith code).of_core hcore
  | settled id settlement hid hcore =>
    have hpending : id ∈ s.pending := hid.elim (fun h => h) fun htimer => h.timers ▸ htimer
    rw [List.append_nil]
    exact (h.settle hpending settlement).of_core hcore
  | settledEnded id settlement code hid hcore =>
    rw [List.append_nil]
    exact ((h.settle hid settlement).endWith code).of_core hcore
  | requested id hended hcore =>
    obtain ⟨hended', hrest⟩ := Prod.mk.inj hcore
    obtain ⟨hpending, hrest⟩ := Prod.mk.inj hrest
    obtain ⟨htimers, hsettled⟩ := Prod.mk.inj hrest
    refine ⟨?_, ?_, ?_⟩
    · rw [hsettled, hpending, ← List.append_assoc]
      exact h.once.append_right _
    · rw [htimers, hpending, h.timers]
    · rw [hended']
      intro hnone
      cases hnone

/-- The code of the end does not change. -/
theorem ended_of_effect {ids : List String} {s s' : RelyingState} (he : Effect s s' ids)
    {code : CrossOriginErrorCode} (hended : s.ended = some code) : s'.ended = some code := by
  have hsome : s.ended.isSome = true := by rw [hended]; rfl
  cases he with
  | quiet hcore => rw [(Prod.mk.inj hcore).1, hended]
  | ended code' hcore => rw [(Prod.mk.inj hcore).1, RelyingState.endWith, if_pos hsome, hended]
  | settled id settlement hid hcore =>
    rw [(Prod.mk.inj hcore).1]
    exact hended
  | settledEnded id settlement code' hid hcore =>
    rw [(Prod.mk.inj hcore).1, RelyingState.endWith, if_pos (show (s.settle id settlement).ended.isSome
      = true from hsome)]
    exact hended
  | requested id hnone hcore =>
    rw [hnone] at hended
    cases hended

variable (K)

/-- The ids that were requested in a history, in their order. -/
def requestedIds (h : List (Step (relyingMachine K))) : List String :=
  ((relyingMachine K).events h).filterMap requestedId

variable {K}

section Runs

variable {h pre : List (Step (relyingMachine K))} {e : Step (relyingMachine K)}

/-- What one step does to the promises. -/
theorem step_effect : Effect ((relyingMachine K).after h) ((relyingMachine K).after (h ++ [e]))
    (requestedId ((relyingMachine K).event h e)).toList := by
  rw [Machine.after_concat]
  exact exec_effect e.op

/-- One step requests the id of its event, if it has one. -/
theorem requestedIds_concat : requestedIds K (h ++ [e]) =
    requestedIds K h ++ (requestedId ((relyingMachine K).event h e)).toList := by
  unfold requestedIds
  rw [Machine.events_concat, List.filterMap_append]
  cases hid : requestedId ((relyingMachine K).event h e) with
  | none => simp [hid]
  | some id => simp [hid]

/-- The promises of every history. -/
theorem settles (h : List (Step (relyingMachine K))) :
    Settles (requestedIds K h) ((relyingMachine K).after h) := by
  induction h using List.reverseRecOn with
  | nil => exact ⟨List.Perm.refl _, rfl, fun _ => rfl⟩
  | append_singleton h e ih =>
    rw [requestedIds_concat]
    exact ih.effect step_effect

/-- The code of the end does not change. -/
theorem ended_persists (hp : pre <+: h) {code : CrossOriginErrorCode}
    (hended : ((relyingMachine K).after pre).ended = some code) :
    ((relyingMachine K).after h).ended = some code := by
  obtain ⟨t, rfl⟩ := hp
  induction t using List.reverseRecOn with
  | nil => rwa [List.append_nil]
  | append_singleton t e ih =>
    rw [← List.append_assoc]
    exact ended_of_effect step_effect ih

/-- A request gets the random id of its step. -/
theorem randomId_of_requested {id : String}
    (hid : requestedId ((relyingMachine K).event pre e) = some id) :
    e.op.isRequest = true ∧ e.env.randomId = id := by
  obtain ⟨tid, op, env⟩ := e
  generalize hs : (relyingMachine K).after pre = s at hid
  have hev : (relyingMachine K).event pre ⟨tid, op, env⟩ = ⟨op, (relyingExec K op env s).1⟩ := by
    rw [← hs]
    rfl
  rw [hev] at hid
  cases op with
  | requestConnect =>
    refine ⟨rfl, ?_⟩
    unfold relyingExec request at hid
    dsimp only at hid
    split at hid
    · cases hid
    · exact Option.some.inj hid
  | startSign template =>
    refine ⟨rfl, ?_⟩
    unfold relyingExec startSign request at hid
    dsimp only at hid
    split at hid
    · cases hid
    · cases hid
    · rename_i grant hgrant hended
      rw [hended] at hid
      split at hid
      · cases hid
      · exact Option.some.inj hid
  | _ => cases hid

/-- An id that was requested was drawn by the step that requested it. -/
theorem exists_drawn {id : String} (hid : id ∈ requestedIds K h) :
    ∃ e ∈ h, e.op.isRequest = true ∧ e.env.randomId = id := by
  induction h using List.reverseRecOn with
  | nil => cases hid
  | append_singleton h e ih =>
    rw [requestedIds_concat] at hid
    rcases List.mem_append.mp hid with hid | hid
    · obtain ⟨e', hin, hrest⟩ := ih hid
      exact ⟨e', List.mem_append_left _ hin, hrest⟩
    · obtain ⟨hrequest, hrandom⟩ := randomId_of_requested (Option.mem_toList.mp hid)
      exact ⟨e, by simp, hrequest, hrandom⟩

/-- No id is requested twice. -/
theorem requestedIds_nodup (hv : (relyingPage K P).Valid h) : (requestedIds K h).Nodup := by
  induction h using List.reverseRecOn with
  | nil => exact List.nodup_nil
  | append_singleton h e ih =>
    have hold : (requestedIds K h).Nodup := ih (hv.restrict (List.prefix_append _ _))
    rw [requestedIds_concat]
    cases hid : requestedId ((relyingMachine K).event h e) with
    | none => simpa using hold
    | some id =>
      obtain ⟨hrequest, hrandom⟩ := randomId_of_requested hid
      refine List.nodup_append.mpr ⟨hold, List.nodup_singleton _, ?_⟩
      rintro id' hmem _ hid' rfl
      obtain rfl := List.mem_singleton.mp hid'
      -- It would have been drawn before, and a new random id has not been.
      obtain ⟨e', hin, hrequest', hrandom'⟩ := exists_drawn hmem
      have hadm : (_ && (!e.op.isRequest || h.all fun e' =>
          !e'.op.isRequest || e'.env.randomId != e.env.randomId)) = true :=
        hv.admissible Occurs.last
      rw [Bool.and_eq_true, hrequest] at hadm
      have hne := List.all_eq_true.mp hadm.2 e' hin
      rw [hrequest', hrandom', hrandom] at hne
      simp at hne

/-! ## The grant of a run -/

/-- A step changes the grant only by storing one. -/
theorem step_grant (hop : ∀ grant, e.op ≠ .accept grant) :
    ((relyingMachine K).after (h ++ [e])).grant = ((relyingMachine K).after h).grant := by
  rw [Machine.after_concat]
  exact (exec_grant e.op).1 hop

/-- A connection that has been begun stays so. -/
theorem begun_persists (hp : pre <+: h) (hbegun : ((relyingMachine K).after pre).begun = true) :
    ((relyingMachine K).after h).begun = true := by
  obtain ⟨t, rfl⟩ := hp
  induction t using List.reverseRecOn with
  | nil => rwa [List.append_nil]
  | append_singleton t e ih =>
    rw [← List.append_assoc, Machine.after_concat]
    exact (exec_grant e.op).2 ih

/-- A connection is begun once. -/
theorem opened_unique {pre' : List (Step (relyingMachine K))} {e' : Step (relyingMachine K)}
    (ho : Occurs h pre e) (ho' : Occurs h pre' e')
    (hev : (relyingMachine K).event pre e = ⟨.open, .opened⟩)
    (hev' : (relyingMachine K).event pre' e' = ⟨.open, .opened⟩) : e = e' := by
  -- It is not begun before, and it is after.
  have hopens : ∀ {pre : List (Step (relyingMachine K))} {e : Step (relyingMachine K)},
      (relyingMachine K).event pre e = ⟨.open, .opened⟩ →
      ((relyingMachine K).after pre).begun = false ∧
        ((relyingMachine K).after (pre ++ [e])).begun = true := by
    intro pre e hev
    obtain ⟨hop, hres⟩ := (relyingMachine K).event_eq_iff.mp hev
    obtain ⟨tid, op, env⟩ := e
    obtain rfl : op = .open := hop
    rw [Machine.after_concat]
    change (((relyingMachine K).after pre).open env.popup).1 = _ at hres
    show _ ∧ (((relyingMachine K).after pre).open env.popup).2.begun = true
    unfold RelyingState.open at hres ⊢
    split at hres
    · cases hres
    · rename_i hbegun
      refine ⟨by simpa using hbegun, ?_⟩
      rw [if_neg hbegun]
      split <;> rfl
  have hlater : ∀ {pre pre' : List (Step (relyingMachine K))} {e e' : Step (relyingMachine K)},
      Occurs pre pre' e' → (relyingMachine K).event pre e = ⟨.open, .opened⟩ →
      (relyingMachine K).event pre' e' = ⟨.open, .opened⟩ → False := by
    intro pre pre' e e' hbefore hev hev'
    have hbegun := begun_persists hbefore (hopens hev').2
    rw [(hopens hev).1] at hbegun
    cases hbegun
  rcases ho.trichotomy ho' with ⟨-, heq⟩ | hbefore | hbefore
  · exact heq
  · exact (hlater hbefore hev hev').elim
  · exact (hlater hbefore hev' hev).elim

end Runs

/-! ## The logic of one program -/

/-- What stands behind an operation of a program, after its events. -/
def RelyingWarrant (call : RelyingCall) (xs : List (Event RelyingRes)) : RelyingOp → Prop
  | .accept _ => ⟨.open, .opened⟩ ∈ xs ∧ ∀ grant, ⟨.accept grant, ()⟩ ∉ xs
  | .requestConnect => call = .connectCrossOrigin
  | .disconnect => call = .disconnect
  | .startSign template => call = .signEvent template
  | _ => True

/-- What stands behind the outcome of a program: an event that it returns is what it was asked for,
signed by the grant's key. -/
def Justified (P : Platform) (call : RelyingCall) (xs : List (Event RelyingRes)) :
    RelyingOutcome → Prop
  | .event event => ∃ template grant, call = .signEvent template ∧ ⟨.grant, some grant⟩ ∈ xs ∧
    event.pubkey = grant.pubkey ∧ sameEvent template event = true ∧ P.verifyEvent event = true
  | _ => True

variable (K P) in
/-- The logic of the programs. -/
theorem relyingBody_sat (call : RelyingCall) :
    (relyingBody K P call).Sat (RelyingWarrant call) (Justified P call) [] := by
  have hfail : ∀ code ys, (giveUp code).Sat (RelyingWarrant call) (Justified P call) ys :=
    fun code ys => ⟨trivial, fun _ => trivial⟩
  cases call with
  | connectCrossOrigin =>
    refine ⟨trivial, fun opening => ?_⟩
    cases opening with
    | again => trivial
    | blocked => trivial
    | opened =>
      refine ⟨trivial, fun rejected => ?_⟩
      cases rejected with
      | some code => exact hfail _ _
      | none =>
        refine ⟨rfl, fun requested => ?_⟩
        cases requested with
        | rejected code => exact hfail _ _
        | pending id =>
          refine ⟨trivial, fun settlement => ?_⟩
          cases settlement with
          | rejected code => exact hfail _ _
          | resolved message =>
            cases message with
            | connected id' grant =>
              show (if _ then _ else _ : RelyingProgram RelyingOutcome).Sat _ _ _
              split
              · exact ⟨⟨by simp, by simp⟩, fun _ => trivial⟩
              · exact hfail _ _
            | _ => exact hfail _ _
  | signEvent template =>
    refine ⟨rfl, fun start => ?_⟩
    cases start with
    | failed code => trivial
    | pending id grantId =>
      refine ⟨trivial, fun settlement => ?_⟩
      cases settlement with
      | rejected code => trivial
      | resolved message =>
        cases message with
        | signed id' event =>
          refine ⟨trivial, fun grant => ?_⟩
          cases grant with
          | none => trivial
          | some grant =>
            show (if _ then _ else _ : RelyingProgram RelyingOutcome).Sat _ _ _
            split
            · trivial
            · rename_i hchecked
              simp only [Bool.or_eq_true, decide_eq_true_eq, Bool.not_eq_true', not_or, not_not,
                Bool.not_eq_false] at hchecked
              exact ⟨template, grant, rfl, by simp, hchecked.1.1, hchecked.1.2, hchecked.2⟩
        | _ => trivial
  | disconnect => exact ⟨rfl, fun _ => trivial⟩
  | _ => exact ⟨trivial, fun _ => trivial⟩

/-! ## What a connection keeps to -/

section Connection

variable {h pre : List (Step (relyingMachine K))} {e : Step (relyingMachine K)}

/-- What stands behind a step of a run. -/
theorem relying_warranted (hv : (relyingPage K P).Valid h) (ho : Occurs h pre e) :
    ∃ call, RelyingWarrant call ((relyingMachine K).own e.tid pre) e.op := by
  obtain ⟨c, hr, rfl⟩ := hv
  obtain ⟨-, th, -, -, k, hfol⟩ := hr.coherent.occurs pre e ho
  exact ⟨th.call, ((relyingBody_sat K P th.call).follows hfol).1⟩

/-- A grant that is there was stored. -/
theorem exists_accept {grant : GrantInfo} (hg : ((relyingMachine K).after h).grant = some grant) :
    ∃ pre e grant', Occurs h pre e ∧ e.op = .accept grant' := by
  induction h using List.reverseRecOn with
  | nil => cases hg
  | append_singleton h e ih =>
    by_cases hop : ∃ grant', e.op = .accept grant'
    · obtain ⟨grant', hop⟩ := hop
      exact ⟨h, e, grant', Occurs.last, hop⟩
    · have hsame := step_grant (h := h) fun grant' heq => hop ⟨grant', heq⟩
      obtain ⟨pre, e', grant', ho, hop'⟩ := ih (hsame.symm.trans hg)
      exact ⟨pre, e', grant', ho.mono (List.prefix_append _ _), hop'⟩

/-- A grant is stored once. -/
theorem accept_unique (hv : (relyingPage K P).Valid h) {pre' : List (Step (relyingMachine K))}
    {e' : Step (relyingMachine K)} (ho : Occurs h pre e) (hbefore : Occurs pre pre' e')
    {grant grant' : GrantInfo} (hop : e.op = .accept grant) (hop' : e'.op = .accept grant') : False := by
  obtain ⟨call, hwarrant⟩ := relying_warranted hv ho
  obtain ⟨call', hwarrant'⟩ := relying_warranted (hv.restrict ho.before) hbefore
  rw [hop] at hwarrant
  rw [hop'] at hwarrant'
  obtain ⟨pre0, e0, hocc0, htid0, hev0⟩ := mem_own.mp hwarrant.1
  obtain ⟨pre1, e1, hocc1, htid1, hev1⟩ := mem_own.mp hwarrant'.1
  -- Both belong to the one program that has begun the connection.
  obtain rfl := opened_unique hocc0 (hocc1.mono hbefore.before) hev0 hev1
  obtain ⟨tid, op, env⟩ := e'
  obtain rfl : op = .accept grant' := hop'
  exact hwarrant.2 grant' (mem_own.mpr ⟨pre', _, hbefore, htid1.symm.trans htid0, rfl⟩)

/-- A grant that is there stays. -/
theorem grant_persists (hv : (relyingPage K P).Valid h) (hp : pre <+: h) {grant : GrantInfo}
    (hg : ((relyingMachine K).after pre).grant = some grant) :
    ((relyingMachine K).after h).grant = some grant := by
  obtain ⟨t, rfl⟩ := hp
  induction t using List.reverseRecOn with
  | nil => rwa [List.append_nil]
  | append_singleton t e ih =>
    rw [← List.append_assoc] at hv ⊢
    have hlast := ih (hv.restrict (List.prefix_append _ _))
    refine (step_grant fun grant' hop => ?_).trans hlast
    obtain ⟨pre', e', grant'', ho', hop'⟩ := exists_accept hlast
    exact accept_unique hv Occurs.last ho' hop hop'

/-- After the end a program that signs posts nothing. -/
theorem posts_eq_nil {template : EventTemplate} {xs : List (Event RelyingRes)}
    (hwarrant : RelyingWarrant (.signEvent template) xs e.op)
    (hended : ((relyingMachine K).after pre).ended.isSome = true) :
    relyingPostsOf K ((relyingMachine K).event pre e) = [] := by
  obtain ⟨code, hcode⟩ := Option.isSome_iff_exists.mp hended
  obtain ⟨tid, op, env⟩ := e
  cases op with
  | requestConnect => cases hwarrant
  | disconnect => cases hwarrant
  | startSign template' =>
    have hev : (relyingMachine K).event pre ⟨tid, .startSign template', env⟩ =
        ⟨.startSign template', (((relyingMachine K).after pre).startSign env.randomId env.now).1⟩ := rfl
    rw [hev]
    unfold RelyingState.startSign
    rw [hcode]
    cases ((relyingMachine K).after pre).grant <;> rfl
  | _ => rfl

/-- A connection ends once, and with one code. Each of its requests is settled once: by then its timer
runs, which would settle it, and after the end none is left. A signature that is asked for after the
end posts nothing, and what one returns is what was asked for, with a valid signature of the
connection's grant. -/
theorem connection_settles {c : (relyingPage K P).Config} (hr : (relyingPage K P).Reachable c) :
    (∀ pre code, pre <+: c.history → ((relyingMachine K).after pre).ended = some code →
      ((relyingMachine K).after c.history).ended = some code) ∧
    (∀ id ∈ requestedIds K c.history,
      (((relyingMachine K).after c.history).settled.map Prod.fst).count id +
        ((relyingMachine K).after c.history).pending.count id = 1) ∧
    (∀ id ∈ ((relyingMachine K).after c.history).pending,
      id ∈ ((relyingMachine K).after c.history).timers ∧
      id ∈ (((relyingMachine K).after c.history).fireTimer id).settled.map Prod.fst) ∧
    (((relyingMachine K).after c.history).ended.isSome = true →
      ((relyingMachine K).after c.history).pending = []) ∧
    (∀ (tid : ℕ) (th : Thread RelyingRes RelyingCall RelyingOutcome) (template : EventTemplate),
      c.threads[tid]? = some th → th.call = .signEvent template →
      ((relyingMachine K).after (c.history.take th.started)).ended.isSome = true →
      ∀ pre e, Occurs c.history pre e → e.tid = tid →
        relyingPostsOf K ((relyingMachine K).event pre e) = []) ∧
    (∀ (tid : ℕ) (th : Thread RelyingRes RelyingCall RelyingOutcome) (template : EventTemplate)
      (event : Nip98Event), c.threads[tid]? = some th → th.call = .signEvent template →
      th.prog = .pure (.event event) → P.verifyEvent event = true ∧
      sameEvent template event = true ∧
      ∃ grant, ((relyingMachine K).after c.history).grant = some grant ∧
        event.pubkey = grant.pubkey) := by
  have hv := System.Valid.of_reachable hr
  have hsettles := settles (K := K) c.history
  refine ⟨fun pre code hp hended => ended_persists hp hended, fun id hid => ?_, fun id hid => ?_,
    hsettles.ended, ?_, ?_⟩
  · rw [← List.count_append, hsettles.once.count_eq]
    exact List.count_eq_one_of_mem (requestedIds_nodup hv) hid
  · have htimer : id ∈ ((relyingMachine K).after c.history).timers := hsettles.timers ▸ hid
    exact ⟨htimer, fireTimer_settles htimer⟩
  · intro tid th template hth hcall hended pre e ho htid
    subst htid
    have hwarrant := hr.sat_of_occurs ho hth (relyingBody_sat K P th.call)
    rw [hcall] at hwarrant
    have hlate : c.history.take th.started <+: pre := by
      refine List.prefix_of_prefix_length_le (List.take_prefix _ _) ho.before ?_
      rw [List.length_take]
      exact (Nat.min_le_left _ _).trans (hr.started_le ho hth)
    obtain ⟨code, hcode⟩ := Option.isSome_iff_exists.mp hended
    have hnow : ((relyingMachine K).after pre).ended.isSome = true := by
      rw [ended_persists hlate hcode]
      rfl
    exact posts_eq_nil hwarrant hnow
  · intro tid th template event hth hcall hprog
    rcases hr.sat hth (relyingBody_sat K P th.call) hprog with hgone | hjust
    · cases hgone
    · obtain ⟨template', grant, hcall', hmem, hpubkey, hsame, hverified⟩ := hjust
      obtain rfl : template = template' := RelyingCall.signEvent.inj (hcall.symm.trans hcall')
      obtain ⟨pre, e, ho, -, hev⟩ := mem_own.mp hmem
      have hgrant : ((relyingMachine K).after pre).grant = some grant := by
        obtain ⟨hop, hres⟩ := (relyingMachine K).event_eq_iff.mp hev
        exact hres
      exact ⟨hverified, hsame, grant, grant_persists hv ho.before hgrant, hpubkey⟩

end Connection

/-! ## A connection with one signature -/

namespace RelyingSample

/-- The page asks for completions of one server. -/
def options : RelyingOptions := ⟨"https://wallet.example", [27235], ["https://api.example.com"], none⟩

/-- A message of the signer page. -/
def message (type : String) (fields : List (String × Json)) : RelyingCall :=
  .message ⟨.obj (("nap", .str crossOriginProtocol) :: ("type", .str type) :: fields),
    "https://wallet.example", some 2⟩

/-- The signer page grants what was asked for. -/
def connected : RelyingCall :=
  message "connected" [("id", .str "r1"), ("grant", .obj [("grantId", .str "g1"),
    ("pubkey", .str Sample.pubkey), ("kinds", .arr [.num (JsonNumber.ofInt 27235)]),
    ("audiences", .arr [.str "https://api.example.com"]), ("expiresAt", .num (JsonNumber.ofInt 1800))])]

/-- It signs what it was sent. -/
def signed : RelyingCall := message "signed" [("id", .str "r2"), ("event", Sample.eventJson false)]

/-- The template. -/
def template : EventTemplate :=
  { createdAt := JsonNumber.ofInt 1000, kind := JsonNumber.ofInt 27235, tags := Sample.tags false,
    content := "" }

/-- The environment, with a random id. -/
def env (randomId : String) : RelyingEnv := ⟨1000, randomId, some 2, false⟩

/-- The page connects, asks for a signature and disconnects. -/
def moves : List (relyingPage options Sample.platform).Label :=
  [.start .connectCrossOrigin, .run 0 (env ""), .start (message "ready" []), .run 1 (env ""),
    .run 0 (env ""), .run 0 (env "r1"), .start connected, .run 2 (env ""), .run 0 (env ""),
    .run 0 (env ""), .start (.signEvent template), .run 3 (env "r2"), .start signed, .run 4 (env ""),
    .run 3 (env ""), .run 3 (env ""), .start .disconnect, .run 5 (env "")]

/-- The event that a program has returned. -/
def returned : RelyingOutcome → Option Nip98Event
  | .event event => some event
  | _ => none

/-- Whether the connection has ended, and the signature was returned. -/
def isDone (c : (relyingPage options Sample.platform).Config) : Bool :=
  ((relyingMachine options).after c.history).ended.isSome &&
    decide (requestedIds options c.history = ["r1", "r2"]) &&
    (c.returned? 3).any fun outcome => (returned outcome).isSome

/-- That run. -/
theorem exists_run : ∃ c th event, (relyingPage options Sample.platform).Reachable c ∧
    ((relyingMachine options).after c.history).ended.isSome = true ∧
    requestedIds options c.history = ["r1", "r2"] ∧ c.threads[3]? = some th ∧
    th.call = .signEvent template ∧ th.prog = .pure (.event event) := by
  have hrun : (System.replay (relyingBody options Sample.platform)
      (relyingPage options Sample.platform).initial moves).any isDone = true := by decide +kernel
  obtain ⟨c, hr, hcalls, hp⟩ := System.exists_replay (fun _ _ => rfl) hrun
  unfold isDone at hp
  simp only [Bool.and_eq_true, decide_eq_true_eq] at hp
  obtain ⟨outcome, houtcome, hsome⟩ := (Option.any_eq_true _ _).mp hp.2
  have hcall : c.calls[3]? = some (.signEvent template) := by rw [hcalls]; rfl
  obtain ⟨th, hth, hcalled, hprog⟩ := System.thread_of_returned hcall houtcome
  obtain ⟨event, hevent⟩ := Option.isSome_iff_exists.mp hsome
  unfold returned at hevent
  split at hevent
  · exact ⟨c, th, _, hr, hp.1.1, hp.1.2, hth, hcalled, hprog⟩
  · cases hevent

end RelyingSample

/-- A connection that has signed one template and ended: both requests were settled once, and the
event is what was asked for. -/
theorem connection_settles_here : ∃ c event,
    (relyingPage RelyingSample.options Sample.platform).Reachable c ∧
    ((relyingMachine RelyingSample.options).after c.history).pending = [] ∧
    (∀ id ∈ ["r1", "r2"], (((relyingMachine RelyingSample.options).after c.history).settled.map
      Prod.fst).count id = 1) ∧
    Sample.platform.verifyEvent event = true ∧ sameEvent RelyingSample.template event = true := by
  obtain ⟨c, th, event, hr, hended, hids, hth, hcall, hprog⟩ := RelyingSample.exists_run
  obtain ⟨-, honce, -, hover, -, hreturned⟩ := connection_settles hr
  obtain ⟨hverified, hsame, -⟩ := hreturned 3 th _ event hth hcall hprog
  refine ⟨c, event, hr, hover hended, fun id hid => ?_, hverified, hsame⟩
  have hcount := honce id (hids ▸ hid)
  rwa [hover hended, List.count_nil, Nat.add_zero] at hcount

end NapAuth.CrossOrigin

import NapAuth.Acl.System

/-!
# Records in a run

What an ACL store holds after a history (`recordAt`), as both kinds of stores do. A record is there
from the first `upsert` of its row on, and it is what the last write to the row has left
(`exists_write`). A resolver decides by a record that the store held at the time of a step, which is
its last step that reads (`exists_lastRead`).
-/

namespace NapAuth

open Interleaving

variable {P : Platform} {O : NapServerOptions} {R : RegistryAclResolver} {cb sb ab : Backend}
  {h h' pre pre' : AclHistory cb sb ab} {e e' : Step (aclMachine cb sb ab)}
  {pubkey appId : String} {r : AclRecord} {tid : ℕ}

/-- The record of a principal after a history. -/
def recordAt (h : AclHistory cb sb ab) (pubkey appId : String) : Option AclRecord :=
  ab.aclStore.get pubkey appId ((aclMachine cb sb ab).after h).acl

/-- The write to the ACL store that an operation is. -/
def AclOp.write? : AclOp → Option AclWrite
  | .write w => some w
  | .provision record => some (.upsert record)
  | _ => none

/-- An operation writes to the row of a principal. -/
def WritesTo (ab : Backend) (op : AclOp) (pubkey appId : String) : Prop :=
  ∃ w, op.write? = some w ∧ w.Concerns ab.aclStore pubkey appId

@[simp] theorem recordAt_nil : recordAt ([] : AclHistory cb sb ab) pubkey appId = none :=
  ab.aclStore_lawful.get_init pubkey appId

/-- A step that writes changes the record in its row. -/
theorem recordAt_write {w : AclWrite} (hw : e.op.write? = some w) :
    recordAt (h ++ [e]) pubkey appId = if w.Concerns ab.aclStore pubkey appId then
      w.apply (recordAt h pubkey appId) else recordAt h pubkey appId := by
  obtain ⟨tid, op, env⟩ := e
  unfold recordAt
  rw [Machine.after_concat]
  cases op with
  | write w' =>
    obtain rfl := Option.some.inj hw
    exact ab.aclStore_lawful.get_write _ _ _ _
  | provision record =>
    obtain rfl := Option.some.inj hw
    exact ab.aclStore_lawful.get_write _ _ _ _
  | _ => cases hw

/-- A step that does not write to a row leaves its record. -/
theorem recordAt_same (hw : ¬ WritesTo ab e.op pubkey appId) :
    recordAt (h ++ [e]) pubkey appId = recordAt h pubkey appId := by
  cases hop : e.op.write? with
  | some w => rw [recordAt_write hop, if_neg fun hc => hw ⟨w, hop, hc⟩]
  | none =>
    obtain ⟨tid, op, env⟩ := e
    unfold recordAt
    rw [Machine.after_concat]
    cases op with
    | write w => cases hop
    | provision record => cases hop
    | _ => rfl

/-- Records are not removed. -/
theorem recordAt_persists (hp : pre <+: h) (hr : recordAt pre pubkey appId = some r) :
    ∃ r', recordAt h pubkey appId = some r' := by
  obtain ⟨t, rfl⟩ := hp
  induction t using List.reverseRecOn with
  | nil => exact ⟨r, by simpa using hr⟩
  | append_singleton t e ih =>
    obtain ⟨r', hr'⟩ := ih
    rw [← List.append_assoc]
    by_cases hw : WritesTo ab e.op pubkey appId
    · obtain ⟨w, hop, hc⟩ := hw
      rw [recordAt_write hop, if_pos hc, hr']
      exact w.apply_some r'
    · exact ⟨r', (recordAt_same hw).trans hr'⟩

/-- A record stays as it is while nothing writes to its row. -/
theorem recordAt_unwritten (hp : pre <+: h)
    (hw : ∀ pre' e', Occurs h pre' e' → pre <+: pre' → ¬ WritesTo ab e'.op pubkey appId) :
    recordAt h pubkey appId = recordAt pre pubkey appId := by
  obtain ⟨t, rfl⟩ := hp
  induction t using List.reverseRecOn with
  | nil => rw [List.append_nil]
  | append_singleton t e ih =>
    rw [← List.append_assoc] at hw ⊢
    rw [recordAt_same (hw _ e Occurs.last (List.prefix_append _ _))]
    exact ih fun pre' e' ho => hw pre' e' (ho.mono (List.prefix_append _ _))

/-- A record is what the last write to its row has left. -/
theorem exists_write (hr : recordAt h pubkey appId = some r) : ∃ pre e, Occurs h pre e ∧
    WritesTo ab e.op pubkey appId ∧ recordAt (pre ++ [e]) pubkey appId = some r ∧
    ∀ pre' e', Occurs h pre' e' → pre ++ [e] <+: pre' → ¬ WritesTo ab e'.op pubkey appId := by
  induction h using List.reverseRecOn with
  | nil =>
    rw [recordAt_nil] at hr
    cases hr
  | append_singleton h e ih =>
    by_cases hw : WritesTo ab e.op pubkey appId
    · refine ⟨h, e, Occurs.last, hw, hr, fun pre' e' ho hp => ?_⟩
      -- Nothing comes after the last step.
      have hlt := ho.length_le.trans hp.length_le
      simp at hlt
    · rw [recordAt_same hw] at hr
      obtain ⟨pre, e0, ho, hw0, hr0, hlater⟩ := ih hr
      refine ⟨pre, e0, ho.mono (List.prefix_append _ _), hw0, hr0, fun pre' e' ho' hp => ?_⟩
      rcases occurs_concat.mp ho' with ⟨-, rfl⟩ | ho'
      · exact hw
      · exact hlater pre' e' ho' hp

/-! ## Reads -/

/-- A read is answered with the record. -/
theorem recordAt_of_event {found : Option AclRecord}
    (hev : (aclMachine cb sb ab).event pre e = ⟨.get pubkey appId, found⟩) :
    e.op = .get pubkey appId ∧ recordAt pre pubkey appId = found := by
  obtain ⟨hop, hanswer⟩ := (Machine.event_eq_iff _).mp hev
  exact ⟨hop, hanswer⟩

/-- In the history `h`, the call `tid` has read the record of a principal right after `pre`, and has
read or written nothing since. -/
def LastRead (h pre : AclHistory cb sb ab) (tid : ℕ) (pubkey appId : String) : Prop :=
  ∃ e, Occurs h pre e ∧ e.tid = tid ∧ e.op = .get pubkey appId ∧
    ∀ pre' e', Occurs h pre' e' → e'.tid = tid → pre ++ [e] <+: pre' →
      ∃ message, e'.op = .warn message

/-- A call that has decided has read a record before, and what it has decided is the verdict of it. -/
theorem exists_lastRead {decision : AclDecision}
    (hd : DecidedBy R pubkey ((aclMachine cb sb ab).own tid h) decision) :
    ∃ pre, LastRead h pre tid pubkey R.registry.appId ∧
      decision = verdict R.registry (recordAt pre pubkey R.registry.appId) := by
  obtain ⟨ys, found, zs, hown, hwarn, rfl⟩ := hd
  obtain ⟨pre, e, ho, htid, hev, hys⟩ := exists_occurs_of_own hown
  obtain ⟨hop, hfound⟩ := recordAt_of_event hev
  refine ⟨pre, ⟨e, ho, htid, hop, fun pre' e' ho' htid' hp => ?_⟩, by rw [hfound]⟩
  -- The events of the call up to the read are those before it, and the read.
  have hlist : (aclMachine cb sb ab).own tid (pre ++ [e]) =
      ys ++ [⟨.get pubkey R.registry.appId, found⟩] := by
    have hself := (aclMachine cb sb ab).own_concat_self pre e
    rwa [htid, hev, hys] at hself
  have hmem : (aclMachine cb sb ab).event pre' e' ∈ zs := by
    obtain ⟨us, hus⟩ := own_mono (M := aclMachine cb sb ab) tid hp
    obtain ⟨vs, hvs⟩ := own_mono (M := aclMachine cb sb ab) tid ho'
    have hself := (aclMachine cb sb ab).own_concat_self pre' e'
    rw [htid'] at hself
    rw [hself, ← hus, hlist, hown, List.append_assoc, List.append_assoc, List.append_assoc,
      List.append_cancel_left_eq, List.singleton_append, List.cons.injEq] at hvs
    rw [← hvs.2]
    simp
  obtain ⟨message, hmessage⟩ := hwarn _ hmem
  exact ⟨message, ((Machine.event_eq_iff _).mp hmessage).1⟩

/-- A call has one last read. -/
theorem LastRead.unique (hl : LastRead h pre tid pubkey appId)
    (hl' : LastRead h pre' tid pubkey appId) : pre = pre' := by
  obtain ⟨e, ho, htid, hop, hlater⟩ := hl
  obtain ⟨e', ho', htid', hop', hlater'⟩ := hl'
  rcases ho.trichotomy ho' with ⟨heq, -⟩ | hlt | hlt
  · exact heq
  · obtain ⟨message, hwarn⟩ := hlater' pre e ho htid hlt
    rw [hop] at hwarn
    cases hwarn
  · obtain ⟨message, hwarn⟩ := hlater pre' e' ho' htid' hlt
    rw [hop'] at hwarn
    cases hwarn

end NapAuth

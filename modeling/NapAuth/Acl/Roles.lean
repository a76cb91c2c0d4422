import NapAuth.Acl.Suspension

/-!
# Role changes and sessions

An `upsert` through the revoking store reads the role, writes the record and revokes the sessions of
the principal if the role differs from the one that it has read. In between the role may change. When
every write finds the role that its call has read, sessions of another role than the stored one are
revoked once every call has returned (`role_change_revokes`): at each time the sessions that are not
revoked carry the stored role, or some call still has to revoke them (`Due`). When two calls overlap,
the second may compare its role with one that is stored no more, and leave the sessions of the role
that it replaces (`role_change_keeps`).
-/

namespace NapAuth

open Interleaving

variable {P : Platform} {O : NapServerOptions} {R : RegistryAclResolver} {cb sb ab : Backend}
  {h pre : AclHistory cb sb ab} {e : Step (aclMachine cb sb ab)}
  {c0 c : (aclServer P O R cb sb ab).Config} {pubkey appId id : String} {s : SessionRecord} {tid : ℕ}

/-- The sessions of a principal that are not revoked carry the role that is stored. -/
def CarriesStored (h : AclHistory cb sb ab) (pubkey appId : String) : Prop :=
  ∀ id s, sessionAt h id = some s → s.principalPubkey = pubkey → s.revokedAt = none →
    ∃ r, recordAt h pubkey appId = some r ∧ s.roles = [r.role]

/-- Logins, and writes of records for one principal through the revoking store. -/
def RoleCall (pubkey appId : String) : AclCall → Prop
  | .server (.issueChallenge _) => True
  | .server (.verifyCompletion _) => True
  | .write true (.upsert record) => record.principalPubkey = pubkey ∧ record.appId = appId
  | _ => False

/-- From the configuration `c0`, where every call has returned, to `c` there are only such calls.
Nothing is written for an operator between a login's authorization and its session. -/
structure RoleRun (pubkey : String) (c0 c : (aclServer P O R cb sb ab).Config) : Prop where
  reachable : (aclServer P O R cb sb ab).Reachable c0
  reaches : (aclServer P O R cb sb ab).Reaches c0 c
  /-- The calls of `c0` have returned. -/
  idle : ∀ (tid : ℕ) (th : Thread AclRes AclCall AclOutcome), c0.threads[tid]? = some th →
    ∃ outcome, th.prog = .pure outcome
  calls : ∀ (tid : ℕ) (th : Thread AclRes AclCall AclOutcome), c.threads[tid]? = some th →
    c0.threads.length ≤ tid → RoleCall pubkey R.registry.appId th.call
  undisturbed : ∀ pre e s pred, Occurs c.history pre e → c0.history <+: pre → Creates pre e s →
    s.principalPubkey = pubkey → Authorized R pre e.tid pubkey pred →
    ∀ pre' e', Occurs pre pre' e' → pred <+: pre' →
      ¬ OperatorWrites ab e'.op pubkey R.registry.appId

/-- Where a record of a principal is written, the role is the one that the call has read. -/
def WritesCurrent (pubkey appId : String) (h0 h : AclHistory cb sb ab) : Prop :=
  ∀ pre e prer er, Occurs h pre e → h0 <+: pre → WritesTo ab e.op pubkey appId →
    Occurs pre prer er → er.tid = e.tid → er.op = .get pubkey appId →
    (recordAt prer pubkey appId).map AclRecord.role =
      (recordAt pre pubkey appId).map AclRecord.role

/-- A call has written a role that differs from the one that it has read, and still has to revoke the
sessions of its principal. -/
def Due (c : (aclServer P O R cb sb ab).Config) (h : AclHistory cb sb ab) (pubkey appId : String)
    (tid : ℕ) : Prop :=
  ∃ th record previous rest, c.threads[tid]? = some th ∧ th.call = .write true (.upsert record) ∧
    record.principalPubkey = pubkey ∧ (aclMachine cb sb ab).own tid h =
      ⟨.get pubkey appId, previous⟩ :: ⟨.write (.upsert record), ()⟩ :: rest ∧
    hasToRevoke previous record = true ∧ ∀ ev ∈ rest, ¬ RevokesSessions pubkey ev

/-! ## One step -/

/-- When the sessions of a principal have been revoked, none is left that is not. -/
theorem carriesStored_of_revokes (hv : (aclServer P O R cb sb ab).Valid (h ++ [e])) {now : ℤ}
    (hop : e.op = .server (.revokeByPrincipal pubkey now)) : CarriesStored (h ++ [e]) pubkey appId := by
  intro id s hs hpubkey hunrevoked
  cases hs0 : sessionAt h id with
  | some s0 =>
    obtain ⟨-, -, -, hprincipal⟩ :=
      sessionAt_between hv List.prefix_rfl (List.prefix_append _ _) hs0 hs
    have hsome := revoked_of_revokeByPrincipal hv Occurs.last hop hs0 (hprincipal.symm.trans hpubkey) hs
    exact absurd hunrevoked hsome
  | none =>
    rcases sessionAt_cases hv hs with hsame | ⟨⟨draft, hev, -⟩, -⟩ | ⟨draft, hrotate⟩ | hsome
    · rw [hs0] at hsame
      cases hsame
    · rw [((Machine.event_eq_iff _).mp hev).1] at hop
      cases hop
    · rw [hrotate] at hop
      cases hop
    · exact absurd hunrevoked hsome

/-- A call that has to revoke has to until sessions of its principal are revoked. -/
theorem Due.step (hd : Due c h pubkey appId tid)
    (hnot : ∀ now, e.op ≠ .server (.revokeByPrincipal pubkey now)) :
    Due c (h ++ [e]) pubkey appId tid := by
  obtain ⟨th, record, previous, rest, hth, hcall, hpubkey, hown, hmust, hrest⟩ := hd
  by_cases htid : e.tid = tid
  · subst htid
    refine ⟨th, record, previous, rest ++ [(aclMachine cb sb ab).event h e], hth, hcall, hpubkey, ?_,
      hmust, fun ev hev => ?_⟩
    · rw [Machine.own_concat_self, hown]
      rfl
    · rcases List.mem_append.mp hev with hev | hev
      · exact hrest ev hev
      · obtain rfl := List.mem_singleton.mp hev
        rintro ⟨now, hnow⟩
        exact hnot now hnow
  · refine ⟨th, record, previous, rest, hth, hcall, hpubkey, ?_, hmust, hrest⟩
    rw [Machine.own_concat_ne _ _ htid, hown]

/-- When every call has returned none has to revoke. -/
theorem not_due (hc : (aclServer P O R cb sb ab).Reachable c)
    (hdone : ∀ (tid : ℕ) (th : Thread AclRes AclCall AclOutcome), c.threads[tid]? = some th →
      ∃ outcome, th.prog = .pure outcome ∧ outcome ≠ .aborted) :
    ¬ Due c c.history pubkey appId tid := by
  rintro ⟨th, record, previous, rest, hth, hcall, hpubkey, hown, hmust, hrest⟩
  obtain ⟨outcome, hprog, halive⟩ := hdone tid th hth
  obtain ⟨previous', rest', hown', hrevoked⟩ := upsert_events hc hth hcall hprog halive
  rw [hown] at hown'
  subst hpubkey
  obtain ⟨hget, htail⟩ := List.cons.inj hown'
  obtain ⟨-, rfl⟩ := List.cons.inj htail
  cases hget
  obtain ⟨ev, hev, hrevokes⟩ := hrevoked hmust
  exact hrest ev hev hrevokes

namespace RoleRun

variable (hrun : RoleRun pubkey c0 c)

include hrun

/-- The run's last configuration is one of a run. -/
theorem reachable_last : (aclServer P O R cb sb ab).Reachable c := hrun.reachable.trans hrun.reaches

/-- A step of the run belongs to one of its calls. -/
theorem exists_call (ho : Occurs c.history pre e) (hp : c0.history <+: pre) :
    c0.threads.length ≤ e.tid ∧ ∃ th, c.threads[e.tid]? = some th ∧
      RoleCall pubkey R.registry.appId th.call := by
  have hle := hrun.reaches.le_tid hrun.idle ho hp
  obtain ⟨-, th, hth, -⟩ := hrun.reachable_last.coherent.occurs pre e ho
  exact ⟨hle, th, hth, hrun.calls e.tid th hth hle⟩

/-- No session is rotated. -/
theorem not_rotates (ho : Occurs c.history pre e) (hp : c0.history <+: pre) {draft : RotateDraft} :
    e.op ≠ .server (.rotateRefreshToken id draft) := by
  intro hop
  obtain ⟨-, th, hth, hcall⟩ := hrun.exists_call ho hp
  obtain ⟨d, hd, hrefines⟩ := (aclRefinement P O R cb sb ab).simulates hrun.reachable_last
  have ho0 : Occurs d.history (serverHistory pre) ⟨e.tid, .rotateRefreshToken id draft, e.env⟩ := by
    rw [hrefines.history]
    exact Refinement.occurs_history ho (step_server hop)
  -- Only a refresh rotates, and the call is none.
  obtain ⟨th0, input, hth0, hrefresh, -⟩ := rotate_warrant hd ho0 rfl
  have hsame : th0.call = serverCall th.call := (hrefines.thread e.tid th th0 hth hth0).call
  rw [hrefresh] at hsame
  cases hcase : th.call with
  | server call =>
    rw [hcase] at hcall hsame
    obtain rfl : Call.refreshSession input = call := hsame
    exact hcall
  | resolve p =>
    rw [hcase] at hsame
    cases hsame
  | write revoking w =>
    rw [hcase] at hsame
    cases hsame

/-- An operator's write is that of an `upsert` of the run, which has read the record before. -/
theorem exists_previous (ho : Occurs c.history pre e) (hp : c0.history <+: pre)
    (hw : OperatorWrites ab e.op pubkey R.registry.appId) :
    ∃ th record previous, c.threads[e.tid]? = some th ∧
      th.call = .write true (.upsert record) ∧ record.principalPubkey = pubkey ∧
      record.appId = R.registry.appId ∧ e.op = .write (.upsert record) ∧
      (aclMachine cb sb ab).own e.tid pre = [⟨.get pubkey R.registry.appId, previous⟩] := by
  obtain ⟨w, hop, -⟩ := hw
  obtain ⟨-, th, hth, hcall⟩ := hrun.exists_call ho hp
  cases hcase : th.call with
  | server call => exact absurd hop (server_writes_nothing hrun.reachable_last ho hth hcase w)
  | resolve p =>
    rw [hcase] at hcall
    exact hcall.elim
  | write revoking w' =>
    rw [hcase] at hcall
    cases revoking with
    | false => exact hcall.elim
    | true =>
      cases w' with
      | upsert record =>
        obtain ⟨hpubkey, happ⟩ := hcall
        obtain ⟨rfl, previous, hown⟩ := upsert_write hrun.reachable_last ho hth hcase hop
        rw [hpubkey, happ] at hown
        exact ⟨th, record, previous, hth, hcase, hpubkey, happ, hop, hown⟩
      | suspend p a reason => exact hcall.elim
      | unsuspend p a => exact hcall.elim

/-- A record is provisioned where there is none. -/
theorem provision_absent (hcurrent : WritesCurrent pubkey R.registry.appId c0.history c.history)
    (ho : Occurs c.history pre e) (hp : c0.history <+: pre)
    (hw : WritesTo ab e.op pubkey R.registry.appId)
    (hnot : ¬ OperatorWrites ab e.op pubkey R.registry.appId) :
    recordAt pre pubkey R.registry.appId = none := by
  obtain ⟨w, hwrite, hconcerns⟩ := hw
  cases hcase : e.op with
  | write w' =>
    rw [hcase] at hwrite
    obtain rfl := Option.some.inj hwrite
    exact absurd ⟨w', hcase, hconcerns⟩ hnot
  | provision record =>
    have hv := System.Valid.of_reachable hrun.reachable_last
    obtain ⟨hrecord, pre0, e0, ho0, htid0, hop0, hnone⟩ := exists_read_of_provision hv ho hcase
    -- It is a record of the principal.
    have happ : record.appId = R.registry.appId := (congrArg AclRecord.appId hrecord :)
    have hpubkey : record.principalPubkey = pubkey := by
      rw [hcase] at hwrite
      obtain rfl := Option.some.inj hwrite
      have hrow : ab.aclStore.row record.appId record.principalPubkey =
          ab.aclStore.row R.registry.appId pubkey := hconcerns
      rw [happ] at hrow
      exact ab.aclStore_lawful.row_inj hrow
    rw [happ, hpubkey] at hop0 hnone
    have hsame := hcurrent pre e pre0 e0 ho hp ⟨w, hwrite, hconcerns⟩ ho0 htid0 hop0
    rw [hnone] at hsame
    exact Option.map_eq_none_iff.mp hsame.symm
  | _ =>
    rw [hcase] at hwrite
    cases hwrite

/-- A session that is created carries the role that is stored. -/
theorem create_carries (hcurrent : WritesCurrent pubkey R.registry.appId c0.history c.history)
    (ho : Occurs c.history pre e) (hp : c0.history <+: pre) (hcreates : Creates pre e s)
    (hpubkey : s.principalPubkey = pubkey) :
    ∃ r, recordAt pre pubkey R.registry.appId = some r ∧ s.roles = [r.role] := by
  obtain ⟨pred, r, hauthorized, hr, hroles⟩ := create_authorized hrun.reachable_last ho hcreates
  rw [hpubkey] at hauthorized hr
  refine ⟨r, ?_, hroles⟩
  have hundisturbed := hrun.undisturbed pre e s pred ho hp hcreates hpubkey hauthorized
  obtain ⟨pre1, e1, npub, context, ho1, -, -, er, hor, htid, -⟩ := hauthorized
  have hpred : pred <+: pre := hor.before.trans ho1.before
  -- The login has read the record within the run.
  have hstart : c0.history <+: pred := hrun.reachable.prefix_of_le_tid
    (hp.trans ho.before) (hor.mono (ho1.before.trans ho.before))
    (htid ▸ (hrun.exists_call ho hp).1)
  rw [recordAt_unwritten hpred fun pre' e' ho' hp' hw' => ?_, hr]
  have hnone := hrun.provision_absent hcurrent (ho'.mono ho.before) (hstart.trans hp') hw'
    (hundisturbed pre' e' ho' hp')
  obtain ⟨r', hr'⟩ := recordAt_persists hp' hr
  rw [hr'] at hnone
  cases hnone

/-- What other steps than an operator's writes leave. -/
theorem carriesStored_step
    (hcurrent : WritesCurrent pubkey R.registry.appId c0.history c.history)
    (ho : Occurs c.history h e) (hp : c0.history <+: h)
    (hnot : ¬ OperatorWrites ab e.op pubkey R.registry.appId)
    (hcarries : CarriesStored h pubkey R.registry.appId) :
    CarriesStored (h ++ [e]) pubkey R.registry.appId := by
  intro id s hs hpubkey hunrevoked
  have hv := (System.Valid.of_reachable hrun.reachable_last).restrict ho
  by_cases hw : WritesTo ab e.op pubkey R.registry.appId
  · -- A record is provisioned, and there was none.
    have hnone := hrun.provision_absent hcurrent ho hp hw hnot
    obtain ⟨w, hwrite, -⟩ := hw
    rcases sessionAt_cases hv hs with hsame | ⟨⟨draft, hev, -⟩, -⟩ | ⟨draft, hop⟩ | hsome
    · obtain ⟨r, hr, -⟩ := hcarries id s hsame hpubkey hunrevoked
      rw [hr] at hnone
      cases hnone
    · rw [((Machine.event_eq_iff _).mp hev).1] at hwrite
      cases hwrite
    · rw [hop] at hwrite
      cases hwrite
    · exact absurd hunrevoked hsome
  · rw [recordAt_same hw]
    rcases sessionAt_cases hv hs with hsame | ⟨hcreates, -⟩ | ⟨draft, hop⟩ | hsome
    · exact hcarries id s hsame hpubkey hunrevoked
    · exact hrun.create_carries hcurrent ho hp hcreates hpubkey
    · exact absurd hop (hrun.not_rotates ho hp)
    · exact absurd hunrevoked hsome

/-- An operator's write leaves the sessions the stored role, or has to revoke them. -/
theorem carriesStored_write
    (hcurrent : WritesCurrent pubkey R.registry.appId c0.history c.history)
    (ho : Occurs c.history h e) (hp : c0.history <+: h)
    (hw : OperatorWrites ab e.op pubkey R.registry.appId)
    (hcarries : CarriesStored h pubkey R.registry.appId) :
    CarriesStored (h ++ [e]) pubkey R.registry.appId ∨
      Due c (h ++ [e]) pubkey R.registry.appId e.tid := by
  obtain ⟨th, record, previous, hth, hcall, hrecord, happ, hop, hown⟩ := hrun.exists_previous ho hp hw
  by_cases hmust : hasToRevoke previous record = true
  · refine Or.inr ⟨th, record, previous, [], hth, hcall, hrecord, ?_, hmust, by simp⟩
    have hev : (aclMachine cb sb ab).event h e = ⟨.write (.upsert record), ()⟩ :=
      (Machine.event_eq_iff _).mpr ⟨hop, rfl⟩
    rw [Machine.own_concat_self, hown, hev]
    rfl
  · left
    intro id s hs hpubkey hunrevoked
    have hv := (System.Valid.of_reachable hrun.reachable_last).restrict ho
    have hwrite : e.op.write? = some (.upsert record) := by
      rw [hop]
      rfl
    have hconcerns : (AclWrite.upsert record).Concerns ab.aclStore pubkey R.registry.appId := by
      rw [← hrecord, ← happ]
      rfl
    have hold : sessionAt h id = some s := by
      rcases sessionAt_cases hv hs with hsame | ⟨⟨draft, hev, -⟩, -⟩ | ⟨draft, hrotate⟩ | hsome
      · exact hsame
      · rw [((Machine.event_eq_iff _).mp hev).1] at hop
        cases hop
      · rw [hrotate] at hop
        cases hop
      · exact absurd hunrevoked hsome
    obtain ⟨r, hr, hroles⟩ := hcarries id s hold hpubkey hunrevoked
    refine ⟨record, by rw [recordAt_write hwrite, if_pos hconcerns]; rfl, ?_⟩
    -- The role that the call has read is the one that is stored, and the one that it writes.
    rw [← List.nil_append [_]] at hown
    obtain ⟨prer, er, hor, htidr, hevr, -⟩ := exists_occurs_of_own hown
    obtain ⟨hopr, hfound⟩ := recordAt_of_event hevr
    have hsame := hcurrent h e prer er ho hp ⟨_, hwrite, hconcerns⟩ hor htidr hopr
    rw [hfound, hr, Option.map_some, Option.map_eq_some_iff] at hsame
    obtain ⟨p, rfl, hrole⟩ := hsame
    rw [hroles, ← hrole]
    have hkept : ¬ p.role ≠ record.role := by
      intro hne
      exact hmust (by simp [hasToRevoke, hne])
    rw [not_not.mp hkept]

/-- At each time the sessions carry the stored role, or some call has to revoke them. -/
theorem carriesStored_or_due
    (hcurrent : WritesCurrent pubkey R.registry.appId c0.history c.history)
    (hstart : CarriesStored c0.history pubkey R.registry.appId) (hp : c0.history <+: h)
    (hh : h <+: c.history) :
    CarriesStored h pubkey R.registry.appId ∨ ∃ tid, Due c h pubkey R.registry.appId tid := by
  obtain ⟨t, rfl⟩ := hp
  induction t using List.reverseRecOn with
  | nil => exact Or.inl (by simpa using hstart)
  | append_singleton t e ih =>
    rw [← List.append_assoc] at hh ⊢
    have hv := (System.Valid.of_reachable hrun.reachable_last).restrict hh
    by_cases hrev : ∃ now, e.op = .server (.revokeByPrincipal pubkey now)
    · obtain ⟨now, hop⟩ := hrev
      exact Or.inl (carriesStored_of_revokes hv hop)
    · push Not at hrev
      rcases ih ((List.prefix_append _ _).trans hh) with hcarries | ⟨tid, hdue⟩
      · by_cases hw : OperatorWrites ab e.op pubkey R.registry.appId
        · rcases hrun.carriesStored_write hcurrent hh (List.prefix_append _ _) hw hcarries with h | h
          · exact Or.inl h
          · exact Or.inr ⟨_, h⟩
        · exact Or.inl (hrun.carriesStored_step hcurrent hh (List.prefix_append _ _) hw hcarries)
      · exact Or.inr ⟨tid, hdue.step hrev⟩

end RoleRun

/-- When every record of a principal is written where the role is the one that its call has read, then
once every call has returned no session of the principal that is not revoked carries another role than
the stored one, if none did at first. -/
theorem role_change_revokes (hrun : RoleRun pubkey c0 c)
    (hcurrent : WritesCurrent pubkey R.registry.appId c0.history c.history)
    (hstart : CarriesStored c0.history pubkey R.registry.appId)
    (hdone : ∀ (tid : ℕ) (th : Thread AclRes AclCall AclOutcome), c.threads[tid]? = some th →
      ∃ outcome, th.prog = .pure outcome ∧ outcome ≠ .aborted) :
    CarriesStored c.history pubkey R.registry.appId := by
  rcases hrun.carriesStored_or_due hcurrent hstart hrun.reaches.history_mono List.prefix_rfl with
    hcarries | ⟨tid, hdue⟩
  · exact hcarries
  · exact absurd hdue (not_due hrun.reachable_last hdone)

namespace Sample

/-- Nothing is written for an operator between a read of a call and a session that it creates. -/
def undisturbed (h : AclHistory cb sb ab) : Bool :=
  (List.range h.length).all fun k => (h[k]?).all fun e => !createsSession e.op ||
    (List.range k).all fun j => (h[j]?).all fun er => er.tid != e.tid || !isGet er.op ||
      ((h.take k).drop j).all fun e' => !isWrite e'.op

/-- A principal's role is not changed between a read of a call and a record that it writes. -/
def writesCurrent (pubkey appId : String) (h : AclHistory cb sb ab) : Bool :=
  (List.range h.length).all fun k => (h[k]?).all fun e => e.op.write?.isNone ||
    (List.range k).all fun j => (h[j]?).all fun er => er.tid != e.tid || !isGet er.op ||
      decide ((recordAt (h.take j) pubkey appId).map AclRecord.role =
        (recordAt (h.take k) pubkey appId).map AclRecord.role)

/-- What is known of two steps of a history, by their indices. -/
theorem check_of_all {h : AclHistory cb sb ab} {p : ℕ → ℕ → Step (aclMachine cb sb ab) →
      Step (aclMachine cb sb ab) → Bool} {q : Step (aclMachine cb sb ab) → Bool}
    (hall : ((List.range h.length).all fun k => (h[k]?).all fun e => q e ||
      (List.range k).all fun j => (h[j]?).all fun er => p j k er e) = true)
    {pre pre0 : AclHistory cb sb ab} {e e0 : Step (aclMachine cb sb ab)} (ho : Occurs h pre e)
    (ho0 : Occurs pre pre0 e0) (hq : q e = false) : p pre0.length pre.length e0 e = true := by
  have hlt : pre.length < h.length := (List.getElem?_eq_some_iff.mp ho.getElem?).1
  have hlt0 : pre0.length < pre.length := (List.getElem?_eq_some_iff.mp ho0.getElem?).1
  have hk := List.all_eq_true.mp hall pre.length (List.mem_range.mpr hlt)
  rw [ho.getElem?, Option.all_some, hq, Bool.false_or] at hk
  have hj := List.all_eq_true.mp hk pre0.length (List.mem_range.mpr hlt0)
  rw [(ho0.mono ho.before).getElem?, Option.all_some] at hj
  exact hj

theorem take_length {h pre : AclHistory cb sb ab} (hp : pre <+: h) : h.take pre.length = pre :=
  (List.prefix_iff_eq_take.mp hp).symm

theorem undisturbed_iff {h : AclHistory cb sb ab} (hu : undisturbed h = true) {pubkey : String}
    {pre pred : AclHistory cb sb ab} {e : Step (aclMachine cb sb ab)} {s : SessionRecord}
    (ho : Occurs h pre e) (hcreates : Creates pre e s)
    (hauthorized : Authorized resolver pre e.tid pubkey pred) {pre' : AclHistory cb sb ab}
    {e' : Step (aclMachine cb sb ab)} (ho' : Occurs pre pre' e') (hp' : pred <+: pre') :
    ¬ OperatorWrites ab e'.op pubkey "shop" := by
  rintro ⟨w, hw, -⟩
  obtain ⟨draft, hev, -⟩ := hcreates
  obtain ⟨pre1, e1, npub, context, ho1, -, -, er, hor, htid, hread, -⟩ := hauthorized
  have hcreate : (!createsSession e.op) = false := by
    rw [((Machine.event_eq_iff _).mp hev).1]
    rfl
  have hcheck := check_of_all hu ho (hor.mono ho1.before) hcreate
  rw [htid, hread, bne_self_eq_false, Bool.false_or] at hcheck
  have hmem : e' ∈ (h.take pre.length).drop pred.length := by
    rw [take_length ho.before]
    apply List.mem_of_getElem?
    rw [List.getElem?_drop, Nat.add_sub_cancel' hp'.length_le]
    exact ho'.getElem?
  have hnot := List.all_eq_true.mp hcheck e' hmem
  rw [hw] at hnot
  cases hnot

theorem writesCurrent_iff {h0 h : AclHistory cb sb ab} {pubkey appId : String}
    (hw : writesCurrent pubkey appId h = true) : WritesCurrent pubkey appId h0 h := by
  intro pre e prer er ho _ hwrites hor htid hread
  obtain ⟨w, hwrite, -⟩ := hwrites
  have hsome : e.op.write?.isNone = false := by
    rw [hwrite]
    rfl
  have hcheck := check_of_all hw ho hor hsome
  rw [htid, hread, bne_self_eq_false, Bool.false_or, take_length ho.before,
    take_length (hor.before.trans ho.before)] at hcheck
  exact of_decide_eq_true hcheck

/-- A configuration in which every call has returned. -/
def idle (c : (aclServer platform options resolver cb sb ab).Config) : Bool :=
  c.threads.all fun th => match th.prog with
    | .pure .aborted => false
    | .pure _ => true
    | .call _ _ => false

theorem idle_iff {c : (aclServer platform options resolver cb sb ab).Config} (hi : idle c = true)
    {tid : ℕ} {th : Thread AclRes AclCall AclOutcome} (hth : c.threads[tid]? = some th) :
    ∃ outcome, th.prog = .pure outcome ∧ outcome ≠ .aborted := by
  have h := List.all_eq_true.mp hi th (List.mem_of_getElem? hth)
  cases hprog : th.prog with
  | call op k =>
    rw [hprog] at h
    cases h
  | pure outcome =>
    refine ⟨outcome, rfl, fun heq => ?_⟩
    rw [hprog, heq] at h
    cases h

/-- A configuration of a run that has been computed, and a later one: between them there are logins
and writes for the principal. -/
theorem roleRun_of_run {c0 c : (aclServer platform options resolver cb sb ab).Config}
    {calls0 calls : List AclCall}
    (hc0 : (aclServer platform options resolver cb sb ab).Reachable c0)
    (hc : (aclServer platform options resolver cb sb ab).Reaches c0 c) (hcalls0 : c0.calls = calls0)
    (hcalls : c.calls = calls0 ++ calls) (hidle : idle c0 = true)
    (hrole : ∀ call ∈ calls, RoleCall Sample.pubkey "shop" call)
    (hundisturbed : undisturbed c.history = true) : RoleRun Sample.pubkey c0 c where
  reachable := hc0
  reaches := hc
  idle := fun tid th hth => (idle_iff hidle hth).imp fun _ h => h.1
  calls := by
    intro tid th hth hle
    have hlength : calls0.length = c0.threads.length := by
      rw [← hcalls0]
      exact List.length_map _
    have hcall : c.calls[tid]? = some th.call := by
      unfold System.Config.calls
      rw [List.getElem?_map, hth]
      rfl
    rw [hcalls, List.getElem?_append_right (hlength ▸ hle)] at hcall
    exact hrole th.call (List.mem_of_getElem? hcall)
  undisturbed := fun pre e s pred ho _ hcreates _ hauthorized pre' e' ho' hp' =>
    undisturbed_iff hundisturbed ho hcreates hauthorized ho' hp'

/-- Where no session is created there is none. -/
theorem carriesStored_of_none {h : AclHistory cb sb ab} {pubkey appId : String}
    (hv : (aclServer platform options resolver cb sb ab).Valid h)
    (hnone : (h.all fun e => !createsSession e.op) = true) : CarriesStored h pubkey appId := by
  intro id s hs
  obtain ⟨pre, e, s0, ho, ⟨draft, hev, -⟩, -⟩ := exists_creates hv hs
  have hnot := List.all_eq_true.mp hnone e (ho.mem (by simp))
  rw [((Machine.event_eq_iff _).mp hev).1] at hnot
  cases hnot

/-- The calls of a principal that logs in, and of an operator who writes its record. -/
def RoleSample (call : AclCall) : Prop :=
  call = .server (issue none) ∨ call = .server (complete false none) ∨
    ∃ role, call = .write true (.upsert (shopRecord role false))

/-- A run of such calls that has been computed, after one in which no session is created. -/
theorem exists_role_run
    (ls0 ls : List (aclServer platform options resolver cb sb ab).Label) (calls0 calls : List AclCall)
    (p : (aclServer platform options resolver cb sb ab).Config → Bool)
    (hstarts0 : System.starts ls0 = calls0) (hstarts : System.starts ls = calls)
    (hmem : ∀ call ∈ calls0 ++ calls, RoleSample call)
    (h : ((System.replay (aclProgram options) (aclServer platform options resolver cb sb ab).initial
      ls0).any fun c0 => (System.replay (aclProgram options) c0 ls).any fun c =>
        idle c0 && idle c && (c0.history.all fun e => !createsSession e.op) && undisturbed c.history &&
          p c) = true) :
    ∃ c0 c : (aclServer platform options resolver cb sb ab).Config, RoleRun Sample.pubkey c0 c ∧
      CarriesStored c0.history Sample.pubkey "shop" ∧ idle c = true ∧ c.calls = calls0 ++ calls ∧
      p c = true := by
  subst hstarts0 hstarts
  obtain ⟨c0, c, hc0, hc, hcalls0, hcalls, hp⟩ := System.exists_replay_append ls0 ls
    (fun c0 c => idle c0 && idle c && (c0.history.all fun e => !createsSession e.op) &&
      undisturbed c.history && p c) (fun call hcall => by
    rcases hmem call hcall with rfl | rfl | ⟨role, rfl⟩
    · rfl
    · exact aclProgram_server (computed_complete rfl false none)
    · rfl) h
  simp only [Bool.and_eq_true] at hp
  obtain ⟨⟨⟨⟨hidle0, hidle⟩, hnone⟩, hundisturbed⟩, hp⟩ := hp
  refine ⟨c0, c, roleRun_of_run hc0 hc hcalls0 hcalls hidle0 (fun call hcall => ?_) hundisturbed,
    carriesStored_of_none (System.Valid.of_reachable hc0) hnone, hidle, hcalls, hp⟩
  rcases hmem call (List.mem_append_right _ hcall) with rfl | rfl | ⟨role, rfl⟩
  · trivial
  · trivial
  · exact ⟨rfl, rfl⟩

end Sample

open Sample in
/-- A record is written and its principal logs in. Then the role is changed, and the session of the
old one is revoked. -/
theorem role_change_revokes_here :
    ∃ (c : (aclServer platform options resolver .memory .memory .memory).Config) (s : SessionRecord),
      (aclServer platform options resolver .memory .memory .memory).Reachable c ∧
      AclReturned c 2 (.server (complete false none)) (.server (.ok s)) ∧
      AclReturned c 3 (.write true (.upsert (shopRecord "clerk" false))) .done ∧
      (∃ s', sessionAt c.history s.sessionId = some s') ∧
      ∀ s', sessionAt c.history s.sessionId = some s' → s'.revokedAt ≠ none := by
  obtain ⟨c0, c, hrun, hstart, hidle, hcalls, hp⟩ := exists_role_run
    (aclTurn (.write true (.upsert (shopRecord "user" false))) 0 2 (env 990 9))
    (aclTurn (.server (issue none)) 1 4 (env 1000 0) ++
      aclTurn (.server (complete false none)) 2 9 (env 1010 2) ++
      aclTurn (.write true (.upsert (shopRecord "clerk" false))) 3 4 (env 1020 3))
    [.write true (.upsert (shopRecord "user" false))]
    [.server (issue none), .server (complete false none),
      .write true (.upsert (shopRecord "clerk" false))]
    (fun c : (aclServer platform options resolver .memory .memory .memory).Config =>
      writesCurrent Sample.pubkey "shop" c.history &&
      decide (c.returned? 3 = some .done) &&
      decide (recordAt c.history Sample.pubkey "shop" = some (shopRecord "clerk" false)) &&
      (aclSession? c 2).any fun s : SessionRecord =>
        (sessionAt c.history s.sessionId).any fun s' : SessionRecord => decide (s'.principalPubkey = Sample.pubkey ∧ s'.roles = ["user"]))
    rfl rfl (by simp [RoleSample, shopRecord]) (by decide +kernel)
  simp only [Bool.and_eq_true, decide_eq_true_eq, Option.any_eq_true] at hp
  obtain ⟨⟨⟨hcurrent, hdone⟩, hrecord⟩, s, hs, s1, hs1, hpubkey, hroles⟩ := hp
  refine ⟨c, s, hrun.reachable_last, aclReturned_of_run hcalls rfl (returned_of_aclSession hs),
    aclReturned_of_run hcalls rfl hdone, ⟨s1, hs1⟩, fun s' hs' hunrevoked => ?_⟩
  obtain rfl : s1 = s' := Option.some.inj (hs1.symm.trans hs')
  obtain ⟨r, hr, hrole⟩ := role_change_revokes hrun (writesCurrent_iff hcurrent) hstart
    (fun tid th hth => idle_iff hidle hth) s.sessionId s1 hs1 hpubkey hunrevoked
  -- The session would carry the role that is stored now.
  obtain rfl : shopRecord "clerk" false = r := Option.some.inj (hrecord.symm.trans hr)
  rw [hroles] at hrole
  have hclerk : "user" = "clerk" := List.head_eq_of_cons_eq hrole
  simp at hclerk

open Sample in
/-- A record carries the role "user". One call that changes it to "clerk" and one that writes "user"
both read it. The first writes and revokes, and the principal logs in as a clerk. The second has read
the role that it writes, so that it revokes nothing. The session stays a clerk's. -/
theorem role_change_keeps :
    ∃ (c0 c : (aclServer platform options resolver .memory .memory .memory).Config)
      (s : SessionRecord),
      RoleRun Sample.pubkey c0 c ∧ CarriesStored c0.history Sample.pubkey "shop" ∧
      AclReturned c 2 (.write true (.upsert (shopRecord "clerk" false))) .done ∧
      AclReturned c 3 (.write true (.upsert (shopRecord "user" false))) .done ∧
      AclReturned c 4 (.server (complete false none)) (.server (.ok s)) ∧
      idle c = true ∧
      -- The login's steps are next to each other.
      (∀ e ∈ (c.history.drop 11).take 9, e.tid = 4) ∧
      (∀ e ∈ c.history.take 11 ++ c.history.drop 20, e.tid ≠ 4) ∧
      (∃ s', sessionAt c.history s.sessionId = some s' ∧ s'.principalPubkey = Sample.pubkey ∧
        s'.revokedAt = none ∧ s'.roles = ["clerk"]) ∧
      recordAt c.history Sample.pubkey "shop" = some (shopRecord "user" false) := by
  obtain ⟨c0, c, hrun, hstart, hidle, hcalls, hp⟩ := exists_role_run
    (aclTurn (.write true (.upsert (shopRecord "user" false))) 0 2 (env 990 9))
    (aclTurn (.server (issue none)) 1 4 (env 1000 0) ++
      aclTurn (.write true (.upsert (shopRecord "clerk" false))) 2 1 (env 1010 2) ++
      aclTurn (.write true (.upsert (shopRecord "user" false))) 3 1 (env 1010 3) ++
      List.replicate 3 (.run 2 (env 1010 2)) ++
      aclTurn (.server (complete false none)) 4 9 (env 1020 1) ++
      [.run 3 (env 1030 3)])
    [.write true (.upsert (shopRecord "user" false))]
    [.server (issue none), .write true (.upsert (shopRecord "clerk" false)),
      .write true (.upsert (shopRecord "user" false)), .server (complete false none)]
    (fun c : (aclServer platform options resolver .memory .memory .memory).Config =>
      decide (c.returned? 2 = some .done) && decide (c.returned? 3 = some .done) &&
      ((c.history.drop 11).take 9).all (fun e => decide (e.tid = 4)) &&
      (c.history.take 11 ++ c.history.drop 20).all (fun e => decide (e.tid ≠ 4)) &&
      decide (recordAt c.history Sample.pubkey "shop" = some (shopRecord "user" false)) &&
      (aclSession? c 4).any fun s : SessionRecord =>
        (sessionAt c.history s.sessionId).any fun s' : SessionRecord => decide
          (s'.principalPubkey = Sample.pubkey ∧ s'.revokedAt = none ∧ s'.roles = ["clerk"]))
    rfl rfl (by simp [RoleSample, shopRecord]) (by decide +kernel)
  simp only [Bool.and_eq_true, decide_eq_true_eq, Option.any_eq_true, List.all_eq_true] at hp
  obtain ⟨⟨⟨⟨⟨hclerk, huser⟩, hlogin⟩, hothers⟩, hrecord⟩, s, hs, s', hs', hsession⟩ := hp
  exact ⟨c0, c, s, hrun, hstart, aclReturned_of_run hcalls rfl hclerk,
    aclReturned_of_run hcalls rfl huser, aclReturned_of_run hcalls rfl (returned_of_aclSession hs),
    hidle, hlogin, hothers, ⟨s', hs', hsession⟩, hrecord⟩

end NapAuth

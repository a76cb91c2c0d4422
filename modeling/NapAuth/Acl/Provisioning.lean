import NapAuth.Acl.Records
import NapAuth.Client

/-!
# Auto-provisioning and the writes of an operator

A resolver that finds no record provisions one, in a second step. In between an operator may write,
and the provisioned record then replaces what the operator has written, whatever it was. This is the
only way in which it is lost: what an operator has written to a row stays until an operator writes
there again exactly when every record that is provisioned finds none of its principal, or the same
(`operator_write_kept`). A record is only provisioned after a read that has found none
(`exists_read_of_provision`), so it suffices that no operator writes between the two.

A suspension therefore sticks when it finds a record and no such provisioning is under way
(`suspension_sticks`). Where it finds none it writes nothing, and the next login provisions a record
that is not suspended (`suspension_of_unknown`).
-/

namespace NapAuth

open Interleaving

variable {P : Platform} {O : NapServerOptions} {R : RegistryAclResolver} {cb sb ab : Backend}
  {h h' pre pre' : AclHistory cb sb ab} {e e' : Step (aclMachine cb sb ab)}
  {pubkey appId : String} {r record : AclRecord}

/-! ## What may be provisioned -/

/-- What an operation of a run may do. -/
theorem aclJustified (hv : (aclServer P O R cb sb ab).Valid h) (ho : Occurs h pre e) :
    AclJustified R ((aclMachine cb sb ab).own e.tid pre) e.op :=
  hv.of_occurs aclBody_sat ho

/-- A record is provisioned by a call that has just found none. -/
theorem exists_read_of_provision (hv : (aclServer P O R cb sb ab).Valid h) (ho : Occurs h pre e)
    (hop : e.op = .provision record) :
    record = buildAutoProvisionRecord R.registry record.principalPubkey ∧
      ∃ pre0 e0, Occurs pre pre0 e0 ∧ e0.tid = e.tid ∧
        e0.op = .get record.principalPubkey record.appId ∧
        recordAt pre0 record.principalPubkey record.appId = none := by
  have hjust := aclJustified hv ho
  rw [hop] at hjust
  obtain ⟨-, ys, pubkey, rfl, hown⟩ := hjust
  obtain ⟨pre0, e0, ho0, htid, hev, -⟩ := exists_occurs_of_own hown
  obtain ⟨hop0, hnone⟩ := recordAt_of_event hev
  exact ⟨rfl, pre0, e0, ho0, htid, hop0, hnone⟩

/-- A record that is provisioned is what its row holds then. -/
theorem recordAt_provision (hop : e.op = .provision record)
    (hconcerns : (AclWrite.upsert record).Concerns ab.aclStore pubkey appId) :
    recordAt (pre ++ [e]) pubkey appId = some record := by
  have hw : e.op.write? = some (.upsert record) := by
    rw [hop]
    rfl
  rw [recordAt_write hw, if_pos hconcerns]
  rfl

/-- Principals that share a row share its record. -/
theorem recordAt_row {pubkey' appId' : String}
    (hrow : ab.aclStore.row appId pubkey = ab.aclStore.row appId' pubkey')
    (h : AclHistory cb sb ab) : recordAt h pubkey appId = recordAt h pubkey' appId' := by
  induction h using List.reverseRecOn with
  | nil => rw [recordAt_nil, recordAt_nil]
  | append_singleton h e ih =>
    have hconcerns : ∀ w : AclWrite, w.Concerns ab.aclStore pubkey appId ↔
        w.Concerns ab.aclStore pubkey' appId' := by
      intro w
      unfold AclWrite.Concerns
      rw [hrow]
    cases hop : e.op.write? with
    | none =>
      have hnot : ∀ p a, ¬ WritesTo ab e.op p a := by
        rintro p a ⟨w, hw, -⟩
        rw [hop] at hw
        cases hw
      rw [recordAt_same (hnot _ _), recordAt_same (hnot _ _), ih]
    | some w =>
      rw [recordAt_write hop, recordAt_write hop, ih]
      exact if_congr (hconcerns w) rfl rfl

/-- The call `tid` was `call`, and it has returned `outcome`. -/
def AclReturned (c : (aclServer P O R cb sb ab).Config) (tid : ℕ) (call : AclCall)
    (outcome : AclOutcome) : Prop :=
  ∃ th, c.threads[tid]? = some th ∧ th.call = call ∧ th.prog = .pure outcome

/-! ## The writes of an operator -/

/-- An operator writes to the row of a principal. -/
def OperatorWrites (ab : Backend) (op : AclOp) (pubkey appId : String) : Prop :=
  ∃ w, op = .write w ∧ w.Concerns ab.aclStore pubkey appId

/-- What an operator has written to a row stays until an operator writes there again. -/
def Kept (h : AclHistory cb sb ab) : Prop :=
  ∀ pre e pubkey appId h' r, Occurs h pre e → OperatorWrites ab e.op pubkey appId →
    pre ++ [e] <+: h' → h' <+: h →
    (∀ pre' e', Occurs h' pre' e' → pre ++ [e] <+: pre' → ¬ OperatorWrites ab e'.op pubkey appId) →
    recordAt (pre ++ [e]) pubkey appId = some r → recordAt h' pubkey appId = some r

/-- A record that is provisioned finds none of its principal, or the same. -/
def ProvisionsAbsent (h : AclHistory cb sb ab) : Prop :=
  ∀ pre e record, Occurs h pre e → e.op = .provision record →
    ∀ r, recordAt pre record.principalPubkey record.appId = some r → r = record

/-- A record that is provisioned changes no record that is there. -/
theorem ProvisionsAbsent.step (hp : ProvisionsAbsent h) (ho : Occurs h pre e)
    (hop : ¬ OperatorWrites ab e.op pubkey appId) (hr : recordAt pre pubkey appId = some r) :
    recordAt (pre ++ [e]) pubkey appId = some r := by
  by_cases hw : WritesTo ab e.op pubkey appId
  · obtain ⟨w, hwrite, hconcerns⟩ := hw
    cases hcase : e.op with
    | write w' =>
      rw [hcase] at hwrite
      obtain rfl := Option.some.inj hwrite
      exact absurd ⟨w', hcase, hconcerns⟩ hop
    | provision record =>
      rw [hcase] at hwrite
      obtain rfl := Option.some.inj hwrite
      rw [← recordAt_row hconcerns pre] at hr
      obtain rfl := hp pre e record ho hcase r hr
      exact recordAt_provision hcase hconcerns
    | _ =>
      rw [hcase] at hwrite
      cases hwrite
  · rw [recordAt_same hw, hr]

/-- So what an operator has written stays. -/
theorem ProvisionsAbsent.kept (hp : ProvisionsAbsent h) : Kept h := by
  intro pre e pubkey appId h' r ho hop hpre hh' hlater hr
  obtain ⟨t, rfl⟩ := hpre
  induction t using List.reverseRecOn with
  | nil => simpa using hr
  | append_singleton t e' ih =>
    rw [← List.append_assoc] at hh' hlater ⊢
    refine hp.step hh' (hlater _ e' Occurs.last (List.prefix_append _ _)) ?_
    exact ih ((List.prefix_append _ _).trans hh') fun pre' e'' ho' =>
      hlater pre' e'' (ho'.mono (List.prefix_append _ _))

/-- Where what operators write stays, a provisioned record finds none, or the same. -/
theorem Kept.provisionsAbsent (hv : (aclServer P O R cb sb ab).Valid h) (hk : Kept h) :
    ProvisionsAbsent h := by
  intro pre e record ho hop r hr
  obtain ⟨hrecord, -⟩ := exists_read_of_provision hv ho hop
  -- The record that it finds was left by the last write to the row.
  obtain ⟨pre0, e0, ho0, hw0, hr0, hlast⟩ := exists_write hr
  obtain ⟨w0, hwrite0, hconcerns0⟩ := hw0
  have ho0' := ho0.mono ho.before
  cases hcase : e0.op with
  | write w =>
    -- It was an operator's, and stays.
    have hsame : recordAt (pre ++ [e]) record.principalPubkey record.appId = some r := by
      rw [hcase] at hwrite0
      obtain rfl := Option.some.inj hwrite0
      refine hk pre0 e0 _ _ (pre ++ [e]) r ho0' ⟨w, hcase, hconcerns0⟩
        (ho0.trans (List.prefix_append _ _)) ho (fun pre' e' ho' hp' hop' => ?_) hr0
      obtain ⟨w', hw', hconcerns'⟩ := hop'
      rcases occurs_concat.mp ho' with ⟨-, rfl⟩ | ho'
      · rw [hop] at hw'
        cases hw'
      · exact hlast pre' e' ho' hp' ⟨w', by rw [hw']; rfl, hconcerns'⟩
    have hown : recordAt (pre ++ [e]) record.principalPubkey record.appId = some record :=
      recordAt_provision hop rfl
    exact Option.some.inj (hsame.symm.trans hown)
  | provision record0 =>
    -- It was provisioned for the same principal.
    obtain ⟨hrecord0, -⟩ := exists_read_of_provision hv ho0' hcase
    rw [hcase] at hwrite0
    obtain rfl := Option.some.inj hwrite0
    rw [recordAt_provision hcase hconcerns0] at hr0
    obtain rfl : record0 = r := Option.some.inj hr0
    have happ : ∀ record : AclRecord,
        record = buildAutoProvisionRecord R.registry record.principalPubkey →
        record.appId = R.registry.appId := fun record h => (congrArg AclRecord.appId h :)
    have hrow : ab.aclStore.row record0.appId record0.principalPubkey =
        ab.aclStore.row record.appId record.principalPubkey := hconcerns0
    rw [happ record0 hrecord0, happ record hrecord] at hrow
    rw [hrecord0, hrecord, ab.aclStore_lawful.row_inj hrow]
  | _ =>
    rw [hcase] at hwrite0
    cases hwrite0

/-- What an operator has written stays until an operator writes to the row again, exactly in the runs
in which every record that is provisioned finds none of its principal, or the same. -/
theorem operator_write_kept (hv : (aclServer P O R cb sb ab).Valid h) :
    Kept h ↔ ProvisionsAbsent h :=
  ⟨fun hk => hk.provisionsAbsent hv, fun hp => hp.kept⟩

namespace Sample

/-- The registry of a shop. -/
def shop : PermissionRegistry where
  appId := "shop"
  permissions := ["read", "write"]
  roles := [⟨"user", ["read"]⟩, ⟨"clerk", ["read", "write"]⟩]
  defaultRole := "user"

/-- Its resolver, which provisions records. -/
def resolver : RegistryAclResolver := ⟨shop, true, rfl⟩

/-- A record of the principal, with a role and suspended or not. -/
def shopRecord (role : String) (suspended : Bool) : AclRecord :=
  ⟨Sample.pubkey, "shop", role, [], suspended, none⟩

variable {cb sb ab : Backend}

/-- The programs of calls whose completions are those of the client. -/
def aclProgram (O : NapServerOptions) : AclCall → AclProgram AclOutcome
  | .server call => do
    let outcome ← (program O call).expand (withResolver resolver)
    return .server outcome
  | call => aclBody platform O resolver call

/-- A run that has been computed, and the calls that it starts. -/
theorem exists_acl_run (O : NapServerOptions) (ls : List (aclServer platform O resolver cb sb ab).Label)
    (calls : List AclCall) (p : (aclServer platform O resolver cb sb ab).Config → Bool)
    (hstarts : System.starts ls = calls)
    (hcalls : ∀ call ∈ calls, aclProgram O call = aclBody platform O resolver call)
    (h : (System.replay (aclProgram O) (aclServer platform O resolver cb sb ab).initial ls).any p =
      true) :
    ∃ c, (aclServer platform O resolver cb sb ab).Reachable c ∧ c.calls = calls ∧ p c = true :=
  hstarts ▸ System.exists_replay (hstarts ▸ hcalls) h

/-- The moves of a call that starts and executes `n` operations. -/
def aclTurn (call : AclCall) (tid n : ℕ) (e : Env) :
    List (aclServer platform O resolver cb sb ab).Label :=
  .start call :: List.replicate n (.run tid e)

/-- A call that a run has started and that has returned. -/
theorem aclReturned_of_run {c : (aclServer platform O resolver cb sb ab).Config}
    {calls : List AclCall} (hcalls : c.calls = calls) {tid : ℕ} {call : AclCall}
    {outcome : AclOutcome} (hcall : calls[tid]? = some call)
    (hout : c.returned? tid = some outcome) : AclReturned c tid call outcome :=
  System.thread_of_returned (hcalls ▸ hcall) hout

/-- The records that are provisioned in a history find none of their principal, or the same. -/
def provisionsAbsent (h : AclHistory cb sb ab) : Bool :=
  (List.range h.length).all fun k => (h[k]?).all fun e => match e.op with
    | .provision record =>
      (recordAt (h.take k) record.principalPubkey record.appId).all fun r => decide (r = record)
    | _ => true

theorem provisionsAbsent_iff {h : AclHistory cb sb ab} (hp : provisionsAbsent h = true) :
    ProvisionsAbsent h := by
  intro pre e record ho hop r hr
  have hlt : pre.length < h.length := (List.getElem?_eq_some_iff.mp ho.getElem?).1
  have hk := List.all_eq_true.mp hp pre.length (List.mem_range.mpr hlt)
  have htake : h.take pre.length = pre := (List.prefix_iff_eq_take.mp ho.before).symm
  obtain ⟨tid, op, env⟩ := e
  obtain rfl : op = .provision record := hop
  rw [ho.getElem?, Option.all_some, htake] at hk
  simp only [hr, Option.all_some, decide_eq_true_eq] at hk
  exact hk

end Sample

open Sample in
/-- A record is provisioned, an operator changes its role, and the resolver is asked again. -/
theorem operator_write_kept_here :
    ∃ c : (aclServer platform options resolver .memory .memory .memory).Config,
      (aclServer platform options resolver .memory .memory .memory).Reachable c ∧
      Kept c.history ∧ (∃ e ∈ c.history, ∃ record, e.op = .provision record) ∧
      recordAt c.history Sample.pubkey "shop" = some (shopRecord "clerk" false) := by
  obtain ⟨c, hc, -, hp⟩ := exists_acl_run options
    (aclTurn (.resolve Sample.pubkey) 0 4 (env 1000 0) ++
      aclTurn (.write true (.upsert (shopRecord "clerk" false))) 1 4 (env 1010 1) ++
      aclTurn (.resolve Sample.pubkey) 2 1 (env 1020 2))
    [.resolve Sample.pubkey, .write true (.upsert (shopRecord "clerk" false)), .resolve Sample.pubkey]
    (fun c : (aclServer platform options resolver .memory .memory .memory).Config =>
      provisionsAbsent c.history && c.history.any (fun e => decide (e.op =
        .provision (shopRecord "user" false))) &&
      decide (recordAt c.history Sample.pubkey "shop" = some (shopRecord "clerk" false)))
    rfl (by
      intro call hcall
      rcases List.mem_cons.mp hcall with rfl | hcall
      · rfl
      · rcases List.mem_pair.mp hcall with rfl | rfl <;> rfl)
    (by decide)
  simp only [Bool.and_eq_true, decide_eq_true_eq, List.any_eq_true] at hp
  obtain ⟨⟨habsent, e, hmem, hprovision⟩, hrecord⟩ := hp
  exact ⟨c, hc, (operator_write_kept (System.Valid.of_reachable hc)).mpr
    (provisionsAbsent_iff habsent), ⟨e, hmem, _, hprovision⟩, hrecord⟩

open Sample in
/-- A resolver reads no record. Before it provisions one, an operator bans the principal with a record
of its own, and that call returns. Then the provisioned record replaces the ban, and the principal is
let in. -/
theorem operator_write_lost :
    ∃ c : (aclServer platform options resolver .memory .memory .memory).Config,
      (aclServer platform options resolver .memory .memory .memory).Reachable c ∧
      AclReturned c 1 (.write true (.upsert (shopRecord "clerk" true))) .done ∧
      (∀ e ∈ c.history, ∀ w, e.op = .write w → w = .upsert (shopRecord "clerk" true)) ∧
      recordAt c.history Sample.pubkey "shop" = some (buildAutoProvisionRecord shop Sample.pubkey) ∧
      AclReturned c 0 (.resolve Sample.pubkey) (.resolved (NapAuth.allowed "user" ["read"])) := by
  obtain ⟨c, hc, hcalls, hp⟩ := exists_acl_run options
    (aclTurn (.resolve Sample.pubkey) 0 1 (env 1000 0) ++
      aclTurn (.write true (.upsert (shopRecord "clerk" true))) 1 4 (env 1010 1) ++
      List.replicate 3 (.run 0 (env 1020 0)))
    [.resolve Sample.pubkey, .write true (.upsert (shopRecord "clerk" true))]
    (fun c : (aclServer platform options resolver .memory .memory .memory).Config =>
      decide (c.returned? 1 = some .done) && c.history.all (fun e => match e.op with
        | .write w => decide (w = .upsert (shopRecord "clerk" true))
        | _ => true) &&
      decide (recordAt c.history Sample.pubkey "shop" = some (buildAutoProvisionRecord shop Sample.pubkey)) &&
      decide (c.returned? 0 = some (.resolved (NapAuth.allowed "user" ["read"]))))
    rfl (by
      intro call hcall
      rcases List.mem_pair.mp hcall with rfl | rfl <;> rfl)
    (by decide +kernel)
  simp only [Bool.and_eq_true, decide_eq_true_eq, List.all_eq_true] at hp
  obtain ⟨⟨⟨hdone, hwrites⟩, hrecord⟩, hresolved⟩ := hp
  refine ⟨c, hc, aclReturned_of_run hcalls rfl hdone, fun e he w hop => ?_, hrecord,
    aclReturned_of_run hcalls rfl hresolved⟩
  have hw := hwrites e he
  rw [hop] at hw
  exact of_decide_eq_true hw

/-! ## Suspensions -/

/-- The call `tid` has not read the ACL store in a history. -/
def Unread (h : AclHistory cb sb ab) (tid : ℕ) : Prop :=
  ∀ ev ∈ (aclMachine cb sb ab).own tid h, ∀ pubkey appId, ev.1 ≠ .get pubkey appId

/-- What such a call reads, it reads later than a step that comes next and is not a read. -/
theorem Unread.before {pre' : AclHistory cb sb ab} (hu : Unread pre e'.tid) (ho : Occurs h pre e)
    (ho' : Occurs h pre' e') {p a : String} (hget : e'.op = .get p a)
    (hop : ∀ p a, e.op ≠ .get p a) : pre ++ [e] <+: pre' := by
  rcases ho.trichotomy ho' with ⟨-, rfl⟩ | hlt | hlt
  · exact absurd hget (hop p a)
  · have hmem := mem_own.mpr ⟨pre', e', hlt, rfl, rfl⟩
    exact absurd hget (hu _ hmem p a)
  · exact hlt

/-- A resolver that has returned has decided by a record that it has read. -/
theorem decidedBy_of_returned {c : (aclServer P O R cb sb ab).Config}
    (hc : (aclServer P O R cb sb ab).Reachable c) {tid : ℕ} {decision : AclDecision}
    (hr : AclReturned c tid (.resolve pubkey) (.resolved decision)) :
    DecidedBy R pubkey ((aclMachine cb sb ab).own tid c.history) decision := by
  obtain ⟨th, hth, hcall, hprog⟩ := hr
  have hsat : (aclBody P O R th.call).Sat (AclJustified R) (fun ys outcome =>
      ∃ d, outcome = .resolved d ∧ DecidedBy R pubkey ys d) [] := by
    rw [hcall]
    apply Prog.Sat.bind
    exact (resolve_sat pubkey []).mono (fun _ _ => AclJustified.of_resolves)
      fun _ d hd => ⟨d, rfl, hd⟩
  rcases hc.sat hth hsat hprog with habort | ⟨d, hd, hdecided⟩
  · cases habort
  · cases hd
    exact hdecided

/-- The record of a principal is there, and suspended. -/
def Suspended (h : AclHistory cb sb ab) (pubkey appId : String) : Prop :=
  ∃ r, recordAt h pubkey appId = some r ∧ r.suspended = true

/-- The suspension of a record. -/
structure Suspends (h pre : AclHistory cb sb ab) (e : Step (aclMachine cb sb ab))
    (pubkey appId : String) : Prop where
  occurs : Occurs h pre e
  op : ∃ reason, e.op = .write (.suspend pubkey appId reason)
  /-- There is a record to suspend. -/
  found : ∃ r, recordAt pre pubkey appId = some r
  /-- Until the end of the history no operator unsuspends the principal or upserts a record. -/
  unlifted : ∀ pre' e' w, Occurs h pre' e' → pre ++ [e] <+: pre' → e'.op = .write w →
    w.Concerns ab.aclStore pubkey appId → ∃ p a reason, w = .suspend p a reason
  /-- A call that provisions a record for the principal afterwards has read none before. -/
  unread : ∀ pre' e' record, Occurs h pre' e' → pre ++ [e] <+: pre' → e'.op = .provision record →
    (AclWrite.upsert record).Concerns ab.aclStore pubkey appId → Unread pre e'.tid

/-- A suspension lasts. -/
theorem Suspends.lasts (hv : (aclServer P O R cb sb ab).Valid h)
    (hs : Suspends h pre e pubkey appId) (hp : pre ++ [e] <+: h') (hh' : h' <+: h) :
    Suspended h' pubkey appId := by
  obtain ⟨reason, hop⟩ := hs.op
  have hnotget : ∀ p a, e.op ≠ .get p a := by
    intro p a h
    rw [hop] at h
    cases h
  obtain ⟨t, rfl⟩ := hp
  induction t using List.reverseRecOn with
  | nil =>
    obtain ⟨r, hr⟩ := hs.found
    refine ⟨r.suspend reason, ?_, rfl⟩
    have hw : e.op.write? = some (.suspend pubkey appId reason) := by
      rw [hop]
      rfl
    have hself : (AclWrite.suspend pubkey appId reason).Concerns ab.aclStore pubkey appId := rfl
    rw [List.append_nil, recordAt_write hw, if_pos hself, hr]
    rfl
  | append_singleton t e' ih =>
    rw [← List.append_assoc] at hh' ⊢
    obtain ⟨r, hr, hsuspended⟩ := ih ((List.prefix_append _ _).trans hh')
    have hlater : pre ++ [e] <+: pre ++ [e] ++ t := List.prefix_append _ _
    by_cases hw : WritesTo ab e'.op pubkey appId
    · obtain ⟨w, hwrite, hconcerns⟩ := hw
      cases hcase : e'.op with
      | write w' =>
        -- Another suspension.
        obtain ⟨p, a, reason', rfl⟩ : ∃ p a reason', w = .suspend p a reason' := by
          rw [hcase] at hwrite
          obtain rfl := Option.some.inj hwrite
          exact hs.unlifted _ e' w' hh' hlater hcase hconcerns
        rw [Suspended, recordAt_write hwrite, if_pos hconcerns, hr]
        exact ⟨_, rfl, rfl⟩
      | provision record =>
        -- The call would have read the record that is there.
        rw [hcase] at hwrite
        obtain rfl := Option.some.inj hwrite
        obtain ⟨-, pre0, e0, ho0, htid0, hop0, hnone⟩ := exists_read_of_provision hv hh' hcase
        have hunread : Unread pre e0.tid := htid0 ▸ hs.unread _ e' record hh' hlater hcase hconcerns
        have hbefore : pre ++ [e] <+: pre0 := hunread.before hs.occurs
          (ho0.mono ((List.prefix_append _ _).trans hh')) hop0 hnotget
        obtain ⟨found, hfound⟩ := hs.found
        obtain ⟨r', hr'⟩ := recordAt_persists ((List.prefix_append _ _).trans hbefore) hfound
        have hrow : recordAt pre0 record.principalPubkey record.appId = recordAt pre0 pubkey appId :=
          recordAt_row hconcerns pre0
        rw [hrow, hr'] at hnone
        cases hnone
      | _ =>
        rw [hcase] at hwrite
        cases hwrite
    · rw [Suspended, recordAt_same hw]
      exact ⟨r, hr, hsuspended⟩

/-- A call that decides about a suspended principal by what it has read after the suspension denies,
and asks for the principal's sessions to be revoked. -/
theorem Suspends.denies (hv : (aclServer P O R cb sb ab).Valid h)
    (hs : Suspends h pre e pubkey R.registry.appId) (hh' : h' <+: h) {tid : ℕ}
    (hu : Unread pre tid) {decision : AclDecision}
    (hd : DecidedBy R pubkey ((aclMachine cb sb ab).own tid h') decision) :
    decision = denied "suspended" true := by
  obtain ⟨reason, hop⟩ := hs.op
  obtain ⟨pre1, ⟨e1, ho1, rfl, hop1, -⟩, rfl⟩ := exists_lastRead hd
  have hbefore : pre ++ [e] <+: pre1 := by
    refine hu.before hs.occurs (ho1.mono hh') hop1 fun p a h => ?_
    rw [hop] at h
    cases h
  obtain ⟨r, hr, hsuspended⟩ := hs.lasts hv hbefore (ho1.before.trans hh')
  rw [hr, verdict, if_pos hsuspended]

/-- A suspension that finds a record sticks. Whoever decides about the principal by what it has read
since, in whatever function of the server or for the application itself, denies, until an operator
unsuspends the principal or upserts a record. Left out are the runs in which a call that has read no
record before the suspension provisions one after it. -/
theorem suspension_sticks {c : (aclServer P O R cb sb ab).Config}
    (hc : (aclServer P O R cb sb ab).Reachable c)
    (hs : Suspends c.history pre e pubkey R.registry.appId) :
    (∀ pre' e' npub context decision, Occurs c.history pre' e' →
      e'.op = .decided npub pubkey context decision → Unread pre e'.tid →
      decision = denied "suspended" true) ∧
    ∀ tid decision, AclReturned c tid (.resolve pubkey) (.resolved decision) → Unread pre tid →
      decision = denied "suspended" true := by
  have hv := System.Valid.of_reachable hc
  constructor
  · intro pre' e' npub context decision ho' hop' hu
    have hjust := aclJustified hv ho'
    rw [hop'] at hjust
    exact hs.denies hv ho'.before hu hjust
  · intro tid decision hr hu
    exact hs.denies hv List.prefix_rfl hu (decidedBy_of_returned hc hr)

namespace Sample

variable {cb sb ab : Backend}

/-- What a resolver has decided. -/
def resolved? (c : (aclServer platform options resolver cb sb ab).Config) (tid : ℕ) :
    Option AclDecision :=
  match c.returned? tid with
  | some outcome =>
    match outcome with
    | .resolved decision => some decision
    | _ => none
  | none => none

/-- A resolver that has decided has returned that. -/
theorem returned_of_resolved {c : (aclServer platform options resolver cb sb ab).Config} {tid : ℕ}
    {decision : AclDecision} (hd : resolved? c tid = some decision) :
    c.returned? tid = some (.resolved decision) := by
  unfold resolved? at hd
  split at hd
  · rename_i outcome hout
    split at hd
    · obtain rfl := Option.some.inj hd
      exact hout
    · cases hd
  · cases hd

/-- The step at an index suspends the principal, who has a record, and no later step writes. -/
def suspendsAt (h : AclHistory cb sb ab) (k : ℕ) : Bool :=
  (h[k]?).any (fun e : Step (aclMachine cb sb ab) =>
    decide (e.op = .write (.suspend Sample.pubkey "shop" none))) &&
  (recordAt (h.take k) Sample.pubkey "shop").isSome &&
  (h.drop (k + 1)).all fun e => e.op.write?.isNone

theorem suspends_of_suspendsAt {h : AclHistory cb sb ab} {k : ℕ} (hs : suspendsAt h k = true) :
    ∃ e, Suspends h (h.take k) e Sample.pubkey "shop" := by
  simp only [suspendsAt, Bool.and_eq_true, Option.any_eq_true, decide_eq_true_eq,
    Option.isSome_iff_exists, List.all_eq_true, Option.isNone_iff_eq_none] at hs
  obtain ⟨⟨⟨e, he, hop⟩, hfound⟩, hlater⟩ := hs
  have hlength : (h.take k).length = k :=
    List.length_take_of_le (List.getElem?_eq_some_iff.mp he).1.le
  have hnone : ∀ pre' e', Occurs h pre' e' → h.take k ++ [e] <+: pre' → e'.op.write? = none := by
    intro pre' e' ho hp
    have hle := hp.length_le
    rw [List.length_append, List.length_singleton, hlength] at hle
    apply hlater e'
    apply List.mem_of_getElem?
    rw [List.getElem?_drop, Nat.add_sub_cancel' hle]
    exact ho.getElem?
  refine ⟨e, occurs_take he, ⟨none, hop⟩, hfound, fun pre' e' w ho hp hw => ?_,
    fun pre' e' record ho hp hw => ?_⟩
  · have h0 := hnone pre' e' ho hp
    rw [hw] at h0
    cases h0
  · have h0 := hnone pre' e' ho hp
    rw [hw] at h0
    cases h0

end Sample

open Sample in
/-- A record is provisioned and suspended, and the resolver denies. -/
theorem suspension_sticks_here :
    ∃ c : (aclServer platform options resolver .memory .memory .postgres).Config,
      (aclServer platform options resolver .memory .memory .postgres).Reachable c ∧
      AclReturned c 1 (.write true (.suspend Sample.pubkey "shop" none)) .done ∧
      AclReturned c 2 (.resolve Sample.pubkey) (.resolved (denied "suspended" true)) := by
  obtain ⟨c, hc, hcalls, hp⟩ := exists_acl_run options
    (aclTurn (.resolve Sample.pubkey) 0 4 (env 1000 0) ++
      aclTurn (.write true (.suspend Sample.pubkey "shop" none)) 1 3 (env 1010 1) ++
      aclTurn (.resolve Sample.pubkey) 2 1 (env 1020 2))
    [.resolve Sample.pubkey, .write true (.suspend Sample.pubkey "shop" none),
      .resolve Sample.pubkey]
    (fun c : (aclServer platform options resolver .memory .memory .postgres).Config =>
      decide (c.returned? 1 = some .done) && (resolved? c 2).isSome && suspendsAt c.history 4 &&
      ((aclMachine .memory .memory .postgres).own 2 (c.history.take 4)).isEmpty)
    rfl (by
      intro call hcall
      rcases List.mem_cons.mp hcall with rfl | hcall
      · rfl
      · rcases List.mem_pair.mp hcall with rfl | rfl <;> rfl)
    (by decide)
  simp only [Bool.and_eq_true, decide_eq_true_eq, Option.isSome_iff_exists, List.isEmpty_iff] at hp
  obtain ⟨⟨⟨hdone, decision, hresolved⟩, hsuspends⟩, hown⟩ := hp
  obtain ⟨e, hs⟩ := suspends_of_suspendsAt hsuspends
  have hr := aclReturned_of_run hcalls rfl (returned_of_resolved hresolved)
  have hunread : Unread (c.history.take 4) 2 := by
    intro ev hev
    rw [hown] at hev
    cases hev
  obtain rfl := (suspension_sticks hc hs).2 2 decision hr hunread
  exact ⟨c, hc, aclReturned_of_run hcalls rfl hdone, hr⟩

open Sample in
/-- A principal without a record is suspended. Nothing is written, and the resolver then provisions a
record and lets the principal in. -/
theorem suspension_of_unknown :
    ∃ c : (aclServer platform options resolver .memory .memory .postgres).Config,
      (aclServer platform options resolver .memory .memory .postgres).Reachable c ∧
      c.calls = [.write true (.suspend Sample.pubkey "shop" none), .resolve Sample.pubkey] ∧
      AclReturned c 0 (.write true (.suspend Sample.pubkey "shop" none)) .done ∧
      (c.history.take 3).all (fun e => e.tid = 0) = true ∧
      (∃ th, c.threads[1]? = some th ∧ th.started = 3) ∧
      AclReturned c 1 (.resolve Sample.pubkey) (.resolved (NapAuth.allowed "user" ["read"])) := by
  obtain ⟨c, hc, hcalls, hp⟩ := exists_acl_run options
    (aclTurn (.write true (.suspend Sample.pubkey "shop" none)) 0 3 (env 1000 0) ++
      aclTurn (.resolve Sample.pubkey) 1 4 (env 1010 1))
    [.write true (.suspend Sample.pubkey "shop" none), .resolve Sample.pubkey]
    (fun c : (aclServer platform options resolver .memory .memory .postgres).Config =>
      decide (c.returned? 0 = some .done) &&
      decide (c.threads[1]?.map Thread.started = some 3) &&
      (c.history.take 3).all (fun e => e.tid = 0) &&
      decide (c.returned? 1 = some (.resolved (NapAuth.allowed "user" ["read"]))))
    rfl (by
      intro call hcall
      rcases List.mem_pair.mp hcall with rfl | rfl <;> rfl)
    (by decide +kernel)
  simp only [Bool.and_eq_true, decide_eq_true_eq, Option.map_eq_some_iff] at hp
  obtain ⟨⟨⟨hdone, hstarted⟩, hfirst⟩, hresolved⟩ := hp
  exact ⟨c, hc, hcalls, aclReturned_of_run hcalls rfl hdone, hfirst, hstarted,
    aclReturned_of_run hcalls rfl hresolved⟩

end NapAuth

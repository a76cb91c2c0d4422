import NapAuth.Acl.Resolver

/-!
# The server with its ACL

The server's functions, the registry's resolver and the writes of an operator, over the two stores
of the server and an ACL store of either kind (`aclServer`). An operator writes to the ACL store
itself or through `createRevokingAclStore`.

A run of this system is a run of the server whose resolver answers what the registry's resolver has
decided (`aclRefinement`). So what is known of the server's runs holds here as well, and this file
adds what is known of the ACL store: what a step does to a record (`recordAt_step`), and by which
record a decision was made (`exists_read`).
-/

namespace NapAuth

open Interleaving

/-- What may be called. -/
inductive AclCall where
  /-- A function of the server. -/
  | server (call : Call)
  /-- The application asks the resolver by itself. -/
  | resolve (pubkey : String)
  /-- An operator writes, through the revoking store or not. -/
  | write (revoking : Bool) (w : AclWrite)
  deriving DecidableEq

/-- What a call comes to. -/
inductive AclOutcome where
  /-- It died before it returned. -/
  | aborted
  /-- A function of the server has returned. -/
  | server (outcome : Outcome)
  /-- The resolver has decided. -/
  | resolved (decision : AclDecision)
  /-- The write has returned. -/
  | done
  deriving DecidableEq

/-- The program of a call. -/
def aclBody (P : Platform) (O : NapServerOptions) (R : RegistryAclResolver) :
    AclCall → AclProgram AclOutcome
  | .server call => do
    let outcome ← (body P O call).expand (withResolver R)
    return .server outcome
  | .resolve pubkey => do
    let decision ← R.resolve pubkey
    return .resolved decision
  | .write revoking w => do
    if revoking then revokingWrite w else (AclOp.write w).perform
    return .done

/-! ## The machine -/

/-- The state of all stores. -/
structure AclStores (cb sb ab : Backend) where
  stores : Stores cb sb
  acl : ab.aclStore.State

variable {P : Platform} {O : NapServerOptions} {R : RegistryAclResolver} {cb sb ab : Backend}

/-- What the environment contributes to the operation of the server that an operation is. -/
def decidedEnv : AclOp → Env → Env
  | .decided _ _ _ decision, e => { e with acl := decision }
  | _, e => e

/-- The answer to an operation, and the stores after it. -/
def aclExec : (op : AclOp) → Env → AclStores cb sb ab → AclRes op × AclStores cb sb ab
  | .get pubkey appId, _, s => (ab.aclStore.get pubkey appId s.acl, s)
  | .write w, _, s => ((), { s with acl := ab.aclStore.write w s.acl })
  | .provision record, _, s => ((), { s with acl := ab.aclStore.write (.upsert record) s.acl })
  | .info _ _ _, _, s => ((), s)
  | .warn _, _, s => ((), s)
  | .decided npub pubkey context decision, e, s =>
    let decided := exec (.resolve npub pubkey context) { e with acl := decision } s.stores
    (decided.1, { s with stores := decided.2 })
  | .server op, e, s =>
    let executed := exec op e s.stores
    (executed.1, { s with stores := executed.2 })

variable (cb sb ab) in
/-- The three stores, at first empty. -/
@[reducible] def aclMachine : Machine AclRes where
  State := AclStores cb sb ab
  Env := Env
  init := ⟨(machine cb sb).init, ab.aclStore.init⟩
  exec := aclExec

variable (cb sb ab) in
/-- The operations executed so far, oldest first. -/
abbrev AclHistory : Type := List (Step (aclMachine cb sb ab))

/-- The operation of the server that an operation is. -/
def serverOp : (op : AclOp) → Option (Commit Res (AclRes op))
  | .decided npub pubkey context _ => some ⟨.resolve npub pubkey context, id⟩
  | .server op => some ⟨op, id⟩
  | _ => none

variable (cb sb ab) in
/-- The stores of the server are a part of the state, and the operations of the server are
operations. -/
def aclMachineRefinement : Refinement (aclMachine cb sb ab) (machine cb sb) where
  state s := s.stores
  env := decidedEnv
  commit := serverOp
  init := rfl
  silent op e s h := by
    cases op with
    | decided npub pubkey context decision => cases h
    | server op => cases h
    | _ => rfl
  committed op e s c h := by
    cases op with
    | decided npub pubkey context decision =>
      obtain rfl := Option.some.inj h
      exact ⟨rfl, rfl⟩
    | server op =>
      obtain rfl := Option.some.inj h
      exact ⟨rfl, rfl⟩
    | _ => cases h

/-- The steps of the server in a history. -/
abbrev serverHistory (h : AclHistory cb sb ab) : History cb sb :=
  (aclMachineRefinement cb sb ab).history h

/-- What is assumed of the environment: what the server assumes. -/
def aclAdmissible (h : AclHistory cb sb ab) (e : Step (aclMachine cb sb ab)) : Bool :=
  match (aclMachineRefinement cb sb ab).step e with
  | some e => admissible (serverHistory h) e
  | none => true

/-- The server with its ACL, over three stores. -/
@[reducible] def aclServer (P : Platform) (O : NapServerOptions) (R : RegistryAclResolver)
    (cb sb ab : Backend) : System AclRes AclCall AclOutcome :=
  { aclMachine cb sb ab with
    body := aclBody P O R
    aborted := .aborted
    admissible := aclAdmissible }

/-! ## What the calls do -/

/-- The resolver may provision a record for a principal when it has just found none. -/
def Provisions (R : RegistryAclResolver) (xs : List (Event AclRes)) (record : AclRecord) : Prop :=
  R.autoProvision = true ∧ ∃ ys pubkey, record = buildAutoProvisionRecord R.registry pubkey ∧
    xs = ys ++ [⟨.get pubkey R.registry.appId, none⟩]

/-- A call has decided by the record that it has read last. -/
def DecidedBy (R : RegistryAclResolver) (pubkey : String) (xs : List (Event AclRes))
    (decision : AclDecision) : Prop :=
  ∃ ys record zs, xs = ys ++ ⟨.get pubkey R.registry.appId, record⟩ :: zs ∧
    (∀ ev ∈ zs, ∃ message, ev = ⟨.warn message, ()⟩) ∧ decision = verdict R.registry record

/-- What the resolver may do. -/
def Resolves (R : RegistryAclResolver) (xs : List (Event AclRes)) : AclOp → Prop
  | .provision record => Provisions R xs record
  | .write _ => False
  | .decided _ _ _ _ => False
  | .server _ => False
  | .get _ _ => True
  | .info _ _ _ => True
  | .warn _ => True

/-- The resolver reads a record, and provisions one where it has read none. -/
theorem resolveAclRecord_sat {pubkey : String}
    {Ψ : List (Event AclRes) → Option AclRecord → Prop} {xs : List (Event AclRes)}
    (h : ∀ ys record, Ψ (ys ++ [⟨.get pubkey R.registry.appId, record⟩]) record) :
    (resolveAclRecord R pubkey).Sat (Resolves R) Ψ xs := by
  unfold resolveAclRecord
  refine Prog.sat_op_bind.mpr ⟨trivial, fun found => ?_⟩
  cases found with
  | some existing => exact h xs (some existing)
  | none =>
    by_cases hauto : R.autoProvision = true
    · simp only [hauto, if_true]
      refine Prog.sat_op_bind.mpr ⟨⟨hauto, xs, pubkey, rfl, rfl⟩, fun _ => ?_⟩
      refine Prog.sat_op_bind.mpr ⟨trivial, fun _ => ?_⟩
      exact ⟨trivial, fun record => h _ record⟩
    · rw [if_neg hauto]
      exact h xs none

/-- What the resolver answers is the verdict of the record that it has read. -/
theorem decide_sat (pubkey : String) (record : Option AclRecord) (ys : List (Event AclRes)) :
    (R.decide pubkey record).Sat (Resolves R) (DecidedBy R pubkey)
      (ys ++ [⟨.get pubkey R.registry.appId, record⟩]) := by
  unfold RegistryAclResolver.decide
  cases record with
  | none => exact ⟨ys, none, [], rfl, by simp, rfl⟩
  | some record =>
    by_cases hsuspended : record.suspended = true
    · simp only [hsuspended, if_true]
      exact ⟨ys, some record, [], rfl, by simp, by simp [verdict, hsuspended]⟩
    · simp only [if_neg hsuspended]
      cases hrole : R.registry.role? record with
      | none =>
        refine Prog.sat_op_bind.mpr ⟨trivial, fun _ => ?_⟩
        exact ⟨ys, some record, [⟨.warn (unknownRole record pubkey), ()⟩], by simp, by simp,
          by simp [verdict, hsuspended, hrole]⟩
      | some role =>
        exact ⟨ys, some record, [], rfl, by simp, by simp [verdict, hsuspended, hrole]⟩

/-- The resolver does what it may, and decides by the record that it has read last. -/
theorem resolve_sat (pubkey : String) (xs : List (Event AclRes)) :
    (R.resolve pubkey).Sat (Resolves R) (DecidedBy R pubkey) xs := by
  apply Prog.Sat.bind
  exact resolveAclRecord_sat fun ys record => decide_sat pubkey record ys

/-- What a call may do: decide by what its resolver has read, and provision a record where that has
found none. The resolver is never asked in one operation. -/
def AclJustified (R : RegistryAclResolver) (xs : List (Event AclRes)) : AclOp → Prop
  | .provision record => Provisions R xs record
  | .decided _ pubkey _ decision => DecidedBy R pubkey xs decision
  | .server (.resolve _ _ _) => False
  | _ => True

/-- What the resolver may do, every call may. -/
theorem AclJustified.of_resolves {xs : List (Event AclRes)} {op : AclOp} (h : Resolves R xs op) :
    AclJustified R xs op := by
  cases op with
  | provision record => exact h
  | decided npub pubkey context decision => exact h.elim
  | server op => exact h.elim
  | _ => trivial

/-- Every operation of the server is carried out as it may be. -/
theorem withResolver_sat (op : Op) (xs : List (Event AclRes)) :
    (withResolver R op).Sat (AclJustified R) (fun _ _ => True) xs := by
  cases op with
  | resolve npub pubkey context =>
    apply Prog.Sat.bind
    refine (resolve_sat pubkey xs).mono (fun _ _ => AclJustified.of_resolves) ?_
    exact fun ys decision hdecided => ⟨hdecided, fun _ => trivial⟩
  | _ => exact ⟨trivial, fun _ => trivial⟩

/-- A write through the revoking store issues nothing that would have to be justified. -/
theorem revokingWrite_sat (w : AclWrite) (xs : List (Event AclRes)) :
    (revokingWrite w).Sat (AclJustified R) (fun _ _ => True) xs := by
  have hrevoke : ∀ pubkey ys, (revokeSessions pubkey).Sat (AclJustified R) (fun _ _ => True) ys :=
    fun _ _ => ⟨trivial, fun _ => ⟨trivial, fun _ => trivial⟩⟩
  cases w with
  | upsert record =>
    refine ⟨trivial, fun previous => ⟨trivial, fun _ => ?_⟩⟩
    show Prog.Sat _ _ (if _ then _ else _) _
    split
    · exact hrevoke _ _
    · trivial
  | suspend pubkey appId reason => exact ⟨trivial, fun _ => hrevoke _ _⟩
  | unsuspend pubkey appId => exact ⟨trivial, fun _ => trivial⟩

/-- Every call does what it may. -/
theorem aclBody_sat (call : AclCall) :
    (aclBody P O R call).Sat (AclJustified R) (fun _ _ => True) [] := by
  cases call with
  | server call =>
    apply Prog.Sat.bind
    exact (Prog.Sat.expand withResolver_sat (body P O call) []).mono (fun _ _ h => h)
      fun _ _ _ => trivial
  | resolve pubkey =>
    apply Prog.Sat.bind
    exact (resolve_sat pubkey []).mono (fun _ _ => AclJustified.of_resolves) fun _ _ _ => trivial
  | write revoking w =>
    cases revoking with
    | false => exact ⟨trivial, fun _ => trivial⟩
    | true =>
      apply Prog.Sat.bind
      exact (revokingWrite_sat w []).mono (fun _ _ h => h) fun _ _ _ => trivial

/-! ## A run of the server -/

/-- The resolver's operations are none of the server. -/
theorem serverOp_of_resolves {xs : List (Event AclRes)} {op : AclOp} (h : Resolves R xs op) :
    serverOp op = none := by
  cases op with
  | decided npub pubkey context decision => exact h.elim
  | server op => exact h.elim
  | _ => rfl

/-- Every operation of the server is carried out. -/
theorem withResolver_carriesOut {α : Type} (op : Op) (k : Res op → Program α) :
    (withResolver R op).CarriesOut (aclMachineRefinement cb sb ab) (fun r q => q = k r)
      (.call op k) := by
  cases op with
  | resolve npub pubkey context =>
    apply Prog.CarriesOut.bind
    refine Prog.carriesOut_of_silent ((resolve_sat pubkey []).mono
      (fun _ _ h => serverOp_of_resolves h) fun ys decision _ => ?_)
    exact ⟨k, rfl, fun _ => rfl⟩
  | _ => exact ⟨k, rfl, fun _ => rfl⟩

/-- The call of the server that a call carries out. A write through the revoking store revokes
sessions, or may; a call that does not is one of these that never gets to do anything. -/
def serverCall : AclCall → Call
  | .server call => call
  | .resolve pubkey => .revokePrincipal pubkey
  | .write _ w => .revokePrincipal w.pubkey

/-- What has become of that call when a call returns. -/
def ServerReturns : AclCall → AclOutcome → Program Outcome → Prop
  | .server _, outcome, p => ∃ o, outcome = .server o ∧ p = .pure o
  | .resolve _, _, _ => True
  | .write _ _, _, _ => True

/-- A write through the revoking store revokes the sessions of its principal or does not. -/
theorem revokingWrite_carriesOut (w : AclWrite) :
    (revokingWrite w).CarriesOut (aclMachineRefinement cb sb ab) (fun _ _ => True)
      (revokePrincipal w.pubkey) := by
  have hrevoke : ∀ pubkey, (revokeSessions pubkey).CarriesOut (aclMachineRefinement cb sb ab)
      (fun _ _ => True) (revokePrincipal pubkey) :=
    fun _ => ⟨_, rfl, fun _ => ⟨_, rfl, fun _ => trivial⟩⟩
  cases w with
  | upsert record =>
    intro previous _
    show Prog.CarriesOut _ _ (if _ then _ else _) _
    split
    · exact hrevoke _
    · trivial
  | suspend pubkey appId reason => exact fun _ => hrevoke _
  | unsuspend pubkey appId => exact fun _ => trivial

variable (P O R cb sb ab) in
/-- A run with the ACL is a run of the server. -/
def aclRefinement : SystemRefinement (aclServer P O R cb sb ab) (server P O cb sb) :=
  { aclMachineRefinement cb sb ab with
    call := serverCall
    returns := ServerReturns
    body := by
      intro call
      cases call with
      | server call =>
        apply Prog.CarriesOut.bind
        refine (Prog.CarriesOut.expand withResolver_carriesOut (body P O call)).mono ?_
        rintro outcome q rfl
        exact ⟨outcome, rfl, rfl⟩
      | resolve pubkey =>
        apply Prog.CarriesOut.bind
        exact Prog.carriesOut_of_silent ((resolve_sat pubkey []).mono
          (fun _ _ h => serverOp_of_resolves h) fun _ _ _ => trivial)
      | write revoking w =>
        cases revoking with
        | false => exact fun _ => trivial
        | true =>
          apply Prog.CarriesOut.bind
          exact (revokingWrite_carriesOut w).mono fun _ _ _ => trivial
    admissible := by
      intro h e e' hstep hadm
      have hadm' : aclAdmissible h e = true := hadm
      unfold aclAdmissible at hadm'
      rw [hstep] at hadm'
      exact hadm' }

end NapAuth

import NapAuth.Acl.Store
import NapAuth.Interleaving.Refinement

/-!
# The registry's resolver and the revoking store

`createRegistryAclResolver` and `createRevokingAclStore` of `packages/nap-server/src/acl.ts`, as
programs. Their operations are those of the ACL store and of the server. `resolve` decides by the
record that it reads last, and provisions a record where it has found none; what it answers is
`verdict` of that record.

The server's functions ask a resolver in one operation (`Op.resolve`). With this one that operation
is a program of its own (`withResolver`), between whose steps other calls may run.
-/

namespace NapAuth

open Interleaving

/-! ## The registry -/

/-- `RoleDefinition`. -/
structure RoleDefinition where
  key : String
  permissions : List String
  deriving DecidableEq

/-- `PermissionRegistry`, with the keys of its permissions. -/
structure PermissionRegistry where
  appId : String
  permissions : List String
  roles : List RoleDefinition
  defaultRole : String
  deriving DecidableEq

/-- `validateUniqueKeys`. -/
def validateUniqueKeys (values : List String) (label : String) : Except String Unit :=
  go [] values
where
  /-- The loop, with the keys that it has seen. -/
  go (seen : List String) : List String → Except String Unit
    | [] => .ok ()
    | value :: values =>
      if value ∈ seen then
        .error ("PermissionRegistry contains duplicate " ++ label ++ " key '" ++ value ++ "'")
      else go (value :: seen) values

/-- `validateRolePermissions`. -/
def validateRolePermissions (role : RoleDefinition) (knownPermissions : List String) :
    Except String Unit :=
  match role.permissions.find? fun permission => permission ∉ knownPermissions with
  | some permission =>
    .error ("PermissionRegistry role '" ++ role.key ++ "' references unknown permission '" ++
      permission ++ "'")
  | none => .ok ()

/-- `validatePermissionRegistry`. -/
def validatePermissionRegistry (registry : PermissionRegistry) : Except String Unit := do
  validateUniqueKeys registry.permissions "permission"
  validateUniqueKeys (registry.roles.map (·.key)) "role"
  if registry.defaultRole ∉ registry.roles.map (·.key) then
    throw ("PermissionRegistry defaultRole '" ++ registry.defaultRole ++
      "' is not declared in roles")
  registry.roles.forM fun role => validateRolePermissions role registry.permissions

/-- `createRegistryAclResolver`, which throws on an invalid registry. -/
structure RegistryAclResolver where
  registry : PermissionRegistry
  autoProvision : Bool
  valid : validatePermissionRegistry registry = .ok ()

/-- The default role of a valid registry is one of its roles. -/
theorem RegistryAclResolver.defaultRole_mem (R : RegistryAclResolver) :
    ∃ role ∈ R.registry.roles, role.key = R.registry.defaultRole := by
  have hvalid := R.valid
  by_contra hnone
  have hmem : R.registry.defaultRole ∉ R.registry.roles.map (·.key) := by
    intro h
    obtain ⟨role, hrole, hkey⟩ := List.mem_map.mp h
    exact hnone ⟨role, hrole, hkey⟩
  unfold validatePermissionRegistry at hvalid
  rw [if_pos hmem] at hvalid
  -- Whatever the other checks say, this one has failed.
  cases h1 : validateUniqueKeys R.registry.permissions "permission" with
  | error e => simp [h1, bind, Except.bind] at hvalid
  | ok u =>
    cases h2 : validateUniqueKeys (R.registry.roles.map (·.key)) "role" with
    | error e => simp [h1, h2, bind, Except.bind] at hvalid
    | ok u => simp [h1, h2, bind, Except.bind, throw, throwThe, MonadExceptOf.throw] at hvalid

/-- `set.add(value)`, of a `Set` in its order of insertion. -/
def addToSet (set : List String) (value : String) : List String :=
  if value ∈ set then set else set ++ [value]

/-- The loop of `applyOverrides`, over the sets `granted` and `denied`. -/
def applyOverride : List String × List String → PermissionOverride → List String × List String
  | (granted, denied), override =>
    match override.action with
    | .grant => (addToSet granted override.permission, denied)
    | .deny => (granted, addToSet denied override.permission)

/-- `applyOverrides`. -/
def applyOverrides (basePermissions : List String) (overrides : List PermissionOverride) :
    List String :=
  let (granted, denied) := overrides.foldl applyOverride (basePermissions.foldl addToSet [], [])
  JsString.sort (granted.filter fun permission => permission ∉ denied)

/-- `denied`. -/
def denied (reason : String) (revokeSessions : Bool) : AclDecision where
  allowed := false
  roles := []
  permissions := []
  reason := some reason
  revokeSessions := revokeSessions
  expiresAt := none

/-- `allowed`. -/
def allowed (role : String) (permissions : List String) : AclDecision where
  allowed := true
  roles := [role]
  permissions := permissions
  reason := none
  revokeSessions := false
  expiresAt := none

/-- `buildAutoProvisionRecord`. -/
def buildAutoProvisionRecord (registry : PermissionRegistry) (pubkey : String) : AclRecord where
  principalPubkey := pubkey
  appId := registry.appId
  role := registry.defaultRole
  permissionOverrides := []
  suspended := false
  suspendedReason := none

/-- The role of a record, if the registry declares it. -/
def PermissionRegistry.role? (registry : PermissionRegistry) (record : AclRecord) :
    Option RoleDefinition :=
  registry.roles.find? fun candidate => candidate.key == record.role

/-- What `resolve` answers when it has read a record, or none. -/
def verdict (registry : PermissionRegistry) : Option AclRecord → AclDecision
  | none => denied "no_acl_record" false
  | some record =>
    if record.suspended then denied "suspended" true
    else
      match registry.role? record with
      | none => denied "unknown_role" false
      | some role => allowed role.key (applyOverrides role.permissions record.permissionOverrides)

/-! ## Programs -/

/-- What a call does between two awaits. -/
inductive AclOp where
  /-- A record is read. -/
  | get (pubkey appId : String)
  /-- A record is written for an operator. -/
  | write (w : AclWrite)
  /-- The resolver upserts a record for a principal that has none. -/
  | provision (record : AclRecord)
  /-- `logger.info('nap.acl.auto_provisioned', { pubkey, app_id, role })`. -/
  | info (pubkey appId role : String)
  /-- `logger.warn(message)`. -/
  | warn (message : String)
  /-- The resolver has answered a function of the server, which reads the clock. -/
  | decided (npub pubkey : String) (context : AclResolutionContext) (decision : AclDecision)
  /-- An operation of the server. -/
  | server (op : Op)
  deriving DecidableEq

/-- The answers to an operation. -/
@[reducible] def AclRes : AclOp → Type
  | .get _ _ => Option AclRecord
  | .write _ => Unit
  | .provision _ => Unit
  | .info _ _ _ => Unit
  | .warn _ => Unit
  | .decided _ _ _ _ => AclDecision × ℤ
  | .server op => Res op

/-- The programs of the server and of its ACL. -/
abbrev AclProgram : Type → Type := Prog AclRes

/-- The program of one operation. -/
abbrev AclOp.perform (o : AclOp) : AclProgram (AclRes o) := Prog.op o

/-- `resolveAclRecord`. -/
def resolveAclRecord (R : RegistryAclResolver) (pubkey : String) :
    AclProgram (Option AclRecord) := do
  match ← (AclOp.get pubkey R.registry.appId).perform with
  | some existing => return some existing
  | none =>
    if R.autoProvision then do
      let record := buildAutoProvisionRecord R.registry pubkey
      (AclOp.provision record).perform
      (AclOp.info pubkey R.registry.appId R.registry.defaultRole).perform
      (AclOp.get pubkey R.registry.appId).perform
    else return none

/-- The message about a record whose role the registry does not declare. -/
def unknownRole (record : AclRecord) (pubkey : String) : String :=
  "PermissionRegistry role '" ++ record.role ++ "' is missing for pubkey '" ++ pubkey ++ "'"

/-- What `resolve` does with the record that it has read. -/
def RegistryAclResolver.decide (R : RegistryAclResolver) (pubkey : String) :
    Option AclRecord → AclProgram AclDecision
  | none => return denied "no_acl_record" false
  | some record =>
    if record.suspended then return denied "suspended" true
    else
      match R.registry.role? record with
      | none => do
        (AclOp.warn (unknownRole record pubkey)).perform
        return denied "unknown_role" false
      | some role =>
        return allowed role.key (applyOverrides role.permissions record.permissionOverrides)

/-- `resolve`. -/
def RegistryAclResolver.resolve (R : RegistryAclResolver) (pubkey : String) :
    AclProgram AclDecision := do
  let record ← resolveAclRecord R pubkey
  R.decide pubkey record

/-- An operation of the server, where the registry's resolver answers what the resolver is asked. -/
def withResolver (R : RegistryAclResolver) : (op : Op) → AclProgram (Res op)
  | .resolve npub pubkey context => do
    let decision ← R.resolve pubkey
    (AclOp.decided npub pubkey context decision).perform
  | op => (AclOp.server op).perform

/-- `sessionStore.revokeByPrincipal(pubkey, clock.nowUnix())`. -/
def revokeSessions (pubkey : String) : AclProgram Unit := do
  let now ← (AclOp.server .nowUnix).perform
  let _ ← (AclOp.server (.revokeByPrincipal pubkey now)).perform
  return ()

/-- A write through `createRevokingAclStore`. -/
def revokingWrite : AclWrite → AclProgram Unit
  | .upsert record => do
    let previous ← (AclOp.get record.principalPubkey record.appId).perform
    (AclOp.write (.upsert record)).perform
    if previous.any (fun previous => previous.role ≠ record.role) || record.suspended then
      revokeSessions record.principalPubkey
    else return ()
  | .suspend pubkey appId reason => do
    (AclOp.write (.suspend pubkey appId reason)).perform
    revokeSessions pubkey
  | .unsuspend pubkey appId => (AclOp.write (.unsuspend pubkey appId)).perform

end NapAuth

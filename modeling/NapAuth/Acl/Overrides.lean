import NapAuth.Acl.Provisioning
import NapAuth.Utf16

/-!
# What a role and its overrides permit

`applyOverrides` runs over the overrides of a record once, and collects what they grant and what
they deny in two sets. What is in either set depends on which overrides there are and not on their
order (`mem_granted`, `mem_denied`), and the sets are compared when the loop has ended. So a denied
permission stays denied, wherever it was granted (`mem_applyOverrides`).
-/

namespace NapAuth

open Interleaving

/-! ## Sets in their order of insertion -/

theorem mem_addToSet {set : List String} {value p : String} :
    p ∈ addToSet set value ↔ p ∈ set ∨ p = value := by
  unfold addToSet
  split
  · rename_i h
    exact ⟨Or.inl, fun hp => hp.elim id fun heq => heq ▸ h⟩
  · rw [List.mem_append, List.mem_singleton]

theorem nodup_addToSet {set : List String} (h : set.Nodup) (value : String) :
    (addToSet set value).Nodup := by
  unfold addToSet
  split
  · exact h
  · rename_i hnew
    rw [List.nodup_append_comm, List.singleton_append, List.nodup_cons]
    exact ⟨hnew, h⟩

/-- `new Set(values)` has the values, -/
theorem mem_foldl_addToSet {values set : List String} {p : String} :
    p ∈ values.foldl addToSet set ↔ p ∈ set ∨ p ∈ values := by
  induction values generalizing set with
  | nil => simp
  | cons value values ih => rw [List.foldl_cons, ih, mem_addToSet, List.mem_cons, or_assoc]

/-- and each of them once. -/
theorem nodup_foldl_addToSet {values set : List String} (h : set.Nodup) :
    (values.foldl addToSet set).Nodup := by
  induction values generalizing set with
  | nil => exact h
  | cons value values ih => exact ih (nodup_addToSet h value)

/-! ## The loop -/

variable {overrides overrides' : List PermissionOverride} {granted denied : List String} {p : String}

/-- What is granted in the end. -/
theorem mem_granted : p ∈ (overrides.foldl applyOverride (granted, denied)).1 ↔
    p ∈ granted ∨ ⟨.grant, p⟩ ∈ overrides := by
  induction overrides generalizing granted denied with
  | nil => simp
  | cons override overrides ih =>
    obtain ⟨action, permission⟩ := override
    rw [List.foldl_cons, List.mem_cons]
    cases action with
    | grant =>
      rw [applyOverride, ih, mem_addToSet, or_assoc]
      simp
    | deny =>
      rw [applyOverride, ih]
      simp

/-- What is denied in the end. -/
theorem mem_denied : p ∈ (overrides.foldl applyOverride (granted, denied)).2 ↔
    p ∈ denied ∨ ⟨.deny, p⟩ ∈ overrides := by
  induction overrides generalizing granted denied with
  | nil => simp
  | cons override overrides ih =>
    obtain ⟨action, permission⟩ := override
    rw [List.foldl_cons, List.mem_cons]
    cases action with
    | deny =>
      rw [applyOverride, ih, mem_addToSet, or_assoc]
      simp
    | grant =>
      rw [applyOverride, ih]
      simp

/-- Nothing is granted twice. -/
theorem nodup_granted (h : granted.Nodup) :
    (overrides.foldl applyOverride (granted, denied)).1.Nodup := by
  induction overrides generalizing granted denied with
  | nil => exact h
  | cons override overrides ih =>
    obtain ⟨action, permission⟩ := override
    cases action with
    | grant => exact ih (nodup_addToSet h permission)
    | deny => exact ih h

/-! ## The result -/

/-- What is permitted was granted by the role or by an override, and is not denied. -/
theorem mem_applyOverrides {basePermissions : List String} :
    p ∈ applyOverrides basePermissions overrides ↔
      (p ∈ basePermissions ∨ ⟨.grant, p⟩ ∈ overrides) ∧ ⟨.deny, p⟩ ∉ overrides := by
  unfold applyOverrides
  rw [(JsString.sort_perm _).mem_iff, List.mem_filter, decide_eq_true_eq, mem_granted, mem_denied,
    mem_foldl_addToSet]
  simp

/-- The permissions are in order, each once. -/
theorem applyOverrides_strict (basePermissions : List String)
    (overrides : List PermissionOverride) :
    (applyOverrides basePermissions overrides).Pairwise fun a b =>
      JsString.utf16 a < JsString.utf16 b :=
  JsString.sort_strict ((nodup_granted (nodup_foldl_addToSet List.nodup_nil)).filter _)

/-- They depend on which overrides there are. -/
theorem applyOverrides_congr (basePermissions : List String)
    (hsame : ∀ override, override ∈ overrides ↔ override ∈ overrides') :
    applyOverrides basePermissions overrides = applyOverrides basePermissions overrides' := by
  refine JsString.eq_of_strict (applyOverrides_strict _ _) (applyOverrides_strict _ _) fun p => ?_
  rw [mem_applyOverrides, mem_applyOverrides, hsame, hsame]

/-! ## The resolver -/

/-- Keys that are accepted are distinct, from each other and from those seen before. -/
theorem nodup_of_validateUniqueKeys {values seen : List String} {label : String}
    (h : validateUniqueKeys.go label seen values = .ok ()) :
    values.Nodup ∧ ∀ value ∈ values, value ∉ seen := by
  induction values generalizing seen with
  | nil => exact ⟨List.nodup_nil, fun _ h => absurd h List.not_mem_nil⟩
  | cons value values ih =>
    unfold validateUniqueKeys.go at h
    split at h
    · cases h
    · rename_i hnew
      obtain ⟨hnodup, hunseen⟩ := ih h
      refine ⟨List.nodup_cons.mpr ⟨fun hmem => hunseen value hmem List.mem_cons_self, hnodup⟩, ?_⟩
      intro v hv
      rcases List.mem_cons.mp hv with rfl | hv
      · exact hnew
      · exact fun hseen => hunseen v hv (List.mem_cons_of_mem value hseen)

/-- The roles of a valid registry have keys of their own. -/
theorem RegistryAclResolver.nodup_roles (R : RegistryAclResolver) :
    (R.registry.roles.map (·.key)).Nodup := by
  have hvalid := R.valid
  unfold validatePermissionRegistry at hvalid
  cases hpermissions : validateUniqueKeys R.registry.permissions "permission" with
  | error e => simp [hpermissions, bind, Except.bind] at hvalid
  | ok u =>
    cases hroles : validateUniqueKeys (R.registry.roles.map (·.key)) "role" with
    | error e => simp [hpermissions, hroles, bind, Except.bind] at hvalid
    | ok u => exact (nodup_of_validateUniqueKeys hroles).1

/-- So a role is found by its key. -/
theorem RegistryAclResolver.role?_eq (R : RegistryAclResolver) {record : AclRecord}
    {role : RoleDefinition} (hrole : role ∈ R.registry.roles) (hkey : role.key = record.role) :
    R.registry.role? record = some role := by
  unfold PermissionRegistry.role?
  cases hfound : R.registry.roles.find? fun candidate => candidate.key == record.role with
  | none =>
    have hnot := List.find?_eq_none.mp hfound role hrole
    exact absurd (beq_iff_eq.mpr hkey) hnot
  | some found =>
    have hkeys : found.key = role.key :=
      (beq_iff_eq.mp (List.find?_some hfound :)).trans hkey.symm
    rw [List.inj_on_of_nodup_map R.nodup_roles (List.mem_of_find?_eq_some hfound) hrole hkeys]

/-- What is permitted when a record has been read. -/
theorem RegistryAclResolver.resolve_follows (R : RegistryAclResolver) {pubkey : String}
    {record : AclRecord} {role : RoleDefinition} {xs : List (Event AclRes)}
    (hread : (resolveAclRecord R pubkey).Follows xs (.pure (some record)))
    (hsuspended : record.suspended = false) (hrole : role ∈ R.registry.roles)
    (hkey : role.key = record.role) : (R.resolve pubkey).Follows xs
      (.pure (allowed role.key (applyOverrides role.permissions record.permissionOverrides))) := by
  have hdecide : R.decide pubkey (some record) =
      .pure (allowed role.key (applyOverrides role.permissions record.permissionOverrides)) := by
    simp only [RegistryAclResolver.decide, hsuspended, R.role?_eq hrole hkey, Bool.false_eq_true,
      if_false]
    rfl
  exact hdecide ▸ hread.bind (R.decide pubkey)

/-- The permissions of a principal that has a record, is not suspended and has a declared role: in
order and each once, what the role or an override grants and no override denies. Overrides that are
repeated, or stand in another order, make no difference. -/
theorem resolve_permissions (R : RegistryAclResolver) (pubkey : String) {record : AclRecord}
    {role : RoleDefinition} {xs : List (Event AclRes)}
    (hread : (resolveAclRecord R pubkey).Follows xs (.pure (some record)))
    (hsuspended : record.suspended = false) (hrole : role ∈ R.registry.roles)
    (hkey : role.key = record.role) :
    ∃ permissions, (R.resolve pubkey).Follows xs (.pure (allowed role.key permissions)) ∧
      permissions.Pairwise (fun a b => JsString.utf16 a < JsString.utf16 b) ∧
      (∀ p, p ∈ permissions ↔ (p ∈ role.permissions ∨ ⟨.grant, p⟩ ∈ record.permissionOverrides) ∧
        ⟨.deny, p⟩ ∉ record.permissionOverrides) ∧
      ∀ overrides, (∀ o, o ∈ overrides ↔ o ∈ record.permissionOverrides) →
        ∀ ys, (resolveAclRecord R pubkey).Follows ys
          (.pure (some { record with permissionOverrides := overrides })) →
        (R.resolve pubkey).Follows ys (.pure (allowed role.key permissions)) := by
  refine ⟨applyOverrides role.permissions record.permissionOverrides,
    R.resolve_follows hread hsuspended hrole hkey, applyOverrides_strict _ _,
    fun p => mem_applyOverrides, fun overrides hsame ys hread' => ?_⟩
  rw [← applyOverrides_congr role.permissions hsame]
  exact R.resolve_follows hread' hsuspended hrole hkey

namespace Sample

/-- A clerk that is denied writing, and granted it before and after. -/
def clerk : AclRecord :=
  { shopRecord "clerk" false with
    permissionOverrides := [⟨.grant, "write"⟩, ⟨.deny, "write"⟩, ⟨.grant, "write"⟩] }

/-- The resolver reads the record. -/
theorem reads_clerk : (resolveAclRecord resolver Sample.pubkey).Follows
    [⟨.get Sample.pubkey "shop", some clerk⟩] (.pure (some clerk)) := by
  have hstart : (resolveAclRecord resolver Sample.pubkey).Follows [] (.call
      (.get Sample.pubkey "shop") _) := .start
  exact hstart.answer (some clerk)

end Sample

open Sample in
/-- The clerk may read. -/
theorem resolve_permissions_clerk : ∃ permissions,
    (resolver.resolve Sample.pubkey).Follows [⟨.get Sample.pubkey "shop", some clerk⟩]
      (.pure (allowed "clerk" permissions)) ∧ ∀ p, p ∈ permissions ↔ p = "read" := by
  obtain ⟨permissions, hfollows, -, hmem, -⟩ :=
    @resolve_permissions resolver Sample.pubkey clerk ⟨"clerk", ["read", "write"]⟩ _ reads_clerk rfl
      (by decide) rfl
  refine ⟨permissions, hfollows, fun p => ?_⟩
  rw [hmem]
  simp only [clerk, List.mem_cons, List.not_mem_nil, or_false, PermissionOverride.mk.injEq]
  grind

end NapAuth

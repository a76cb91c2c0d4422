import NapAuth.Server.System

/-!
# The ACL stores

`InMemoryAclStore` of `packages/nap-server/src/memory.ts` and `PostgresAclStore` of
`packages/nap-store-postgres/src/index.ts`. A store holds a record for each principal of an
application, in a row of its own. A write concerns one row: `upsert` replaces its record, and
`suspend` and `unsuspend` change a record that is there and do nothing where none is
(`AclWrite.apply`).

`AclStore.Lawful` says that a store is a table of rows with these three writes, and both stores are.
They name their rows differently. The in-memory store joins the application's id and the principal's
key by a colon, so that pairs of different applications may share a row, but those of one application
do not (`AclStore.Lawful.row_inj`).

The times of the writes (`suspended_at`, `created_at`, `updated_at`) are left out: nothing reads
them.
-/

namespace NapAuth

/-- What an override does with a permission. -/
inductive OverrideAction where
  | grant
  | deny
  deriving DecidableEq

/-- `PermissionOverride`. -/
structure PermissionOverride where
  action : OverrideAction
  permission : String
  deriving DecidableEq

/-- `AclRecord`. -/
structure AclRecord where
  principalPubkey : String
  appId : String
  role : String
  permissionOverrides : List PermissionOverride
  suspended : Bool
  suspendedReason : Option String
  deriving DecidableEq

namespace AclRecord

/-- The record as `suspend` leaves it. -/
def suspend (reason : Option String) (r : AclRecord) : AclRecord :=
  { r with suspended := true, suspendedReason := reason }

/-- The record as `unsuspend` leaves it. -/
def unsuspend (r : AclRecord) : AclRecord :=
  { r with suspended := false, suspendedReason := none }

@[simp] theorem suspend_suspended (reason : Option String) (r : AclRecord) :
    (r.suspend reason).suspended = true := rfl

@[simp] theorem suspend_role (reason : Option String) (r : AclRecord) :
    (r.suspend reason).role = r.role := rfl

@[simp] theorem unsuspend_role (r : AclRecord) : r.unsuspend.role = r.role := rfl

end AclRecord

/-- The writes of an ACL store. -/
inductive AclWrite where
  | upsert (record : AclRecord)
  | suspend (pubkey appId : String) (reason : Option String)
  | unsuspend (pubkey appId : String)
  deriving DecidableEq

namespace AclWrite

/-- The principal that a write concerns. -/
def pubkey : AclWrite → String
  | upsert record => record.principalPubkey
  | suspend pubkey _ _ => pubkey
  | unsuspend pubkey _ => pubkey

/-- The application that a write concerns. -/
def appId : AclWrite → String
  | upsert record => record.appId
  | suspend _ appId _ => appId
  | unsuspend _ appId => appId

/-- What a write makes of the record in its row. -/
def apply : AclWrite → Option AclRecord → Option AclRecord
  | upsert record, _ => some record
  | suspend _ _ reason, old => old.map (AclRecord.suspend reason)
  | unsuspend _ _, old => old.map AclRecord.unsuspend

@[simp] theorem apply_upsert (record : AclRecord) (old : Option AclRecord) :
    (upsert record).apply old = some record := rfl

/-- No write removes a record. -/
theorem apply_some (w : AclWrite) (r : AclRecord) : ∃ r', w.apply (some r) = some r' := by
  cases w <;> exact ⟨_, rfl⟩

end AclWrite

/-- An `AclStore`, with the names of its rows. -/
structure AclStore where
  State : Type
  init : State
  get : (pubkey appId : String) → State → Option AclRecord
  write : AclWrite → State → State
  Row : Type
  decEqRow : DecidableEq Row
  /-- The row of a principal of an application. -/
  row : (appId pubkey : String) → Row

instance (A : AclStore) : DecidableEq A.Row := A.decEqRow

/-- A write is to the row of a principal of an application. -/
def AclWrite.Concerns (A : AclStore) (w : AclWrite) (pubkey appId : String) : Prop :=
  A.row w.appId w.pubkey = A.row appId pubkey

instance (A : AclStore) (w : AclWrite) (pubkey appId : String) :
    Decidable (w.Concerns A pubkey appId) :=
  inferInstanceAs (Decidable (A.row w.appId w.pubkey = A.row appId pubkey))

/-- What the ACL stores have in common. -/
structure AclStore.Lawful (A : AclStore) : Prop where
  /-- The empty store holds nothing. -/
  get_init : ∀ pubkey appId, A.get pubkey appId A.init = none
  /-- A write changes the record in its row, and no other. -/
  get_write : ∀ w pubkey appId s, A.get pubkey appId (A.write w s) =
    if w.Concerns A pubkey appId then w.apply (A.get pubkey appId s) else A.get pubkey appId s
  /-- The principals of one application have rows of their own. -/
  row_inj : ∀ {appId pubkey pubkey'}, A.row appId pubkey = A.row appId pubkey' → pubkey = pubkey'

/-! ## The in-memory store -/

/-- `InMemoryAclStore`. -/
abbrev MemoryAcl : Type := JsMap AclRecord

namespace MemoryAcl

/-- The key of a record. -/
def row (appId pubkey : String) : String := appId ++ ":" ++ pubkey

/-- `get`. -/
def get (pubkey appId : String) (s : MemoryAcl) : Option AclRecord := s.lookup (row appId pubkey)

/-- `upsert`. -/
def upsert (record : AclRecord) (s : MemoryAcl) : MemoryAcl :=
  s.insert (row record.appId record.principalPubkey) record

/-- `suspend`. -/
def suspend (pubkey appId : String) (reason : Option String) (s : MemoryAcl) : MemoryAcl :=
  match s.lookup (row appId pubkey) with
  | none => s
  | some existing => s.insert (row appId pubkey) (existing.suspend reason)

/-- `unsuspend`. -/
def unsuspend (pubkey appId : String) (s : MemoryAcl) : MemoryAcl :=
  match s.lookup (row appId pubkey) with
  | none => s
  | some existing => s.insert (row appId pubkey) existing.unsuspend

/-- The in-memory ACL store. -/
def store : AclStore where
  State := MemoryAcl
  init := ∅
  get := get
  write
    | .upsert record => upsert record
    | .suspend pubkey appId reason => suspend pubkey appId reason
    | .unsuspend pubkey appId => unsuspend pubkey appId
  Row := String
  decEqRow := inferInstance
  row := row

theorem get_insert (pubkey appId key : String) (record : AclRecord) (s : MemoryAcl) :
    get pubkey appId (s.insert key record) =
      if key = row appId pubkey then some record else get pubkey appId s := by
  unfold get
  rw [JsMap.lookup_insert_eq]
  exact if_congr eq_comm rfl rfl

/-- A record that is there is changed in its row. -/
theorem get_change {f : AclRecord → AclRecord} {pubkey appId key : String} {s s' : MemoryAcl}
    (hnone : s.lookup key = none → s' = s)
    (hsome : ∀ existing, s.lookup key = some existing → s' = s.insert key (f existing)) :
    get pubkey appId s' =
      if key = row appId pubkey then (get pubkey appId s).map f else get pubkey appId s := by
  cases hs : s.lookup key with
  | none =>
    rw [hnone hs]
    split
    · rename_i hkey
      rw [get, ← hkey, hs]
      rfl
    · rfl
  | some existing =>
    rw [hsome existing hs, get_insert]
    split
    · rename_i hkey
      rw [get, ← hkey, hs]
      rfl
    · rfl

theorem get_suspend (pubkey' appId' : String) (reason : Option String) (pubkey appId : String)
    (s : MemoryAcl) : get pubkey appId (suspend pubkey' appId' reason s) =
      if row appId' pubkey' = row appId pubkey then (get pubkey appId s).map (·.suspend reason)
      else get pubkey appId s := by
  apply get_change
  · intro hs
    rw [suspend, hs]
  · intro existing hs
    rw [suspend, hs]

theorem get_unsuspend (pubkey' appId' pubkey appId : String) (s : MemoryAcl) :
    get pubkey appId (unsuspend pubkey' appId' s) =
      if row appId' pubkey' = row appId pubkey then (get pubkey appId s).map (·.unsuspend)
      else get pubkey appId s := by
  apply get_change
  · intro hs
    rw [unsuspend, hs]
  · intro existing hs
    rw [unsuspend, hs]

theorem store_lawful : store.Lawful where
  get_init _ _ := rfl
  get_write w pubkey appId s := by
    cases w with
    | upsert record => exact get_insert _ _ _ _ _
    | suspend pubkey' appId' reason => exact get_suspend pubkey' appId' reason pubkey appId s
    | unsuspend pubkey' appId' => exact get_unsuspend pubkey' appId' pubkey appId s
  row_inj h := (String.append_right_inj _).mp h

end MemoryAcl

/-! ## The Postgres store -/

/-- The rows of `nap_acl`. -/
abbrev PostgresAcl : Type := List AclRecord

namespace PostgresAcl

/-- The primary key of `nap_acl`. -/
def row (appId pubkey : String) : String × String := (appId, pubkey)

/-- The primary key of a row. -/
def key (r : AclRecord) : String × String := row r.appId r.principalPubkey

/-- `get`. -/
def get (pubkey appId : String) (s : PostgresAcl) : Option AclRecord :=
  s.find? fun r => key r = row appId pubkey

/-- `DO UPDATE SET`: every column but those of the primary key. -/
def update (excluded r : AclRecord) : AclRecord :=
  { r with
    role := excluded.role
    permissionOverrides := excluded.permissionOverrides
    suspended := excluded.suspended
    suspendedReason := excluded.suspendedReason }

/-- `upsert`. -/
def upsert (record : AclRecord) (s : PostgresAcl) : PostgresAcl :=
  if s.any fun r => key r = key record then
    SqlTable.updateWhere (fun r => key r = key record) (update record) s
  else s ++ [record]

/-- `suspend`. -/
def suspend (pubkey appId : String) (reason : Option String) (s : PostgresAcl) : PostgresAcl :=
  SqlTable.updateWhere (fun r => key r = row appId pubkey) (AclRecord.suspend reason) s

/-- `unsuspend`. -/
def unsuspend (pubkey appId : String) (s : PostgresAcl) : PostgresAcl :=
  SqlTable.updateWhere (fun r => key r = row appId pubkey) AclRecord.unsuspend s

/-- The Postgres ACL store. -/
def store : AclStore where
  State := PostgresAcl
  init := []
  get := get
  write
    | .upsert record => upsert record
    | .suspend pubkey appId reason => suspend pubkey appId reason
    | .unsuspend pubkey appId => unsuspend pubkey appId
  Row := String × String
  decEqRow := inferInstance
  row := row

/-- An update of one row changes the record in it. -/
theorem get_updateWhere {f : AclRecord → AclRecord} (hkey : ∀ r, key (f r) = key r)
    (k : String × String) (pubkey appId : String) (s : PostgresAcl) :
    get pubkey appId (SqlTable.updateWhere (fun r => key r = k) f s) =
      if k = row appId pubkey then (get pubkey appId s).map f else get pubkey appId s := by
  unfold get
  rw [SqlTable.find?_updateWhere hkey]
  cases hfind : s.find? fun r => key r = row appId pubkey with
  | none => simp
  | some r =>
    have hr : key r = row appId pubkey := by simpa using List.find?_some hfind
    simp only [Option.map_some, decide_eq_true_eq, hr, eq_comm (a := k)]
    split <;> rfl

/-- After an `upsert` the row holds what was given. -/
theorem get_upsert (record : AclRecord) (pubkey appId : String) (s : PostgresAcl) :
    get pubkey appId (upsert record s) =
      if key record = row appId pubkey then some record else get pubkey appId s := by
  unfold upsert
  split
  · rename_i hany
    rw [get_updateWhere (f := update record) fun _ => rfl]
    split
    · rename_i hkey
      obtain ⟨r, hmem, hr⟩ := List.any_eq_true.mp hany
      cases hfind : get pubkey appId s with
      | none =>
        have hnone := List.find?_eq_none.mp hfind r hmem
        exact absurd (decide_eq_true ((of_decide_eq_true hr).trans hkey)) hnone
      | some found =>
        -- What is not updated is the primary key, which is the same.
        have hfound : key found = row appId pubkey := by
          simpa using List.find?_some hfind
        obtain ⟨happ, hpubkey⟩ := Prod.mk.inj (hfound.trans hkey.symm)
        rw [Option.map_some, update, happ, hpubkey]
    · rfl
  · rename_i hany
    have hnone : s.find? (fun r => key r = key record) = none := by
      simpa using hany
    unfold get
    rw [SqlTable.find?_append_singleton key record hnone]
    exact if_congr eq_comm rfl rfl

theorem store_lawful : store.Lawful where
  get_init _ _ := rfl
  get_write w pubkey appId s := by
    cases w with
    | upsert record => exact get_upsert record pubkey appId s
    | suspend pubkey' appId' reason =>
      exact get_updateWhere (f := AclRecord.suspend reason) (fun _ => rfl) _ _ _ _
    | unsuspend pubkey' appId' =>
      exact get_updateWhere (f := AclRecord.unsuspend) (fun _ => rfl) _ _ _ _
  row_inj h := (Prod.mk.inj h).2

end PostgresAcl

/-- The ACL store of a backend. -/
def Backend.aclStore : Backend → AclStore
  | memory => MemoryAcl.store
  | postgres => PostgresAcl.store

theorem Backend.aclStore_lawful (b : Backend) : b.aclStore.Lawful := by
  cases b
  · exact MemoryAcl.store_lawful
  · exact PostgresAcl.store_lawful

end NapAuth

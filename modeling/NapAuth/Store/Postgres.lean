import NapAuth.SqlTable
import NapAuth.Store.Interface

/-!
# The Postgres stores

`PostgresChallengeStore` and `PostgresSessionStore` of `packages/nap-store-postgres/src/index.ts`,
over tables with the keys of the published schema. A statement is one step, and so is an operation
that makes two statements, with nothing in between. Columns are read back as they were written: the
application has told node-postgres to parse `BIGINT` columns as numbers, on which
`challenge_readBack_iff` and `session_readBack_iff` of `NapAuth.Store.Rows` depend.

Nothing is ever deleted, and a revoked session stays in its table. It is not handed out again:
every `SELECT` but that of `getByRefreshToken` has the condition `revoked_at IS NULL`, and so has
the `UPDATE` of `rotateRefreshToken`.

The unique keys on tokens are checked where a session is inserted. A rotation draws fresh tokens,
which violate no key.
-/

namespace NapAuth

open SqlTable (updateWhere)

/-! ## Challenges -/

/-- The table `nap_challenges`. -/
abbrev PostgresChallenges : Type := List ChallengeRecord

namespace PostgresChallenges

/-- `get`. -/
def get (challengeId : String) (rows : PostgresChallenges) : Option ChallengeRecord :=
  rows.find? fun r => r.challengeId = challengeId

/-- `create`: the `INSERT` names no other column, and throws when the id is taken. -/
def create (_now : ℤ) (record : ChallengeRecord) (rows : PostgresChallenges) :
    Bool × PostgresChallenges :=
  if (rows.get record.challengeId).isSome then (false, rows)
  else
    (true, rows ++ [{ record with redeemedEventId := none, redeemedSessionId := none,
                                  resultCacheUntil := none, failureCount := some 0 }])

/-- The condition of the `UPDATE` in `redeem`. -/
def redeemable (challengeId : String) (now : ℤ) (r : ChallengeRecord) : Bool :=
  decide (r.challengeId = challengeId) && decide (r.state = .issued) && decide (now < r.expiresAt)

/-- `redeem`. -/
def redeem (challengeId : String) (params : RedeemParams) (rows : PostgresChallenges) :
    RedeemStatus × PostgresChallenges :=
  let hit := redeemable challengeId params.now
  let updated := updateWhere hit (·.redeem params) rows
  if rows.countP hit = 1 then (.redeemed, updated)
  else
    match get challengeId updated with
    | none => (.notFound, updated)
    | some record =>
      if record.state = .expired ∨ record.expiresAt < params.now then (.expired, updated)
      else (.alreadyRedeemed, updated)

/-- The condition of the `UPDATE` in `markExpired`. -/
def overdue (now : ℤ) (r : ChallengeRecord) : Bool :=
  decide (r.state = .issued) && decide (r.expiresAt < now)

/-- `markExpired`. -/
def markExpired (now : ℤ) (rows : PostgresChallenges) : ℕ × PostgresChallenges :=
  (rows.countP (overdue now), updateWhere (overdue now) (fun r => { r with state := .expired }) rows)

/-- `countOutstanding`. -/
def countOutstanding (filter : OutstandingChallengeFilter) (rows : PostgresChallenges) : ℕ :=
  rows.countP fun r => decide (r.state = .issued) && decide (filter.now ≤ r.expiresAt) &&
    filter.npub.all (r.npub == ·) && filter.clientIp.all (r.clientIp == some ·)

/-- The condition of the `UPDATE` in `recordFailure`. -/
def countable (challengeId : String) (r : ChallengeRecord) : Bool :=
  decide (r.challengeId = challengeId) && decide (r.state = .issued)

/-- The `SET` of the `UPDATE` in `recordFailure`. -/
def countFailure (maxFailures : ℤ) (r : ChallengeRecord) : ChallengeRecord :=
  { r with
    failureCount := some (r.failureCount.getD 0 + 1)
    state := if r.failureCount.getD 0 + 1 ≥ maxFailures then .failedTerminal else r.state }

/-- `recordFailure`. -/
def recordFailure (challengeId : String) (_now maxFailures : ℤ) (rows : PostgresChallenges) :
    Option RecordChallengeFailureResult × PostgresChallenges :=
  ((rows.find? (countable challengeId)).map fun r =>
      ⟨(countFailure maxFailures r).failureCount.getD 0, (countFailure maxFailures r).state⟩,
    updateWhere (countable challengeId) (countFailure maxFailures) rows)

/-- The store. -/
def store : ChallengeStore where
  State := PostgresChallenges
  init := []
  create
  get
  redeem
  markExpired
  countOutstanding
  recordFailure

/-- `challenge_id` is a key. -/
def WF (rows : PostgresChallenges) : Prop :=
  rows.Pairwise fun a b => a.challengeId ≠ b.challengeId

section Lawful

variable {rows : PostgresChallenges} {id : String} {r : ChallengeRecord}

theorem get_id (hr : rows.get id = some r) : r.challengeId = id := by
  simpa using List.find?_some hr

/-- An update that keeps the ids keeps the key. -/
theorem WF.updateWhere (h : rows.WF) {p : ChallengeRecord → Bool}
    {f : ChallengeRecord → ChallengeRecord} (hkey : ∀ r, (f r).challengeId = r.challengeId) :
    WF (SqlTable.updateWhere p f rows) := by
  refine List.pairwise_map.mpr (h.imp fun {a b} hne => ?_)
  split <;> split <;> simpa [hkey] using hne

/-- What an update makes of the record under an id. -/
theorem get_updateWhere {p : ChallengeRecord → Bool} {f : ChallengeRecord → ChallengeRecord}
    (hkey : ∀ r, (f r).challengeId = r.challengeId) (rows : PostgresChallenges) (id : String) :
    get id (SqlTable.updateWhere p f rows) =
      (rows.get id).map fun r => if p r then f r else r :=
  SqlTable.find?_updateWhere hkey rows id

/-- An update changes the record under each id as it changes the row. -/
theorem change_updateWhere {op : ChallengeOp} {p : ChallengeRecord → Bool}
    {f : ChallengeRecord → ChallengeRecord} (hkey : ∀ r, (f r).challengeId = r.challengeId)
    (hchange : ∀ r ∈ rows, p r = true → ChallengeChange op r.challengeId (some r) (some (f r)))
    (id : String) : ChallengeChange op id (rows.get id)
      (get id (SqlTable.updateWhere p f rows)) := by
  rw [get_updateWhere hkey]
  cases hr : rows.get id with
  | none => exact .same
  | some r =>
    rw [Option.map_some]
    split
    · rename_i hp
      exact get_id hr ▸ hchange r (List.mem_of_find?_eq_some hr) hp
    · exact .same

/-- At most one row has an id. -/
theorem WF.unique (h : rows.WF) {a b : ChallengeRecord} (ha : a ∈ rows) (hb : b ∈ rows)
    (heq : a.challengeId = b.challengeId) : a = b := by
  have hsymm : Std.Symm fun a b : ChallengeRecord => a.challengeId ≠ b.challengeId :=
    ⟨fun _ _ => Ne.symm⟩
  by_contra hne
  exact List.Pairwise.forall h ha hb hne heq

/-- A row is found under its id. -/
theorem WF.get_of_mem (h : rows.WF) (hr : r ∈ rows) : rows.get r.challengeId = some r := by
  refine (SqlTable.find?_eq_some_iff fun a ha b hb hqa hqb => ?_).mpr ⟨hr, by simp⟩
  simp only [decide_eq_true_eq] at hqa hqb
  exact h.unique ha hb (hqa.trans hqb.symm)

/-- As many rows are redeemable under one id as are found. -/
theorem countP_redeemable (h : rows.WF) (id : String) (now : ℤ) :
    rows.countP (redeemable id now) = 1 ↔
      ∃ r, rows.get id = some r ∧ r.state = .issued ∧ now < r.expiresAt := by
  rw [SqlTable.countP_eq_one_iff]
  · constructor
    · rintro ⟨r, hmem, hr⟩
      simp only [redeemable, Bool.and_eq_true, decide_eq_true_eq] at hr
      exact ⟨r, hr.1.1 ▸ h.get_of_mem hmem, hr.1.2, hr.2⟩
    · rintro ⟨r, hr, hissued, halive⟩
      refine ⟨r, List.mem_of_find?_eq_some hr, ?_⟩
      simp [redeemable, get_id hr, hissued, halive]
  · refine h.imp fun {a b} hne hhit => ?_
    simp only [redeemable, Bool.and_eq_true, decide_eq_true_eq] at hhit
    exact hne (hhit.1.1.1.trans hhit.2.1.1.symm)

/-- What `redeem` does, and when it answers that it has redeemed. -/
theorem redeem_eq (h : rows.WF) (id : String) (params : RedeemParams) :
    (rows.redeem id params).2 = SqlTable.updateWhere (redeemable id params.now)
      (·.redeem params) rows ∧
    ((rows.redeem id params).1 = .redeemed ↔
      ∃ r, rows.get id = some r ∧ r.state = .issued ∧ params.now < r.expiresAt) := by
  rw [← countP_redeemable h]
  simp only [redeem]
  split_ifs with hcount
  · simp [hcount]
  · split
    · simp [hcount]
    · split_ifs <;> simp [hcount]

/-- What an update of the row under one id leaves under each id. -/
theorem get_updateAt {p q : ChallengeRecord → Bool} {f : ChallengeRecord → ChallengeRecord}
    (hkey : ∀ r, (f r).challengeId = r.challengeId) {id : String}
    (hp : ∀ r, p r = (decide (r.challengeId = id) && q r)) (rows : PostgresChallenges)
    (id' : String) : get id' (SqlTable.updateWhere p f rows) =
      (rows.get id').map fun r => if id' = id then (if q r then f r else r) else r := by
  rw [get_updateWhere hkey]
  cases hr : rows.get id' with
  | none => rfl
  | some r =>
    have hid : r.challengeId = id' := get_id hr
    rw [Option.map_some, Option.map_some, hp, hid]
    by_cases hid' : id' = id <;> simp [hid']

/-- What `redeem` leaves under each id. -/
theorem get_redeem (h : rows.WF) (id : String) (params : RedeemParams) (id' : String) :
    (rows.redeem id params).2.get id' = (rows.get id').map fun r => if id' = id then
      (if decide (r.state = .issued) && decide (params.now < r.expiresAt) then r.redeem params
        else r) else r := by
  have hkey : ∀ r : ChallengeRecord, (r.redeem params).challengeId = r.challengeId := fun _ => rfl
  rw [(redeem_eq h id params).1]
  exact get_updateAt hkey (fun r => by rw [redeemable, Bool.and_assoc]) rows id'

/-- What `markExpired` leaves under each id. -/
theorem get_markExpired (rows : PostgresChallenges) (now : ℤ) (id : String) :
    (rows.markExpired now).2.get id = (rows.get id).map fun r =>
      if overdue now r then { r with state := .expired } else r := by
  have hkey : ∀ r : ChallengeRecord,
      ({ r with state := .expired } : ChallengeRecord).challengeId = r.challengeId := fun _ => rfl
  exact get_updateWhere hkey rows id

/-- What `recordFailure` leaves under each id. -/
theorem get_recordFailure (rows : PostgresChallenges) (id : String) (now maxFailures : ℤ)
    (id' : String) : (rows.recordFailure id now maxFailures).2.get id' =
      (rows.get id').map fun r => if id' = id then
        (if decide (r.state = .issued) then countFailure maxFailures r else r) else r := by
  have hkey : ∀ r, (countFailure maxFailures r).challengeId = r.challengeId := fun _ => rfl
  exact get_updateAt hkey (fun _ => rfl) rows id'

/-- What `redeem` answers, by the row under the id. -/
theorem redeem_status (h : rows.WF) (id : String) (params : RedeemParams) :
    (rows.redeem id params).1 = match rows.get id with
      | none => .notFound
      | some r =>
        if r.state = .issued ∧ params.now < r.expiresAt then .redeemed
        else if r.state = .expired ∨ r.expiresAt < params.now then .expired
        else .alreadyRedeemed := by
  have hkey : ∀ r : ChallengeRecord, (r.redeem params).challengeId = r.challengeId := fun _ => rfl
  unfold redeem
  simp only [countP_redeemable h, get_updateWhere hkey]
  cases hr : rows.get id with
  | none => simp
  | some r =>
    by_cases hhit : r.state = .issued ∧ params.now < r.expiresAt
    · simp [hhit]
    · have hmiss : redeemable id params.now r = false := by
        rw [Bool.eq_false_iff]
        intro hq
        simp only [redeemable, Bool.and_eq_true, decide_eq_true_eq] at hq
        exact hhit ⟨hq.1.2, hq.2⟩
      simp only [Option.some.injEq, exists_eq_left', if_neg hhit, Option.map_some, hmiss,
        Bool.false_eq_true, if_false]
      split_ifs <;> rfl

/-- Inserting a row under a new id keeps the key. -/
theorem WF.append (h : rows.WF) (hnone : rows.get r.challengeId = none) : WF (rows ++ [r]) := by
  refine List.pairwise_append.mpr ⟨h, List.pairwise_singleton _ _, ?_⟩
  intro a ha b hb heq
  obtain rfl := List.mem_singleton.mp hb
  exact absurd (by simpa using heq) (List.find?_eq_none.mp hnone a ha)

/-- `create` under a new id. -/
theorem create_spec {now : ℤ} {record : ChallengeRecord} (h : rows.WF)
    (hnone : rows.get record.challengeId = none) (hnew : record.IsNew) :
    (rows.create now record).2.WF ∧ ∀ id, ChallengeChange
      (.create now record (rows.create now record).1) id (rows.get id)
      ((rows.create now record).2.get id) := by
  simp only [create, hnone, Option.isSome_none, Bool.false_eq_true, if_false]
  refine ⟨?_, fun id => ?_⟩
  · exact h.append hnone
  · have hfind := SqlTable.find?_append_singleton ChallengeRecord.challengeId
      { record with redeemedEventId := none, redeemedSessionId := none,
                    resultCacheUntil := none, failureCount := some 0 } hnone id
    simp only [get] at hfind hnone ⊢
    rw [hfind]
    split
    · rename_i hid
      rw [hid, hnone]
      exact .created rfl ⟨hnew.state, rfl, rfl, rfl⟩
    · exact .same

/-- `redeem`, row by row. -/
theorem redeem_spec (h : rows.WF) (id : String) (params : RedeemParams) :
    (rows.redeem id params).2.WF ∧ ∀ id', ChallengeChange
      (.redeem id params (rows.redeem id params).1) id' (rows.get id')
      ((rows.redeem id params).2.get id') := by
  obtain ⟨heq, hstatus⟩ := redeem_eq h id params
  rw [heq]
  have hkey : ∀ r : ChallengeRecord, (r.redeem params).challengeId = r.challengeId := fun _ => rfl
  refine ⟨h.updateWhere hkey, fun id' => change_updateWhere hkey ?_ id'⟩
  intro r hr hhit
  simp only [redeemable, Bool.and_eq_true, decide_eq_true_eq] at hhit
  obtain ⟨⟨rfl, hissued⟩, halive⟩ := hhit
  rw [hstatus.mpr ⟨r, h.get_of_mem hr, hissued, halive⟩]
  exact .redeemed hissued (le_of_lt halive)

/-- `redeem` answers `redeemed` only when it has redeemed. -/
theorem redeem_redeemed {params : RedeemParams} (h : rows.WF)
    (hredeemed : (rows.redeem id params).1 = .redeemed) : ∃ r, rows.get id = some r ∧
      r.state = .issued ∧ params.now ≤ r.expiresAt ∧
      (rows.redeem id params).2.get id = some (r.redeem params) := by
  obtain ⟨heq, hstatus⟩ := redeem_eq h id params
  obtain ⟨r, hr, hissued, halive⟩ := hstatus.mp hredeemed
  have hkey : ∀ r : ChallengeRecord, (r.redeem params).challengeId = r.challengeId := fun _ => rfl
  have hhit : redeemable id params.now r = true := by
    simp [redeemable, get_id hr, hissued, halive]
  refine ⟨r, hr, hissued, le_of_lt halive, ?_⟩
  rw [heq, get_updateWhere hkey, hr, Option.map_some, if_pos hhit]

/-- A second attempt before the challenge's end is told so. -/
theorem redeem_again {params : RedeemParams} (h : rows.WF) (hr : rows.get id = some r)
    (hstate : r.state = .redeemed) (halive : params.now ≤ r.expiresAt) :
    (rows.redeem id params).1 = .alreadyRedeemed := by
  have hkey : ∀ r : ChallengeRecord, (r.redeem params).challengeId = r.challengeId := fun _ => rfl
  have hmiss : ¬ rows.countP (redeemable id params.now) = 1 := by
    rw [countP_redeemable h]
    rintro ⟨r', hr', hissued, -⟩
    rw [hr] at hr'
    rw [Option.some.inj hr', hissued] at hstate
    cases hstate
  have hget : get id (SqlTable.updateWhere (redeemable id params.now) (·.redeem params) rows) =
      some r := by
    rw [get_updateWhere hkey, hr, Option.map_some, if_neg]
    simp [redeemable, hstate]
  have hlate : ¬ (r.state = .expired ∨ r.expiresAt < params.now) := by
    rw [hstate]
    simpa using halive
  simp only [redeem, if_neg hmiss, hget, if_neg hlate]

/-- `markExpired` marks what is overdue. -/
theorem markExpired_spec (h : rows.WF) (now : ℤ) : (rows.markExpired now).2.WF ∧ ∀ id,
    ChallengeChange (.markExpired now) id (rows.get id) ((rows.markExpired now).2.get id) := by
  refine ⟨h.updateWhere fun _ => rfl, change_updateWhere (fun _ => rfl) ?_⟩
  intro r _ hover
  simp only [overdue, Bool.and_eq_true, decide_eq_true_eq] at hover
  exact .expired hover.1 hover.2

/-- `recordFailure` counts on an issued challenge. -/
theorem recordFailure_spec (h : rows.WF) (id : String) (now maxFailures : ℤ) :
    (rows.recordFailure id now maxFailures).2.WF ∧ ∀ id', ChallengeChange (.recordFailure id) id'
      (rows.get id') ((rows.recordFailure id now maxFailures).2.get id') := by
  have hkey : ∀ r, (countFailure maxFailures r).challengeId = r.challengeId := fun _ => rfl
  refine ⟨h.updateWhere hkey, change_updateWhere hkey ?_⟩
  intro r _ hhit
  simp only [countable, Bool.and_eq_true, decide_eq_true_eq] at hhit
  obtain ⟨rfl, hissued⟩ := hhit
  refine .failed hissued ?_
  split
  · exact Or.inr rfl
  · exact Or.inl hissued

/-- What `recordFailure` answers, by the row under the id. -/
theorem recordFailure_answer (h : rows.WF) (id : String) (now maxFailures : ℤ) :
    (rows.recordFailure id now maxFailures).1 =
      ((rows.get id).filter fun r => r.state = .issued).map fun r =>
        ⟨(countFailure maxFailures r).failureCount.getD 0, (countFailure maxFailures r).state⟩ := by
  have hfind : rows.find? (countable id) = (rows.get id).filter fun r => r.state = .issued := by
    refine Option.ext fun r => ?_
    rw [SqlTable.find?_eq_some_iff, Option.filter_eq_some_iff]
    · simp only [countable, Bool.and_eq_true, decide_eq_true_eq]
      constructor
      · rintro ⟨hmem, rfl, hissued⟩
        exact ⟨h.get_of_mem hmem, hissued⟩
      · rintro ⟨hr, hissued⟩
        exact ⟨List.mem_of_find?_eq_some hr, get_id hr, hissued⟩
    · intro a ha b hb hqa hqb
      simp only [countable, Bool.and_eq_true, decide_eq_true_eq] at hqa hqb
      exact h.unique ha hb (hqa.1.trans hqb.1.symm)
  rw [recordFailure, hfind]

/-- The Postgres challenge store is lawful. -/
theorem store_lawful : store.Lawful WF where
  wf_init := List.Pairwise.nil
  get_init := fun _ => rfl
  get_id := fun _ hr => get_id hr
  create := create_spec
  redeem := fun h => redeem_spec h _ _
  redeem_redeemed := redeem_redeemed
  redeem_again := redeem_again
  markExpired := fun h => markExpired_spec h _
  recordFailure := fun {_ _ now _} h => recordFailure_spec h _ now _

/-- The Postgres store counts the challenges that it holds. -/
theorem store_counts : store.Counts WF := by
  intro rows filter h
  have hcount := SqlTable.encard_keys (List.pairwise_map.mpr h) fun r =>
    decide (r.state = .issued) && decide (filter.now ≤ r.expiresAt) &&
      filter.npub.all (r.npub == ·) && filter.clientIp.all (r.clientIp == some ·)
  refine hcount.symm.trans (congrArg _ (Set.ext fun id => ?_))
  simp only [Set.mem_ofPred_eq]
  constructor
  · rintro ⟨r, hr, rfl, hq⟩
    simp only [Bool.and_eq_true, decide_eq_true_eq, Option.all_eq_true, beq_iff_eq] at hq
    exact ⟨r, h.get_of_mem hr, hq.1.1.1, hq.1.1.2, hq.1.2, hq.2⟩
  · rintro ⟨r, hr, hmatch⟩
    refine ⟨r, List.mem_of_find?_eq_some hr, get_id hr, ?_⟩
    simp only [Bool.and_eq_true, decide_eq_true_eq, Option.all_eq_true, beq_iff_eq]
    exact ⟨⟨⟨hmatch.issued, hmatch.alive⟩, hmatch.npub⟩, hmatch.clientIp⟩

/-- The Postgres store counts failures from zero, and one by one. -/
theorem store_tallies : store.Tallies WF where
  create := by
    intro (rows : PostgresChallenges) now record r _ hnone _ hr
    have hfind := SqlTable.find?_append_singleton ChallengeRecord.challengeId
      { record with redeemedEventId := none, redeemedSessionId := none,
                    resultCacheUntil := none, failureCount := some 0 } hnone record.challengeId
    have hnone' : rows.get record.challengeId = none := hnone
    have hget : (PostgresChallenges.create now record rows).2.get record.challengeId = some r := hr
    simp only [create, hnone', Option.isSome_none, Bool.false_eq_true, if_false] at hget
    rw [if_pos rfl] at hfind
    rw [← Option.some.inj (hfind.symm.trans hget), Option.getD_some]
  recordFailure := by
    intro (rows : PostgresChallenges) id now maxFailures r _ hr hissued
    have hget := get_recordFailure rows id now maxFailures id
    have hr' : rows.get id = some r := hr
    rw [hr', Option.map_some, if_pos rfl, if_pos (decide_eq_true hissued)] at hget
    exact hget

end Lawful

end PostgresChallenges

/-! ## Sessions -/

/-- The table `nap_sessions`. -/
abbrev PostgresSessions : Type := List SessionRecord

namespace PostgresSessions

/-- `revoked_at IS NULL`. -/
def unrevoked (r : SessionRecord) : Bool := r.revokedAt.isNone

/-- `findBy`, over any column. -/
def findBy (column : SessionRecord → String) (value : String) (rows : PostgresSessions) :
    Option SessionRecord :=
  rows.find? fun r => decide (column r = value) && unrevoked r

/-- Whether an `INSERT` would violate a unique key besides that on `challenge_id`. -/
def conflicts (record r : SessionRecord) : Bool :=
  decide (r.sessionId = record.sessionId) || decide (r.accessToken = record.accessToken) ||
    (record.refreshToken.isSome && decide (r.refreshToken = record.refreshToken))

/-- `createForChallenge`: `ON CONFLICT (challenge_id) DO NOTHING`, and then the row that is there is
read. It throws when that row is revoked, or when another key is violated. -/
def createForChallenge (_now : ℤ) (record : SessionRecord) (rows : PostgresSessions) :
    Option SessionRecord × PostgresSessions :=
  if rows.any fun r => r.challengeId = record.challengeId then
    (rows.findBy SessionRecord.challengeId record.challengeId, rows)
  else if rows.any (conflicts record) then (none, rows)
  else (some record, rows ++ [{ record with revokedAt := none, previousRefreshToken := none }])

/-- `getBySessionId`. -/
def getBySessionId (sessionId : String) (rows : PostgresSessions) : Option SessionRecord :=
  rows.findBy SessionRecord.sessionId sessionId

/-- `getByAccessToken`. -/
def getByAccessToken (_now : ℤ) (token : String) (rows : PostgresSessions) :
    Option SessionRecord × PostgresSessions :=
  (rows.findBy SessionRecord.accessToken token, rows)

/-- `revokeBySessionId`. -/
def revokeBySessionId (sessionId : String) (now : ℤ) (rows : PostgresSessions) :
    PostgresSessions :=
  updateWhere (fun r => decide (r.sessionId = sessionId) && unrevoked r) (·.stamp (some now)) rows

/-- The condition of the `UPDATE` in `revokeByPrincipal`. -/
def heldBy (pubkey : String) (r : SessionRecord) : Bool :=
  decide (r.principalPubkey = pubkey) && unrevoked r

/-- `revokeByPrincipal`. -/
def revokeByPrincipal (pubkey : String) (now : ℤ) (rows : PostgresSessions) :
    ℕ × PostgresSessions :=
  (rows.countP (heldBy pubkey), updateWhere (heldBy pubkey) (·.stamp (some now)) rows)

/-- `getByRefreshToken`, which does not ask whether the row is revoked. -/
def getByRefreshToken (token : String) (rows : PostgresSessions) : Option SessionRecord :=
  rows.find? fun r =>
    decide (r.refreshToken = some token) || decide (r.previousRefreshToken = some token)

/-- The condition of the `UPDATE` in `rotateRefreshToken`. -/
def rotatable (sessionId : String) (params : RotateRefreshTokenParams) (r : SessionRecord) :
    Bool :=
  decide (r.sessionId = sessionId) &&
    decide (r.refreshToken = some params.expectedRefreshToken) && unrevoked r

/-- `rotateRefreshToken`. -/
def rotateRefreshToken (sessionId : String) (params : RotateRefreshTokenParams)
    (rows : PostgresSessions) : Option SessionRecord × PostgresSessions :=
  ((rows.find? (rotatable sessionId params)).map (·.rotate params),
    updateWhere (rotatable sessionId params) (·.rotate params) rows)

/-- The store. -/
def store : SessionStore where
  State := PostgresSessions
  init := []
  createForChallenge
  getBySessionId
  getByAccessToken
  revokeBySessionId
  revokeByPrincipal
  getByRefreshToken
  rotateRefreshToken

/-! ### The keys -/

/-- Two rows have no key in common, and no refresh token. -/
structure Apart (a b : SessionRecord) : Prop where
  sessionId : a.sessionId ≠ b.sessionId
  challengeId : a.challengeId ≠ b.challengeId
  accessToken : a.accessToken ≠ b.accessToken
  refreshToken : ∀ t, a.HasRefreshToken t → ¬ b.HasRefreshToken t

theorem Apart.symm {a b : SessionRecord} (h : Apart a b) : Apart b a :=
  ⟨h.sessionId.symm, h.challengeId.symm, h.accessToken.symm, fun t hb ha => h.refreshToken t ha hb⟩

/-- The keys of the table, and what fresh tokens add to them. -/
def WF (rows : PostgresSessions) : Prop := rows.Pairwise Apart

/-- The row with a session id. -/
def row (rows : PostgresSessions) : SessionRows := fun id => rows.find? fun r => r.sessionId = id

/-- The row for a challenge. -/
def found (_now : ℤ) (challengeId : String) (rows : PostgresSessions) : Option SessionRecord :=
  rows.find? fun r => r.challengeId = challengeId

/-- What the store's states stand for. Revoked rows are not visible. -/
def view : store.View where
  WF
  rows := row
  found
  visible := unrevoked

section Lawful

variable {rows : PostgresSessions} {id : String} {r : SessionRecord}

/-- Two rows with a common key are the same. -/
theorem WF.unique (h : rows.WF) {a b : SessionRecord} (ha : a ∈ rows) (hb : b ∈ rows)
    (hnot : ¬ Apart a b) : a = b := by
  have hsymm : Std.Symm Apart := ⟨fun _ _ => Apart.symm⟩
  by_contra hne
  exact hnot (List.Pairwise.forall h ha hb hne)

/-- The row under an id is the row of the table that has it. -/
theorem WF.row_eq_some (h : rows.WF) : rows.row id = some r ↔ r ∈ rows ∧ r.sessionId = id := by
  unfold row
  rw [SqlTable.find?_eq_some_iff fun a ha b hb hqa hqb => h.unique ha hb fun hap =>
    hap.sessionId (by simp only [decide_eq_true_eq] at hqa hqb; exact hqa.trans hqb.symm)]
  simp

/-- `findBy` on a key finds the visible row with the value. -/
theorem WF.findBy_eq_some (h : rows.WF) {column : SessionRecord → String}
    (hkey : ∀ a b, Apart a b → column a ≠ column b) {value : String} :
    rows.findBy column value = some r ↔
      (r ∈ rows ∧ column r = value) ∧ unrevoked r = true := by
  unfold findBy
  rw [SqlTable.find?_eq_some_iff]
  · simp [and_assoc]
  · intro a ha b hb hqa hqb
    simp only [Bool.and_eq_true, decide_eq_true_eq] at hqa hqb
    exact h.unique ha hb fun hap => hkey a b hap (hqa.1.trans hqb.1.symm)

/-- An update that keeps ids changes the row under each id as it changes the table. -/
theorem row_updateWhere {p : SessionRecord → Bool} {f : SessionRecord → SessionRecord}
    (hkey : ∀ r, (f r).sessionId = r.sessionId) (rows : PostgresSessions) (id : String) :
    row (updateWhere p f rows) id = (rows.row id).map fun r => if p r then f r else r :=
  SqlTable.find?_updateWhere hkey rows id

/-- What an `UPDATE` of `revoked_at` makes of the row under an id. -/
theorem row_stamp (p : SessionRecord → Bool) (t : Option ℤ) (rows : PostgresSessions)
    (id : String) : row (updateWhere p (·.stamp t) rows) id =
      (rows.row id).map fun r => if p r then r.stamp t else r := by
  have hkey : ∀ r : SessionRecord, (r.stamp t).sessionId = r.sessionId := fun _ => rfl
  exact row_updateWhere hkey rows id

/-- What the `UPDATE` of `rotateRefreshToken` makes of the row under an id. -/
theorem row_rotate (params : RotateRefreshTokenParams) (rows : PostgresSessions)
    (id id' : String) : (rows.rotateRefreshToken id params).2.row id' =
      (rows.row id').map fun r => if rotatable id params r then r.rotate params else r := by
  have hkey : ∀ r : SessionRecord, (r.rotate params).sessionId = r.sessionId := fun _ => rfl
  exact row_updateWhere hkey rows id'

/-- Setting `revoked_at` keeps the keys. -/
theorem WF.stamp (h : rows.WF) (p : SessionRecord → Bool) (t : Option ℤ) :
    WF (updateWhere p (·.stamp t) rows) := by
  refine List.pairwise_map.mpr (h.imp fun {a b} hap => ?_)
  split <;> split <;> exact ⟨hap.sessionId, hap.challengeId, hap.accessToken, hap.refreshToken⟩

/-- What is fresh for the rows occurs in none of them. -/
theorem WF.fresh (h : rows.WF) {t : String} (hfresh : rows.row.Fresh t) (hr : r ∈ rows) :
    r.sessionId ≠ t ∧ r.accessToken ≠ t ∧ ¬ r.HasRefreshToken t := by
  have hnot := hfresh.2 r.sessionId r (h.row_eq_some.mpr ⟨hr, rfl⟩)
  simp only [SessionRecord.mem_keys, not_or] at hnot
  exact ⟨Ne.symm hnot.1, Ne.symm hnot.2.1, hnot.2.2⟩

/-- A new row has no key in common with the others, but perhaps its challenge. -/
theorem WF.apart_new (h : rows.WF) {record : SessionRecord} (hnew : record.IsNew rows.row)
    (hr : r ∈ rows) (hchallenge : r.challengeId ≠ record.challengeId) : Apart r record := by
  refine ⟨(h.fresh (hnew.fresh _ (by simp)) hr).1, hchallenge,
    (h.fresh (hnew.fresh _ (by simp)) hr).2.1, fun t ht ht' => ?_⟩
  exact (h.fresh (hnew.fresh t (by simp [ht'])) hr).2.2 ht

/-- Inserting a new row violates no other key. -/
theorem WF.conflicts_new (h : rows.WF) {record : SessionRecord} (hnew : record.IsNew rows.row) :
    rows.any (conflicts record) = false := by
  refine List.any_eq_false.mpr fun r hr hconflict => ?_
  simp only [conflicts, Bool.or_eq_true, Bool.and_eq_true, decide_eq_true_eq] at hconflict
  rcases hconflict with (hid | htoken) | ⟨hsome, htoken⟩
  · exact (h.fresh (hnew.fresh _ (by simp)) hr).1 hid
  · exact (h.fresh (hnew.fresh _ (by simp)) hr).2.1 htoken
  · obtain ⟨t, ht⟩ := Option.isSome_iff_exists.mp hsome
    have hfresh := hnew.fresh t (by simp [SessionRecord.HasRefreshToken, ht])
    exact (h.fresh hfresh hr).2.2 (Or.inl (htoken.trans ht))

/-- What `createForChallenge` does with a new record, by what it finds. -/
theorem createForChallenge_eq (h : rows.WF) {now : ℤ} {record : SessionRecord}
    (hnew : record.IsNew rows.row) : rows.createForChallenge now record =
      match rows.found now record.challengeId with
      | some existing => (if unrevoked existing then some existing else none, rows)
      | none => (some record, rows ++ [record]) := by
  unfold createForChallenge
  cases hfound : rows.found now record.challengeId with
  | some existing =>
    have hmem := List.mem_of_find?_eq_some hfound
    have hchallenge : existing.challengeId = record.challengeId := by
      simpa using List.find?_some hfound
    have hany : (rows.any fun r => r.challengeId = record.challengeId) = true :=
      List.any_eq_true.mpr ⟨existing, hmem, by simpa using hchallenge⟩
    rw [if_pos hany]
    congr 1
    refine Option.ext fun r => ?_
    rw [h.findBy_eq_some fun _ _ => Apart.challengeId]
    split
    · rename_i hun
      rw [Option.some.injEq]
      constructor
      · rintro ⟨⟨hr, hc⟩, -⟩
        exact (h.unique hr hmem fun hap => hap.challengeId (hc.trans hchallenge.symm)).symm
      · rintro rfl
        exact ⟨⟨hmem, hchallenge⟩, hun⟩
    · rename_i hun
      simp only [reduceCtorEq, iff_false, not_and]
      rintro ⟨hr, hc⟩
      rwa [h.unique hr hmem fun hap => hap.challengeId (hc.trans hchallenge.symm)]
  | none =>
    have hany : ¬ (rows.any fun r => r.challengeId = record.challengeId) = true := by
      rw [List.any_eq_true]
      rintro ⟨r, hr, hc⟩
      exact List.find?_eq_none.mp hfound r hr hc
    have hrecord : { record with revokedAt := none, previousRefreshToken := none } = record := by
      rw [← hnew.revokedAt, ← hnew.previousRefreshToken]
    rw [if_neg hany, if_neg (by rw [h.conflicts_new hnew]; simp), hrecord]

/-- `createForChallenge` where no row is found. -/
theorem append_spec (h : rows.WF) {now : ℤ} {record : SessionRecord}
    (hnew : record.IsNew rows.row) (hfound : rows.found now record.challengeId = none) :
    WF (rows ++ [record]) ∧ rows.row record.sessionId = none ∧
      ∀ id, row (rows ++ [record]) id =
        if id = record.sessionId then some record else rows.row id := by
  have hnone : rows.row record.sessionId = none := by
    rw [Option.eq_none_iff_forall_ne_some]
    intro r hr
    obtain ⟨hmem, hid⟩ := h.row_eq_some.mp hr
    exact (h.fresh (hnew.fresh record.sessionId (by simp)) hmem).1 hid
  refine ⟨List.pairwise_append.mpr ⟨h, List.pairwise_singleton _ _, ?_⟩, hnone,
    fun id => SqlTable.find?_append_singleton SessionRecord.sessionId record hnone id⟩
  intro a ha b hb
  obtain rfl := List.mem_singleton.mp hb
  exact h.apart_new hnew ha (by simpa using List.find?_eq_none.mp hfound a ha)

/-- `createForChallenge`, row by row. -/
theorem create_spec {now : ℤ} {record : SessionRecord} (h : rows.WF)
    (hnew : record.IsNew rows.row) : (rows.createForChallenge now record).2.WF ∧ ∀ id,
      SessionChange unrevoked (.create now record (rows.createForChallenge now record).1) id
        (rows.row id) ((rows.createForChallenge now record).2.row id) := by
  rw [createForChallenge_eq h hnew]
  cases hfound : rows.found now record.challengeId with
  | some existing => exact ⟨h, fun _ => .same⟩
  | none =>
    obtain ⟨hwf, hnone, hrow⟩ := append_spec h hnew hfound
    refine ⟨hwf, fun id => ?_⟩
    simp only [hrow]
    split
    · rename_i hid
      rw [hid, hnone]
      exact .created
    · exact .same

/-- Where a row is found for the challenge, it is handed back if it is not revoked. -/
theorem create_found (now : ℤ) {record : SessionRecord} (h : rows.WF)
    (hnew : record.IsNew rows.row) (hfound : rows.found now record.challengeId = some r) :
    r.challengeId = record.challengeId ∧ rows.row r.sessionId = some r ∧
      (rows.createForChallenge now record).2.row r.sessionId = some r ∧
      (rows.createForChallenge now record).1 = if unrevoked r then some r else none := by
  have hrow : rows.row r.sessionId = some r :=
    h.row_eq_some.mpr ⟨List.mem_of_find?_eq_some hfound, rfl⟩
  rw [createForChallenge_eq h hnew, hfound]
  exact ⟨by simpa using List.find?_some hfound, hrow, hrow, rfl⟩

/-- Where no row is found for the challenge, the new one is stored. -/
theorem create_new (now : ℤ) {record : SessionRecord} (h : rows.WF)
    (hnew : record.IsNew rows.row) (hfound : rows.found now record.challengeId = none) :
    (rows.createForChallenge now record).1 = some record ∧
      (rows.createForChallenge now record).2.row record.sessionId = some record := by
  obtain ⟨-, -, hrow⟩ := append_spec h hnew hfound
  rw [createForChallenge_eq h hnew, hfound]
  exact ⟨rfl, by simp [hrow]⟩

/-- Afterwards, the only row for the challenge is the one that was found, or the new one. -/
theorem create_only (now : ℤ) {record : SessionRecord} (h : rows.WF)
    (hnew : record.IsNew rows.row) (hr : (rows.createForChallenge now record).2.row id = some r)
    (hchallenge : r.challengeId = record.challengeId) :
    rows.found now record.challengeId = some r ∨ r = record := by
  have hfind : rows.row id = some r → rows.found now record.challengeId = some r := by
    intro hr
    refine (SqlTable.find?_eq_some_iff fun a ha b hb hqa hqb => ?_).mpr
      ⟨(h.row_eq_some.mp hr).1, by simpa using hchallenge⟩
    simp only [decide_eq_true_eq] at hqa hqb
    exact h.unique ha hb fun hap => hap.challengeId (hqa.trans hqb.symm)
  rw [createForChallenge_eq h hnew] at hr
  cases hfound : rows.found now record.challengeId with
  | some existing =>
    rw [hfound] at hr
    exact Or.inl (hfound ▸ hfind hr)
  | none =>
    obtain ⟨-, -, hrow⟩ := append_spec h hnew hfound
    simp only [hfound, hrow] at hr
    split at hr
    · exact Or.inr (Option.some.inj hr).symm
    · exact Or.inl (hfound ▸ hfind hr)

/-- `getBySessionId` hands back the row if it is not revoked. -/
theorem getBySessionId_eq (h : rows.WF) :
    rows.getBySessionId id = (rows.row id).filter unrevoked := by
  refine Option.ext fun r => ?_
  rw [getBySessionId, h.findBy_eq_some fun _ _ => Apart.sessionId, Option.filter_eq_some_iff,
    h.row_eq_some]

/-- `getByAccessToken` hands back the row with the token if it is not revoked. -/
theorem getByAccessToken_iff {token : String} (h : rows.WF) :
    rows.findBy SessionRecord.accessToken token = some r ↔
      rows.row r.sessionId = some r ∧ r.accessToken = token ∧ unrevoked r = true := by
  rw [h.findBy_eq_some fun _ _ => Apart.accessToken, h.row_eq_some]
  simp [and_assoc]

/-- `getByRefreshToken` hands back the row that is known by the token. -/
theorem getByRefreshToken_iff {token : String} (h : rows.WF) :
    rows.getByRefreshToken token = some r ↔
      rows.row r.sessionId = some r ∧ r.HasRefreshToken token := by
  unfold getByRefreshToken
  rw [SqlTable.find?_eq_some_iff, h.row_eq_some]
  · simp [SessionRecord.HasRefreshToken]
  · intro a ha b hb hqa hqb
    simp only [Bool.or_eq_true, decide_eq_true_eq] at hqa hqb
    exact h.unique ha hb fun hap => hap.refreshToken token hqa hqb

/-- An `UPDATE` of `revoked_at`, as the change that it makes to each row. -/
theorem change_stamp {op : SessionOp} {p : SessionRecord → Bool} {now : ℤ} (id : String)
    (hchange : ∀ r, p r = true →
      SessionChange unrevoked op r.sessionId (some r) (some (r.stamp (some now)))) :
    SessionChange unrevoked op id (rows.row id)
      (row (updateWhere p (·.stamp (some now)) rows) id) := by
  rw [row_stamp]
  cases hr : rows.row id with
  | none => exact .same
  | some r =>
    have hid : r.sessionId = id := by simpa using List.find?_some hr
    rw [Option.map_some]
    split
    · rename_i hp
      exact hid ▸ hchange r hp
    · exact .same

/-- A row that an `UPDATE` of `revoked_at` leaves out only if it is revoked has a time afterwards. -/
theorem stamp_hit {p : SessionRecord → Bool} {now : ℤ} (hr : rows.row id = some r)
    (hp : unrevoked r = true → p r = true) :
    ∃ t, row (updateWhere p (·.stamp (some now)) rows) id = some (r.stamp (some t)) ∧
      (t = now ∨ r.revokedAt = some t) := by
  rw [row_stamp, hr, Option.map_some]
  by_cases hpr : p r = true
  · exact ⟨now, by rw [if_pos hpr], Or.inl rfl⟩
  · obtain ⟨t, ht⟩ : ∃ t, r.revokedAt = some t := by
      rw [← Option.isSome_iff_exists, ← Option.not_isNone, Bool.not_eq_true']
      exact Bool.eq_false_iff.mpr fun hun => hpr (hp hun)
    exact ⟨t, by rw [if_neg hpr, ← ht, SessionRecord.stamp_self], Or.inr ht⟩

/-- What `rotateRefreshToken` answers. -/
theorem rotate_iff {params : RotateRefreshTokenParams} {r' : SessionRecord} (h : rows.WF) :
    (rows.rotateRefreshToken id params).1 = some r' ↔
      ∃ r, rows.row id = some r ∧ r.refreshToken = some params.expectedRefreshToken ∧
        unrevoked r = true ∧ r' = r.rotate params := by
  have hfind : ∀ r, rows.find? (rotatable id params) = some r ↔ rows.row id = some r ∧
      r.refreshToken = some params.expectedRefreshToken ∧ unrevoked r = true := by
    intro r
    rw [SqlTable.find?_eq_some_iff, h.row_eq_some]
    · simp [rotatable, and_assoc]
    · intro a ha b hb hqa hqb
      simp only [rotatable, Bool.and_eq_true, decide_eq_true_eq] at hqa hqb
      exact h.unique ha hb fun hap => hap.sessionId (hqa.1.1.trans hqb.1.1.symm)
  simp only [rotateRefreshToken, Option.map_eq_some_iff, hfind]
  constructor
  · rintro ⟨r, ⟨hr, hcurrent, hun⟩, rfl⟩
    exact ⟨r, hr, hcurrent, hun, rfl⟩
  · rintro ⟨r, hr, hcurrent, hun, rfl⟩
    exact ⟨r, ⟨hr, hcurrent, hun⟩, rfl⟩

/-- A rotated row shares no key with another one. -/
theorem Apart.rotate {a b : SessionRecord} (hap : Apart a b) {params : RotateRefreshTokenParams}
    (haccess : b.accessToken ≠ params.accessToken)
    (hrefresh : ¬ b.HasRefreshToken params.refreshToken) : Apart (a.rotate params) b := by
  refine ⟨hap.sessionId, hap.challengeId, Ne.symm haccess, ?_⟩
  rintro t (ht | ht)
  · exact Option.some.inj ht ▸ hrefresh
  · exact hap.refreshToken t (Or.inl ht)

/-- `rotateRefreshToken` with fresh tokens, row by row. -/
theorem rotate_spec {params : RotateRefreshTokenParams} (h : rows.WF)
    (haccess : rows.row.Fresh params.accessToken) (hrefresh : rows.row.Fresh params.refreshToken) :
    (rows.rotateRefreshToken id params).2.WF ∧ ∀ id', SessionChange unrevoked
      (.rotate id params (rows.rotateRefreshToken id params).1) id' (rows.row id')
      ((rows.rotateRefreshToken id params).2.row id') := by
  refine ⟨?_, fun id' => ?_⟩
  · refine List.pairwise_map.mpr (List.Pairwise.imp_of_mem ?_ h)
    intro a b ha hb hap
    -- Only one row has the session id.
    split <;> split
    · rename_i hqa hqb
      simp only [rotatable, Bool.and_eq_true, decide_eq_true_eq] at hqa hqb
      exact absurd (hqa.1.1.trans hqb.1.1.symm) hap.sessionId
    · exact hap.rotate (h.fresh haccess hb).2.1 (h.fresh hrefresh hb).2.2
    · exact (hap.symm.rotate (h.fresh haccess ha).2.1 (h.fresh hrefresh ha).2.2).symm
    · exact hap
  · rw [row_rotate]
    cases hr : rows.row id' with
    | none => exact .same
    | some r =>
      rw [Option.map_some]
      split
      · rename_i hq
        simp only [rotatable, Bool.and_eq_true, decide_eq_true_eq] at hq
        obtain ⟨⟨hid, hcurrent⟩, hun⟩ := hq
        obtain rfl : id' = id := (h.row_eq_some.mp hr).2.symm.trans hid
        rw [(rotate_iff h).mpr ⟨r, hr, hcurrent, hun, rfl⟩]
        exact .rotated hcurrent hun
      · exact .same

/-- The rotated row replaces the old one. -/
theorem rotate_hit {params : RotateRefreshTokenParams} {r' : SessionRecord} (h : rows.WF)
    (hanswer : (rows.rotateRefreshToken id params).1 = some r') :
    (rows.rotateRefreshToken id params).2.row id = some r' := by
  obtain ⟨r, hr, hcurrent, hun, rfl⟩ := (rotate_iff h).mp hanswer
  have hq : rotatable id params r = true := by
    simp [rotatable, (h.row_eq_some.mp hr).2, hcurrent, hun]
  rw [row_rotate, hr, Option.map_some, if_pos hq]

/-- The Postgres session store is lawful. -/
theorem store_lawful : SessionStore.Lawful view where
  wf_init := List.Pairwise.nil
  rows_init := fun _ => rfl
  rows_id := fun h hr => (h.row_eq_some.mp hr).2
  create := create_spec
  create_found := fun {_ now _ _} => create_found now
  create_new := fun {_ now _} => create_new now
  create_only := fun {_ now _ _ _} => create_only now
  getBySessionId := getBySessionId_eq
  getByAccessToken := fun h => ⟨h, fun _ => .same⟩
  getByAccessToken_iff := getByAccessToken_iff
  revokeBySessionId := by
    intro rows id now h
    refine ⟨h.stamp _ _, fun id' => change_stamp id' fun r hp => ?_⟩
    simp only [Bool.and_eq_true, decide_eq_true_eq] at hp
    exact hp.1 ▸ .revokedById (Or.inl rfl)
  revokeBySessionId_hit := by
    intro rows id now r h hr
    exact stamp_hit hr fun hun => by simp [(h.row_eq_some.mp hr).2, hun]
  revokeByPrincipal := by
    intro rows pubkey now h
    refine ⟨h.stamp _ _, fun id => change_stamp id fun r hp => ?_⟩
    simp only [heldBy, Bool.and_eq_true, decide_eq_true_eq] at hp
    exact .revokedByPrincipal hp.1 (Or.inl rfl)
  revokeByPrincipal_hit := by
    intro rows pubkey now id r _ hr hprincipal
    exact stamp_hit hr fun hun => by simp [heldBy, hprincipal, hun]
  getByRefreshToken_iff := getByRefreshToken_iff
  rotate := rotate_spec
  rotate_iff := rotate_iff
  rotate_hit := fun h _ _ hanswer => rotate_hit h hanswer

end Lawful

end PostgresSessions

end NapAuth

import NapAuth.JsMap
import NapAuth.SqlTable
import NapAuth.Store.Interface

/-!
# The in-memory stores

`InMemoryChallengeStore` and `InMemorySessionStore` of `packages/nap-server/src/memory.ts`. Both
sweep dead records when they are written to, at most once for each reading of their clock.

The session store keeps its session objects under four keys, and an operation that changes a session
changes the one object that all four maps refer to. Its model has a heap of objects, and the maps
lead to positions in it. `MemorySessions.WF` says that every map indexes exactly the objects that
`sessionsById` refers to, each under its current keys, and every operation keeps it.

An operation answers with the record as it is then. The code answers with a reference to it.
-/

namespace NapAuth

/-! ## Challenges -/

/-- `InMemoryChallengeStore`. -/
structure MemoryChallenges where
  records : JsMap ChallengeRecord
  lastSweptAt : Option ℤ

namespace MemoryChallenges

/-- `sweep`: drop what is no longer kept, once for each reading of the clock. -/
def sweep (now : ℤ) (s : MemoryChallenges) : MemoryChallenges :=
  if s.lastSweptAt.any (now ≤ ·) then s
  else { records := s.records.keep fun r => !decide (r.retainUntil < now), lastSweptAt := some now }

/-- `create`. -/
def create (now : ℤ) (record : ChallengeRecord) (s : MemoryChallenges) : Bool × MemoryChallenges :=
  let s := s.sweep now
  (true, { s with records := s.records.insert record.challengeId record })

/-- `get`. -/
def get (challengeId : String) (s : MemoryChallenges) : Option ChallengeRecord :=
  s.records.lookup challengeId

/-- Change the record under an id in place. -/
def update (challengeId : String) (record : ChallengeRecord) (s : MemoryChallenges) :
    MemoryChallenges :=
  { s with records := s.records.insert challengeId record }

/-- `redeem`. -/
def redeem (challengeId : String) (params : RedeemParams) (s : MemoryChallenges) :
    RedeemStatus × MemoryChallenges :=
  match s.get challengeId with
  | none => (.notFound, s)
  | some record =>
    if record.expiresAt < params.now ∨ record.state = .expired then
      (.expired, s.update challengeId { record with state := .expired })
    else if record.state = .issued then
      (.redeemed, s.update challengeId (record.redeem params))
    else (.alreadyRedeemed, s)

/-- The challenges that `markExpired` marks. -/
def overdue (now : ℤ) (record : ChallengeRecord) : Bool :=
  decide (record.state = .issued) && decide (record.expiresAt < now)

/-- `markExpired`. -/
def markExpired (now : ℤ) (s : MemoryChallenges) : ℕ × MemoryChallenges :=
  (s.records.values.countP (overdue now),
    { s with records := s.records.mapValues fun record =>
        if overdue now record then { record with state := .expired } else record })

/-- `countOutstanding`. -/
def countOutstanding (filter : OutstandingChallengeFilter) (s : MemoryChallenges) : ℕ :=
  s.records.values.countP fun record =>
    decide (record.state = .issued) && !decide (record.expiresAt < filter.now) &&
      filter.npub.all (record.npub == ·) && filter.clientIp.all (record.clientIp == some ·)

/-- `recordFailure`. -/
def recordFailure (challengeId : String) (_now maxFailures : ℤ) (s : MemoryChallenges) :
    Option RecordChallengeFailureResult × MemoryChallenges :=
  match s.get challengeId with
  | none => (none, s)
  | some record =>
    if record.state ≠ .issued then (none, s)
    else
      let failureCount := record.failureCount.getD 0 + 1
      let state := if failureCount ≥ maxFailures then .failedTerminal else record.state
      (some ⟨failureCount, state⟩,
        s.update challengeId { record with failureCount := some failureCount, state })

/-- The store. -/
def store : ChallengeStore where
  State := MemoryChallenges
  init := ⟨∅, none⟩
  create
  get
  redeem
  markExpired
  countOutstanding
  recordFailure

/-- Every record is held under its own id. -/
def WF (s : MemoryChallenges) : Prop := ∀ id r, s.get id = some r → r.challengeId = id

theorem get_update (id id' : String) (r : ChallengeRecord) (s : MemoryChallenges) :
    (s.update id r).get id' = if id' = id then some r else s.get id' :=
  JsMap.lookup_insert_eq s.records id id' r

/-- Changing the record under an id, as a function of the record. -/
theorem get_update_map {s : MemoryChallenges} {id : String} {r : ChallengeRecord}
    (hr : s.get id = some r) (f : ChallengeRecord → ChallengeRecord) (id' : String) :
    (s.update id (f r)).get id' = (s.get id').map fun r => if id' = id then f r else r := by
  rw [get_update]
  by_cases hid : id' = id
  · rw [hid, hr, Option.map_some, if_pos rfl, if_pos rfl]
  · simp only [if_neg hid, Option.map_id']

/-- Nothing changes where there is no record under the id, or nothing about it to change. -/
theorem get_map_same {s : MemoryChallenges} {id : String} {f : ChallengeRecord → ChallengeRecord}
    (hsame : ∀ r, s.get id = some r → f r = r) (id' : String) :
    s.get id' = (s.get id').map fun r => if id' = id then f r else r := by
  cases hr : s.get id' with
  | none => rfl
  | some r =>
    rw [Option.map_some]
    split
    · rename_i hid
      rw [hsame r (hid ▸ hr)]
    · rfl

/-- Changing a record in place keeps the invariant, if the record keeps its id. -/
theorem WF.update {s : MemoryChallenges} (h : s.WF) {id : String} {r : ChallengeRecord}
    (hid : r.challengeId = id) : (s.update id r).WF := by
  intro id' r' hr'
  rw [get_update] at hr'
  split at hr'
  · rename_i heq
    rw [heq, ← hid, ← Option.some.inj hr']
  · exact h id' r' hr'

/-- A sweep leaves a record alone or drops it, and it drops it only when it is dead. -/
theorem get_sweep (now : ℤ) (s : MemoryChallenges) (id : String) :
    (s.sweep now).get id = s.get id ∨
      ∃ r, s.get id = some r ∧ r.retainUntil < now ∧ (s.sweep now).get id = none := by
  unfold sweep
  split
  · exact Or.inl rfl
  · simp only [get, JsMap.lookup_keep]
    cases hr : s.records.lookup id with
    | none => exact Or.inl rfl
    | some r =>
      by_cases hdead : r.retainUntil < now
      · exact Or.inr ⟨r, rfl, hdead, by simp [hdead]⟩
      · exact Or.inl (by simp [hdead])

theorem WF.sweep {s : MemoryChallenges} (h : s.WF) (now : ℤ) : (s.sweep now).WF := by
  intro id r hr
  rcases get_sweep now s id with heq | ⟨_, _, _, heq⟩
  · exact h id r (heq ▸ hr)
  · rw [heq] at hr
    cases hr

/-- What becomes of the record under an id when one record is changed in place. -/
theorem change_update {op : ChallengeOp} {id id' : String} {r r' : ChallengeRecord}
    {s : MemoryChallenges} (hget : s.get id = some r) (hc : ChallengeChange op id (some r) (some r')) :
    ChallengeChange op id' (s.get id') ((s.update id r').get id') := by
  rw [get_update]
  split
  · rename_i heq
    rw [heq, hget]
    exact hc
  · exact .same

/-- `create` under a new id. -/
theorem create_spec {s : MemoryChallenges} {now : ℤ} {record : ChallengeRecord} (h : s.WF)
    (hnone : s.get record.challengeId = none) (hnew : record.IsNew) :
    (s.create now record).2.WF ∧ ∀ id,
      ChallengeChange (.create now record true) id (s.get id) ((s.create now record).2.get id) := by
  refine ⟨WF.update (h.sweep now) rfl, fun id => ?_⟩
  change ChallengeChange _ id (s.get id) (((s.sweep now).update record.challengeId record).get id)
  rw [get_update]
  split
  · rename_i heq
    rw [heq, hnone]
    exact .created rfl hnew
  · rcases get_sweep now s id with heq | ⟨r, hr, hdead, heq⟩
    · rw [heq]
      exact .same
    · rw [heq, hr]
      exact .evicted hdead

/-- What `redeem` makes of a record. -/
def redeemed (params : RedeemParams) (record : ChallengeRecord) : ChallengeRecord :=
  if record.expiresAt < params.now ∨ record.state = .expired then
    { record with state := .expired }
  else if record.state = .issued then record.redeem params
  else record

/-- What `redeem` leaves under each id. -/
theorem get_redeem (s : MemoryChallenges) (id : String) (params : RedeemParams) (id' : String) :
    (s.redeem id params).2.get id' =
      (s.get id').map fun r => if id' = id then redeemed params r else r := by
  unfold redeem
  split
  · rename_i hnone
    refine get_map_same (fun r hr => ?_) id'
    rw [hnone] at hr
    cases hr
  · rename_i r hr
    have hupdate := get_update_map hr (redeemed params) id'
    rw [← hupdate, redeemed]
    by_cases hlate : r.expiresAt < params.now ∨ r.state = .expired
    · rw [if_pos hlate, if_pos hlate]
    by_cases hissued : r.state = .issued
    · rw [if_neg hlate, if_neg hlate, if_pos hissued, if_pos hissued]
    · rw [if_neg hlate, if_neg hlate, if_neg hissued, if_neg hissued, get_update]
      split
      · rename_i hid
        rw [hid, hr]
      · rfl

/-- What `redeem` answers, by the record under the id. -/
theorem redeem_status (s : MemoryChallenges) (id : String) (params : RedeemParams) :
    (s.redeem id params).1 = match s.get id with
      | none => .notFound
      | some r =>
        if r.expiresAt < params.now ∨ r.state = .expired then .expired
        else if r.state = .issued then .redeemed
        else .alreadyRedeemed := by
  unfold redeem
  split
  · rfl
  · split_ifs <;> rfl

/-- `redeem`, case by case. -/
theorem redeem_spec {s : MemoryChallenges} {id : String} {params : RedeemParams} (h : s.WF) :
    (s.redeem id params).2.WF ∧ ∀ id', ChallengeChange (.redeem id params (s.redeem id params).1) id'
      (s.get id') ((s.redeem id params).2.get id') := by
  unfold redeem
  split
  · exact ⟨h, fun _ => .same⟩
  · rename_i r hr
    split_ifs with hlate hissued
    · refine ⟨h.update (h id r hr), fun id' => change_update hr ?_⟩
      rcases hlate with hlt | hexp
      · exact .late hlt
      · -- A challenge that is marked already is marked again.
        have hsame : { r with state := .expired } = r := by rw [← hexp]
        rw [hsame]
        exact .same
    · exact ⟨h.update (h id r hr), fun id' =>
        change_update hr (.redeemed hissued (by omega))⟩
    · exact ⟨h, fun _ => .same⟩

/-- `redeem` answers `redeemed` only when it has redeemed. -/
theorem redeem_redeemed {s : MemoryChallenges} {id : String} {params : RedeemParams} (_ : s.WF)
    (hstatus : (s.redeem id params).1 = .redeemed) : ∃ r, s.get id = some r ∧ r.state = .issued ∧
      params.now ≤ r.expiresAt ∧ (s.redeem id params).2.get id = some (r.redeem params) := by
  unfold redeem at hstatus ⊢
  split at hstatus
  · cases hstatus
  · rename_i r hr
    split_ifs at hstatus with hlate hissued
    refine ⟨r, hr, hissued, by omega, ?_⟩
    rw [if_neg hlate, if_pos hissued, get_update, if_pos rfl]

/-- A second attempt before the challenge's end is told so. -/
theorem redeem_again {s : MemoryChallenges} {id : String} {params : RedeemParams}
    {r : ChallengeRecord} (_ : s.WF) (hr : s.get id = some r) (hstate : r.state = .redeemed)
    (halive : params.now ≤ r.expiresAt) : (s.redeem id params).1 = .alreadyRedeemed := by
  have hlate : ¬ (r.expiresAt < params.now ∨ r.state = .expired) := by
    rw [hstate]
    simpa using halive
  have hissued : ¬ r.state = .issued := by simp [hstate]
  simp only [redeem, hr, if_neg hlate, if_neg hissued]

/-- What `markExpired` leaves under each id. -/
theorem get_markExpired (s : MemoryChallenges) (now : ℤ) (id : String) :
    (s.markExpired now).2.get id = (s.get id).map fun r =>
      if overdue now r then { r with state := .expired } else r :=
  JsMap.lookup_mapValues _ s.records id

/-- `markExpired` marks what is overdue. -/
theorem markExpired_spec {s : MemoryChallenges} {now : ℤ} (h : s.WF) :
    (s.markExpired now).2.WF ∧ ∀ id,
      ChallengeChange (.markExpired now) id (s.get id) ((s.markExpired now).2.get id) := by
  refine ⟨fun id r' hr' => ?_, fun id => ?_⟩
  · rw [get_markExpired] at hr'
    obtain ⟨r, hr, rfl⟩ := Option.map_eq_some_iff.mp hr'
    rw [← h id r hr]
    split <;> rfl
  · rw [get_markExpired]
    cases hr : s.get id with
    | none => exact .same
    | some r =>
      rw [Option.map_some]
      split
      · rename_i hover
        simp only [overdue, Bool.and_eq_true, decide_eq_true_eq] at hover
        exact .expired hover.1 hover.2
      · exact .same

/-- What `recordFailure` makes of an issued challenge. -/
def countFailure (maxFailures : ℤ) (record : ChallengeRecord) : ChallengeRecord :=
  { record with
    failureCount := some (record.failureCount.getD 0 + 1)
    state := if record.failureCount.getD 0 + 1 ≥ maxFailures then .failedTerminal
      else record.state }

/-- What `recordFailure` leaves under each id. -/
theorem get_recordFailure (s : MemoryChallenges) (id : String) (now maxFailures : ℤ)
    (id' : String) : (s.recordFailure id now maxFailures).2.get id' = (s.get id').map fun r =>
      if id' = id then (if r.state = .issued then countFailure maxFailures r else r) else r := by
  unfold recordFailure
  split
  · rename_i hnone
    refine get_map_same (f := fun r => if r.state = .issued then _ else r) (fun r hr => ?_) id'
    rw [hnone] at hr
    cases hr
  · rename_i r hr
    have hupdate := get_update_map hr
      (fun r => if r.state = .issued then countFailure maxFailures r else r) id'
    by_cases hissued : r.state = .issued
    · rw [if_neg (not_not_intro hissued), ← hupdate, if_pos hissued]
      rfl
    · rw [if_pos hissued]
      refine get_map_same (f := fun r => if r.state = .issued then _ else r) (fun r' hr' => ?_) id'
      obtain rfl := Option.some.inj (hr.symm.trans hr')
      exact if_neg hissued

/-- What `recordFailure` answers, by the record under the id. -/
theorem recordFailure_answer (s : MemoryChallenges) (id : String) (now maxFailures : ℤ) :
    (s.recordFailure id now maxFailures).1 =
      ((s.get id).filter fun r => r.state = .issued).map fun r =>
        ⟨(countFailure maxFailures r).failureCount.getD 0, (countFailure maxFailures r).state⟩ := by
  unfold recordFailure
  split
  · rename_i hnone
    rw [hnone]
    rfl
  · rename_i r hr
    rw [hr]
    by_cases hissued : r.state = .issued
    · simp [hissued, countFailure]
    · simp [hissued]

/-- `recordFailure` counts on an issued challenge. -/
theorem recordFailure_spec {s : MemoryChallenges} {id : String} (now : ℤ) {maxFailures : ℤ}
    (h : s.WF) :
    (s.recordFailure id now maxFailures).2.WF ∧ ∀ id', ChallengeChange (.recordFailure id) id'
      (s.get id') ((s.recordFailure id now maxFailures).2.get id') := by
  unfold recordFailure
  split
  · exact ⟨h, fun _ => .same⟩
  · rename_i r hr
    by_cases hissued : r.state = .issued
    · rw [if_neg (not_not_intro hissued)]
      refine ⟨h.update (h id r hr), fun id' => change_update hr (.failed hissued ?_)⟩
      split
      · exact Or.inr rfl
      · exact Or.inl hissued
    · rw [if_pos hissued]
      exact ⟨h, fun _ => .same⟩

/-- The in-memory challenge store is lawful. -/
theorem store_lawful : store.Lawful WF where
  wf_init := by
    intro id r hr
    simp [get, store] at hr
  get_init := by
    intro id
    simp [get, store]
  get_id := fun h hr => h _ _ hr
  create := create_spec
  redeem := redeem_spec
  redeem_redeemed := redeem_redeemed
  redeem_again := redeem_again
  markExpired := markExpired_spec
  recordFailure := fun {_ _ now _} h => recordFailure_spec now h

/-- A record is held under its own id, and no other. -/
theorem WF.mem_values {s : MemoryChallenges} {r : ChallengeRecord} (h : s.WF) :
    r ∈ s.records.values ↔ s.get r.challengeId = some r := by
  unfold JsMap.values
  rw [List.mem_map]
  constructor
  · rintro ⟨e, he, rfl⟩
    have hget : s.get e.1 = some e.2 := JsMap.lookup_eq_some.mpr he
    rw [h _ _ hget, hget]
  · intro hget
    exact ⟨⟨r.challengeId, r⟩, JsMap.lookup_eq_some.mp hget, rfl⟩

/-- No two records have the same id. -/
theorem WF.ids_nodup {s : MemoryChallenges} (h : s.WF) :
    (s.records.values.map ChallengeRecord.challengeId).Nodup := by
  have hkeys : s.records.values.map ChallengeRecord.challengeId = s.records.keys := by
    unfold JsMap.values AList.keys List.keys
    rw [List.map_map]
    exact List.map_congr_left fun e he => h _ _ (JsMap.lookup_eq_some.mpr he)
  rw [hkeys]
  exact s.records.keys_nodup

/-- The in-memory store counts the challenges that it holds. -/
theorem store_counts : store.Counts WF := by
  intro s filter h
  have hcount := SqlTable.encard_keys h.ids_nodup fun record =>
    decide (record.state = .issued) && !decide (record.expiresAt < filter.now) &&
      filter.npub.all (record.npub == ·) && filter.clientIp.all (record.clientIp == some ·)
  refine hcount.symm.trans (congrArg _ (Set.ext fun id => ?_))
  simp only [Set.mem_ofPred_eq]
  constructor
  · rintro ⟨r, hr, rfl, hq⟩
    simp only [Bool.and_eq_true, decide_eq_true_eq, Bool.not_eq_true', decide_eq_false_iff_not,
      not_lt, Option.all_eq_true, beq_iff_eq] at hq
    exact ⟨r, h.mem_values.mp hr, hq.1.1.1, hq.1.1.2, hq.1.2, hq.2⟩
  · rintro ⟨r, hr, hmatch⟩
    have hid : r.challengeId = id := h id r hr
    refine ⟨r, h.mem_values.mpr (hid ▸ hr), hid, ?_⟩
    simp only [Bool.and_eq_true, decide_eq_true_eq, Bool.not_eq_true', decide_eq_false_iff_not,
      not_lt, Option.all_eq_true, beq_iff_eq]
    exact ⟨⟨⟨hmatch.issued, hmatch.alive⟩, hmatch.npub⟩, hmatch.clientIp⟩

/-- The in-memory store counts failures from zero, and one by one. -/
theorem store_tallies : store.Tallies WF where
  create := by
    intro s now record r _ _ hzero hr
    have hget : ((s.sweep now).update record.challengeId record).get record.challengeId = some r := hr
    rw [get_update, if_pos rfl] at hget
    rw [← Option.some.inj hget, hzero, Option.getD_none]
  recordFailure := by
    intro s id now maxFailures r _ hr hissued
    have hget := get_recordFailure s id now maxFailures id
    have hr' : s.get id = some r := hr
    rw [hr', Option.map_some, if_pos rfl, if_pos hissued] at hget
    exact hget

end MemoryChallenges

/-! ## Sessions -/

/-- `InMemorySessionStore`. The objects are never dropped from the heap, only from the maps. -/
structure MemorySessions where
  /-- The heap: every session object that was ever made. -/
  objects : List SessionRecord
  sessionsByChallengeId : JsMap ℕ
  sessionsById : JsMap ℕ
  sessionsByAccessToken : JsMap ℕ
  /-- Holds the current and the previous token of each session. -/
  sessionsByRefreshToken : JsMap ℕ
  lastSweptAt : Option ℤ

namespace MemorySessions

/-- The object that a reference leads to. -/
def deref (ref : Option ℕ) (s : MemorySessions) : Option SessionRecord :=
  ref.bind (s.objects[·]?)

/-- `if (token) map.delete(token)`. -/
def deleteToken (token : Option String) (m : JsMap ℕ) : JsMap ℕ :=
  match token with
  | some t => if t = "" then m else m.erase t
  | none => m

/-- `if (token) map.set(token, session)`. -/
def setToken (token : Option String) (ref : ℕ) (m : JsMap ℕ) : JsMap ℕ :=
  match token with
  | some t => if t = "" then m else m.insert t ref
  | none => m

/-- Delete a session from all four maps. -/
def drop (sessionId : String) (session : SessionRecord) (s : MemorySessions) : MemorySessions :=
  { s with
    sessionsById := s.sessionsById.erase sessionId
    sessionsByChallengeId := s.sessionsByChallengeId.erase session.challengeId
    sessionsByAccessToken := s.sessionsByAccessToken.erase session.accessToken
    sessionsByRefreshToken := deleteToken session.previousRefreshToken
      (deleteToken session.refreshToken s.sessionsByRefreshToken) }

/-- The body of the loop in `sweep`. -/
def sweepOne (now : ℤ) (s : MemorySessions) (sessionId : String) (ref : ℕ) : MemorySessions :=
  match s.objects[ref]? with
  | some session => if session.retainUntil ≥ now then s else s.drop sessionId session
  | none => s

/-- `sweep`: drop what is no longer kept, once for each reading of the clock. -/
def sweep (now : ℤ) (s : MemorySessions) : MemorySessions :=
  if s.lastSweptAt.any (now ≤ ·) then s
  else s.sessionsById.entries.foldl (fun s e => s.sweepOne now e.1 e.2)
    { s with lastSweptAt := some now }

/-- Store a new session object under all its keys. -/
def add (record : SessionRecord) (s : MemorySessions) : MemorySessions :=
  let ref := s.objects.length
  { s with
    objects := s.objects ++ [record]
    sessionsByChallengeId := s.sessionsByChallengeId.insert record.challengeId ref
    sessionsById := s.sessionsById.insert record.sessionId ref
    sessionsByAccessToken := s.sessionsByAccessToken.insert record.accessToken ref
    sessionsByRefreshToken := setToken record.refreshToken ref s.sessionsByRefreshToken }

/-- `createForChallenge`. -/
def createForChallenge (now : ℤ) (record : SessionRecord) (s : MemorySessions) :
    Option SessionRecord × MemorySessions :=
  let s := s.sweep now
  match s.deref (s.sessionsByChallengeId.lookup record.challengeId) with
  | some existing => (some existing, s)
  | none => (some record, s.add record)

/-- `getBySessionId`. -/
def getBySessionId (sessionId : String) (s : MemorySessions) : Option SessionRecord :=
  s.deref (s.sessionsById.lookup sessionId)

/-- `getByAccessToken`. -/
def getByAccessToken (now : ℤ) (token : String) (s : MemorySessions) :
    Option SessionRecord × MemorySessions :=
  let s := s.sweep now
  (s.deref (s.sessionsByAccessToken.lookup token), s)

/-- `revokeBySessionId`. -/
def revokeBySessionId (sessionId : String) (now : ℤ) (s : MemorySessions) : MemorySessions :=
  match s.sessionsById.lookup sessionId with
  | some ref =>
    { s with objects := s.objects.modify ref fun session => session.stamp (some now) }
  | none => s

/-- The body of the loop in `revokeByPrincipal`, over the count and the objects. -/
def revokeOne (pubkey : String) (now : ℤ) (acc : ℕ × List SessionRecord) (ref : ℕ) :
    ℕ × List SessionRecord :=
  match acc.2[ref]? with
  | some session =>
    if session.principalPubkey = pubkey ∧ session.revoked = false then
      (acc.1 + 1, acc.2.set ref (session.stamp (some now)))
    else acc
  | none => acc

/-- `revokeByPrincipal`. -/
def revokeByPrincipal (pubkey : String) (now : ℤ) (s : MemorySessions) : ℕ × MemorySessions :=
  let result := s.sessionsById.values.foldl (revokeOne pubkey now) (0, s.objects)
  (result.1, { s with objects := result.2 })

/-- `getByRefreshToken`. -/
def getByRefreshToken (token : String) (s : MemorySessions) : Option SessionRecord :=
  s.deref (s.sessionsByRefreshToken.lookup token)

/-- Exchange the tokens of a session object, and its keys in the maps. -/
def exchange (ref : ℕ) (session : SessionRecord) (params : RotateRefreshTokenParams)
    (s : MemorySessions) : MemorySessions :=
  { s with
    objects := s.objects.set ref (session.rotate params)
    sessionsByAccessToken :=
      (s.sessionsByAccessToken.erase session.accessToken).insert params.accessToken ref
    sessionsByRefreshToken :=
      (deleteToken session.previousRefreshToken s.sessionsByRefreshToken).insert
        params.refreshToken ref }

/-- `rotateRefreshToken`. It does not look at `revokedAt`. -/
def rotateRefreshToken (sessionId : String) (params : RotateRefreshTokenParams)
    (s : MemorySessions) : Option SessionRecord × MemorySessions :=
  match s.sessionsById.lookup sessionId with
  | none => (none, s)
  | some ref =>
    match s.objects[ref]? with
    | none => (none, s)
    | some session =>
      if session.refreshToken ≠ some params.expectedRefreshToken then (none, s)
      else
        (some (session.rotate params), s.exchange ref session params)

/-- The store. -/
def store : SessionStore where
  State := MemorySessions
  init := ⟨[], ∅, ∅, ∅, ∅, none⟩
  createForChallenge
  getBySessionId
  getByAccessToken
  revokeBySessionId
  revokeByPrincipal
  getByRefreshToken
  rotateRefreshToken

/-! ### The representation invariant -/

/-- The object `i` is the session `r`, and `sessionsById` leads to it. -/
def Live (s : MemorySessions) (i : ℕ) (r : SessionRecord) : Prop :=
  s.objects[i]? = some r ∧ s.sessionsById.lookup r.sessionId = some i

/-- A map leads to exactly the live objects, each under its own keys `K`. -/
def Indexes (s : MemorySessions) (m : JsMap ℕ) (K : SessionRecord → String → Prop) : Prop :=
  ∀ k i, m.lookup k = some i ↔ ∃ r, s.Live i r ∧ K r k

/-- The representation invariant. -/
structure WF (s : MemorySessions) : Prop where
  /-- `sessionsById` leads to sessions under their ids. -/
  ids : ∀ {id i}, s.sessionsById.lookup id = some i →
    ∃ r, s.objects[i]? = some r ∧ r.sessionId = id
  /-- `sessionsByChallengeId` indexes the live sessions by challenge. -/
  challenges : s.Indexes s.sessionsByChallengeId fun r k => r.challengeId = k
  /-- `sessionsByAccessToken` indexes the live sessions by access token. -/
  accessTokens : s.Indexes s.sessionsByAccessToken fun r k => r.accessToken = k
  /-- `sessionsByRefreshToken` indexes the live sessions by both of their refresh tokens. -/
  refreshTokens : s.Indexes s.sessionsByRefreshToken fun r k => r.HasRefreshToken k
  /-- No live session has the empty string for a refresh token. -/
  nonempty : ∀ {i r}, s.Live i r → ¬ r.HasRefreshToken ""
  /-- The two refresh tokens of a live session differ. -/
  distinct : ∀ {i r}, s.Live i r → ∀ t, r.refreshToken = some t → r.previousRefreshToken ≠ some t

/-- The rows of the store: what `sessionsById` leads to. -/
def rows (s : MemorySessions) : SessionRows := fun id => s.deref (s.sessionsById.lookup id)

section Live

variable {s s' : MemorySessions} {m m' : JsMap ℕ} {K : SessionRecord → String → Prop}
  {i i₀ : ℕ} {r r₀ r₁ : SessionRecord}

/-- A reference leads to one session. -/
theorem Live.object_unique (h : s.Live i r) (h' : s.Live i r₀) : r = r₀ :=
  Option.some.inj (h.1.symm.trans h'.1)

/-- A session id has one reference. -/
theorem Live.ref_unique (h : s.Live i r) (h' : s.Live i₀ r₀) (hid : r.sessionId = r₀.sessionId) :
    i = i₀ ∧ r = r₀ := by
  have hi : i = i₀ := Option.some.inj (h.2.symm.trans (hid ▸ h'.2))
  subst hi
  exact ⟨rfl, h.object_unique h'⟩

/-- Two live sessions with a common key in an indexed map are the same. -/
theorem Indexes.unique (hm : s.Indexes m K) (h : s.Live i r) (h' : s.Live i₀ r₀) {k : String}
    (hk : K r k) (hk' : K r₀ k) : i = i₀ ∧ r = r₀ := by
  have h1 := (hm k i).mpr ⟨r, h, hk⟩
  have h2 := (hm k i₀).mpr ⟨r₀, h', hk'⟩
  have hi : i = i₀ := Option.some.inj (h1.symm.trans h2)
  subst hi
  exact ⟨rfl, h.object_unique h'⟩

/-- A map still indexes the live sessions after one of them is gone, if exactly the keys of that one
are deleted. -/
theorem Indexes.drop (hm : s.Indexes m K) (h₀ : s.Live i₀ r₀)
    (hlive : ∀ i r, s'.Live i r ↔ s.Live i r ∧ i ≠ i₀) (hgone : ∀ k, K r₀ k → m'.lookup k = none)
    (hrest : ∀ k, ¬ K r₀ k → m'.lookup k = m.lookup k) : s'.Indexes m' K := by
  intro k i
  by_cases hk : K r₀ k
  · rw [hgone k hk]
    simp only [reduceCtorEq, false_iff, not_exists, not_and]
    intro r hr hrk
    have hr := (hlive i r).mp hr
    exact hr.2 (hm.unique hr.1 h₀ hrk hk).1
  · rw [hrest k hk, hm k i]
    refine exists_congr fun r => and_congr_left fun hrk => ?_
    rw [hlive, iff_self_and]
    rintro hr rfl
    exact hk (hr.object_unique h₀ ▸ hrk)

/-- A map indexes the live sessions after one of them is made, if it leads there from all keys of
the new one, and these are fresh. -/
theorem Indexes.insert (hm : s.Indexes m K)
    (hlive : ∀ i r, s'.Live i r ↔ s.Live i r ∨ (i = i₀ ∧ r = r₀))
    (hfresh : ∀ k i r, K r₀ k → s.Live i r → ¬ K r k)
    (hnew : ∀ k, K r₀ k → m'.lookup k = some i₀)
    (hrest : ∀ k, ¬ K r₀ k → m'.lookup k = m.lookup k) : s'.Indexes m' K := by
  intro k i
  simp only [hlive]
  by_cases hk : K r₀ k
  · rw [hnew k hk]
    constructor
    · intro hi
      exact ⟨r₀, Or.inr ⟨(Option.some.inj hi).symm, rfl⟩, hk⟩
    · rintro ⟨r, hr | ⟨rfl, rfl⟩, hrk⟩
      · exact absurd hrk (hfresh k i r hk hr)
      · rfl
  · rw [hrest k hk, hm k i]
    refine exists_congr fun r => and_congr_left fun hrk => ?_
    rw [iff_self_or]
    rintro ⟨-, rfl⟩
    exact absurd hrk hk

/-- A map indexes the live sessions after one of them has changed, if its keys are exchanged, and
those that are new are fresh. -/
theorem Indexes.replace (hm : s.Indexes m K) (h₀ : s.Live i₀ r₀)
    (hlive : ∀ i r, s'.Live i r ↔ (i ≠ i₀ ∧ s.Live i r) ∨ (i = i₀ ∧ r = r₁))
    (hfresh : ∀ k i r, K r₁ k → ¬ K r₀ k → s.Live i r → ¬ K r k)
    (hnew : ∀ k, K r₁ k → m'.lookup k = some i₀)
    (hgone : ∀ k, ¬ K r₁ k → K r₀ k → m'.lookup k = none)
    (hrest : ∀ k, ¬ K r₁ k → ¬ K r₀ k → m'.lookup k = m.lookup k) : s'.Indexes m' K := by
  -- First the old object goes, then the new one comes.
  intro k i
  simp only [hlive]
  by_cases hk : K r₁ k
  · rw [hnew k hk]
    constructor
    · intro hi
      exact ⟨r₁, Or.inr ⟨(Option.some.inj hi).symm, rfl⟩, hk⟩
    · rintro ⟨r, ⟨hne, hr⟩ | ⟨rfl, rfl⟩, hrk⟩
      · by_cases hk₀ : K r₀ k
        · exact absurd (hm.unique hr h₀ hrk hk₀).1 hne
        · exact absurd hrk (hfresh k i r hk hk₀ hr)
      · rfl
  · have hcongr : (∃ r, ((i ≠ i₀ ∧ s.Live i r) ∨ (i = i₀ ∧ r = r₁)) ∧ K r k) ↔
        ∃ r, (i ≠ i₀ ∧ s.Live i r) ∧ K r k := by
      refine exists_congr fun r => and_congr_left fun hrk => ?_
      rw [or_iff_left_iff_imp]
      rintro ⟨-, rfl⟩
      exact absurd hrk hk
    rw [hcongr]
    by_cases hk₀ : K r₀ k
    · rw [hgone k hk hk₀]
      simp only [reduceCtorEq, false_iff, not_exists, not_and, and_imp]
      intro r hne hr hrk
      exact hne (hm.unique hr h₀ hrk hk₀).1
    · rw [hrest k hk hk₀, hm k i]
      refine exists_congr fun r => and_congr_left fun hrk => ?_
      rw [iff_and_self]
      rintro hr rfl
      exact hk₀ (hr.object_unique h₀ ▸ hrk)

end Live

section Invariant

variable {s s' : MemorySessions} {id : String} {i i₀ : ℕ} {r r₀ : SessionRecord} {now : ℤ}

/-- The rows are the live sessions. -/
theorem WF.rows_eq_some (h : s.WF) : s.rows id = some r ↔ ∃ i, s.Live i r ∧ r.sessionId = id := by
  simp only [rows, deref, Option.bind_eq_some_iff]
  constructor
  · rintro ⟨i, hi, hr⟩
    obtain ⟨r', hr', rfl⟩ := h.ids hi
    obtain rfl := Option.some.inj (hr.symm.trans hr')
    exact ⟨i, ⟨hr, hi⟩, rfl⟩
  · rintro ⟨i, hlive, rfl⟩
    exact ⟨i, hlive.2, hlive.1⟩

/-- A live session is the row under its id. -/
theorem WF.rows_of_live (h : s.WF) (hr : s.Live i r) : s.rows r.sessionId = some r :=
  h.rows_eq_some.mpr ⟨i, hr, rfl⟩

/-- What an indexed map finds is the live session with the key. -/
theorem WF.deref_eq_some (h : s.WF) {m : JsMap ℕ} {K : SessionRecord → String → Prop}
    (hm : s.Indexes m K) {k : String} :
    s.deref (m.lookup k) = some r ↔ s.rows r.sessionId = some r ∧ K r k := by
  simp only [deref, Option.bind_eq_some_iff, h.rows_eq_some]
  constructor
  · rintro ⟨i, hi, hr⟩
    obtain ⟨r', hlive, hk⟩ := (hm k i).mp hi
    obtain rfl := Option.some.inj (hr.symm.trans hlive.1)
    exact ⟨⟨i, hlive, trivial⟩, hk⟩
  · rintro ⟨⟨i, hlive, -⟩, hk⟩
    exact ⟨i, (hm k i).mpr ⟨r, hlive, hk⟩, hlive.1⟩

theorem lookup_deleteToken (token : Option String) (m : JsMap ℕ) (k : String) :
    (deleteToken token m).lookup k = if token = some k ∧ k ≠ "" then none else m.lookup k := by
  cases token with
  | none => simp [deleteToken]
  | some t =>
    by_cases ht : t = ""
    · subst ht
      simp only [deleteToken, if_true, Option.some.injEq]
      split
      · rename_i hk
        exact absurd hk.1.symm hk.2
      · rfl
    · simp only [deleteToken, if_neg ht, JsMap.lookup_erase_eq, Option.some.injEq]
      by_cases hk : k = t
      · subst hk
        simp [ht]
      · rw [if_neg hk, if_neg fun hc => hk hc.1.symm]

theorem lookup_setToken (token : Option String) (ref : ℕ) (m : JsMap ℕ) (k : String) :
    (setToken token ref m).lookup k =
      if token = some k ∧ k ≠ "" then some ref else m.lookup k := by
  cases token with
  | none => simp [setToken]
  | some t =>
    by_cases ht : t = ""
    · subst ht
      simp only [setToken, if_true, Option.some.injEq]
      split
      · rename_i hk
        exact absurd hk.1.symm hk.2
      · rfl
    · simp only [setToken, if_neg ht, JsMap.lookup_insert_eq, Option.some.injEq]
      by_cases hk : k = t
      · subst hk
        simp [ht]
      · rw [if_neg hk, if_neg fun hc => hk hc.1.symm]

/-- Dropping a session leaves the other live ones. -/
theorem live_drop (h₀ : s.Live i₀ r₀) :
    (s.drop r₀.sessionId r₀).Live i r ↔ s.Live i r ∧ i ≠ i₀ := by
  simp only [Live, drop, JsMap.lookup_erase_eq]
  constructor
  · rintro ⟨hr, hid⟩
    split at hid
    · cases hid
    · rename_i hne
      refine ⟨⟨hr, hid⟩, ?_⟩
      rintro rfl
      exact hne (congrArg _ (Option.some.inj (hr.symm.trans h₀.1)))
  · rintro ⟨⟨hr, hid⟩, hne⟩
    refine ⟨hr, ?_⟩
    rw [if_neg fun heq => hne (Live.ref_unique ⟨hr, hid⟩ h₀ heq).1, hid]

/-- Dropping a session keeps the invariant, and takes away the row. -/
theorem WF.drop (h : s.WF) (h₀ : s.Live i₀ r₀) : (s.drop r₀.sessionId r₀).WF ∧
    ∀ id, (s.drop r₀.sessionId r₀).rows id = if id = r₀.sessionId then none else s.rows id := by
  have hlive : ∀ i r, (s.drop r₀.sessionId r₀).Live i r ↔ s.Live i r ∧ i ≠ i₀ :=
    fun i r => live_drop h₀
  refine ⟨⟨?_, ?_, ?_, ?_, ?_, ?_⟩, fun id => ?_⟩
  · intro id i hi
    simp only [MemorySessions.drop, JsMap.lookup_erase_eq] at hi
    split at hi
    · cases hi
    · exact h.ids hi
  · refine h.challenges.drop h₀ hlive (fun k hk => ?_) fun k hk => ?_
    · simp [MemorySessions.drop, hk]
    · simp [MemorySessions.drop, Ne.symm hk]
  · refine h.accessTokens.drop h₀ hlive (fun k hk => ?_) fun k hk => ?_
    · simp [MemorySessions.drop, hk]
    · simp [MemorySessions.drop, Ne.symm hk]
  · refine h.refreshTokens.drop h₀ hlive (fun k hk => ?_) fun k hk => ?_
    · have hne : k ≠ "" := fun heq => h.nonempty h₀ (heq ▸ hk)
      rcases hk with hk | hk <;> simp [MemorySessions.drop, lookup_deleteToken, hk, hne]
    · simp only [SessionRecord.HasRefreshToken, not_or] at hk
      simp [MemorySessions.drop, lookup_deleteToken, hk.1, hk.2]
  · exact fun hr => h.nonempty ((hlive _ _).mp hr).1
  · exact fun hr => h.distinct ((hlive _ _).mp hr).1
  · simp only [rows, deref, MemorySessions.drop, JsMap.lookup_erase_eq]
    split <;> rfl

/-- What a sweep does to a row: nothing, or it drops it because it is dead. -/
def Swept (now : ℤ) (rows rows' : SessionRows) : Prop :=
  ∀ id, rows' id = rows id ∨ ∃ r, rows id = some r ∧ r.retainUntil < now ∧ rows' id = none

/-- A row that is left was there before. -/
theorem Swept.subset {rows rows' : SessionRows} (h : Swept now rows rows') :
    ∀ id r, rows' id = some r → rows id = some r := by
  intro id r hr
  rcases h id with heq | ⟨_, _, _, hnone⟩
  · rw [← heq, hr]
  · rw [hr] at hnone
    cases hnone

/-- The loop of a sweep keeps the invariant and drops only dead rows. -/
theorem WF.sweepLoop (h : s.WF) (l : List (Sigma fun _ : String => ℕ)) (hl : l.NodupKeys)
    (hmem : ∀ e ∈ l, s.sessionsById.lookup e.1 = some e.2) :
    (l.foldl (fun s e => s.sweepOne now e.1 e.2) s).WF ∧
      Swept now s.rows (l.foldl (fun s e => s.sweepOne now e.1 e.2) s).rows := by
  induction l generalizing s with
  | nil => exact ⟨h, fun id => Or.inl rfl⟩
  | cons e l ih =>
    rw [List.nodupKeys_cons] at hl
    have he := hmem e List.mem_cons_self
    obtain ⟨r, hr, hid⟩ := h.ids he
    have hlive : s.Live e.2 r := ⟨hr, hid ▸ he⟩
    rw [List.foldl_cons]
    by_cases halive : r.retainUntil ≥ now
    · -- The session is kept.
      have hstep : s.sweepOne now e.1 e.2 = s := by simp only [sweepOne, hr, if_pos halive]
      rw [hstep]
      exact ih h hl.2 fun e' he' => hmem e' (List.mem_cons_of_mem _ he')
    · have hstep : s.sweepOne now e.1 e.2 = s.drop r.sessionId r := by
        simp only [sweepOne, hr, if_neg halive, hid]
      obtain ⟨hwf, hrows⟩ := h.drop hlive
      rw [hstep]
      have hrest : ∀ e' ∈ l, (s.drop r.sessionId r).sessionsById.lookup e'.1 = some e'.2 := by
        intro e' he'
        have hne : e'.1 ≠ e.1 := fun heq => hl.1 (heq ▸ List.mem_keys_of_mem he')
        simp only [MemorySessions.drop, JsMap.lookup_erase_eq, hid, if_neg hne]
        exact hmem e' (List.mem_cons_of_mem _ he')
      obtain ⟨hwf', hswept⟩ := ih hwf hl.2 hrest
      refine ⟨hwf', fun id => ?_⟩
      rcases hswept id with heq | ⟨r', hr', hdead, hnone⟩
      · rw [heq, hrows]
        split
        · rename_i hid'
          exact Or.inr ⟨r, hid' ▸ h.rows_of_live hlive, by omega, rfl⟩
        · exact Or.inl rfl
      · rw [hrows] at hr'
        split at hr'
        · cases hr'
        · exact Or.inr ⟨r', hr', hdead, hnone⟩

/-- A sweep keeps the invariant and drops only dead rows. -/
theorem WF.sweep (h : s.WF) (now : ℤ) : (s.sweep now).WF ∧ Swept now s.rows (s.sweep now).rows := by
  unfold MemorySessions.sweep
  split
  · exact ⟨h, fun id => Or.inl rfl⟩
  · have hwf : ({ s with lastSweptAt := some now } : MemorySessions).WF :=
      ⟨h.ids, h.challenges, h.accessTokens, h.refreshTokens, h.nonempty, h.distinct⟩
    exact hwf.sweepLoop s.sessionsById.entries s.sessionsById.nodupKeys
      fun e he => JsMap.lookup_eq_some.mpr he

/-- What is fresh for the rows is none of the keys of a live session. -/
theorem WF.fresh (h : s.WF) {t : String} (hfresh : s.rows.Fresh t) (hr : s.Live i r) :
    r.sessionId ≠ t ∧ r.accessToken ≠ t ∧ ¬ r.HasRefreshToken t := by
  have hnot := hfresh.2 r.sessionId r (h.rows_of_live hr)
  simp only [SessionRecord.mem_keys, not_or] at hnot
  exact ⟨Ne.symm hnot.1, Ne.symm hnot.2.1, hnot.2.2⟩

/-- A new session is live besides the others. -/
theorem live_add {record : SessionRecord} (hid : s.sessionsById.lookup record.sessionId = none) :
    (s.add record).Live i r ↔ s.Live i r ∨ (i = s.objects.length ∧ r = record) := by
  simp only [Live, add, JsMap.lookup_insert_eq]
  by_cases hi : i < s.objects.length
  · rw [List.getElem?_append_left hi]
    have hne : i ≠ s.objects.length := by omega
    simp only [hne, false_and, or_false]
    refine and_congr_right fun _ => ?_
    by_cases hr : r.sessionId = record.sessionId
    · rw [if_pos hr, hr, hid]
      simp [Ne.symm hne]
    · rw [if_neg hr]
  · rw [List.getElem?_append_right (by omega)]
    have hnone : s.objects[i]? = none := List.getElem?_eq_none (by omega)
    simp only [hnone, reduceCtorEq, false_and, false_or]
    constructor
    · rintro ⟨hr, -⟩
      have hlen := (List.getElem?_eq_some_iff.mp hr).1
      simp only [List.length_singleton] at hlen
      have hieq : i = s.objects.length := by omega
      subst hieq
      exact ⟨rfl, by simpa using hr.symm⟩
    · rintro ⟨rfl, rfl⟩
      simp

/-- Storing a new session keeps the invariant, and adds its row. -/
theorem WF.add (h : s.WF) {record : SessionRecord} (hnew : record.IsNew s.rows)
    (hchallenge : s.deref (s.sessionsByChallengeId.lookup record.challengeId) = none) :
    (s.add record).WF ∧ ∀ id, (s.add record).rows id =
      if id = record.sessionId then some record else s.rows id := by
  have hnokey : ∀ i r, s.Live i r → record.sessionId ≠ r.sessionId ∧
      record.accessToken ≠ r.accessToken ∧ ∀ t, record.refreshToken = some t →
        ¬ r.HasRefreshToken t := by
    intro i r hr
    refine ⟨Ne.symm (h.fresh (hnew.fresh _ (by simp)) hr).1,
      Ne.symm (h.fresh (hnew.fresh _ (by simp)) hr).2.1, fun t ht => ?_⟩
    exact (h.fresh (hnew.fresh t (by simp [SessionRecord.HasRefreshToken, ht])) hr).2.2
  have hid : s.sessionsById.lookup record.sessionId = none := by
    rw [Option.eq_none_iff_forall_ne_some]
    intro i hi
    obtain ⟨r, hr, heq⟩ := h.ids hi
    exact (hnokey i r ⟨hr, heq ▸ hi⟩).1 heq.symm
  have hnochallenge : ∀ i r, s.Live i r → r.challengeId ≠ record.challengeId := by
    intro i r hr heq
    rw [(h.deref_eq_some h.challenges).mpr ⟨h.rows_of_live hr, heq⟩] at hchallenge
    cases hchallenge
  have hlive : ∀ i r, (s.add record).Live i r ↔
      s.Live i r ∨ (i = s.objects.length ∧ r = record) := fun i r => live_add hid
  have hrefresh : ∀ k, record.HasRefreshToken k ↔ record.refreshToken = some k := by
    intro k
    simp [SessionRecord.HasRefreshToken, hnew.previousRefreshToken]
  have htoken : ∀ t, record.refreshToken = some t → t ≠ "" := fun t ht =>
    (hnew.fresh t (by simp [SessionRecord.HasRefreshToken, ht])).1
  refine ⟨⟨?_, ?_, ?_, ?_, ?_, ?_⟩, fun id => ?_⟩
  · intro id i hi
    simp only [MemorySessions.add, JsMap.lookup_insert_eq] at hi
    split at hi
    · rename_i heq
      obtain rfl := Option.some.inj hi
      exact ⟨record, by simp [MemorySessions.add], heq.symm⟩
    · obtain ⟨r, hr, heq⟩ := h.ids hi
      exact ⟨r, List.getElem?_append_left (List.getElem?_eq_some_iff.mp hr).1 ▸ hr, heq⟩
  · refine h.challenges.insert hlive (fun k i r hk hr hrk => ?_) (fun k hk => ?_) fun k hk => ?_
    · exact hnochallenge i r hr (hrk.trans hk.symm)
    · simp [MemorySessions.add, hk]
    · simp [MemorySessions.add, Ne.symm hk]
  · refine h.accessTokens.insert hlive (fun k i r hk hr hrk => ?_) (fun k hk => ?_) fun k hk => ?_
    · exact (hnokey i r hr).2.1 (hk.trans hrk.symm)
    · simp [MemorySessions.add, hk]
    · simp [MemorySessions.add, Ne.symm hk]
  · refine h.refreshTokens.insert hlive (fun k i r hk hr => ?_) (fun k hk => ?_) fun k hk => ?_
    · exact (hnokey i r hr).2.2 k ((hrefresh k).mp hk)
    · have hk := (hrefresh k).mp hk
      simp [MemorySessions.add, lookup_setToken, hk, htoken k hk]
    · rw [hrefresh] at hk
      simp [MemorySessions.add, lookup_setToken, hk]
  · intro i r hr hempty
    rcases (hlive i r).mp hr with hr | ⟨-, rfl⟩
    · exact h.nonempty hr hempty
    · exact htoken "" ((hrefresh "").mp hempty) rfl
  · intro i r hr t ht
    rcases (hlive i r).mp hr with hr | ⟨-, rfl⟩
    · exact h.distinct hr t ht
    · simp [hnew.previousRefreshToken]
  · simp only [rows, deref, MemorySessions.add, JsMap.lookup_insert_eq]
    split
    · simp
    · cases hi : s.sessionsById.lookup id with
      | none => rfl
      | some i =>
        obtain ⟨r, hr, -⟩ := h.ids hi
        simp [List.getElem?_append_left (List.getElem?_eq_some_iff.mp hr).1]

/-- The row that `createForChallenge` finds for a challenge. -/
def found (now : ℤ) (challengeId : String) (s : MemorySessions) : Option SessionRecord :=
  (s.sweep now).deref ((s.sweep now).sessionsByChallengeId.lookup challengeId)

/-- What the store's states stand for. All rows are visible. -/
def view : store.View where
  WF := WF
  rows
  found
  visible := fun _ => true

/-- What `createForChallenge` does, by what it finds. -/
theorem createForChallenge_eq (now : ℤ) (record : SessionRecord) (s : MemorySessions) :
    s.createForChallenge now record = match s.found now record.challengeId with
      | some existing => (some existing, s.sweep now)
      | none => (some record, (s.sweep now).add record) := rfl

/-- A sweep, as the change that a login makes to a row. -/
theorem Swept.create {rows rows' : SessionRows} (h : Swept now rows rows') {record : SessionRecord}
    {answer : Option SessionRecord} {visible : SessionRecord → Bool} (id : String) :
    SessionChange visible (.create now record answer) id (rows id) (rows' id) := by
  rcases h id with heq | ⟨r, hr, hdead, hnone⟩
  · rw [heq]
    exact .same
  · rw [hr, hnone]
    exact .evictedByCreate hdead

/-- A sweep, as the change that a lookup makes to a row. -/
theorem Swept.lookup {rows rows' : SessionRows} (h : Swept now rows rows')
    {visible : SessionRecord → Bool} (id : String) :
    SessionChange visible (.lookup now) id (rows id) (rows' id) := by
  rcases h id with heq | ⟨r, hr, hdead, hnone⟩
  · rw [heq]
    exact .same
  · rw [hr, hnone]
    exact .evictedByLookup hdead

theorem create_spec {record : SessionRecord} (h : s.WF) (hnew : record.IsNew s.rows) :
    (s.createForChallenge now record).2.WF ∧ ∀ id,
      SessionChange view.visible (.create now record (s.createForChallenge now record).1) id
        (s.rows id) ((s.createForChallenge now record).2.rows id) := by
  obtain ⟨hwf, hswept⟩ := h.sweep now
  rw [createForChallenge_eq]
  cases hfound : s.found now record.challengeId with
  | some existing => exact ⟨hwf, fun id => hswept.create id⟩
  | none =>
    obtain ⟨hwf', hrows⟩ := hwf.add (hnew.mono hswept.subset) hfound
    refine ⟨hwf', fun id => ?_⟩
    simp only [hrows]
    by_cases hid : id = record.sessionId
    · have hnone : s.rows id = none := by
        rw [Option.eq_none_iff_forall_ne_some]
        intro r hr
        obtain ⟨i, hlive, heq⟩ := h.rows_eq_some.mp hr
        exact (h.fresh (hnew.fresh record.sessionId (by simp)) hlive).1 (heq.trans hid)
      rw [hnone, if_pos hid, hid]
      exact .created
    · rw [if_neg hid]
      exact hswept.create id

/-- Where a row is found for the challenge, it is handed back. -/
theorem create_found {record : SessionRecord} (h : s.WF)
    (hfound : s.found now record.challengeId = some r) : r.challengeId = record.challengeId ∧
      s.rows r.sessionId = some r ∧ s.createForChallenge now record = (some r, s.sweep now) ∧
      (s.sweep now).rows r.sessionId = some r := by
  obtain ⟨hwf, hswept⟩ := h.sweep now
  obtain ⟨hr, hchallenge⟩ := (hwf.deref_eq_some hwf.challenges).mp hfound
  refine ⟨hchallenge, hswept.subset _ _ hr, ?_, hr⟩
  rw [createForChallenge_eq, hfound]

/-- Where no row is found for the challenge, the new one is stored. -/
theorem create_new {record : SessionRecord} (h : s.WF) (hnew : record.IsNew s.rows)
    (hfound : s.found now record.challengeId = none) :
    s.createForChallenge now record = (some record, (s.sweep now).add record) ∧
      ∀ id, ((s.sweep now).add record).rows id =
        if id = record.sessionId then some record else (s.sweep now).rows id := by
  obtain ⟨hwf, hswept⟩ := h.sweep now
  refine ⟨?_, (hwf.add (hnew.mono hswept.subset) hfound).2⟩
  rw [createForChallenge_eq, hfound]

/-- Afterwards, the only row for the challenge is the one that was found, or the new one. -/
theorem create_only {record : SessionRecord} (h : s.WF) (hnew : record.IsNew s.rows)
    (hr : (s.createForChallenge now record).2.rows id = some r)
    (hchallenge : r.challengeId = record.challengeId) :
    s.found now record.challengeId = some r ∨ r = record := by
  obtain ⟨hwf, -⟩ := h.sweep now
  have hfind : ∀ {id}, (s.sweep now).rows id = some r →
      s.found now record.challengeId = some r := by
    intro id hr
    obtain ⟨i, hlive, -⟩ := hwf.rows_eq_some.mp hr
    exact (hwf.deref_eq_some hwf.challenges).mpr ⟨hwf.rows_of_live hlive, hchallenge⟩
  cases hfound : s.found now record.challengeId with
  | some existing =>
    rw [(create_found h hfound).2.2.1] at hr
    exact Or.inl (hfound ▸ hfind hr)
  | none =>
    obtain ⟨heq, hrows⟩ := create_new h hnew hfound
    simp only [heq, hrows] at hr
    split at hr
    · exact Or.inr (Option.some.inj hr).symm
    · exact Or.inl (hfound ▸ hfind hr)

/-- Changing nothing but the times of revocation keeps the invariant, and the rows but for these
times. -/
theorem WF.restamp (h : s.WF) {objects : List SessionRecord}
    (f : ℕ → SessionRecord → Option ℤ)
    (hobj : ∀ i, objects[i]? = (s.objects[i]?).map fun r : SessionRecord => r.stamp (f i r)) :
    ({ s with objects } : MemorySessions).WF ∧ ∀ i r, s.Live i r →
      ({ s with objects } : MemorySessions).rows r.sessionId = some (r.stamp (f i r)) := by
  have hlive : ∀ i r', ({ s with objects } : MemorySessions).Live i r' ↔
      ∃ r, s.Live i r ∧ r' = r.stamp (f i r) := by
    intro i r'
    simp only [Live, hobj, Option.map_eq_some_iff]
    constructor
    · rintro ⟨⟨r, hr, rfl⟩, hid⟩
      exact ⟨r, ⟨hr, hid⟩, rfl⟩
    · rintro ⟨r, ⟨hr, hid⟩, rfl⟩
      exact ⟨⟨r, hr, rfl⟩, hid⟩
  -- The keys of a session do not depend on the time of its revocation.
  have hindex : ∀ {m : JsMap ℕ} {K : SessionRecord → String → Prop}, s.Indexes m K →
      (∀ r t k, K (r.stamp t) k ↔ K r k) →
      ({ s with objects } : MemorySessions).Indexes m K := by
    intro m K hm hK k i
    rw [hm k i]
    constructor
    · rintro ⟨r, hr, hk⟩
      exact ⟨_, (hlive i _).mpr ⟨r, hr, rfl⟩, (hK r _ k).mpr hk⟩
    · rintro ⟨r', hr', hk⟩
      obtain ⟨r, hr, rfl⟩ := (hlive i r').mp hr'
      exact ⟨r, hr, (hK r _ k).mp hk⟩
  refine ⟨⟨?_, hindex h.challenges fun _ _ _ => Iff.rfl, hindex h.accessTokens fun _ _ _ => Iff.rfl,
    hindex h.refreshTokens fun _ _ _ => Iff.rfl, ?_, ?_⟩, ?_⟩
  · intro id i hi
    obtain ⟨r, hr, hid⟩ := h.ids hi
    exact ⟨r.stamp (f i r), by rw [hobj, hr, Option.map_some], hid⟩
  · intro i r' hr'
    obtain ⟨r, hr, rfl⟩ := (hlive i r').mp hr'
    exact fun hempty => h.nonempty hr hempty
  · intro i r' hr'
    obtain ⟨r, hr, rfl⟩ := (hlive i r').mp hr'
    exact fun t ht => h.distinct hr t ht
  · intro i r hr
    simp only [rows, deref, hr.2, Option.bind_some, hobj, hr.1, Option.map_some]

/-- A row that is not live is not there. -/
theorem WF.rows_cases (h : s.WF) (id : String) :
    s.rows id = none ∨ ∃ i r, s.Live i r ∧ r.sessionId = id ∧ s.rows id = some r := by
  cases hr : s.rows id with
  | none => exact Or.inl rfl
  | some r =>
    obtain ⟨i, hlive, hid⟩ := h.rows_eq_some.mp hr
    exact Or.inr ⟨i, r, hlive, hid, rfl⟩

/-- Where `sessionsById` leads nowhere there is no row, whatever the objects are. -/
theorem WF.rows_none (h : s.WF) (objects : List SessionRecord) (hr : s.rows id = none) :
    ({ s with objects } : MemorySessions).rows id = none := by
  cases hi : s.sessionsById.lookup id with
  | none => simp [rows, deref, hi]
  | some i =>
    obtain ⟨r, hobj, -⟩ := h.ids hi
    simp [rows, deref, hi, hobj] at hr

/-- `revokeBySessionId` revokes the row under the id, and no other. -/
theorem revokeBySessionId_spec (h : s.WF) (id : String) (now : ℤ) : (s.revokeBySessionId id now).WF ∧
    ∀ id', (s.revokeBySessionId id now).rows id' = (s.rows id').map fun r : SessionRecord =>
      if id' = id then r.stamp (some now) else r := by
  unfold revokeBySessionId
  split
  · rename_i ref href
    have hobj : ∀ i, (s.objects.modify ref fun r : SessionRecord => r.stamp (some now))[i]? =
        (s.objects[i]?).map fun r : SessionRecord =>
          r.stamp (if i = ref then some now else r.revokedAt) := by
      intro i
      rw [List.getElem?_modify]
      by_cases hi : ref = i
      · simp [hi]
      · simp [hi, Ne.symm hi]
    obtain ⟨hwf, hrows⟩ := h.restamp (fun i r => if i = ref then some now else r.revokedAt) hobj
    refine ⟨hwf, fun id' => ?_⟩
    rcases h.rows_cases id' with hnone | ⟨i, r, hlive, rfl, hr⟩
    · rw [hnone, h.rows_none _ hnone, Option.map_none]
    · rw [hrows i r hlive, hr, Option.map_some]
      have hiff : i = ref ↔ r.sessionId = id := by
        constructor
        · rintro rfl
          obtain ⟨r', hr', hid⟩ := h.ids href
          rw [← hid, Option.some.inj (hlive.1.symm.trans hr')]
        · rintro rfl
          exact Option.some.inj (hlive.2.symm.trans href)
      by_cases hi : i = ref
      · rw [if_pos hi, if_pos (hiff.mp hi)]
      · rw [if_neg hi, if_neg fun heq => hi (hiff.mpr heq), SessionRecord.stamp_self]
  · rename_i hnone
    refine ⟨h, fun id' => ?_⟩
    cases hr : s.rows id' with
    | none => rfl
    | some r =>
      have hne : id' ≠ id := by
        rintro rfl
        simp [rows, deref, hnone] at hr
      rw [Option.map_some, if_neg hne]

/-- The loop of `revokeByPrincipal` revokes the objects of the principal that are not revoked. -/
theorem revokeLoop_get (pubkey : String) (now : ℤ) (refs : List ℕ) (acc : ℕ × List SessionRecord) (i : ℕ) :
    (refs.foldl (revokeOne pubkey now) acc).2[i]? = (acc.2[i]?).map fun r : SessionRecord =>
      r.stamp (if i ∈ refs ∧ r.principalPubkey = pubkey ∧ r.revoked = false then some now
        else r.revokedAt) := by
  induction refs generalizing acc with
  | nil => simp
  | cons ref refs ih =>
    rw [List.foldl_cons, ih]
    unfold revokeOne
    cases hr : acc.2[ref]? with
    | none =>
      by_cases hi : i = ref
      · subst hi
        simp [hr]
      · simp [hi]
    | some r =>
      by_cases hhit : r.principalPubkey = pubkey ∧ r.revoked = false
      · simp only [if_pos hhit, List.getElem?_set]
        by_cases hi : ref = i
        · subst hi
          obtain ⟨hlt, hget⟩ := List.getElem?_eq_some_iff.mp hr
          simp [hlt, hget, hhit]
        · simp [hi, Ne.symm hi]
      · simp only [if_neg hhit]
        by_cases hi : i = ref
        · subst hi
          simp [hr, hhit]
        · simp [hi]

/-- `revokeByPrincipal` revokes the rows of the principal that are not revoked. -/
theorem revokeByPrincipal_spec (h : s.WF) (pubkey : String) (now : ℤ) :
    (s.revokeByPrincipal pubkey now).2.WF ∧
      ∀ id, (s.revokeByPrincipal pubkey now).2.rows id = (s.rows id).map fun r : SessionRecord =>
        r.stamp (if r.principalPubkey = pubkey ∧ r.revoked = false then some now
          else r.revokedAt) := by
  obtain ⟨hwf, hrows⟩ := h.restamp _
    (fun i => revokeLoop_get pubkey now s.sessionsById.values (0, s.objects) i)
  refine ⟨hwf, fun id => ?_⟩
  rcases h.rows_cases id with hnone | ⟨i, r, hlive, rfl, hr⟩
  · rw [hnone, Option.map_none]
    exact h.rows_none _ hnone
  · have hmem : i ∈ s.sessionsById.values :=
      List.mem_map.mpr ⟨_, JsMap.lookup_eq_some.mp hlive.2, rfl⟩
    have hrow := hrows i r hlive
    simp only [hmem, true_and] at hrow
    rw [hr, Option.map_some]
    exact hrow

/-- The sessions that the store holds, in no order that matters. -/
def held (s : MemorySessions) : List SessionRecord :=
  s.sessionsById.values.filterMap (s.objects[·]?)

/-- Following references that lead to sessions under their ids gives sessions with these ids. -/
theorem sessionIds_of_refs {objects : List SessionRecord} {l : List (Sigma fun _ : String => ℕ)}
    (h : ∀ e ∈ l, ∃ r, objects[e.2]? = some r ∧ r.sessionId = e.1) :
    ((l.map (·.2)).filterMap (objects[·]?)).map (·.sessionId) = l.keys := by
  induction l with
  | nil => rfl
  | cons e l ih =>
    obtain ⟨r, hr, hid⟩ := h e List.mem_cons_self
    rw [List.map_cons, List.filterMap_cons_some hr, List.map_cons, List.keys_cons, hid,
      ih fun e' he' => h e' (List.mem_cons_of_mem _ he')]

/-- No two of the held sessions have the same id. -/
theorem WF.held_ids (h : s.WF) : (s.held.map (·.sessionId)).Nodup := by
  have hids : s.held.map (·.sessionId) = s.sessionsById.entries.keys :=
    sessionIds_of_refs fun e he => h.ids (JsMap.lookup_eq_some.mpr he)
  rw [hids]
  exact s.sessionsById.nodupKeys

/-- The held sessions are the rows. -/
theorem WF.mem_held (h : s.WF) : r ∈ s.held ↔ s.rows r.sessionId = some r := by
  rw [held, List.mem_filterMap, h.rows_eq_some]
  constructor
  · rintro ⟨i, hi, hobj⟩
    obtain ⟨e, he, rfl⟩ := List.mem_map.mp hi
    have hlookup := JsMap.lookup_eq_some.mpr he
    obtain ⟨r', hobj', hid⟩ := h.ids hlookup
    obtain rfl := Option.some.inj (hobj.symm.trans hobj')
    exact ⟨e.2, ⟨hobj, hid ▸ hlookup⟩, rfl⟩
  · rintro ⟨i, hlive, -⟩
    exact ⟨i, List.mem_map.mpr ⟨_, JsMap.lookup_eq_some.mp hlive.2, rfl⟩, hlive.1⟩

/-- No two session ids have the same reference. -/
theorem WF.refs_nodup (h : s.WF) : s.sessionsById.values.Nodup := by
  have hids : s.sessionsById.values.map (fun i => (s.objects[i]?).map (·.sessionId)) =
      s.sessionsById.keys.map some := by
    unfold JsMap.values AList.keys List.keys
    rw [List.map_map, List.map_map]
    refine List.map_congr_left fun e he => ?_
    obtain ⟨r, hr, hid⟩ := h.ids (JsMap.lookup_eq_some.mpr he)
    simp only [Function.comp_apply, hr, Option.map_some, hid]
  apply List.Nodup.of_map
  rw [hids]
  exact s.sessionsById.keys_nodup.map (Option.some_injective _)

/-- The loop of `revokeByPrincipal` counts the objects that it revokes. -/
theorem revokeLoop_count (pubkey : String) (now : ℤ) {refs : List ℕ} (hrefs : refs.Nodup)
    (acc : ℕ × List SessionRecord) : (refs.foldl (revokeOne pubkey now) acc).1 =
      acc.1 + (refs.filterMap (acc.2[·]?)).countP fun r =>
        decide (r.principalPubkey = pubkey) && !r.revoked := by
  induction refs generalizing acc with
  | nil => rfl
  | cons ref refs ih =>
    rw [List.nodup_cons] at hrefs
    rw [List.foldl_cons, ih hrefs.2]
    -- What the loop has still to count does not depend on this object.
    have hrest : refs.filterMap ((revokeOne pubkey now acc ref).2[·]?) =
        refs.filterMap (acc.2[·]?) := by
      refine List.filterMap_congr fun i hi => ?_
      have hne : ref ≠ i := fun heq => hrefs.1 (heq ▸ hi)
      unfold revokeOne
      split
      · split
        · exact List.getElem?_set_ne hne
        · rfl
      · rfl
    rw [hrest]
    unfold revokeOne
    cases hr : acc.2[ref]? with
    | none => rw [List.filterMap_cons_none hr]
    | some r =>
      rw [List.filterMap_cons_some hr, List.countP_cons]
      generalize List.countP _ (List.filterMap _ refs) = n
      by_cases hhit : r.principalPubkey = pubkey ∧ r.revoked = false
      · simp only [hhit, decide_true, Bool.not_false, Bool.and_self, if_true, and_self]
        omega
      · have hmiss : ¬ (decide (r.principalPubkey = pubkey) && !r.revoked) = true := by
          simpa using hhit
        simp only [if_neg hmiss, if_neg hhit]
        omega

/-- `revokeByPrincipal` counts the held sessions of the principal that are not revoked. -/
theorem WF.revokeByPrincipal_count (h : s.WF) (pubkey : String) (now : ℤ) :
    (s.revokeByPrincipal pubkey now).1 = s.held.countP fun r =>
      decide (r.principalPubkey = pubkey) && !r.revoked := by
  unfold revokeByPrincipal
  rw [revokeLoop_count pubkey now h.refs_nodup, zero_add]
  rfl

/-- Exchanging the object of a live session leaves the others. -/
theorem live_exchange (h₀ : s.Live i₀ r₀) (params : RotateRefreshTokenParams) :
    (s.exchange i₀ r₀ params).Live i r ↔
      (i ≠ i₀ ∧ s.Live i r) ∨ (i = i₀ ∧ r = r₀.rotate params) := by
  simp only [Live, exchange, List.getElem?_set]
  by_cases hi : i₀ = i
  · subst hi
    simp only [if_pos, (List.getElem?_eq_some_iff.mp h₀.1).1, Option.some.injEq, ne_eq,
      not_true_eq_false, false_and, true_and, false_or]
    constructor
    · exact fun hr => hr.1.symm
    · rintro rfl
      exact ⟨rfl, h₀.2⟩
  · simp [hi, Ne.symm hi]

/-- Exchanging the tokens of a live session for fresh ones keeps the invariant, and rotates the
row. -/
theorem WF.exchange (h : s.WF) (h₀ : s.Live i₀ r₀) {params : RotateRefreshTokenParams}
    (haccess : s.rows.Fresh params.accessToken) (hrefresh : s.rows.Fresh params.refreshToken) :
    (s.exchange i₀ r₀ params).WF ∧ ∀ id, (s.exchange i₀ r₀ params).rows id =
      if id = r₀.sessionId then some (r₀.rotate params) else s.rows id := by
  have hlive : ∀ i r, (s.exchange i₀ r₀ params).Live i r ↔
      (i ≠ i₀ ∧ s.Live i r) ∨ (i = i₀ ∧ r = r₀.rotate params) := fun i r => live_exchange h₀ params
  have hnewtoken : ¬ r₀.HasRefreshToken params.refreshToken := (h.fresh hrefresh h₀).2.2
  -- The keys of the rotated session are its new token and the one that was current.
  have hkeys : ∀ k, (r₀.rotate params).HasRefreshToken k ↔
      params.refreshToken = k ∨ r₀.refreshToken = some k := by
    intro k
    simp [SessionRecord.HasRefreshToken, SessionRecord.rotate]
  refine ⟨⟨?_, ?_, ?_, ?_, ?_, ?_⟩, fun id => ?_⟩
  · intro id i hi
    obtain ⟨r, hr, rfl⟩ := h.ids hi
    by_cases hi₀ : i = i₀
    · obtain rfl := Live.object_unique (s := s) (i := i) ⟨hr, hi⟩ (hi₀ ▸ h₀)
      exact ⟨r.rotate params, ((hlive i _).mpr (Or.inr ⟨hi₀, rfl⟩)).1, rfl⟩
    · exact ⟨r, ((hlive i r).mpr (Or.inl ⟨hi₀, hr, hi⟩)).1, rfl⟩
  · refine h.challenges.replace h₀ hlive (fun k i r hk hk₀ => absurd hk hk₀) (fun k hk => ?_)
      (fun k hk hk₀ => absurd hk₀ hk) fun k _ _ => rfl
    exact (h.challenges k i₀).mpr ⟨r₀, h₀, hk⟩
  · refine h.accessTokens.replace h₀ hlive (fun k i r hk _ hr hrk => ?_) (fun k hk => ?_)
      (fun k hk hk₀ => ?_) fun k hk hk₀ => ?_
    · exact (h.fresh haccess hr).2.1 (hrk.trans hk.symm)
    · obtain rfl : params.accessToken = k := hk
      simp [MemorySessions.exchange]
    · have hk : k ≠ params.accessToken := Ne.symm hk
      simp [MemorySessions.exchange, hk, hk₀]
    · have hk : k ≠ params.accessToken := Ne.symm hk
      simp [MemorySessions.exchange, hk, Ne.symm hk₀]
  · have hlookup : ∀ k, (s.exchange i₀ r₀ params).sessionsByRefreshToken.lookup k =
        if k = params.refreshToken then some i₀ else if r₀.previousRefreshToken = some k ∧ k ≠ ""
          then none else s.sessionsByRefreshToken.lookup k := by
      intro k
      simp only [MemorySessions.exchange, JsMap.lookup_insert_eq, lookup_deleteToken]
    refine h.refreshTokens.replace h₀ hlive (fun k i r hk hk₀ hr => ?_) (fun k hk => ?_)
      (fun k hk hk₀ => ?_) fun k hk hk₀ => ?_
    · rcases (hkeys k).mp hk with rfl | hk
      · exact (h.fresh hrefresh hr).2.2
      · exact absurd (Or.inl hk) hk₀
    · rw [hlookup]
      rcases (hkeys k).mp hk with rfl | hk
      · rw [if_pos rfl]
      · have hne : k ≠ params.refreshToken := by
          rintro rfl
          exact hnewtoken (Or.inl hk)
        rw [if_neg hne, if_neg fun hp => h.distinct h₀ k hk hp.1]
        exact (h.refreshTokens k i₀).mpr ⟨r₀, h₀, Or.inl hk⟩
    · rw [hkeys, not_or] at hk
      have hprev := hk₀.resolve_left hk.2
      have hne : k ≠ "" := fun heq => h.nonempty h₀ (heq ▸ Or.inr hprev)
      rw [hlookup, if_neg (Ne.symm hk.1), if_pos ⟨hprev, hne⟩]
    · rw [hkeys, not_or] at hk
      rw [hlookup, if_neg (Ne.symm hk.1), if_neg fun hp => hk₀ (Or.inr hp.1)]
  · intro i r hr hempty
    rcases (hlive i r).mp hr with ⟨-, hr⟩ | ⟨-, rfl⟩
    · exact h.nonempty hr hempty
    · rcases (hkeys "").mp hempty with heq | heq
      · exact hrefresh.1 heq
      · exact h.nonempty h₀ (Or.inl heq)
  · intro i r hr t ht
    rcases (hlive i r).mp hr with ⟨-, hr⟩ | ⟨-, rfl⟩
    · exact h.distinct hr t ht
    · obtain rfl := Option.some.inj ht
      exact fun heq => hnewtoken (Or.inl heq)
  · simp only [rows, deref, MemorySessions.exchange]
    split
    · rename_i hid
      rw [hid, h₀.2, Option.bind_some, List.getElem?_set_self]
      exact (List.getElem?_eq_some_iff.mp h₀.1).1
    · rename_i hid
      cases hi : s.sessionsById.lookup id with
      | none => rfl
      | some i =>
        have hne : i₀ ≠ i := by
          rintro rfl
          obtain ⟨r, hr, heq⟩ := h.ids hi
          exact hid (heq.symm.trans (congrArg _ (Option.some.inj (hr.symm.trans h₀.1))))
        rw [Option.bind_some, Option.bind_some, List.getElem?_set_ne hne]

/-- `rotateRefreshToken` on a live session that holds the expected token. -/
theorem rotate_hit {params : RotateRefreshTokenParams} (h₀ : s.Live i₀ r₀)
    (hcurrent : r₀.refreshToken = some params.expectedRefreshToken) :
    s.rotateRefreshToken r₀.sessionId params =
      (some (r₀.rotate params), s.exchange i₀ r₀ params) := by
  simp only [rotateRefreshToken, h₀.2, h₀.1, hcurrent, ne_eq, not_true_eq_false, if_false]

/-- `rotateRefreshToken` on anything else changes nothing. -/
theorem rotate_miss {params : RotateRefreshTokenParams} (h : s.WF)
    (hmiss : ∀ r, s.rows id = some r → r.refreshToken ≠ some params.expectedRefreshToken) :
    s.rotateRefreshToken id params = (none, s) := by
  unfold rotateRefreshToken
  split
  · rfl
  · rename_i ref href
    obtain ⟨r, hr, hid⟩ := h.ids href
    have hrow : s.rows id = some r := h.rows_eq_some.mpr ⟨ref, ⟨hr, hid ▸ href⟩, hid⟩
    rw [hr]
    exact if_pos (hmiss r hrow)

/-- The two cases of `rotateRefreshToken`. -/
theorem rotate_cases (id : String) (params : RotateRefreshTokenParams) (h : s.WF) :
    (∃ i r, s.Live i r ∧ r.sessionId = id ∧ r.refreshToken = some params.expectedRefreshToken ∧
      s.rotateRefreshToken id params = (some (r.rotate params), s.exchange i r params)) ∨
    ((∀ r, s.rows id = some r → r.refreshToken ≠ some params.expectedRefreshToken) ∧
      s.rotateRefreshToken id params = (none, s)) := by
  by_cases hhit : ∃ r, s.rows id = some r ∧ r.refreshToken = some params.expectedRefreshToken
  · obtain ⟨r, hr, hcurrent⟩ := hhit
    obtain ⟨i, hlive, rfl⟩ := h.rows_eq_some.mp hr
    exact Or.inl ⟨i, r, hlive, rfl, hcurrent, rotate_hit hlive hcurrent⟩
  · have hmiss : ∀ r, s.rows id = some r →
        r.refreshToken ≠ some params.expectedRefreshToken := fun r hr hc => hhit ⟨r, hr, hc⟩
    exact Or.inr ⟨hmiss, rotate_miss h hmiss⟩

/-- The in-memory session store is lawful. -/
theorem store_lawful : SessionStore.Lawful view where
  wf_init := ⟨by simp [store], by simp [store, Indexes, Live], by simp [store, Indexes, Live],
    by simp [store, Indexes, Live], by simp [store, Live], by simp [store, Live]⟩
  rows_init := by simp [view, store, rows, deref]
  rows_id := by
    intro s id r h hr
    obtain ⟨i, -, hid⟩ := h.rows_eq_some.mp hr
    exact hid
  create := create_spec
  create_found := by
    intro s now record r h _ hfound
    obtain ⟨hchallenge, hr, heq, hr'⟩ := create_found h hfound
    refine ⟨hchallenge, hr, ?_, congrArg Prod.fst heq⟩
    exact (congrArg (fun p : _ × MemorySessions => p.2.rows r.sessionId) heq).trans hr'
  create_new := by
    intro s now record h hnew hfound
    obtain ⟨heq, hrows⟩ := create_new h hnew hfound
    refine ⟨congrArg Prod.fst heq, ?_⟩
    refine (congrArg (fun p : _ × MemorySessions => p.2.rows record.sessionId) heq).trans ?_
    rw [hrows, if_pos rfl]
  create_only := create_only
  getBySessionId := by
    intro s id _
    change s.rows id = (s.rows id).filter fun _ => true
    cases s.rows id <;> rfl
  getByAccessToken := fun h => ⟨(h.sweep _).1, fun id => (h.sweep _).2.lookup id⟩
  getByAccessToken_iff := by
    intro s now token r h
    simp only [store, view, getByAccessToken, and_true]
    exact (h.sweep now).1.deref_eq_some (h.sweep now).1.accessTokens
  revokeBySessionId := by
    intro s id now h
    obtain ⟨hwf, hrows⟩ := revokeBySessionId_spec h id now
    refine ⟨hwf, fun id' => ?_⟩
    change SessionChange _ _ id' (s.rows id') ((s.revokeBySessionId id now).rows id')
    rw [hrows]
    cases hr : s.rows id' with
    | none => exact .same
    | some r =>
      rw [Option.map_some]
      split
      · rename_i hid
        rw [hid]
        exact .revokedById (Or.inl rfl)
      · exact .same
  revokeBySessionId_hit := by
    intro s id now r h hr
    refine ⟨now, ((revokeBySessionId_spec h id now).2 id).trans ?_, Or.inl rfl⟩
    rw [show s.rows id = some r from hr, Option.map_some, if_pos rfl]
  revokeByPrincipal := by
    intro s pubkey now h
    obtain ⟨hwf, hrows⟩ := revokeByPrincipal_spec h pubkey now
    refine ⟨hwf, fun id => ?_⟩
    change SessionChange _ _ id (s.rows id) ((s.revokeByPrincipal pubkey now).2.rows id)
    rw [hrows]
    cases hr : s.rows id with
    | none => exact .same
    | some r =>
      rw [Option.map_some]
      split
      · rename_i hhit
        exact .revokedByPrincipal hhit.1 (Or.inl rfl)
      · exact .same
  revokeByPrincipal_hit := by
    intro s pubkey now id r h hr hprincipal
    have hrow := (revokeByPrincipal_spec h pubkey now).2 id
    rw [show s.rows id = some r from hr, Option.map_some] at hrow
    by_cases hrevoked : r.revoked = false
    · exact ⟨now, by rw [if_pos ⟨hprincipal, hrevoked⟩] at hrow; exact hrow, Or.inl rfl⟩
    · -- A revoked session keeps its time.
      obtain ⟨t, ht, -⟩ := truthyInt_iff.mp (Bool.eq_true_of_not_eq_false hrevoked)
      rw [if_neg fun hc => hrevoked hc.2, ht] at hrow
      exact ⟨t, hrow, Or.inr ht⟩
  getByRefreshToken_iff := fun h => h.deref_eq_some h.refreshTokens
  rotate := by
    intro s id params h haccess hrefresh
    rcases rotate_cases id params h with ⟨i, r, hlive, rfl, hcurrent, heq⟩ | ⟨-, heq⟩
    · obtain ⟨hwf, hrows⟩ := h.exchange hlive haccess hrefresh
      simp only [store, heq, view]
      refine ⟨hwf, fun id' => ?_⟩
      rw [hrows]
      split
      · rename_i hid
        rw [hid, h.rows_of_live hlive]
        exact .rotated hcurrent rfl
      · exact .same
    · simp only [store, heq]
      exact ⟨h, fun _ => .same⟩
  rotate_iff := by
    intro s id params r' h
    rcases rotate_cases id params h with ⟨i, r, hlive, rfl, hcurrent, heq⟩ | ⟨hmiss, heq⟩
    · simp only [store, heq, view, Option.some.injEq, true_and]
      constructor
      · rintro rfl
        exact ⟨r, h.rows_of_live hlive, hcurrent, rfl⟩
      · rintro ⟨r₁, hr₁, -, rfl⟩
        rw [Option.some.inj ((h.rows_of_live hlive).symm.trans hr₁)]
    · simp only [store, heq, reduceCtorEq, false_iff, not_exists, not_and]
      exact fun r hr hcurrent => absurd hcurrent (hmiss r hr)
  rotate_hit := by
    intro s id params r' h haccess hrefresh hanswer
    rcases rotate_cases id params h with ⟨i, r, hlive, rfl, hcurrent, heq⟩ | ⟨-, heq⟩
    · obtain ⟨-, hrows⟩ := h.exchange hlive haccess hrefresh
      simp only [store, heq, view, Option.some.injEq] at hanswer ⊢
      rw [hrows, if_pos rfl, hanswer]
    · simp [store, heq] at hanswer

end Invariant

end MemorySessions

end NapAuth

import NapAuth.Store.Calls

/-!
# Where the two stores of an interface agree

The in-memory and the Postgres store of each interface, side by side on the same sequence of calls,
as long as the in-memory store has nothing to evict, and a row of the Postgres store is read back as it
was written (see `NapAuth.Store.Rows`). Outcomes look alike if the answers are the same and the records
that are held afterwards are.

For each interface a condition on a call and the state that it finds (`ChallengeCall.Covered`,
`SessionCall.Covered`) says on which calls the stores do the same. They agree on a sequence exactly
if all of its calls meet the condition. The counterexamples after the theorems are calls that do
not.
-/

namespace NapAuth

/-! ## Challenges -/

/-- A challenge with another failure count. -/
def ChallengeRecord.counted (r : ChallengeRecord) (failureCount : Option ℤ) : ChallengeRecord :=
  { r with failureCount }

/-- A challenge as everything reads it: a failure count that was never set counts as zero. -/
def ChallengeRecord.normalize (r : ChallengeRecord) : ChallengeRecord :=
  r.counted (some (r.failureCount.getD 0))

/-- Challenges that read the same differ in their failure counts at most. -/
theorem ChallengeRecord.normalize_eq_iff {r r' : ChallengeRecord} :
    r'.normalize = r.normalize ↔
      ∃ c, r' = r.counted c ∧ c.getD 0 = r.failureCount.getD 0 := by
  constructor
  · intro heq
    refine ⟨r'.failureCount, ?_, ?_⟩
    · have hback : r' = r'.normalize.counted r'.failureCount := rfl
      rw [hback, heq]
      rfl
    · have hcount : r'.normalize.failureCount = r.normalize.failureCount := congrArg _ heq
      exact Option.some.inj hcount
  · rintro ⟨c, rfl, hc⟩
    have hcount : (r.counted c).normalize = r.counted (some (c.getD 0)) := rfl
    rw [hcount, hc]
    rfl

/-- An answer with its record as everything reads it. -/
def ChallengeAnswer.normalize : ChallengeAnswer → ChallengeAnswer
  | .found record => .found (record.map ChallengeRecord.normalize)
  | answer => answer

/-- The outcomes of a call look alike: the answers are the same, and so are the records that the
stores hold. -/
def ChallengeStore.Alike (C D : ChallengeStore) (x : ChallengeAnswer × C.State)
    (y : ChallengeAnswer × D.State) : Prop :=
  x.1.normalize = y.1.normalize ∧
    ∀ id, (C.get id x.2).map ChallengeRecord.normalize = (D.get id y.2).map ChallengeRecord.normalize

/-- The in-memory store has nothing to evict on the call. -/
def ChallengeCall.Keeps (s : MemoryChallenges) : ChallengeCall → Prop
  | .create now _ => ∀ id, (s.sweep now).get id = s.get id
  | _ => True

/-- The calls on which the stores do the same. A created challenge has an id that is not held, and
has nothing in the columns that the `INSERT` leaves out. A challenge to redeem is marked as expired,
or its end is still to come, or it has come and the challenge is no longer issued. -/
def ChallengeCall.Covered (s : MemoryChallenges) : ChallengeCall → Prop
  | .create _ record => s.get record.challengeId = none ∧ record.redeemedEventId = none ∧
      record.redeemedSessionId = none ∧ record.resultCacheUntil = none ∧
      record.failureCount.getD 0 = 0
  | .redeem challengeId params => ∀ r, s.get challengeId = some r → r.state = .expired ∨
      params.now < r.expiresAt ∨ (params.now = r.expiresAt ∧ r.state ≠ .issued)
  | _ => True

/-- The states of the two stores hold the same records. -/
structure ChallengesMatch (s : MemoryChallenges) (rows : PostgresChallenges) : Prop where
  /-- The in-memory store is well-formed. -/
  memory : s.WF
  /-- The table is well-formed. -/
  postgres : rows.WF
  /-- The records are the same under every id. -/
  records : ∀ id, (s.get id).map ChallengeRecord.normalize =
    (rows.get id).map ChallengeRecord.normalize

namespace ChallengesMatch

variable {s s' : MemoryChallenges} {rows rows' : PostgresChallenges} {id : String}
  {r : ChallengeRecord}

/-- Where the in-memory store holds a record, the table holds it as well, up to its failure
count. -/
theorem get_memory (h : ChallengesMatch s rows) (hr : s.get id = some r) :
    ∃ c, rows.get id = some (r.counted c) ∧ c.getD 0 = r.failureCount.getD 0 := by
  have heq := h.records id
  rw [hr, Option.map_some] at heq
  obtain ⟨r', hr', hnormal⟩ := Option.map_eq_some_iff.mp heq.symm
  obtain ⟨c, rfl, hc⟩ := ChallengeRecord.normalize_eq_iff.mp hnormal
  exact ⟨c, hr', hc⟩

theorem get_none (h : ChallengesMatch s rows) : s.get id = none ↔ rows.get id = none := by
  rw [← Option.map_eq_none_iff (f := ChallengeRecord.normalize), h.records, Option.map_eq_none_iff]

/-- The two stores count the same records. -/
theorem countP (h : ChallengesMatch s rows) {p : ChallengeRecord → Bool}
    (hp : ∀ r, p r.normalize = p r) : s.records.values.countP p = List.countP p rows := by
  have hmap : ∀ l : List ChallengeRecord, l.countP p = (l.map ChallengeRecord.normalize).countP p := by
    intro l
    rw [List.countP_map]
    exact List.countP_congr fun r _ => by simp [hp]
  rw [hmap, hmap rows]
  -- The ids tell the records apart in both lists.
  refine SqlTable.countP_eq_of_mem_iff ?_ ?_ (fun a => ?_) p
  · apply List.Nodup.of_map ChallengeRecord.challengeId
    rw [List.map_map]
    exact h.memory.ids_nodup
  · refine List.pairwise_map.mpr (h.postgres.imp fun {a b} hne heq => hne ?_)
    have hid : a.normalize.challengeId = b.normalize.challengeId := congrArg _ heq
    exact hid
  · have hmem : ∀ r, r ∈ rows ↔ rows.get r.challengeId = some r := fun r =>
      ⟨h.postgres.get_of_mem, List.mem_of_find?_eq_some⟩
    simp only [List.mem_map, h.memory.mem_values, hmem]
    constructor
    · rintro ⟨r, hr, rfl⟩
      obtain ⟨c, hr', hc⟩ := h.get_memory hr
      exact ⟨r.counted c, hr', ChallengeRecord.normalize_eq_iff.mpr ⟨c, rfl, hc⟩⟩
    · rintro ⟨r, hr, rfl⟩
      obtain ⟨r', hr', heq⟩ := Option.map_eq_some_iff.mp
        ((h.records r.challengeId).trans (congrArg (Option.map _) hr))
      have hid : r'.challengeId = r.challengeId := h.memory _ _ hr'
      exact ⟨r', hid ▸ hr', heq⟩

/-- `create` of a covered challenge inserts it in both stores. -/
theorem create (h : ChallengesMatch s rows) {now : ℤ} {record : ChallengeRecord}
    (hkeeps : (ChallengeCall.create now record).Keeps s)
    (hcovered : (ChallengeCall.create now record).Covered s) :
    (s.create now record).1 = (rows.create now record).1 ∧
      ChallengesMatch (s.create now record).2 (rows.create now record).2 := by
  obtain ⟨hnone, hevent, hsession, hcache, hcount⟩ := hcovered
  have hnone' : rows.get record.challengeId = none := h.get_none.mp hnone
  -- The row that the `INSERT` makes is the record, up to the failure count.
  have hpost : rows.create now record = (true, rows ++ [record.normalize]) := by
    simp only [PostgresChallenges.create, hnone', Option.isSome_none, Bool.false_eq_true, if_false,
      ChallengeRecord.normalize, ChallengeRecord.counted, hcount, hevent, hsession, hcache]
  rw [hpost]
  refine ⟨rfl, (h.memory.sweep now).update rfl, h.postgres.append hnone', fun id => ?_⟩
  have hmemory : (s.create now record).2.get id =
      if id = record.challengeId then some record else s.get id := by
    rw [← hkeeps id]
    exact MemoryChallenges.get_update _ _ _ _
  have hpostgres : PostgresChallenges.get id (rows ++ [record.normalize]) =
      if id = record.challengeId then some record.normalize else rows.get id :=
    SqlTable.find?_append_singleton ChallengeRecord.challengeId record.normalize hnone' id
  rw [hmemory, hpostgres]
  split
  · rfl
  · exact h.records id

/-- States that match still do when the same is done to the records in both stores. -/
theorem map (h : ChallengesMatch s rows) (memory : s'.WF) (postgres : rows'.WF)
    {f g : String → ChallengeRecord → ChallengeRecord}
    (hs : ∀ id, s'.get id = (s.get id).map (f id))
    (hrows : ∀ id, rows'.get id = (rows.get id).map (g id))
    (hsame : ∀ id r c, s.get id = some r → c.getD 0 = r.failureCount.getD 0 →
      (f id r).normalize = (g id (r.counted c)).normalize) :
    ChallengesMatch s' rows' := by
  refine ⟨memory, postgres, fun id => ?_⟩
  rw [hs, hrows]
  cases hr : s.get id with
  | none =>
    rw [h.get_none.mp hr]
    rfl
  | some r =>
    obtain ⟨c, hr', hc⟩ := h.get_memory hr
    rw [hr', Option.map_some, Option.map_some, Option.map_some, Option.map_some, hsame id r c hr hc]

/-- `redeem` of a covered challenge. -/
theorem redeem (h : ChallengesMatch s rows) {params : RedeemParams}
    (hcovered : (ChallengeCall.redeem id params).Covered s) :
    (s.redeem id params).1 = (rows.redeem id params).1 ∧
      ChallengesMatch (s.redeem id params).2 (rows.redeem id params).2 := by
  have hcases : ∀ r, s.get id = some r → (r.expiresAt < params.now → r.state = .expired) ∧
      (r.state = .issued → params.now < r.expiresAt) := by
    intro r hr
    rcases hcovered r hr with hexpired | halive | ⟨hend, hnot⟩
    · simp [hexpired]
    · exact ⟨fun hlate => by omega, fun _ => halive⟩
    · exact ⟨fun hlate => by omega, fun hissued => absurd hissued hnot⟩
  constructor
  · rw [MemoryChallenges.redeem_status, PostgresChallenges.redeem_status h.postgres]
    cases hr : s.get id with
    | none => rw [h.get_none.mp hr]
    | some r =>
      obtain ⟨c, hr', -⟩ := h.get_memory hr
      obtain ⟨hlate, hissued⟩ := hcases r hr
      rw [hr']
      change (if r.expiresAt < params.now ∨ r.state = .expired then RedeemStatus.expired
        else if r.state = .issued then .redeemed else .alreadyRedeemed) =
        if r.state = .issued ∧ params.now < r.expiresAt then .redeemed
        else if r.state = .expired ∨ r.expiresAt < params.now then .expired
        else .alreadyRedeemed
      by_cases hstate : r.state = .issued
      · have halive := hissued hstate
        have hnot : ¬ (r.expiresAt < params.now ∨ r.state = .expired) := by
          rw [hstate]
          simp only [reduceCtorEq, or_false]
          omega
        rw [if_neg hnot, if_pos hstate, if_pos ⟨hstate, halive⟩]
      · have hnot : ¬ (r.state = .issued ∧ params.now < r.expiresAt) := fun hc => hstate hc.1
        rw [if_neg hstate, if_neg hnot]
        exact if_congr or_comm rfl rfl
  · refine h.map (MemoryChallenges.redeem_spec h.memory).1
      (PostgresChallenges.redeem_spec h.postgres id params).1
      (MemoryChallenges.get_redeem s id params) (PostgresChallenges.get_redeem h.postgres id params)
      fun id' r c hr hc => ?_
    have hstay : r.normalize = (r.counted c).normalize :=
      ChallengeRecord.normalize_eq_iff.mpr ⟨_, rfl, hc.symm⟩
    by_cases hid : id' = id
    · obtain ⟨hlate, hissued⟩ := hcases r (hid ▸ hr)
      rw [if_pos hid, if_pos hid, MemoryChallenges.redeemed]
      by_cases hstate : r.state = .issued
      · have halive := hissued hstate
        have hnot : ¬ (r.expiresAt < params.now ∨ r.state = .expired) := by
          rw [hstate]
          simp only [reduceCtorEq, or_false]
          omega
        have hhit : (decide ((r.counted c).state = .issued) &&
            decide (params.now < (r.counted c).expiresAt)) = true := by
          simp [ChallengeRecord.counted, hstate, halive]
        rw [if_neg hnot, if_pos hstate, if_pos hhit]
        exact ChallengeRecord.normalize_eq_iff.mpr ⟨_, rfl, hc.symm⟩
      · have hmiss : ¬ (decide ((r.counted c).state = .issued) &&
            decide (params.now < (r.counted c).expiresAt)) = true := by
          simp [ChallengeRecord.counted, hstate]
        rw [if_neg hstate, if_neg hmiss]
        split
        · rename_i hend
          -- A challenge that is marked already is marked again.
          have hexpired : r.state = .expired := hend.elim hlate fun h => h
          have hsame : { r with state := .expired } = r := by rw [← hexpired]
          rw [hsame]
          exact hstay
        · exact hstay
    · rw [if_neg hid, if_neg hid]
      exact hstay

/-- `markExpired` marks the same records in both stores. -/
theorem markExpired (h : ChallengesMatch s rows) (now : ℤ) :
    (s.markExpired now).1 = (rows.markExpired now).1 ∧
      ChallengesMatch (s.markExpired now).2 (rows.markExpired now).2 := by
  refine ⟨h.countP fun _ => rfl, h.map (MemoryChallenges.markExpired_spec h.memory).1
    (PostgresChallenges.markExpired_spec h.postgres now).1 (MemoryChallenges.get_markExpired s now)
    (PostgresChallenges.get_markExpired rows now) fun id r c _ hc => ?_⟩
  have hover : PostgresChallenges.overdue now (r.counted c) = MemoryChallenges.overdue now r := rfl
  rw [hover]
  split
  · exact ChallengeRecord.normalize_eq_iff.mpr ⟨_, rfl, hc.symm⟩
  · exact ChallengeRecord.normalize_eq_iff.mpr ⟨_, rfl, hc.symm⟩

/-- `countOutstanding` counts the same records in both stores. -/
theorem countOutstanding (h : ChallengesMatch s rows) (filter : OutstandingChallengeFilter) :
    s.countOutstanding filter = rows.countOutstanding filter := by
  unfold MemoryChallenges.countOutstanding PostgresChallenges.countOutstanding
  rw [← h.countP fun _ => rfl]
  simp only [← not_lt, decide_not]

/-- A failure counted on records that read the same. -/
theorem countFailure_counted {c : Option ℤ} (hc : c.getD 0 = r.failureCount.getD 0)
    (maxFailures : ℤ) : PostgresChallenges.countFailure maxFailures (r.counted c) =
      MemoryChallenges.countFailure maxFailures r := by
  simp only [PostgresChallenges.countFailure, MemoryChallenges.countFailure,
    ChallengeRecord.counted, hc]

/-- `recordFailure` counts on the same record in both stores. -/
theorem recordFailure (h : ChallengesMatch s rows) (id : String) (now maxFailures : ℤ) :
    (s.recordFailure id now maxFailures).1 = (rows.recordFailure id now maxFailures).1 ∧
      ChallengesMatch (s.recordFailure id now maxFailures).2
        (rows.recordFailure id now maxFailures).2 := by
  constructor
  · rw [MemoryChallenges.recordFailure_answer, PostgresChallenges.recordFailure_answer h.postgres]
    cases hr : s.get id with
    | none =>
      rw [h.get_none.mp hr]
      rfl
    | some r =>
      obtain ⟨c, hr', hc⟩ := h.get_memory hr
      have hstate : (r.counted c).state = r.state := rfl
      rw [hr', Option.filter_some, Option.filter_some, hstate]
      split
      · rw [Option.map_some, Option.map_some, countFailure_counted hc]
      · rfl
  · refine h.map (MemoryChallenges.recordFailure_spec now h.memory).1
      (PostgresChallenges.recordFailure_spec h.postgres id now maxFailures).1
      (MemoryChallenges.get_recordFailure s id now maxFailures)
      (PostgresChallenges.get_recordFailure rows id now maxFailures) fun id' r c hr hc => ?_
    have hstate : (r.counted c).state = r.state := rfl
    simp only [hstate, countFailure_counted hc, decide_eq_true_eq]
    split_ifs
    · rfl
    · exact ChallengeRecord.normalize_eq_iff.mpr ⟨_, rfl, hc.symm⟩
    · exact ChallengeRecord.normalize_eq_iff.mpr ⟨_, rfl, hc.symm⟩

/-- On a covered call the stores do the same. -/
theorem keep (h : ChallengesMatch s rows) {call : ChallengeCall} (hkeeps : call.Keeps s)
    (hcovered : call.Covered s) :
    MemoryChallenges.store.Alike PostgresChallenges.store
        (MemoryChallenges.store.perform s call) (PostgresChallenges.store.perform rows call) ∧
      ChallengesMatch (MemoryChallenges.store.perform s call).2
        (PostgresChallenges.store.perform rows call).2 := by
  cases call with
  | create now record =>
    obtain ⟨hanswer, hmatch⟩ := h.create hkeeps hcovered
    exact ⟨⟨congrArg (fun done => ChallengeAnswer.normalize (.created done)) hanswer,
      hmatch.records⟩, hmatch⟩
  | get challengeId =>
    exact ⟨⟨congrArg ChallengeAnswer.found (h.records challengeId), h.records⟩, h⟩
  | redeem challengeId params =>
    obtain ⟨hanswer, hmatch⟩ := h.redeem hcovered
    exact ⟨⟨congrArg (fun status => ChallengeAnswer.normalize (.status status)) hanswer,
      hmatch.records⟩, hmatch⟩
  | markExpired now =>
    obtain ⟨hanswer, hmatch⟩ := h.markExpired now
    exact ⟨⟨congrArg (fun n => ChallengeAnswer.normalize (.count n)) hanswer,
      hmatch.records⟩, hmatch⟩
  | countOutstanding filter =>
    exact ⟨⟨congrArg (fun n => ChallengeAnswer.normalize (.count n)) (h.countOutstanding filter),
      h.records⟩, h⟩
  | recordFailure challengeId now maxFailures =>
    obtain ⟨hanswer, hmatch⟩ := h.recordFailure challengeId now maxFailures
    exact ⟨⟨congrArg (fun result => ChallengeAnswer.normalize (.failure result)) hanswer,
      hmatch.records⟩, hmatch⟩

/-- A created challenge is the same in both stores only if it is covered. -/
theorem create_covered (h : ChallengesMatch s rows) {now : ℤ} {record : ChallengeRecord}
    (halike : MemoryChallenges.store.Alike PostgresChallenges.store
      (MemoryChallenges.store.perform s (.create now record))
      (PostgresChallenges.store.perform rows (.create now record))) :
    (ChallengeCall.create now record).Covered s := by
  obtain ⟨hanswer, hrecords⟩ := halike
  -- The table takes the row, so it had none under the id.
  have hdone : true = (rows.create now record).1 := ChallengeAnswer.created.inj hanswer
  have hnone : rows.get record.challengeId = none := by
    by_contra hsome
    rw [PostgresChallenges.create, if_pos (Option.isSome_iff_ne_none.mpr hsome)] at hdone
    cases hdone
  have hmemory : (s.create now record).2.get record.challengeId = some record :=
    (MemoryChallenges.get_update _ _ _ _).trans (if_pos rfl)
  have hpostgres := SqlTable.find?_append_singleton ChallengeRecord.challengeId
    { record with redeemedEventId := none, redeemedSessionId := none, resultCacheUntil := none,
                  failureCount := some 0 } hnone record.challengeId
  have hsame := hrecords record.challengeId
  simp only [ChallengeStore.perform, MemoryChallenges.store, PostgresChallenges.store, Prod.map_snd,
    id_eq, hmemory, PostgresChallenges.create, hnone, Option.isSome_none, Bool.false_eq_true,
    if_false] at hsame
  rw [PostgresChallenges.get, hpostgres, if_pos rfl] at hsame
  have hrecord := Option.some.inj hsame
  exact ⟨h.get_none.mpr hnone, congrArg ChallengeRecord.redeemedEventId hrecord,
    congrArg ChallengeRecord.redeemedSessionId hrecord,
    congrArg ChallengeRecord.resultCacheUntil hrecord,
    Option.some.inj (congrArg ChallengeRecord.failureCount hrecord)⟩

/-- A challenge is redeemed alike in both stores only if it is covered. -/
theorem redeem_covered (h : ChallengesMatch s rows) {params : RedeemParams}
    (halike : MemoryChallenges.store.Alike PostgresChallenges.store
      (MemoryChallenges.store.perform s (.redeem id params))
      (PostgresChallenges.store.perform rows (.redeem id params))) :
    (ChallengeCall.redeem id params).Covered s := by
  intro r hr
  obtain ⟨c, hr', -⟩ := h.get_memory hr
  obtain ⟨hanswer, hrecords⟩ := halike
  by_contra hnot
  simp only [not_or, not_and, not_not, not_lt] at hnot
  obtain ⟨hexpired, hend, hissued⟩ := hnot
  rcases hend.lt_or_eq with hlate | hend
  · -- Past its end, only the in-memory store marks the challenge.
    have hmemory := MemoryChallenges.get_redeem s id params id
    have hpostgres := PostgresChallenges.get_redeem h.postgres id params id
    rw [hr, Option.map_some, if_pos rfl, MemoryChallenges.redeemed, if_pos (Or.inl hlate)]
      at hmemory
    have hmiss : ¬ (decide ((r.counted c).state = .issued) &&
        decide (params.now < (r.counted c).expiresAt)) = true := by
      have hlate' : (r.counted c).expiresAt < params.now := hlate
      simp only [Bool.and_eq_true, decide_eq_true_eq, not_and, not_lt]
      exact fun _ => hlate'.le
    rw [hr', Option.map_some, if_pos rfl, if_neg hmiss] at hpostgres
    have hsame := hrecords id
    simp only [ChallengeStore.perform, MemoryChallenges.store, PostgresChallenges.store,
      Prod.map_snd, id_eq, hmemory, hpostgres, Option.map_some] at hsame
    have hstate := congrArg ChallengeRecord.state (Option.some.inj hsame)
    exact hexpired hstate.symm
  · -- At its end, only the in-memory store redeems it.
    have hstate := hissued hend.symm
    have hmemory := MemoryChallenges.redeem_status s id params
    have hpostgres := PostgresChallenges.redeem_status h.postgres id params
    have hstate' : (r.counted c).state = .issued := hstate
    have hend' : (r.counted c).expiresAt = params.now := hend
    rw [hr] at hmemory
    rw [hr'] at hpostgres
    simp only [hstate, hend, lt_irrefl, reduceCtorEq, or_false, if_false, if_true] at hmemory
    simp only [hstate', hend', lt_irrefl, reduceCtorEq, or_false, and_false, if_false] at hpostgres
    have hsame : (s.redeem id params).1 = (rows.redeem id params).1 :=
      ChallengeAnswer.status.inj hanswer
    rw [hmemory, hpostgres] at hsame
    cases hsame

/-- The outcomes of a call look alike only if the call is covered. -/
theorem detect (h : ChallengesMatch s rows) {call : ChallengeCall}
    (halike : MemoryChallenges.store.Alike PostgresChallenges.store
      (MemoryChallenges.store.perform s call) (PostgresChallenges.store.perform rows call)) :
    call.Covered s := by
  cases call with
  | create now record => exact h.create_covered halike
  | redeem challengeId params => exact h.redeem_covered halike
  | get challengeId => trivial
  | markExpired now => trivial
  | countOutstanding filter => trivial
  | recordFailure challengeId now maxFailures => trivial

/-- The empty stores match. -/
theorem init : ChallengesMatch MemoryChallenges.store.init PostgresChallenges.store.init where
  memory := MemoryChallenges.store_lawful.wf_init
  postgres := PostgresChallenges.store_lawful.wf_init
  records := fun id => by
    rw [show MemoryChallenges.get id _ = none from MemoryChallenges.store_lawful.get_init id]
    rfl

end ChallengesMatch

/-- **Where the two challenge stores agree.** On a sequence of calls on which the in-memory store
has nothing to evict, the stores give the same answers and hold the same records throughout if and
only if every call is covered. -/
theorem challenge_stores_agree_iff (calls : List ChallengeCall)
    (hkeeps : Lockstep.Always MemoryChallenges.store.perform (fun s call => call.Keeps s)
      MemoryChallenges.store.init calls) :
    Lockstep.Agree MemoryChallenges.store.perform PostgresChallenges.store.perform
        (MemoryChallenges.store.Alike PostgresChallenges.store) MemoryChallenges.store.init
        PostgresChallenges.store.init calls ↔
      Lockstep.Always MemoryChallenges.store.perform (fun s call => call.Covered s)
        MemoryChallenges.store.init calls := by
  refine Lockstep.Agree.iff_always (I := ChallengesMatch) ?_ ?_ ChallengesMatch.init hkeeps
  · intro s rows call h hkeeps hcovered
    exact h.keep hkeeps hcovered
  · intro s rows call h _ halike
    exact h.detect halike

/-- A challenge as it is issued, until time 200. -/
def sampleChallenge : ChallengeRecord where
  challengeId := "id"
  challenge := "challenge"
  npub := "npub1principal"
  pubkey := "principal"
  authUrl := "https://example.com/auth/complete"
  authMethod := "POST"
  issuedAt := 100
  expiresAt := 200
  state := .issued
  redeemedEventId := none
  redeemedSessionId := none
  resultCacheUntil := none
  clientIp := none
  failureCount := none

/-- There is nothing to evict from an empty store. -/
theorem keeps_create (now : ℤ) (record : ChallengeRecord) :
    (ChallengeCall.create now record).Keeps MemoryChallenges.store.init := by
  intro id
  rcases MemoryChallenges.get_sweep now MemoryChallenges.store.init id with heq | ⟨r, hr, -, -⟩
  · exact heq
  · cases (MemoryChallenges.store_lawful.get_init id).symm.trans hr

/-- The stores agree on a challenge that is redeemed in time and looked up. -/
theorem challenge_stores_agree_in_time :
    Lockstep.Agree MemoryChallenges.store.perform PostgresChallenges.store.perform
      (MemoryChallenges.store.Alike PostgresChallenges.store) MemoryChallenges.store.init
      PostgresChallenges.store.init
      [.create 100 sampleChallenge, .redeem "id" ⟨"event", "session", 150, 450⟩, .get "id"] := by
  refine (challenge_stores_agree_iff
    [.create 100 sampleChallenge, .redeem "id" ⟨"event", "session", 150, 450⟩, .get "id"]
    ⟨keeps_create 100 sampleChallenge, trivial, trivial, trivial⟩).mpr
    ⟨⟨?_, rfl, rfl, rfl, rfl⟩, fun r hr => Or.inr (Or.inl ?_), trivial, trivial⟩
  · exact MemoryChallenges.store_lawful.get_init "id"
  · obtain rfl : sampleChallenge = r := Option.some.inj hr
    decide

/-- A challenge that is redeemed at the last second of its validity: the in-memory store redeems it,
the Postgres store does not. -/
theorem challenge_stores_differ :
    Lockstep.Always MemoryChallenges.store.perform (fun s call => call.Keeps s)
        MemoryChallenges.store.init
        [.create 100 sampleChallenge, .redeem "id" ⟨"event", "session", 200, 500⟩] ∧
      ¬ Lockstep.Agree MemoryChallenges.store.perform PostgresChallenges.store.perform
        (MemoryChallenges.store.Alike PostgresChallenges.store) MemoryChallenges.store.init
        PostgresChallenges.store.init
        [.create 100 sampleChallenge, .redeem "id" ⟨"event", "session", 200, 500⟩] := by
  refine ⟨⟨keeps_create 100 sampleChallenge, trivial, trivial⟩, ?_⟩
  rintro ⟨-, ⟨hanswer, -⟩, -⟩
  exact absurd hanswer (by decide)

/-! ## Sessions -/

/-- The outcomes of a call look alike: the answers are the same, and so are the stored times of
revocation. -/
def SessionsAlike (x : SessionAnswer × MemorySessions) (y : SessionAnswer × PostgresSessions) :
    Prop :=
  x.1 = y.1 ∧ ∀ id, (x.2.rows id).map (·.revokedAt) = (y.2.row id).map (·.revokedAt)

/-- The in-memory store has nothing to evict on the call. -/
def SessionCall.Keeps (s : MemorySessions) : SessionCall → Prop
  | .createForChallenge now _ => (s.sweep now).rows = s.rows
  | .getByAccessToken now _ => (s.sweep now).rows = s.rows
  | _ => True

/-- The calls on which the stores do the same. A session that is found for a challenge, under an id
or an access token, or for a rotation is not revoked. A session that is revoked under its id was not
revoked before, or at the same time. No session of a principal that is revoked was revoked at the
time zero. -/
def SessionCall.Covered (rows : SessionRows) : SessionCall → Prop
  | .createForChallenge _ record => ∀ id r, rows id = some r →
      r.challengeId = record.challengeId → r.revokedAt = none
  | .getBySessionId sessionId => ∀ r, rows sessionId = some r → r.revokedAt = none
  | .getByAccessToken _ token => ∀ id r, rows id = some r → r.accessToken = token →
      r.revokedAt = none
  | .revokeBySessionId sessionId now => ∀ r, rows sessionId = some r →
      r.revokedAt = none ∨ r.revokedAt = some now
  | .revokeByPrincipal pubkey _ => ∀ id r, rows id = some r → r.principalPubkey = pubkey →
      r.revokedAt ≠ some 0
  | .getByRefreshToken _ => True
  | .rotateRefreshToken sessionId params => ∀ r, rows sessionId = some r →
      r.refreshToken = some params.expectedRefreshToken → r.revokedAt = none

/-- The states of the two stores hold the same rows. -/
structure SessionsMatch (s : MemorySessions) (rows : PostgresSessions) : Prop where
  /-- The in-memory store is well-formed. -/
  memory : s.WF
  /-- The table is well-formed. -/
  postgres : rows.WF
  /-- The rows are the same under every id. -/
  rows : s.rows = rows.row

namespace SessionsMatch

variable {s s' : MemorySessions} {rows rows' : PostgresSessions} {id : String} {r : SessionRecord}
  {now : ℤ}

/-- States with the same rows look alike. -/
theorem alike (h : SessionsMatch s rows) {answer answer' : SessionAnswer} (heq : answer = answer') :
    SessionsAlike (answer, s) (answer', rows) :=
  ⟨heq, fun id => by rw [h.rows]⟩

/-- The stores find the same row for a challenge, if there is nothing to evict. -/
theorem found (h : SessionsMatch s rows) (hkeeps : (s.sweep now).rows = s.rows)
    (challengeId : String) : s.found now challengeId = rows.found now challengeId := by
  have hwf := (h.memory.sweep now).1
  refine Option.ext fun r => ?_
  rw [MemorySessions.found, hwf.deref_eq_some hwf.challenges, hkeeps, h.rows, h.postgres.row_eq_some,
    PostgresSessions.found, SqlTable.find?_eq_some_iff]
  · simp
  · intro a ha b hb hqa hqb
    simp only [decide_eq_true_eq] at hqa hqb
    exact h.postgres.unique ha hb fun hap => hap.challengeId (hqa.trans hqb.symm)

/-- The row that is found for a challenge. -/
theorem row_of_found (h : SessionsMatch s rows) {challengeId : String}
    (hr : rows.found now challengeId = some r) :
    s.rows r.sessionId = some r ∧ r.challengeId = challengeId := by
  rw [h.rows, h.postgres.row_eq_some]
  exact ⟨⟨List.mem_of_find?_eq_some hr, rfl⟩, by simpa using List.find?_some hr⟩

/-- A row that is not revoked is one whose `revoked_at` is `NULL`. -/
theorem unrevoked_iff : PostgresSessions.unrevoked r = true ↔ r.revokedAt = none :=
  Option.isNone_iff_eq_none

/-- `createForChallenge`, in both stores. -/
theorem createForChallenge (h : SessionsMatch s rows) {record : SessionRecord}
    (hkeeps : (s.sweep now).rows = s.rows) (hnew : record.IsNew s.rows)
    (hcovered : (SessionCall.createForChallenge now record).Covered s.rows) :
    (s.createForChallenge now record).1 = (rows.createForChallenge now record).1 ∧
      SessionsMatch (s.createForChallenge now record).2 (rows.createForChallenge now record).2 := by
  have hwf : (s.createForChallenge now record).2.WF := (MemorySessions.create_spec h.memory hnew).1
  have hwf' : (rows.createForChallenge now record).2.WF :=
    (PostgresSessions.create_spec h.postgres (h.rows ▸ hnew)).1
  have hfound := h.found hkeeps record.challengeId
  rw [MemorySessions.createForChallenge_eq, hfound] at hwf ⊢
  rw [PostgresSessions.createForChallenge_eq h.postgres (h.rows ▸ hnew)] at hwf' ⊢
  cases hr : rows.found now record.challengeId with
  | some existing =>
    rw [hr] at hwf hwf'
    obtain ⟨hrow, hchallenge⟩ := h.row_of_found hr
    have hun := unrevoked_iff.mpr (hcovered _ _ hrow hchallenge)
    exact ⟨(if_pos hun).symm, hwf, hwf', hkeeps.trans h.rows⟩
  | none =>
    rw [hr] at hwf hwf' hfound
    refine ⟨rfl, hwf, hwf', funext fun id => ?_⟩
    obtain ⟨-, hmemory⟩ := MemorySessions.create_new h.memory hnew hfound
    obtain ⟨-, -, hpostgres⟩ := PostgresSessions.append_spec h.postgres (h.rows ▸ hnew) hr
    rw [hmemory, hpostgres, hkeeps, h.rows]

/-- `getByAccessToken`, in both stores. -/
theorem getByAccessToken (h : SessionsMatch s rows) {token : String}
    (hkeeps : (s.sweep now).rows = s.rows)
    (hcovered : (SessionCall.getByAccessToken now token).Covered s.rows) :
    (s.getByAccessToken now token).1 = (rows.getByAccessToken now token).1 ∧
      SessionsMatch (s.getByAccessToken now token).2 rows := by
  have hwf := (h.memory.sweep now).1
  refine ⟨Option.ext fun r => ?_, hwf, h.postgres, hkeeps.trans h.rows⟩
  rw [MemorySessions.getByAccessToken, hwf.deref_eq_some hwf.accessTokens, hkeeps,
    PostgresSessions.getByAccessToken, PostgresSessions.getByAccessToken_iff h.postgres, ← h.rows]
  constructor
  · rintro ⟨hr, htoken⟩
    exact ⟨hr, htoken, unrevoked_iff.mpr (hcovered _ _ hr htoken)⟩
  · rintro ⟨hr, htoken, -⟩
    exact ⟨hr, htoken⟩

/-- `revokeBySessionId`, in both stores. -/
theorem revokeBySessionId (h : SessionsMatch s rows)
    (hcovered : (SessionCall.revokeBySessionId id now).Covered s.rows) :
    SessionsMatch (s.revokeBySessionId id now) (rows.revokeBySessionId id now) := by
  obtain ⟨hwf, hrows⟩ := MemorySessions.revokeBySessionId_spec h.memory id now
  refine ⟨hwf, h.postgres.stamp _ _, funext fun id' => ?_⟩
  rw [hrows, PostgresSessions.revokeBySessionId, PostgresSessions.row_stamp, ← h.rows]
  cases hr : s.rows id' with
  | none => rfl
  | some r =>
    have hid : r.sessionId = id' := (h.postgres.row_eq_some.mp (h.rows ▸ hr)).2
    rw [Option.map_some, Option.map_some, hid]
    by_cases hid' : id' = id
    · rw [if_pos hid']
      rcases hcovered r (hid' ▸ hr) with hnone | hsame
      · rw [if_pos (by simp [hid', unrevoked_iff, hnone])]
      · -- A session that was revoked at the same time is the same afterwards.
        rw [← hsame, SessionRecord.stamp_self, ite_self]
    · rw [if_neg hid', if_neg (by simp [hid'])]

/-- The two stores count the same rows. -/
theorem countP (h : SessionsMatch s rows) (q : SessionRecord → Bool) :
    s.held.countP q = List.countP q rows := by
  refine SqlTable.countP_eq_of_mem_iff h.memory.held_ids.of_map ?_ (fun r => ?_) q
  · exact h.postgres.imp fun {a b} hap heq => hap.sessionId (congrArg _ heq)
  · rw [h.memory.mem_held, h.rows, h.postgres.row_eq_some]
    simp

/-- `revokeByPrincipal`, in both stores. -/
theorem revokeByPrincipal (h : SessionsMatch s rows) {pubkey : String}
    (hcovered : (SessionCall.revokeByPrincipal pubkey now).Covered s.rows) :
    (s.revokeByPrincipal pubkey now).1 = (rows.revokeByPrincipal pubkey now).1 ∧
      SessionsMatch (s.revokeByPrincipal pubkey now).2 (rows.revokeByPrincipal pubkey now).2 := by
  -- The two conditions on a row differ only where it was revoked at the time zero.
  have hiff : ∀ {id r}, s.rows id = some r → (r.principalPubkey = pubkey ∧ r.revoked = false ↔
      PostgresSessions.heldBy pubkey r = true) := by
    intro id r hr
    rw [PostgresSessions.heldBy, Bool.and_eq_true, decide_eq_true_eq, unrevoked_iff]
    refine and_congr_right fun hprincipal => ?_
    have hzero := hcovered id r hr hprincipal
    rw [SessionRecord.revoked]
    cases ht : r.revokedAt with
    | none => simp [truthyInt]
    | some t =>
      have hne : t ≠ 0 := fun heq => hzero (heq ▸ ht)
      simp [truthyInt, hne]
  constructor
  · rw [h.memory.revokeByPrincipal_count, PostgresSessions.revokeByPrincipal, ← h.countP]
    refine List.countP_congr fun r hr => ?_
    rw [← hiff (h.memory.mem_held.mp hr)]
    simp
  · obtain ⟨hwf, hrows⟩ := MemorySessions.revokeByPrincipal_spec h.memory pubkey now
    refine ⟨hwf, h.postgres.stamp _ _, funext fun id => ?_⟩
    rw [hrows, PostgresSessions.revokeByPrincipal, PostgresSessions.row_stamp, ← h.rows]
    cases hr : s.rows id with
    | none => rfl
    | some r =>
      rw [Option.map_some, Option.map_some]
      by_cases hhit : r.principalPubkey = pubkey ∧ r.revoked = false
      · rw [if_pos hhit, if_pos ((hiff hr).mp hhit)]
      · rw [if_neg hhit, if_neg fun hc => hhit ((hiff hr).mpr hc), SessionRecord.stamp_self]

/-- `rotateRefreshToken`, in both stores. -/
theorem rotateRefreshToken (h : SessionsMatch s rows) {params : RotateRefreshTokenParams}
    (haccess : s.rows.Fresh params.accessToken) (hrefresh : s.rows.Fresh params.refreshToken)
    (hcovered : (SessionCall.rotateRefreshToken id params).Covered s.rows) :
    (s.rotateRefreshToken id params).1 = (rows.rotateRefreshToken id params).1 ∧
      SessionsMatch (s.rotateRefreshToken id params).2 (rows.rotateRefreshToken id params).2 := by
  have hwf : (rows.rotateRefreshToken id params).2.WF :=
    (PostgresSessions.rotate_spec h.postgres (h.rows ▸ haccess) (h.rows ▸ hrefresh)).1
  constructor
  · refine Option.ext fun r' => ?_
    rw [PostgresSessions.rotate_iff h.postgres, ← h.rows]
    refine (MemorySessions.store_lawful.rotate_iff h.memory).trans ?_
    refine exists_congr fun r => and_congr_right fun hr => and_congr_right fun hcurrent => ?_
    have hun : PostgresSessions.unrevoked r = true := unrevoked_iff.mpr (hcovered r hr hcurrent)
    simp only [hun, MemorySessions.view]
  · have hid : ∀ {id' r}, s.rows id' = some r → r.sessionId = id' := fun hr =>
      (h.postgres.row_eq_some.mp (h.rows ▸ hr)).2
    have hrows' : ∀ id', (rows.rotateRefreshToken id params).2.row id' = (s.rows id').map fun r =>
        if PostgresSessions.rotatable id params r then r.rotate params else r := by
      intro id'
      rw [PostgresSessions.row_rotate, h.rows]
    rcases MemorySessions.rotate_cases id params h.memory with
      ⟨i, r, hlive, rfl, hcurrent, heq⟩ | ⟨hmiss, heq⟩
    · obtain ⟨hwf', hrows⟩ := h.memory.exchange hlive haccess hrefresh
      have hr := h.memory.rows_of_live hlive
      rw [heq]
      refine ⟨hwf', hwf, funext fun id' => ?_⟩
      rw [hrows, hrows']
      by_cases hid' : id' = r.sessionId
      · have hhit : PostgresSessions.rotatable r.sessionId params r = true := by
          simp [PostgresSessions.rotatable, hcurrent, unrevoked_iff, hcovered r hr hcurrent]
        rw [if_pos hid', hid', hr, Option.map_some, if_pos hhit]
      · rw [if_neg hid']
        cases hr' : s.rows id' with
        | none => rfl
        | some r' =>
          rw [Option.map_some, if_neg]
          simp [PostgresSessions.rotatable, hid hr', hid']
    · rw [heq]
      refine ⟨h.memory, hwf, funext fun id' => ?_⟩
      rw [hrows']
      cases hr' : s.rows id' with
      | none => rfl
      | some r' =>
        rw [Option.map_some, if_neg]
        simp only [PostgresSessions.rotatable, Bool.and_eq_true, decide_eq_true_eq, hid hr']
        rintro ⟨⟨rfl, hcurrent⟩, -⟩
        exact hmiss r' hr' hcurrent

/-- On a covered call the stores do the same. -/
theorem keep (h : SessionsMatch s rows) {call : SessionCall} (hfresh : call.Fresh s.rows)
    (hkeeps : call.Keeps s) (hcovered : call.Covered s.rows) :
    SessionsAlike (MemorySessions.store.perform s call) (PostgresSessions.store.perform rows call) ∧
      SessionsMatch (MemorySessions.store.perform s call).2
        (PostgresSessions.store.perform rows call).2 := by
  cases call with
  | createForChallenge now record =>
    obtain ⟨hanswer, hmatch⟩ := h.createForChallenge hkeeps hfresh hcovered
    exact ⟨hmatch.alike (congrArg SessionAnswer.session hanswer), hmatch⟩
  | getBySessionId sessionId =>
    refine ⟨h.alike (congrArg SessionAnswer.session ?_), h⟩
    have hget : rows.getBySessionId sessionId =
        (rows.row sessionId).filter PostgresSessions.unrevoked :=
      PostgresSessions.getBySessionId_eq h.postgres
    rw [← h.rows] at hget
    refine Eq.trans ?_ hget.symm
    change s.rows sessionId = _
    cases hr : s.rows sessionId with
    | none => rfl
    | some r => rw [Option.filter_some, if_pos (unrevoked_iff.mpr (hcovered r hr))]
  | getByAccessToken now token =>
    obtain ⟨hanswer, hmatch⟩ := h.getByAccessToken hkeeps hcovered
    exact ⟨hmatch.alike (congrArg SessionAnswer.session hanswer), hmatch⟩
  | revokeBySessionId sessionId now =>
    have hmatch := h.revokeBySessionId hcovered
    exact ⟨hmatch.alike rfl, hmatch⟩
  | revokeByPrincipal pubkey now =>
    obtain ⟨hanswer, hmatch⟩ := h.revokeByPrincipal hcovered
    exact ⟨hmatch.alike (congrArg SessionAnswer.count hanswer), hmatch⟩
  | getByRefreshToken token =>
    refine ⟨h.alike (congrArg SessionAnswer.session (Option.ext fun r => ?_)), h⟩
    have hpostgres : rows.getByRefreshToken token = some r ↔
        rows.row r.sessionId = some r ∧ r.HasRefreshToken token :=
      PostgresSessions.getByRefreshToken_iff h.postgres
    rw [← h.rows] at hpostgres
    exact (MemorySessions.store_lawful.getByRefreshToken_iff h.memory).trans hpostgres.symm
  | rotateRefreshToken sessionId params =>
    obtain ⟨hanswer, hmatch⟩ := h.rotateRefreshToken hfresh.1 hfresh.2 hcovered
    exact ⟨hmatch.alike (congrArg SessionAnswer.session hanswer), hmatch⟩

/-- The outcomes of a call look alike only if the call is covered. -/
theorem detect (h : SessionsMatch s rows) {call : SessionCall} (hfresh : call.Fresh s.rows)
    (hkeeps : call.Keeps s)
    (halike : SessionsAlike (MemorySessions.store.perform s call)
      (PostgresSessions.store.perform rows call)) : call.Covered s.rows := by
  obtain ⟨hanswer, htimes⟩ := halike
  cases call with
  | createForChallenge now record =>
    intro id r hr hchallenge
    have hsame : (s.createForChallenge now record).1 = (rows.createForChallenge now record).1 :=
      SessionAnswer.session.inj hanswer
    have hid : r.sessionId = id := (h.postgres.row_eq_some.mp (h.rows ▸ hr)).2
    have hwf := (h.memory.sweep now).1
    have hfound : s.found now record.challengeId = some r := by
      refine (hwf.deref_eq_some hwf.challenges).mpr ⟨?_, hchallenge⟩
      rw [hkeeps, hid, hr]
    rw [MemorySessions.createForChallenge_eq, hfound,
      PostgresSessions.createForChallenge_eq h.postgres (h.rows ▸ hfresh), ← h.found hkeeps, hfound]
      at hsame
    by_contra hrevoked
    have hun : ¬ PostgresSessions.unrevoked r = true := fun hun => hrevoked (unrevoked_iff.mp hun)
    simp only [if_neg hun, reduceCtorEq] at hsame
  | getBySessionId sessionId =>
    intro r hr
    have hsame : s.rows sessionId = rows.getBySessionId sessionId :=
      SessionAnswer.session.inj hanswer
    rw [PostgresSessions.getBySessionId_eq h.postgres, ← h.rows, hr] at hsame
    exact unrevoked_iff.mp (Option.filter_eq_some_iff.mp hsame.symm).2
  | getByAccessToken now token =>
    intro id r hr htoken
    have hsame : (s.getByAccessToken now token).1 = rows.findBy SessionRecord.accessToken token :=
      SessionAnswer.session.inj hanswer
    have hid : r.sessionId = id := (h.postgres.row_eq_some.mp (h.rows ▸ hr)).2
    have hwf := (h.memory.sweep now).1
    have hmemory : (s.getByAccessToken now token).1 = some r := by
      refine (hwf.deref_eq_some hwf.accessTokens).mpr ⟨?_, htoken⟩
      rw [hkeeps, hid, hr]
    have hfind := (PostgresSessions.getByAccessToken_iff h.postgres).mp (hsame.symm.trans hmemory)
    exact unrevoked_iff.mp hfind.2.2
  | revokeBySessionId sessionId now =>
    intro r hr
    have htime := htimes sessionId
    have hmemory := (MemorySessions.revokeBySessionId_spec h.memory sessionId now).2 sessionId
    have hpostgres := PostgresSessions.row_stamp
      (fun r => decide (r.sessionId = sessionId) && PostgresSessions.unrevoked r) (some now) rows
      sessionId
    rw [hr, Option.map_some, if_pos rfl] at hmemory
    rw [← h.rows, hr, Option.map_some] at hpostgres
    cases ht : r.revokedAt with
    | none => exact Or.inl rfl
    | some t =>
      -- The Postgres store keeps the time of an earlier revocation.
      have hrevoked : PostgresSessions.unrevoked r = false := by
        rw [PostgresSessions.unrevoked, ht, Option.isNone_some]
      rw [hrevoked, Bool.and_false, if_neg Bool.false_ne_true] at hpostgres
      change (MemorySessions.rows (s.revokeBySessionId sessionId now) sessionId).map _ =
        (PostgresSessions.row (rows.revokeBySessionId sessionId now) sessionId).map _ at htime
      rw [hmemory, PostgresSessions.revokeBySessionId, hpostgres, Option.map_some, Option.map_some,
        SessionRecord.stamp_revokedAt, ht] at htime
      exact Or.inr (Option.some.inj htime).symm
  | revokeByPrincipal pubkey now =>
    intro id r hr hprincipal hzero
    have hsame : (s.revokeByPrincipal pubkey now).1 = rows.countP (PostgresSessions.heldBy pubkey) :=
      SessionAnswer.count.inj hanswer
    have hid : r.sessionId = id := (h.postgres.row_eq_some.mp (h.rows ▸ hr)).2
    have hheld : r ∈ s.held := h.memory.mem_held.mpr (hid ▸ hr)
    rw [h.memory.revokeByPrincipal_count, ← h.countP] at hsame
    -- Only the in-memory store counts a session that was revoked at the time zero.
    refine absurd hsame.symm (ne_of_lt (SqlTable.countP_lt_countP (fun r hr => ?_) hheld ?_ ?_))
    · simp only [PostgresSessions.heldBy, Bool.and_eq_true, decide_eq_true_eq, unrevoked_iff] at hr
      simp [hr.1, SessionRecord.revoked, hr.2, truthyInt]
    · simp [PostgresSessions.heldBy, PostgresSessions.unrevoked, hzero]
    · simp [hprincipal, SessionRecord.revoked, hzero, truthyInt]
  | getByRefreshToken token => trivial
  | rotateRefreshToken sessionId params =>
    intro r hr hcurrent
    have hsame : (s.rotateRefreshToken sessionId params).1 =
        (rows.rotateRefreshToken sessionId params).1 := SessionAnswer.session.inj hanswer
    have hmemory : (s.rotateRefreshToken sessionId params).1 = some (r.rotate params) :=
      (MemorySessions.store_lawful.rotate_iff h.memory).mpr ⟨r, hr, hcurrent, rfl, rfl⟩
    obtain ⟨r', hr', -, hun, -⟩ :=
      (PostgresSessions.rotate_iff h.postgres).mp (hsame.symm.trans hmemory)
    rw [← h.rows, hr] at hr'
    exact unrevoked_iff.mp (Option.some.inj hr' ▸ hun)

/-- The empty stores match. -/
theorem init : SessionsMatch MemorySessions.store.init PostgresSessions.store.init where
  memory := MemorySessions.store_lawful.wf_init
  postgres := PostgresSessions.store_lawful.wf_init
  rows := funext fun id => MemorySessions.store_lawful.rows_init id

end SessionsMatch

/-- **Where the two session stores agree.** On a sequence of calls with fresh ids and tokens on
which the in-memory store has nothing to evict, the stores give the same answers and store the same
times of revocation throughout if and only if every call is covered. -/
theorem session_stores_agree_iff (calls : List SessionCall)
    (hlegal : Lockstep.Always MemorySessions.store.perform
      (fun s call => call.Fresh (MemorySessions.rows s) ∧ call.Keeps s) MemorySessions.store.init
      calls) :
    Lockstep.Agree MemorySessions.store.perform PostgresSessions.store.perform SessionsAlike
        MemorySessions.store.init PostgresSessions.store.init calls ↔
      Lockstep.Always MemorySessions.store.perform
        (fun s call => call.Covered (MemorySessions.rows s)) MemorySessions.store.init calls := by
  refine Lockstep.Agree.iff_always (I := SessionsMatch) ?_ ?_ SessionsMatch.init hlegal
  · intro s rows call h hlegal hcovered
    exact h.keep hlegal.1 hlegal.2 hcovered
  · intro s rows call h hlegal halike
    exact h.detect hlegal.1 hlegal.2 halike

/-- A login into an empty store: the session is new, and there is nothing to evict. -/
theorem legal_login (now : ℤ) :
    (SessionCall.createForChallenge now sampleSession).Fresh
        (MemorySessions.rows MemorySessions.store.init) ∧
      (SessionCall.createForChallenge now sampleSession).Keeps MemorySessions.store.init := by
  refine ⟨sampleSession_isNew MemorySessions.store_lawful.rows_init, funext fun id => ?_⟩
  rcases (MemorySessions.store_lawful.wf_init.sweep now).2 id with heq | ⟨r, hr, -, -⟩
  · exact heq
  · cases (MemorySessions.store_lawful.rows_init id).symm.trans hr

/-- The stores agree on a session that is rotated and then revoked. -/
theorem session_stores_agree_rotated :
    Lockstep.Agree MemorySessions.store.perform PostgresSessions.store.perform SessionsAlike
      MemorySessions.store.init PostgresSessions.store.init
      [.createForChallenge 100 sampleSession, .rotateRefreshToken "session" sampleRotation,
        .revokeByPrincipal "principal" 160] := by
  refine (session_stores_agree_iff
    [.createForChallenge 100 sampleSession, .rotateRefreshToken "session" sampleRotation,
      .revokeByPrincipal "principal" 160]
    ⟨legal_login 100, ⟨⟨?_, ?_⟩, trivial⟩, ⟨trivial, trivial⟩, trivial⟩).mpr
    ⟨fun id r hr => ?_, fun r hr _ => ?_, fun id r hr _ => ?_, trivial⟩
  · exact MemorySessions.fresh_of_objects (by decide) (by decide)
  · exact MemorySessions.fresh_of_objects (by decide) (by decide)
  · cases (MemorySessions.store_lawful.rows_init id).symm.trans hr
  · obtain rfl : sampleSession = r := Option.some.inj hr
    rfl
  · -- The only object of the store is the rotated session.
    obtain ⟨i, -, hobj⟩ := Option.bind_eq_some_iff.mp hr
    obtain rfl := List.mem_singleton.mp (List.mem_of_getElem? hobj)
    decide

/-- A session that is revoked and then rotated: the in-memory store hands out new tokens, the
Postgres store does not. -/
theorem session_stores_differ :
    Lockstep.Always MemorySessions.store.perform
        (fun s call => call.Fresh (MemorySessions.rows s) ∧ call.Keeps s) MemorySessions.store.init
        [.createForChallenge 100 sampleSession, .revokeBySessionId "session" 150,
          .rotateRefreshToken "session" sampleRotation] ∧
      ¬ Lockstep.Agree MemorySessions.store.perform PostgresSessions.store.perform SessionsAlike
        MemorySessions.store.init PostgresSessions.store.init
        [.createForChallenge 100 sampleSession, .revokeBySessionId "session" 150,
          .rotateRefreshToken "session" sampleRotation] := by
  refine ⟨⟨legal_login 100, ⟨trivial, trivial⟩, ⟨⟨?_, ?_⟩, trivial⟩, trivial⟩, ?_⟩
  · exact MemorySessions.fresh_of_objects (by decide) (by decide)
  · exact MemorySessions.fresh_of_objects (by decide) (by decide)
  · rintro ⟨-, -, ⟨hanswer, -⟩, -⟩
    exact absurd hanswer (by decide)

end NapAuth

import NapAuth.Server.Program
import NapAuth.Store.Memory
import NapAuth.Sweep

/-!
# Outstanding challenges by address

What the in-memory challenge store holds of one address when only challenges are created. The
challenges of the others leave it alone but for sweeping at their times, so it agrees with a store
that has only the address's own challenges (`MemoryChallenges.Agree`), and outstanding challenges of
the address are counted alike in both.
-/

namespace NapAuth

/-! ## The challenges of an address -/

/-- The challenges of an address, as its own calls leave them: the principal of each and when it
ends. -/
structure AddressChallenges where
  challenges : List (String × ℤ)
  lastSweptAt : Option ℤ

namespace AddressChallenges

/-- The challenges that have not ended. -/
def standing (now : ℤ) (challenges : List (String × ℤ)) : List (String × ℤ) :=
  challenges.filter fun challenge => decide (now ≤ challenge.2)

/-- No challenges. -/
def init : AddressChallenges := ⟨[], none⟩

/-- A challenge is created, after a sweep. -/
def create (now : ℤ) (draft : ChallengeDraft) (s : AddressChallenges) : AddressChallenges where
  challenges := (draft.npub, draft.now + draft.ttl) ::
    Sweep.sweep standing s.lastSweptAt now s.challenges
  lastSweptAt := Sweep.attempt s.lastSweptAt now

/-- The outstanding challenges, of a principal or of any. -/
def countOutstanding (filter : OutstandingChallengeFilter) (s : AddressChallenges) : ℕ :=
  (standing filter.now s.challenges).countP fun challenge => filter.npub.all (challenge.1 == ·)

/-- One more challenge. -/
theorem standing_cons (now : ℤ) (challenge : String × ℤ) (challenges : List (String × ℤ)) :
    standing now (challenge :: challenges) =
      if now ≤ challenge.2 then challenge :: standing now challenges
      else standing now challenges := by
  unfold standing
  rw [List.filter_cons]
  by_cases hle : now ≤ challenge.2
  · rw [if_pos hle, if_pos (decide_eq_true hle)]
  · rw [if_neg hle, if_neg fun h => hle (of_decide_eq_true h)]

/-- Dropping what has ended makes no difference to what is outstanding later. -/
theorem drops : Sweep.Drops standing standing where
  later challenges hle := by
    unfold standing
    rw [List.filter_filter]
    refine List.filter_congr fun challenge _ => ?_
    rw [← Bool.decide_and]
    refine decide_eq_decide.mpr ⟨fun h => h.1, fun h => ⟨h, ?_⟩⟩
    omega
  congr t' _ _ h := congrArg (standing t') h

end AddressChallenges

namespace MemoryChallenges

/-- The challenges of an address that are held: the principal of each and when it ends. -/
def heldBy (address : String) (records : JsMap ChallengeRecord) : List (String × ℤ) :=
  (records.values.filter fun r => r.clientIp = some address).map fun r => (r.npub, r.expiresAt)

/-- The store agrees with the challenges of an address, which have not seen the creations of the
others: at any time after those, the same ones are outstanding. -/
structure Agree (address : String) (others : Set ℤ) (s : MemoryChallenges) (a : AddressChallenges) :
    Prop where
  /-- Nothing has been done with any challenge. -/
  issued : ∀ r ∈ s.records.values, r.state = .issued ∧ r.resultCacheUntil = none
  /-- The same ones are outstanding. -/
  held : ∀ t, Sweep.After others t → AddressChallenges.standing t (heldBy address s.records) =
    AddressChallenges.standing t a.challenges
  /-- Only the creations of the others have made a difference to when the store was swept. -/
  behind : Sweep.Behind others s.lastSweptAt a.lastSweptAt

variable {address : String} {others : Set ℤ} {s : MemoryChallenges} {a : AddressChallenges}

/-- They agree at first. -/
theorem Agree.start : Agree address ∅ ⟨∅, none⟩ AddressChallenges.init where
  issued r hr := by cases hr
  held _ _ := rfl
  behind := Sweep.Behind.start

/-- What is held of an address after a sweep, where nothing has been done with any challenge. -/
theorem heldBy_sweep (hissued : ∀ r ∈ s.records.values, r.state = .issued ∧ r.resultCacheUntil = none)
    (now : ℤ) : heldBy address (s.sweep now).records =
      Sweep.sweep AddressChallenges.standing s.lastSweptAt now (heldBy address s.records) := by
  unfold sweep Sweep.sweep
  split
  · rfl
  · unfold heldBy AddressChallenges.standing
    rw [JsMap.values_keep, List.filter_map, List.filter_filter, List.filter_filter]
    congr 1
    refine List.filter_congr fun r hr => ?_
    have hretain : r.retainUntil = r.expiresAt := by
      rw [ChallengeRecord.retainUntil, (hissued r hr).2]
      rfl
    rw [hretain, Bool.and_comm]
    congr 1
    show (!decide (r.expiresAt < now)) = decide (now ≤ r.expiresAt)
    rw [← decide_not]
    exact decide_eq_decide.mpr not_lt

/-- A sweep at a time. -/
theorem lastSweptAt_sweep (now : ℤ) :
    (s.sweep now).lastSweptAt = Sweep.attempt s.lastSweptAt now := by
  unfold sweep Sweep.attempt
  split <;> rfl

/-- A sweep keeps only what was there. -/
theorem mem_values_sweep {now : ℤ} {r : ChallengeRecord} (hr : r ∈ (s.sweep now).records.values) :
    r ∈ s.records.values := by
  unfold sweep at hr
  split at hr
  · exact hr
  · rw [JsMap.values_keep] at hr
    exact List.mem_of_mem_filter hr

/-- A sweep finds nothing where there was nothing. -/
theorem lookup_sweep {id : String} (hnone : s.get id = none) (now : ℤ) :
    (s.sweep now).records.lookup id = none := by
  rcases get_sweep now s id with heq | ⟨r, hr, -⟩
  · exact heq.trans hnone
  · rw [hnone] at hr
    cases hr

/-- What is held of an address after a record is inserted under a new id. -/
theorem heldBy_insert {records : JsMap ChallengeRecord} {record : ChallengeRecord}
    (hnew : records.lookup record.challengeId = none) :
    heldBy address (records.insert record.challengeId record) =
      if record.clientIp = some address then
        (record.npub, record.expiresAt) :: heldBy address records
      else heldBy address records := by
  unfold heldBy
  rw [JsMap.values_insert hnew, List.filter_cons]
  split
  · rename_i hmine
    rw [if_pos (of_decide_eq_true hmine), List.map_cons]
  · rename_i hother
    rw [if_neg fun h => hother (decide_eq_true h)]

/-- The store after a challenge is created, where nothing has been done with any. -/
theorem issued_create (hissued : ∀ r ∈ s.records.values, r.state = .issued ∧ r.resultCacheUntil = none)
    {now : ℤ} {record : ChallengeRecord} (hnew : s.get record.challengeId = none)
    (hrecord : record.state = .issued ∧ record.resultCacheUntil = none) :
    ∀ r ∈ (s.create now record).2.records.values, r.state = .issued ∧ r.resultCacheUntil = none := by
  intro r hr
  have hvalues : (s.create now record).2.records.values =
      record :: (s.sweep now).records.values := JsMap.values_insert (lookup_sweep hnew now) record
  rw [hvalues, List.mem_cons] at hr
  rcases hr with rfl | hr
  · exact hrecord
  · exact hissued r (mem_values_sweep hr)

/-- A challenge of the address is created in both. -/
theorem Agree.create (h : Agree address others s a) {now : ℤ} {draft : ChallengeDraft}
    {random : Draws} (hnew : s.get (challengeRecord draft random).challengeId = none)
    (haddress : draft.clientIp = some address) (hne : address ≠ "") :
    Agree address others (s.create now (challengeRecord draft random)).2 (a.create now draft) := by
  have hmine : (challengeRecord draft random).clientIp = some address := by
    show (if truthyString draft.clientIp = true then draft.clientIp else none) = some address
    rw [haddress]
    exact if_pos (bne_iff_ne.mpr hne)
  refine ⟨issued_create h.issued hnew ⟨rfl, rfl⟩, fun t ht => ?_, ?_⟩
  · have hheld : heldBy address (s.create now (challengeRecord draft random)).2.records =
        (draft.npub, draft.now + draft.ttl) :: Sweep.sweep AddressChallenges.standing s.lastSweptAt
          now (heldBy address s.records) := by
      rw [← heldBy_sweep h.issued]
      refine (heldBy_insert (lookup_sweep hnew now)).trans ?_
      rw [if_pos hmine]
      rfl
    rw [hheld]
    unfold AddressChallenges.create
    rw [AddressChallenges.standing_cons, AddressChallenges.standing_cons,
      AddressChallenges.drops.sweep h.behind h.held now ht]
  · show Sweep.Behind others (s.sweep now).lastSweptAt (Sweep.attempt a.lastSweptAt now)
    rw [lastSweptAt_sweep]
    exact h.behind.both now

/-- A challenge of another address makes no difference but to the time. -/
theorem Agree.create_other (h : Agree address others s a) {now : ℤ} {draft : ChallengeDraft}
    {random : Draws} (hnew : s.get (challengeRecord draft random).challengeId = none)
    (haddress : draft.clientIp ≠ some address) :
    Agree address (insert now others) (s.create now (challengeRecord draft random)).2 a := by
  have hother : (challengeRecord draft random).clientIp ≠ some address := by
    show (if truthyString draft.clientIp = true then draft.clientIp else none) ≠ some address
    split
    · exact haddress
    · exact nofun
  refine ⟨issued_create h.issued hnew ⟨rfl, rfl⟩, fun t ht => ?_, ?_⟩
  · obtain ⟨hafter, hle⟩ := ht.of_insert
    have hheld : heldBy address (s.create now (challengeRecord draft random)).2.records =
        Sweep.sweep AddressChallenges.standing s.lastSweptAt now (heldBy address s.records) := by
      rw [← heldBy_sweep h.issued]
      refine (heldBy_insert (lookup_sweep hnew now)).trans ?_
      rw [if_neg hother]
    rw [hheld, AddressChallenges.drops.sweep_later _ hle]
    exact h.held t hafter
  · show Sweep.Behind (insert now others) (s.sweep now).lastSweptAt a.lastSweptAt
    rw [lastSweptAt_sweep]
    exact h.behind.other now

/-- The outstanding challenges of the address are counted alike, after every creation of the others. -/
theorem Agree.countOutstanding (h : Agree address others s a) {filter : OutstandingChallengeFilter}
    (haddress : filter.clientIp = some address) (hafter : Sweep.After others filter.now) :
    s.countOutstanding filter = a.countOutstanding filter := by
  unfold AddressChallenges.countOutstanding
  rw [← h.held filter.now hafter]
  unfold MemoryChallenges.countOutstanding AddressChallenges.standing heldBy
  rw [List.filter_map, List.countP_map, List.filter_filter, List.countP_filter]
  refine List.countP_congr fun r hr => ?_
  have hstate := (h.issued r hr).1
  rw [haddress, hstate]
  simp only [Bool.and_eq_true, Bool.not_eq_true', decide_eq_true_eq, decide_eq_false_iff_not, not_lt,
    Option.all_some, beq_iff_eq, Function.comp_apply, true_and]
  exact ⟨fun ⟨⟨hlive, hnpub⟩, hmine⟩ => ⟨hnpub, hlive, hmine⟩,
    fun ⟨hnpub, hlive, hmine⟩ => ⟨⟨hlive, hnpub⟩, hmine⟩⟩

end MemoryChallenges

end NapAuth

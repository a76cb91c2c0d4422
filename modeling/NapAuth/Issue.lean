import NapAuth.Client
import NapAuth.Server.Challenges
import NapAuth.Server.Warrant

/-!
# The caps on outstanding challenges

`issueChallenge` counts the outstanding challenges of a principal at an address, and those of an
address, and creates a challenge if both counts are under their caps. Counting and creating are two
operations, and other requests run in between. What holds of every run is `held_run`: the challenges
held after some steps are at most those held before them and those created by them. So a cap holds
in every run in which the requests that overtake another between its count and its creation leave
it a slot (`outstanding_capped`).
-/

namespace NapAuth

open Interleaving

variable {P : Platform} {O : NapServerOptions} {cb sb : Backend} {h h' pre pre' : History cb sb}
  {e e' : Step (machine cb sb)} {t : ℤ}

/-! ## Quotas -/

/-- What a cap on outstanding challenges applies to. -/
inductive Quota where
  /-- A principal at an address, or where the address is not known. -/
  | perNpub (npub : String) (clientIp : Option String)
  /-- An address. -/
  | perIp (clientIp : String)
  deriving DecidableEq

namespace Quota

/-- The cap. One that is not positive is switched off. -/
def cap (O : NapServerOptions) : Quota → ℤ
  | perNpub _ _ => O.maxOutstandingChallengesPerNpub.getD 10
  | perIp _ => O.maxOutstandingChallengesPerIp.getD 30

/-- The filter by which `findExceededOutstandingCap` counts. -/
def filter (now : ℤ) : Quota → OutstandingChallengeFilter
  | perNpub npub clientIp => ⟨some npub, clientIp, now⟩
  | perIp clientIp => ⟨none, some clientIp, now⟩

/-- Whether a challenge of a principal at an address is under the quota. -/
def Covers : Quota → String → Option String → Prop
  | perNpub npub clientIp, npub', clientIp' => npub' = npub ∧ clientIp' = clientIp
  | perIp clientIp, _, clientIp' => clientIp' = some clientIp

instance : (q : Quota) → (npub : String) → (clientIp : Option String) →
    Decidable (q.Covers npub clientIp)
  | perNpub npub clientIp, npub', clientIp' =>
    inferInstanceAs (Decidable (npub' = npub ∧ clientIp' = clientIp))
  | perIp clientIp, _, clientIp' => inferInstanceAs (Decidable (clientIp' = some clientIp))

/-- The challenges under the quota that are issued and have not ended at a time. -/
def held (q : Quota) (t : ℤ) (h : History cb sb) : Set String :=
  {id | ∃ r, challengeAt h id = some r ∧ r.state = .issued ∧ t ≤ r.expiresAt ∧
    q.Covers r.npub r.clientIp}

/-- Whether a step creates a challenge under the quota. -/
def creates (q : Quota) (e : Step (machine cb sb)) : Bool :=
  match e.op with
  | .challengeCreate draft => decide (q.Covers draft.npub draft.issuedTo)
  | _ => false

/-- Every challenge under the quota is counted by its filter. -/
theorem matches_of_covers {q : Quota} {r : ChallengeRecord} {now : ℤ} (hissued : r.state = .issued)
    (halive : now ≤ r.expiresAt) (hc : q.Covers r.npub r.clientIp) : (q.filter now).Matches r := by
  refine ⟨hissued, ?_, fun npub hn => ?_, fun ip hi => ?_⟩
  · cases q <;> exact halive
  · cases q with
    | perNpub npub' clientIp => exact Option.some.inj hn ▸ hc.1
    | perIp clientIp => cases hn
  · cases q with
    | perNpub npub' clientIp => exact hc.2.trans hi
    | perIp clientIp => exact hc.trans hi

end Quota

/-! ## What a step adds -/

variable {q : Quota}

/-- Nothing is held before anything has happened. -/
theorem held_nil : q.held t ([] : History cb sb) = ∅ :=
  Set.eq_empty_of_forall_notMem fun id ⟨r, hr, _⟩ => List.not_mem_nil (sound_nil.id_drawn id r hr)

/-- A challenge that is held after a step was held before it, or is the one that the step creates. -/
theorem held_concat (hv : (server P O cb sb).Valid (h ++ [e])) {id : String}
    (hid : id ∈ q.held t (h ++ [e])) :
    id ∈ q.held t h ∨ q.creates e = true ∧ id = base64Url e.env.draws.id := by
  obtain ⟨r', hr', hissued, halive, hcovers⟩ := hid
  rcases challenge_step hv id with heq | ⟨op, hop, hch⟩
  · exact Or.inl ⟨r', heq ▸ hr', hissued, halive, hcovers⟩
  · rw [hr'] at hch
    generalize hbefore : challengeAt h id = before at hch
    cases hch with
    | same => exact Or.inl ⟨r', hbefore, hissued, halive, hcovers⟩
    | created issue new =>
      obtain ⟨draft, answer, hev, -, rfl, -⟩ := challengeOp?_eq_some hop
      have hnpub : r'.npub = draft.npub := (congrArg ChallengeRecord.npub issue :)
      have hip : r'.clientIp = draft.issuedTo := (congrArg ChallengeRecord.clientIp issue :)
      rw [hnpub, hip] at hcovers
      refine Or.inr ⟨?_, rfl⟩
      rw [Quota.creates, op_of_event hev]
      exact decide_eq_true hcovers
    | redeemed issued alive => cases hissued
    | late dead => cases hissued
    | expired issued dead => cases hissued
    | failed issued next => exact Or.inl ⟨_, hbefore, issued, halive, hcovers⟩

/-- A step adds at most the challenge that it creates. -/
theorem held_step (hv : (server P O cb sb).Valid (h ++ [e])) :
    (q.held t (h ++ [e])).encard ≤ (q.held t h).encard + ([e].countP q.creates : ℕ) := by
  have hsub : q.held t (h ++ [e]) ⊆
      q.held t h ∪ {id | q.creates e = true ∧ id = base64Url e.env.draws.id} :=
    fun id hid => held_concat hv hid
  refine (Set.encard_le_encard hsub).trans ((Set.encard_union_le _ _).trans ?_)
  gcongr
  cases hcreates : q.creates e with
  | false => simp
  | true => simp [hcreates]

/-- Some steps add at most the challenges that they create. -/
theorem held_run (hv : (server P O cb sb).Valid h') (hp : h <+: h') :
    (q.held t h').encard ≤ (q.held t h).encard + ((h'.drop h.length).countP q.creates : ℕ) := by
  refine hv.persist (P := fun h' => (q.held t h').encard ≤
    (q.held t h).encard + ((h'.drop h.length).countP q.creates : ℕ)) hp ?_ fun h1 e hv1 hp1 ih => ?_
  · simp
  · have hdrop : (h1 ++ [e]).drop h.length = h1.drop h.length ++ [e] :=
      List.drop_append_of_le_length hp1.length_le
    calc (q.held t (h1 ++ [e])).encard
        ≤ (q.held t h1).encard + ([e].countP q.creates : ℕ) := held_step hv1
      _ ≤ (q.held t h).encard + ((h1.drop h.length).countP q.creates : ℕ) +
          ([e].countP q.creates : ℕ) := by gcongr
      _ = _ := by rw [hdrop, List.countP_append, Nat.cast_add, add_assoc]

/-- What is counted is at least what is held, at any time that is not earlier. -/
theorem held_le_of_count (hv : (server P O cb sb).Valid h) {now : ℤ} {n : ℕ}
    (hev : (machine cb sb).event h e = ⟨.countOutstanding (q.filter now), n⟩) (hnow : now ≤ t) :
    (q.held t h).encard ≤ n := by
  have hcount := (Machine.event_eq_iff _ |>.mp hev).2
  have hlaw := @Backend.challengeStore_counts cb _ (q.filter now) (sound_of_valid hv).challenges_wf
  rw [← hcount]
  refine le_trans (Set.encard_le_encard ?_) hlaw.ge
  rintro id ⟨r, hr, hissued, halive, hcovers⟩
  exact ⟨r, hr, Quota.matches_of_covers hissued (hnow.trans halive) hcovers⟩

/-- What is held at a time was held at any earlier one. -/
theorem held_anti {now : ℤ} (hnow : now ≤ t) : q.held t h ⊆ q.held now h :=
  fun _ ⟨r, hr, hissued, halive, hcovers⟩ => ⟨r, hr, hissued, hnow.trans halive, hcovers⟩

/-! ## The caps -/

/-- Where other challenges of a quota are created between a request's count and its own creation,
they leave a slot for it: those held when it counts, and those created since, are fewer than the
cap. -/
def Spared (O : NapServerOptions) (h : History cb sb) : Prop :=
  ∀ pre e (q : Quota), Occurs h pre e → q.creates e = true → ∀ pre' e' now, Occurs pre pre' e' →
    e'.tid = e.tid → e'.op = .countOutstanding (q.filter now) →
    0 < (pre.drop pre'.length).countP q.creates →
    (q.held now pre').encard + ((pre.drop pre'.length).countP q.creates : ℕ) < (q.cap O).toNat

/-- What holds of a run holds of its beginnings. -/
theorem Spared.restrict (hs : Spared O h') (hp : h <+: h') : Spared O h :=
  fun pre e q ho => hs pre e q (ho.mono hp)

/-- A step that creates a challenge has its warrant. -/
theorem createWarrant (hv : (server P O cb sb).Valid h) (ho : Occurs h pre e)
    {draft : ChallengeDraft} (hop : e.op = .challengeCreate draft) :
    CreateWarrant O ((machine cb sb).own e.tid pre) draft := by
  obtain ⟨c, hc, rfl⟩ := hv
  obtain ⟨th, -, hw⟩ := warranted hc ho
  rw [hop] at hw
  replace hw := hw trivial
  generalize th.call = call at hw
  cases call with
  | issueChallenge input => exact hw
  | _ => exact hw.elim

/-- Before a challenge is created under a cap, those of its quota have been counted at the time of
its creation, and were fewer than the cap. -/
theorem exists_count (hv : (server P O cb sb).Valid h) (ho : Occurs h pre e)
    (hcreates : q.creates e = true) (hcap : 0 < q.cap O) :
    ∃ pre' e' now, ∃ n : ℕ, Occurs pre pre' e' ∧ e'.tid = e.tid ∧
      (machine cb sb).event pre' e' = ⟨.countOutstanding (q.filter now), n⟩ ∧ n < q.cap O ∧
      HasRead ((machine cb sb).own e.tid pre) now := by
  obtain ⟨draft, hop, hcovers⟩ : ∃ draft, e.op = .challengeCreate draft ∧
      q.Covers draft.npub draft.issuedTo := by
    unfold Quota.creates at hcreates
    split at hcreates
    · rename_i draft hop
      exact ⟨draft, hop, of_decide_eq_true hcreates⟩
    · cases hcreates
  have hw := createWarrant hv ho hop
  obtain ⟨n, hmem, hlt⟩ : ∃ n : ℕ, ⟨.countOutstanding (q.filter draft.now), n⟩ ∈
      (machine cb sb).own e.tid pre ∧ n < q.cap O := by
    cases q with
    | perNpub npub clientIp =>
      obtain ⟨n, hmem, hlt⟩ := hw.perNpub hcap
      rw [hcovers.1, hcovers.2] at hmem
      exact ⟨n, hmem, hlt⟩
    | perIp clientIp => exact hw.perIp hcap clientIp hcovers
  obtain ⟨pre', e', ho', htid, hev⟩ := mem_own.mp hmem
  exact ⟨pre', e', draft.now, n, ho', htid, hev, hlt, hw.read⟩

/-- In a run in which the requests that overtake another leave it a slot, no more challenges of a
principal at an address, or of an address, are outstanding than its cap allows. What has ended is
judged at a time that is not before any reading of the clock. -/
theorem outstanding_capped (hv : (server P O cb sb).Valid h) (hs : Spared O h)
    (ht : ∀ e ∈ h, e.env.now ≤ t) (hcap : 0 < q.cap O) :
    (q.held t h).encard ≤ (q.cap O).toNat := by
  refine hv.rec_on (P := fun h : History cb sb => Spared O h → (∀ e ∈ h, e.env.now ≤ t) →
    (q.held t h).encard ≤ (q.cap O).toNat) (fun _ _ => ?_) (fun h e hv hv' ih hs ht => ?_) hs ht
  · rw [held_nil, Set.encard_empty]
    exact zero_le
  · have hstep := held_step (q := q) (t := t) hv'
    cases hcreates : q.creates e with
    | false =>
      rw [List.countP_singleton, hcreates] at hstep
      refine hstep.trans ?_
      simpa using ih (hs.restrict (List.prefix_append _ _)) fun e he => ht e (List.mem_append_left _ he)
    | true =>
      -- The request has counted, and what was created since leaves it a slot.
      obtain ⟨pre', e', now, n, ho', htid, hev, hlt, hread⟩ := exists_count hv' Occurs.last hcreates hcap
      have hnow : now ≤ t := by
        obtain ⟨pre1, e1, ho1, -, rfl⟩ := exists_occurs_of_hasRead hread
        exact ht e1 (List.mem_append_left _ (ho1.mem (by simp)))
      have hheld : (q.held t h).encard < (q.cap O).toNat := by
        refine (held_run hv ho'.before).trans_lt ?_
        rcases Nat.eq_zero_or_pos ((h.drop pre'.length).countP q.creates) with hzero | hpos
        · rw [hzero, Nat.cast_zero, add_zero]
          refine (held_le_of_count (hv.restrict ho'.before) hev hnow).trans_lt ?_
          exact_mod_cast (by omega : n < (q.cap O).toNat)
        · refine lt_of_le_of_lt ?_
            (hs h e q Occurs.last hcreates pre' e' now ho' htid (op_of_event hev) hpos)
          gcongr
          exact held_anti hnow
      rw [List.countP_singleton, hcreates] at hstep
      exact hstep.trans (Order.add_one_le_of_lt hheld)

/-- Whether a step creates a challenge. -/
def issues (e : Step (machine cb sb)) : Bool :=
  match e.op with
  | .challengeCreate _ => true
  | _ => false

/-- What a quota counts is a challenge that is created. -/
theorem issues_of_creates {e : Step (machine cb sb)} (h : q.creates e = true) : issues e = true := by
  unfold Quota.creates at h
  unfold issues
  split at h
  · rfl
  · cases h

/-- Every request leaves the others a slot where all challenges of the run fit under the cap. -/
theorem spared_of_countP (hv : (server P O cb sb).Valid h)
    (hfit : ∀ q : Quota, h.countP issues ≤ (q.cap O).toNat) : Spared O h := by
  intro pre e q ho hcreates pre' e' now ho' _ _ _
  -- What is held was created, before the count or since.
  have hheld : (q.held now pre').encard ≤ (pre'.countP q.creates : ℕ) := by
    have hrun := held_run (q := q) (t := now) (hv.restrict (ho'.before.trans ho.before))
      List.nil_prefix
    rwa [held_nil, Set.encard_empty, zero_add, List.length_nil, List.drop_zero] at hrun
  have hsplit : pre'.countP q.creates + (pre.drop pre'.length).countP q.creates =
      pre.countP q.creates := by
    obtain ⟨rest, rfl⟩ := ho'.before
    rw [List.drop_left, List.countP_append]
  have hlt : pre.countP q.creates < (q.cap O).toNat :=
    calc pre.countP q.creates ≤ pre.countP issues := List.countP_mono_left fun e _ => issues_of_creates
      _ < h.countP issues := ho.countP_lt (issues_of_creates hcreates)
      _ ≤ (q.cap O).toNat := hfit q
  calc (q.held now pre').encard + ((pre.drop pre'.length).countP q.creates : ℕ)
      ≤ (pre'.countP q.creates : ℕ) + ((pre.drop pre'.length).countP q.creates : ℕ) := by gcongr
    _ = (pre.countP q.creates : ℕ) := by rw [← Nat.cast_add, hsplit]
    _ < (q.cap O).toNat := by exact_mod_cast hlt

/-- A challenge that the store shows is held. -/
theorem mem_held {c : (server P O cb sb).Config} (hc : (server P O cb sb).Reachable c) {id : String}
    (h : (cb.challengeStore.get id c.state.challenges).any (fun r => decide (r.state = .issued ∧
      t ≤ r.expiresAt ∧ q.Covers r.npub r.clientIp)) = true) : id ∈ q.held t c.history := by
  obtain ⟨r, hr, hheld⟩ := (Option.any_eq_true _ _).mp h
  refine ⟨r, ?_, of_decide_eq_true hheld⟩
  rw [challengeAt, ← hc.coherent.state_eq]
  exact hr

namespace Sample

/-- A cap of one challenge for each principal. -/
def oneChallenge : NapServerOptions := { options with maxOutstandingChallengesPerNpub := some 1 }

/-- The requests of one principal for a challenge. -/
abbrev issuer : System Res Call Outcome := server platform oneChallenge .memory .memory

/-- A cap of two. -/
def twoChallenges : NapServerOptions := { options with maxOutstandingChallengesPerNpub := some 2 }

/-- Whether a challenge that has been drawn is outstanding. -/
def outstanding {O : NapServerOptions} (c : (server platform O .memory .memory).Config) (n : ℕ) : Bool :=
  (MemoryChallenges.get (base64Url (draws n).id) c.state.challenges).any fun r =>
    decide (r.state = .issued ∧ 1000 ≤ r.expiresAt ∧ r.npub = npub ∧ r.clientIp = none)

/-- Two requests count before either creates. -/
def overlapping {O : NapServerOptions} : List (server platform O .memory .memory).Label :=
  [.start (issue none), .start (issue none), .run 0 (env 1000 0), .run 0 (env 1000 0),
    .run 0 (env 1000 0), .run 1 (env 1000 0), .run 1 (env 1000 0), .run 1 (env 1000 0),
    .run 0 (env 1000 0), .run 1 (env 1000 1)]

end Sample

open Sample in
/-- Two requests of one principal under a cap of two. Both count before either creates, and there is room
for both. -/
theorem outstanding_capped_two : ∃ c : (server platform twoChallenges .memory .memory).Config,
    (server platform twoChallenges .memory .memory).Reachable c ∧
    c.calls = [issue none, issue none] ∧
    1 < ((Quota.perNpub npub none).held 1000 c.history).encard ∧
    ((Quota.perNpub npub none).held 1000 c.history).encard ≤ 2 := by
  obtain ⟨c, hc, hcalls, hp⟩ := exists_run (O := twoChallenges) overlapping [issue none, issue none]
    (fun c => outstanding c 0 && outstanding c 1 && decide (∀ e ∈ c.history, e.env.now ≤ 1000) &&
      decide (c.history.countP issues ≤ 2))
    rfl (List.forall_mem_cons.mpr ⟨rfl, List.forall_mem_singleton.mpr rfl⟩)
    (by decide)
  simp only [Bool.and_eq_true, decide_eq_true_eq] at hp
  obtain ⟨⟨⟨hfirst, hsecond⟩, htime⟩, htwo⟩ := hp
  have hv : (server platform twoChallenges .memory .memory).Valid c.history := ⟨c, hc, rfl⟩
  -- The run's two challenges fit under the cap of a principal, and under that of an address.
  have hspared : Spared twoChallenges c.history := by
    refine spared_of_countP hv fun q => htwo.trans ?_
    cases q with
    | perNpub npub clientIp => exact (by decide : 2 ≤ (2 : ℤ).toNat)
    | perIp clientIp => exact (by decide : 2 ≤ (30 : ℤ).toNat)
  exact ⟨c, hc, hcalls, Set.one_lt_encard_iff.mpr ⟨base64Url (draws 0).id, base64Url (draws 1).id,
    mem_held hc hfirst, mem_held hc hsecond, by decide⟩,
    outstanding_capped hv hspared htime (by decide)⟩

open Sample in
/-- Two requests of one principal under a cap of one. Both count before either creates, and both
challenges are outstanding on a clock that stands still. -/
theorem outstanding_uncapped : ∃ c : issuer.Config, issuer.Reachable c ∧
    c.calls = [issue none, issue none] ∧ (∀ e ∈ c.history, e.env.now = 1000) ∧
    (Quota.perNpub npub none).cap oneChallenge = 1 ∧
    1 < ((Quota.perNpub npub none).held 1000 c.history).encard := by
  obtain ⟨c, hc, hcalls, hp⟩ := exists_run (O := oneChallenge) overlapping [issue none, issue none]
    (fun c => outstanding c 0 && outstanding c 1 &&
      decide (∀ e ∈ c.history, e.env.now = 1000))
    rfl (List.forall_mem_cons.mpr ⟨rfl, List.forall_mem_singleton.mpr rfl⟩)
    (by decide)
  simp only [Bool.and_eq_true, decide_eq_true_eq] at hp
  obtain ⟨⟨hfirst, hsecond⟩, htime⟩ := hp
  exact ⟨c, hc, hcalls, htime, rfl, Set.one_lt_encard_iff.mpr ⟨base64Url (draws 0).id,
    base64Url (draws 1).id, mem_held hc hfirst, mem_held hc hsecond, by decide⟩⟩

end NapAuth

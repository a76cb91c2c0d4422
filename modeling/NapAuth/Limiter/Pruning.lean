import NapAuth.Limiter.Callers

/-!
# Pruning is invisible

A check counts every identifier of its key once, since the identifiers of a key are distinct: it is
decided by the windows that are live before it (`decision_check`), and leaves a window that counts
it (`window_check`). `checkUnpruned` is the same check without `prune`. The two limiters hold the
same windows but for some that have ended (`Pruned`), in which neither of them will count again,
and so their decisions are the same (`decisions_check`).
-/

namespace NapAuth

namespace MemoryRateLimiter

variable {L : InMemoryRateLimiterOptions} {now later : ℤ} {s full : MemoryRateLimiter} {k : String}
  {key : RateLimitKey}

/-! ## One check -/

/-- The `reduce` of a check: the last refusal among the decisions on its identifiers. -/
def worst (decisions : List RateLimitDecision) (initial : RateLimitDecision) : RateLimitDecision :=
  decisions.foldl (fun worst decision => if decision.allowed then worst else decision) initial

/-- The window of an identifier after hits of some. -/
theorem window_hitAll {identifiers : List String} (hnodup : identifiers.Nodup)
    (hk : k ∈ identifiers) (initial : RateLimitDecision) :
    (hitAll L now identifiers initial s).2.windows.lookup k =
      some (counted now (live L now (s.windows.lookup k))) := by
  induction identifiers generalizing initial s with
  | nil => exact absurd hk List.not_mem_nil
  | cons k' identifiers ih =>
    rw [List.nodup_cons] at hnodup
    rw [hitAll_cons]
    rcases List.mem_cons.mp hk with rfl | hk
    · rw [hitAll_other hnodup.1, hit_eq]
      exact AList.lookup_insert _
    · have hne : k ≠ k' := fun h => hnodup.1 (h ▸ hk)
      rw [ih hnodup.2 hk, hit_eq]
      dsimp only
      rw [AList.lookup_insert_ne hne]

/-- The decision on hits of some identifiers. -/
theorem decision_hitAll {identifiers : List String} (hnodup : identifiers.Nodup)
    (initial : RateLimitDecision) : (hitAll L now identifiers initial s).1 =
      worst (identifiers.map fun k => verdict L now (live L now (s.windows.lookup k))) initial := by
  induction identifiers generalizing initial s with
  | nil => rfl
  | cons k identifiers ih =>
    rw [List.nodup_cons] at hnodup
    rw [hitAll_cons, ih hnodup.2, hit_eq, List.map_cons]
    unfold worst
    rw [List.foldl_cons]
    -- The first hit leaves the windows of the other identifiers alone.
    have hothers : ∀ k' ∈ identifiers, k' ≠ k := fun k' hk' h => hnodup.1 (h ▸ hk')
    congr 1
    refine List.map_congr_left fun k' hk' => ?_
    dsimp only
    rw [AList.lookup_insert_ne (hothers k' hk')]

/-- What has been pruned was live no more. -/
theorem live_prune (now : ℤ) (s : MemoryRateLimiter) (k : String) :
    live L now ((s.prune L now).windows.lookup k) = live L now (s.windows.lookup k) := by
  rw [prune_eq]
  exact (drops k).sweep_later s.lastPrunedAt le_rfl s.windows

/-- A check is decided by the windows that are live. -/
theorem decision_check (now : ℤ) (key : RateLimitKey) (s : MemoryRateLimiter) :
    (s.check L now key).1 =
      worst (key.identifiers.map fun k => verdict L now (live L now (s.windows.lookup k)))
        ⟨true, none⟩ := by
  unfold check
  rw [decision_hitAll (identifiers_nodup key)]
  congr 1
  exact List.map_congr_left fun k _ => congrArg (verdict L now) (live_prune now s k)

/-- A check of an identifier is counted in its window. -/
theorem window_check (hk : k ∈ key.identifiers) : (s.check L now key).2.windows.lookup k =
    some (counted now (live L now (s.windows.lookup k))) := by
  unfold check
  rw [window_hitAll (identifiers_nodup key) hk, live_prune]

/-- A check of others leaves the window of an identifier, unless it prunes it. -/
theorem window_check_other (hk : k ∉ key.identifiers) : (s.check L now key).2.windows.lookup k =
    (s.prune L now).windows.lookup k := hitAll_other hk _ _

/-! ## Without pruning -/

/-- `check` without `prune`. -/
def checkUnpruned (L : InMemoryRateLimiterOptions) (now : ℤ) (key : RateLimitKey)
    (s : MemoryRateLimiter) : RateLimitDecision × MemoryRateLimiter :=
  s.hitAll L now key.identifiers ⟨true, none⟩

/-- The window that a limiter holds is the one that an unpruned limiter holds, unless that has
ended. -/
def Pruned (L : InMemoryRateLimiterOptions) (now : ℤ) (held full : Option Window) : Prop :=
  held = full ∨ held = none ∧ live L now full = none

/-- What has ended has ended later too. -/
theorem live_eq_none {w : Option Window} (hle : now ≤ later) (h : live L now w = none) :
    live L later w = none := by
  unfold live at h ⊢
  rw [Option.filter_eq_none_iff] at h ⊢
  intro w' hw'
  have hended : L.ended now w' = true := by simpa using h w' hw'
  simp [ended_mono hle hended]

/-- The same is live in both. -/
theorem Pruned.live_eq {held full : Option Window} (h : Pruned L now held full)
    (hle : now ≤ later) : live L later held = live L later full := by
  rcases h with rfl | ⟨rfl, hended⟩
  · rfl
  · exact (live_eq_none hle hended).symm

/-- Pruning the one keeps them so. -/
theorem Pruned.prune {w : Option Window} (h : Pruned L now (s.windows.lookup k) w)
    (hle : now ≤ later) : Pruned L later ((s.prune L later).windows.lookup k) w := by
  have hlive := h.live_eq hle
  have hpruned : (s.prune L later).windows.lookup k = s.windows.lookup k ∨
      (s.prune L later).windows.lookup k = live L later (s.windows.lookup k) := by
    unfold MemoryRateLimiter.prune
    split
    · exact Or.inl rfl
    · exact Or.inr (JsMap.lookup_keep _ _ _)
  rcases hpruned with heq | heq
  · rw [heq]
    exact h.imp_right fun h => ⟨h.1, live_eq_none hle h.2⟩
  · -- What is kept is live.
    rw [heq, hlive]
    cases hl : live L later w with
    | none => exact Or.inr ⟨rfl, hl⟩
    | some w' => exact Or.inl (Option.filter_eq_some_iff.mp hl).1.symm

/-- The decisions of a limiter on checks, each a reading of the clock and a key. -/
def decisions (check : ℤ → RateLimitKey → MemoryRateLimiter → RateLimitDecision × MemoryRateLimiter) :
    MemoryRateLimiter → List (ℤ × RateLimitKey) → List RateLimitDecision
  | _, [] => []
  | s, (now, key) :: calls => (check now key s).1 :: decisions check (check now key s).2 calls

/-- A check is decided alike by a limiter and by an unpruned one that holds the same windows. -/
theorem check_pruned (h : ∀ k, Pruned L now (s.windows.lookup k) (full.windows.lookup k))
    (hle : now ≤ later) (key : RateLimitKey) :
    (s.check L later key).1 = (full.checkUnpruned L later key).1 ∧
      ∀ k, Pruned L later ((s.check L later key).2.windows.lookup k)
        ((full.checkUnpruned L later key).2.windows.lookup k) := by
  refine ⟨?_, fun k => ?_⟩
  · unfold checkUnpruned
    rw [decision_check, decision_hitAll (identifiers_nodup key)]
    congr 1
    exact List.map_congr_left fun k _ => congrArg (verdict L later) ((h k).live_eq hle)
  · by_cases hk : k ∈ key.identifiers
    · unfold checkUnpruned
      rw [window_check hk, window_hitAll (identifiers_nodup key) hk, (h k).live_eq hle]
      exact Or.inl rfl
    · unfold checkUnpruned
      rw [window_check_other hk, hitAll_other hk]
      exact (h k).prune hle

/-- So are all the checks of a run. -/
theorem decisions_pruned (h : ∀ k, Pruned L now (s.windows.lookup k) (full.windows.lookup k))
    {calls : List (ℤ × RateLimitKey)} (hclock : calls.Pairwise fun c c' => c.1 ≤ c'.1)
    (hafter : ∀ c ∈ calls, now ≤ c.1) :
    decisions (check L) s calls = decisions (checkUnpruned L) full calls := by
  induction calls generalizing now s full with
  | nil => rfl
  | cons c calls ih =>
    obtain ⟨later, key⟩ := c
    rw [List.pairwise_cons] at hclock
    obtain ⟨hdecision, hpruned⟩ := check_pruned h (hafter _ List.mem_cons_self) key
    unfold decisions
    rw [hdecision, ih hpruned hclock.2 hclock.1]

/-- Some time is not after any check of a run. -/
theorem exists_le_clock {calls : List (ℤ × RateLimitKey)}
    (hclock : calls.Pairwise fun c c' => c.1 ≤ c'.1) : ∃ now, ∀ c ∈ calls, now ≤ c.1 := by
  cases calls with
  | nil => exact ⟨0, fun c hc => absurd hc List.not_mem_nil⟩
  | cons c calls =>
    refine ⟨c.1, fun c' hc' => ?_⟩
    rcases List.mem_cons.mp hc' with rfl | hc'
    · exact le_rfl
    · exact (List.pairwise_cons.mp hclock).1 c' hc'

/-- Pruning makes no difference to the decisions of a run, while the clock does not go back. -/
theorem decisions_check (L : InMemoryRateLimiterOptions) {calls : List (ℤ × RateLimitKey)}
    (hclock : calls.Pairwise fun c c' => c.1 ≤ c'.1) :
    decisions (check L) init calls = decisions (checkUnpruned L) init calls := by
  obtain ⟨now, hafter⟩ := exists_le_clock hclock
  have hinit : ∀ k, Pruned L now (init.windows.lookup k) (init.windows.lookup k) :=
    fun k => Or.inl rfl
  exact decisions_pruned hinit hclock hafter

end MemoryRateLimiter

namespace Sample

/-- One request in a minute. -/
def single : InMemoryRateLimiterOptions := ⟨some 60, some 1⟩

/-- Two requests in a minute, and a third when the first window has ended. -/
def requests : List (ℤ × RateLimitKey) :=
  [(1000, issueKey "npub1alice" (some "10.0.0.1")), (1010, issueKey "npub1bob" (some "10.0.0.1")),
    (1065, issueKey "npub1bob" (some "10.0.0.1"))]

end Sample

open Sample in
/-- The third request is refused with and without pruning: the window of its principal has not
ended. -/
theorem decisions_check_requests :
    MemoryRateLimiter.decisions (MemoryRateLimiter.check single) .init requests =
      MemoryRateLimiter.decisions (MemoryRateLimiter.checkUnpruned single) .init requests ∧
    MemoryRateLimiter.decisions (MemoryRateLimiter.check single) .init requests =
      [⟨true, none⟩, ⟨false, some 50⟩, ⟨false, some 5⟩] :=
  ⟨MemoryRateLimiter.decisions_check single (by decide), by decide⟩

end NapAuth

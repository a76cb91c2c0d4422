import NapAuth.Limiter.Windows

/-!
# When a refused caller may come back

A refused check is told when to come back: when the window of the last of its identifiers that is
full has ended (`decision_eq`). That is not always enough. Another identifier of the key may be in a
window that ends later, and the refused check itself was counted in it, or has opened it. `Covers`
is the condition under which coming back at that time is enough, and `retry_after_iff` says that it
is exact.
-/

namespace NapAuth

namespace MemoryRateLimiter

variable {L : InMemoryRateLimiterOptions} {now : ℤ} {s : MemoryRateLimiter} {key : RateLimitKey}

/-- The window of an identifier, if it is live and has no room for another check. -/
def full (L : InMemoryRateLimiterOptions) (now : ℤ) (s : MemoryRateLimiter) (k : String) :
    Option Window := (live L now (s.windows.lookup k)).filter fun w => decide (L.limit < w.count + 1)

/-- The last full window of the identifiers of a key. -/
def lastFull (L : InMemoryRateLimiterOptions) (now : ℤ) (key : RateLimitKey)
    (s : MemoryRateLimiter) : Option Window := (key.identifiers.filterMap (full L now s)).getLast?

/-- Whether an identifier has room at a time `t` after a check at `now`, from its window before that
check. A check opens a window where none is live, and is counted in one that is. -/
def HasRoom (L : InMemoryRateLimiterOptions) (now t : ℤ) : Option Window → Prop
  | none => now + L.window ≤ t ∨ 2 ≤ L.limit
  | some w => w.startedAt + L.window ≤ t ∨ w.count + 2 ≤ L.limit

/-- Every identifier of a key has room when the last full window has ended. -/
def Covers (L : InMemoryRateLimiterOptions) (now : ℤ) (key : RateLimitKey) (s : MemoryRateLimiter) :
    Prop :=
  ∀ last, lastFull L now key s = some last → ∀ k ∈ key.identifiers,
    HasRoom L now (last.startedAt + L.window) (live L now (s.windows.lookup k))

/-- The worst decision is the last refusal. -/
theorem worst_eq (decisions : List RateLimitDecision) (initial : RateLimitDecision) :
    worst decisions initial = (decisions.filter fun d => !d.allowed).getLast?.getD initial := by
  unfold worst
  induction decisions using List.reverseRecOn with
  | nil => rfl
  | append_singleton decisions d ih =>
    rw [List.foldl_append, ih, List.filter_append, List.foldl_cons, List.foldl_nil]
    cases hd : d.allowed with
    | true => simp [hd]
    | false => simp [hd]

/-- What is live has not ended. -/
theorem lt_of_live {window : Option Window} {w : Window} (h : live L now window = some w) :
    now < w.startedAt + L.window := by
  cases window with
  | none => cases h
  | some w' =>
    obtain ⟨rfl, hlt⟩ := live_eq_some_iff.mp h
    exact hlt

/-- The refusal of an identifier whose window is full: to wait until the window ends. -/
def refusal (L : InMemoryRateLimiterOptions) (now : ℤ) (w : Window) : RateLimitDecision :=
  ⟨false, some (w.startedAt + L.window - now)⟩

/-- An identifier refuses a check if its window is full. -/
theorem verdict_eq (k : String) : verdict L now (live L now (s.windows.lookup k)) =
    ((full L now s k).map (refusal L now)).getD ⟨true, none⟩ := by
  unfold full
  cases hw : live L now (s.windows.lookup k) with
  | none => rfl
  | some w =>
    have hlt := lt_of_live hw
    by_cases hfull : L.limit < w.count + 1
    · rw [Option.filter_some_pos (by simpa using hfull), verdict, if_pos hfull,
        max_eq_right (by omega)]
      rfl
    · rw [Option.filter_some_neg (by simpa using hfull), verdict, if_neg hfull]
      rfl

/-- The refusals among the decisions on some identifiers. -/
theorem refusals_eq (identifiers : List String) :
    ((identifiers.map fun k => verdict L now (live L now (s.windows.lookup k))).filter
        fun d => !d.allowed) = (identifiers.filterMap (full L now s)).map (refusal L now) := by
  induction identifiers with
  | nil => rfl
  | cons k identifiers ih =>
    rw [List.map_cons, List.filter_cons, ih, verdict_eq, List.filterMap_cons]
    cases full L now s k with
    | none => rfl
    | some w => rfl

/-- A check is refused if a window is full, and the last of these refuses it. -/
theorem decision_eq (now : ℤ) (key : RateLimitKey) (s : MemoryRateLimiter) :
    (s.check L now key).1 = ((lastFull L now key s).map (refusal L now)).getD ⟨true, none⟩ := by
  rw [decision_check, worst_eq, refusals_eq, List.getLast?_map]
  rfl

/-- A window allows a check when it has ended, or has room. -/
theorem allowed_iff {t : ℤ} (w : Window) : (verdict L t (live L t (some w))).allowed = true ↔
    w.startedAt + L.window ≤ t ∨ w.count + 1 ≤ L.limit := by
  by_cases hended : w.startedAt + L.window ≤ t
  · rw [live_eq_none_iff.mpr hended]
    exact ⟨fun _ => Or.inl hended, fun _ => rfl⟩
  · rw [live_eq_some_iff.mpr ⟨rfl, by omega⟩, verdict_allowed]
    exact ⟨Or.inr, fun h => h.resolve_left hended⟩

/-- A check is allowed at a time `t` after another if every identifier of the key has room. -/
theorem allowed_after_iff {t : ℤ} : ((s.check L now key).2.check L t key).1.allowed = true ↔
    ∀ k ∈ key.identifiers, HasRoom L now t (live L now (s.windows.lookup k)) := by
  rw [decision_check, worst_allowed, List.forall_mem_map]
  have hroom : ∀ k ∈ key.identifiers,
      ((verdict L t (live L t ((s.check L now key).2.windows.lookup k))).allowed = true ↔
        HasRoom L now t (live L now (s.windows.lookup k))) := by
    intro k hk
    rw [window_check hk, allowed_iff]
    cases live L now (s.windows.lookup k) with
    | none => exact Iff.rfl
    | some w =>
      have hcount : w.count + 1 + 1 ≤ L.limit ↔ w.count + 2 ≤ L.limit := by omega
      exact or_congr Iff.rfl hcount
  constructor
  · rintro ⟨-, h⟩ k hk
    exact (hroom k hk).mp (h k hk)
  · intro h
    exact ⟨rfl, fun k hk => (hroom k hk).mpr (h k hk)⟩

/-- A refused caller that comes back when it was told to is allowed if every identifier of its key
has room by then, and only then. -/
theorem retry_after_iff (L : InMemoryRateLimiterOptions) (now : ℤ) (key : RateLimitKey)
    (s : MemoryRateLimiter) (hrefused : (s.check L now key).1.allowed = false) :
    ∃ r, (s.check L now key).1.retryAfterSeconds = some r ∧
      (((s.check L now key).2.check L (now + r) key).1.allowed = true ↔ Covers L now key s) := by
  rw [decision_eq] at hrefused ⊢
  cases hlast : lastFull L now key s with
  | none =>
    rw [hlast] at hrefused
    cases hrefused
  | some last =>
    refine ⟨last.startedAt + L.window - now, rfl, ?_⟩
    have htime : now + (last.startedAt + L.window - now) = last.startedAt + L.window := by omega
    rw [htime, allowed_after_iff]
    constructor
    · intro h last' hlast' k hk
      rw [hlast] at hlast'
      rw [← Option.some.inj hlast']
      exact h k hk
    · intro h
      exact h last hlast

end MemoryRateLimiter

open Sample MemoryRateLimiter in
/-- A principal alone at its address is told the truth. -/
theorem retry_after_alone : ∃ r,
    ((run single init [(1000, issueKey "npub1bob" (some "10.0.0.1"))]).check single 1010
      (issueKey "npub1bob" (some "10.0.0.1"))).1.retryAfterSeconds = some r ∧
    ((((run single init [(1000, issueKey "npub1bob" (some "10.0.0.1"))]).check single 1010
      (issueKey "npub1bob" (some "10.0.0.1"))).2.check single (1010 + r)
        (issueKey "npub1bob" (some "10.0.0.1"))).1.allowed = true ↔
      Covers single 1010 (issueKey "npub1bob" (some "10.0.0.1"))
        (run single init [(1000, issueKey "npub1bob" (some "10.0.0.1"))])) :=
  retry_after_iff single 1010 _ _ (by decide)

open Sample MemoryRateLimiter in
/-- A principal that is refused for its address is refused again, for the window that the first
refusal has opened. -/
theorem retry_after_dishonest : ¬ ∀ (L : InMemoryRateLimiterOptions)
    (calls : List (ℤ × RateLimitKey)) (now : ℤ) (key : RateLimitKey) (r : ℤ), 1 ≤ L.limit →
    (calls.Pairwise fun c c' => c.1 ≤ c'.1) → (∀ c ∈ calls, c.1 ≤ now) →
    ((run L init calls).check L now key).1 = ⟨false, some r⟩ →
    (((run L init calls).check L now key).2.check L (now + r) key).1.allowed = true := by
  intro h
  have hallowed := h single [(1000, issueKey "npub1alice" (some "10.0.0.1"))] 1010
    (issueKey "npub1bob" (some "10.0.0.1")) 50 (by decide) (by decide) (by decide)
    (by decide)
  exact absurd hallowed (by decide)

end NapAuth

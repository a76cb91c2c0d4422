import Mathlib.Algebra.Order.Group.Nat
import NapAuth.Limiter.Pruning

/-!
# The budget of a window, and of any span of time

The windows of an identifier open at its first hit and not at fixed times, so a span of time as long
as a window may meet two of them. `allowedAt` lists when the allowed checks of a run that carry an
identifier were made. Of these, no window has more than its budget (`allowed_in_window`), and no span
as long as a window more than two (`allowed_in_span`).

The invariant is `Tally`: the allowed checks lie before the end of the latest window, those in it are
no more than have been counted in it, and those in the span before it are within the budget.
-/

namespace NapAuth

namespace MemoryRateLimiter

variable {L : InMemoryRateLimiterOptions} {now now' : ℤ} {s : MemoryRateLimiter} {k : String}
  {key : RateLimitKey}

/-! ## Counting times -/

/-- How many of some times are in a span, from `a` on and before `b`. -/
def during (a b : ℤ) (times : List ℤ) : ℕ := times.countP fun t => a ≤ t ∧ t < b

/-- A time out of the span makes no difference. -/
theorem during_concat {a b t : ℤ} {times : List ℤ} (h : ¬ (a ≤ t ∧ t < b)) :
    during a b (times ++ [t]) = during a b times := by
  unfold during
  rw [List.countP_append, List.countP_singleton, if_neg (by simpa using h), Nat.add_zero]

/-- One more time is at most one more in a span. -/
theorem during_concat_le (a b t : ℤ) (times : List ℤ) :
    during a b (times ++ [t]) ≤ during a b times + 1 := by
  unfold during
  rw [List.countP_append, List.countP_singleton]
  split <;> omega

/-- There are no more in a span than in one that covers it. -/
theorem during_le {a b a' b' : ℤ} {times : List ℤ} (h : ∀ t ∈ times, a ≤ t → t < b → a' ≤ t ∧ t < b') :
    during a b times ≤ during a' b' times :=
  List.countP_mono_left fun t ht hspan => by
    rw [decide_eq_true_eq] at hspan ⊢
    exact h t ht hspan.1 hspan.2

/-- A span is covered by the parts of it before and after a time. -/
theorem during_split (a b m : ℤ) (times : List ℤ) :
    during a b times ≤ during a m times + during m b times := by
  unfold during
  induction times with
  | nil => exact Nat.zero_le _
  | cons t times ih =>
    simp only [List.countP_cons, decide_eq_true_eq]
    split_ifs <;> omega

/-- There is none in a span that holds none. -/
theorem during_eq_zero {a b : ℤ} {times : List ℤ} (h : ∀ t ∈ times, ¬ (a ≤ t ∧ t < b)) :
    during a b times = 0 := by
  unfold during
  rw [List.countP_eq_zero]
  intro t ht
  rw [decide_eq_true_eq]
  exact h t ht

/-! ## Runs -/

/-- When the allowed checks of a run that carry an identifier were made. -/
def allowedAt (L : InMemoryRateLimiterOptions) (k : String) :
    MemoryRateLimiter → List (ℤ × RateLimitKey) → List ℤ
  | _, [] => []
  | s, (now, key) :: calls =>
    (if (s.check L now key).1.allowed ∧ k ∈ key.identifiers then [now] else []) ++
      allowedAt L k (s.check L now key).2 calls

/-- The limiter after a run. -/
def run (L : InMemoryRateLimiterOptions) (s : MemoryRateLimiter) (calls : List (ℤ × RateLimitKey)) :
    MemoryRateLimiter := calls.foldl (fun s c => (s.check L c.1 c.2).2) s

/-- A check is allowed if every identifier of its key is. -/
theorem worst_allowed {decisions : List RateLimitDecision} {initial : RateLimitDecision} :
    (worst decisions initial).allowed = true ↔
      initial.allowed = true ∧ ∀ d ∈ decisions, d.allowed = true := by
  unfold worst
  induction decisions generalizing initial with
  | nil => simp
  | cons d decisions ih =>
    rw [List.foldl_cons, ih, List.forall_mem_cons]
    cases hd : d.allowed <;> simp [hd]

/-- A hit is allowed if the window has room for it. -/
theorem verdict_allowed {w : Window} :
    (verdict L now (some w)).allowed = true ↔ w.count + 1 ≤ L.limit := by
  by_cases hfull : w.count + 1 > L.limit
  · rw [verdict, if_pos hfull]
    simpa using hfull
  · rw [verdict, if_neg hfull]
    simpa using hfull

/-- A window is live before its end. -/
theorem live_eq_some_iff {w w' : Window} :
    live L now (some w) = some w' ↔ w = w' ∧ now < w.startedAt + L.window := by
  unfold live InMemoryRateLimiterOptions.ended
  rw [Option.filter_eq_some_iff, Option.some.injEq, Bool.not_eq_true', decide_eq_false_iff_not]
  constructor
  · rintro ⟨rfl, h⟩
    exact ⟨rfl, by omega⟩
  · rintro ⟨rfl, h⟩
    exact ⟨rfl, by omega⟩

/-- It is not live from then on. -/
theorem live_eq_none_iff {w : Window} :
    live L now (some w) = none ↔ w.startedAt + L.window ≤ now := by
  unfold live InMemoryRateLimiterOptions.ended
  rw [Option.filter_eq_none_iff]
  simp
  omega

/-! ## The invariant -/

/-- The latest window of an identifier, and when its allowed checks were made. -/
structure Tally (L : InMemoryRateLimiterOptions) (now : ℤ) (w : Window) (times : List ℤ) : Prop where
  /-- The window has opened. -/
  opened : w.startedAt ≤ now
  /-- No check was allowed after its end. -/
  before : ∀ t ∈ times, t < w.startedAt + L.window
  /-- Those allowed in the window are counted. -/
  counted : (during w.startedAt (w.startedAt + L.window) times : ℤ) ≤ w.count
  /-- They are within the budget. -/
  current : (during w.startedAt (w.startedAt + L.window) times : ℤ) ≤ L.limit
  /-- So are those in the span before the window. -/
  previous : (during (w.startedAt - L.window) w.startedAt times : ℤ) ≤ L.limit
  /-- No span has more than two budgets. -/
  span : ∀ a, (during a (a + L.window + 1) times : ℤ) ≤ 2 * L.limit

variable {w : Window} {times : List ℤ}

/-- Time passes. -/
theorem Tally.wait (h : Tally L now w times) (hle : now ≤ now') : Tally L now' w times :=
  { h with opened := h.opened.trans hle }

/-- The spans that hold a time in a window, from that window and the span before it. -/
theorem span_concat {σ : ℤ} (hspan : ∀ a, (during a (a + L.window + 1) times : ℤ) ≤ 2 * L.limit)
    (hprevious : (during (σ - L.window) σ (times ++ [now]) : ℤ) ≤ L.limit)
    (hcurrent : (during σ (σ + L.window) (times ++ [now]) : ℤ) ≤ L.limit)
    (hbefore : ∀ t ∈ times ++ [now], t < σ + L.window) (hle : σ ≤ now) (a : ℤ) :
    (during a (a + L.window + 1) (times ++ [now]) : ℤ) ≤ 2 * L.limit := by
  by_cases hin : a ≤ now ∧ now < a + L.window + 1
  · -- The span begins no earlier than the one before the window.
    have hsplit := during_split a (a + L.window + 1) σ (times ++ [now])
    have hleft : during a σ (times ++ [now]) ≤ during (σ - L.window) σ (times ++ [now]) :=
      during_le fun t _ hat htσ => ⟨by omega, htσ⟩
    have hright : during σ (a + L.window + 1) (times ++ [now]) ≤
        during σ (σ + L.window) (times ++ [now]) :=
      during_le fun t ht hσt _ => ⟨hσt, hbefore t ht⟩
    omega
  · rw [during_concat hin]
    exact hspan a

/-- A hit is counted in the window. -/
theorem Tally.count (h : Tally L now w times) : Tally L now { w with count := w.count + 1 } times :=
  { h with counted := h.counted.trans (by simp) }

/-- A hit in the window is allowed. -/
theorem Tally.allow (h : Tally L now w times) (hlive : now < w.startedAt + L.window)
    (hroom : w.count + 1 ≤ L.limit) :
    Tally L now { w with count := w.count + 1 } (times ++ [now]) := by
  have hbefore : ∀ t ∈ times ++ [now], t < w.startedAt + L.window := fun t ht => by
    rcases List.mem_append.mp ht with ht | ht
    · exact h.before t ht
    · rw [List.mem_singleton.mp ht]
      exact hlive
  have hcounted : (during w.startedAt (w.startedAt + L.window) (times ++ [now]) : ℤ) ≤ w.count + 1 := by
    have hone := during_concat_le w.startedAt (w.startedAt + L.window) now times
    have hcount := h.counted
    omega
  have hprevious : (during (w.startedAt - L.window) w.startedAt (times ++ [now]) : ℤ) ≤ L.limit := by
    have hopened := h.opened
    rw [during_concat (by omega)]
    exact h.previous
  have hcurrent := hcounted.trans hroom
  exact ⟨h.opened, hbefore, hcounted, hcurrent, hprevious,
    span_concat h.span hprevious hcurrent hbefore h.opened⟩

/-- A window opens, and the hit that opens it may be allowed. -/
theorem Tally.start (hwindow : 0 < L.window) (hlimit : 1 ≤ L.limit) (hbefore : ∀ t ∈ times, t < now)
    (hprevious : (during (now - L.window) now times : ℤ) ≤ L.limit)
    (hspan : ∀ a, (during a (a + L.window + 1) times : ℤ) ≤ 2 * L.limit) :
    Tally L now ⟨now, 1⟩ times ∧ Tally L now ⟨now, 1⟩ (times ++ [now]) := by
  have hnone : during now (now + L.window) times = 0 := during_eq_zero fun t ht hin => by
    have hlt := hbefore t ht
    omega
  have hone := during_concat_le now (now + L.window) now times
  have hbefore' : ∀ t ∈ times ++ [now], t < now + L.window := fun t ht => by
    rcases List.mem_append.mp ht with ht | ht
    · have hlt := hbefore t ht
      omega
    · rw [List.mem_singleton.mp ht]
      omega
  have hcurrent : (during now (now + L.window) (times ++ [now]) : ℤ) ≤ 1 := by omega
  have hprevious' : (during (now - L.window) now (times ++ [now]) : ℤ) ≤ L.limit := by
    rw [during_concat (by omega)]
    exact hprevious
  constructor
  · have hzero : (during now (now + L.window) times : ℤ) ≤ 0 := by omega
    exact ⟨le_rfl, fun t ht => hbefore' t (List.mem_append_left _ ht), hzero.trans zero_le_one,
      hzero.trans (zero_le_one.trans hlimit), hprevious, hspan⟩
  · exact ⟨le_rfl, hbefore', hcurrent, hcurrent.trans hlimit, hprevious',
      span_concat hspan hprevious' (hcurrent.trans hlimit) hbefore' le_rfl⟩

/-- A window opens after the end of another. -/
theorem Tally.restart (h : Tally L now w times) (hwindow : 0 < L.window) (hlimit : 1 ≤ L.limit)
    (hended : w.startedAt + L.window ≤ now) :
    Tally L now ⟨now, 1⟩ times ∧ Tally L now ⟨now, 1⟩ (times ++ [now]) := by
  refine Tally.start hwindow hlimit (fun t ht => (h.before t ht).trans_le hended) ?_ h.span
  -- Whatever was allowed in the span before it was allowed in the other window.
  have hle : during (now - L.window) now times ≤ during w.startedAt (w.startedAt + L.window) times :=
    during_le fun t ht hge _ => ⟨by omega, h.before t ht⟩
  have hcurrent := h.current
  omega

/-- A window that opened at `σ`: its budget is kept, and it is the latest or ended before that. -/
structure Held (L : InMemoryRateLimiterOptions) (σ : ℤ) (w : Window) (times : List ℤ) : Prop where
  budget : (during σ (σ + L.window) times : ℤ) ≤ L.limit
  order : σ = w.startedAt ∨ σ + L.window ≤ w.startedAt

/-- The latest window keeps its budget. -/
theorem Tally.held (h : Tally L now w times) : Held L w.startedAt w times := ⟨h.current, Or.inl rfl⟩

/-- A window keeps its budget when a check is allowed in the latest one, or in a new one. -/
theorem Held.next {σ : ℤ} {w' : Window} {times' : List ℤ} (h : Held L σ w times)
    (htimes : times' = times ∨ times' = times ++ [now']) (h' : Tally L now' w' times')
    (hopened : w.startedAt ≤ now')
    (hw' : w'.startedAt = w.startedAt ∨ w'.startedAt = now' ∧ w.startedAt + L.window ≤ now') :
    Held L σ w' times' := by
  -- Either `σ` is the latest window, or it has ended.
  by_cases hlatest : σ = w'.startedAt
  · exact hlatest ▸ h'.held
  have horder := h.order
  have hended : σ + L.window ≤ w'.startedAt := by omega
  have hpast : σ + L.window ≤ now' := by omega
  refine ⟨?_, Or.inr hended⟩
  rcases htimes with rfl | rfl
  · exact h.budget
  · rw [during_concat (by omega)]
    exact h.budget

/-! ## Steps -/

/-- What one check adds to the allowed checks of an identifier. -/
theorem allowed_cases (L : InMemoryRateLimiterOptions) (k : String) (now : ℤ) (key : RateLimitKey)
    (s : MemoryRateLimiter) (times : List ℤ) :
    times ++ (if (s.check L now key).1.allowed ∧ k ∈ key.identifiers then [now] else []) = times ∨
      (times ++ (if (s.check L now key).1.allowed ∧ k ∈ key.identifiers then [now] else []) =
          times ++ [now] ∧ (s.check L now key).1.allowed = true ∧ k ∈ key.identifiers) := by
  split
  · rename_i h
    exact Or.inr ⟨rfl, h⟩
  · exact Or.inl (List.append_nil times)

/-- A check that is allowed is so on every identifier of its key. -/
theorem verdict_of_allowed (hallowed : (s.check L now key).1.allowed = true)
    (hk : k ∈ key.identifiers) : (verdict L now (live L now (s.windows.lookup k))).allowed = true := by
  rw [decision_check] at hallowed
  exact (worst_allowed.mp hallowed).2 _ (List.mem_map_of_mem hk)

/-- A check keeps the tally of an identifier that has had a window. -/
theorem Tally.check (h : Tally L now w times) (hpruned : Pruned L now (s.windows.lookup k) (some w))
    (hwindow : 0 < L.window) (hlimit : 1 ≤ L.limit) (hle : now ≤ now') (key : RateLimitKey)
    {times' : List ℤ} (htimes : times' = times ++
      (if (s.check L now' key).1.allowed ∧ k ∈ key.identifiers then [now'] else [])) :
    ∃ w', Pruned L now' ((s.check L now' key).2.windows.lookup k) (some w') ∧
      Tally L now' w' times' ∧ ∀ σ, Held L σ w times → Held L σ w' times' := by
  have hopened := h.opened.trans hle
  have hcases := allowed_cases L k now' key s times
  rw [← htimes] at hcases
  by_cases hk : k ∈ key.identifiers
  · have hheld : (s.check L now' key).2.windows.lookup k =
        some (MemoryRateLimiter.counted now' (live L now' (s.windows.lookup k))) := window_check hk
    rw [hpruned.live_eq hle] at hheld
    cases hlive : live L now' (some w) with
    | none =>
      -- The window has ended, and another opens.
      rw [hlive] at hheld
      have hended := live_eq_none_iff.mp hlive
      obtain ⟨hsame, hmore⟩ := (h.wait hle).restart hwindow hlimit hended
      have htally : Tally L now' ⟨now', 1⟩ times' := by
        rcases hcases with rfl | ⟨rfl, -⟩
        · exact hsame
        · exact hmore
      exact ⟨⟨now', 1⟩, Or.inl hheld, htally, fun σ hσ =>
        hσ.next (hcases.imp_right And.left) htally hopened (Or.inr ⟨rfl, hended⟩)⟩
    | some w' =>
      obtain ⟨rfl, hbefore⟩ := live_eq_some_iff.mp hlive
      rw [hlive] at hheld
      have htally : Tally L now' { w with count := w.count + 1 } times' := by
        rcases hcases with rfl | ⟨rfl, hallowed, -⟩
        · exact (h.wait hle).count
        · have hroom := verdict_of_allowed hallowed hk
          rw [hpruned.live_eq hle, hlive] at hroom
          exact (h.wait hle).allow hbefore (verdict_allowed.mp hroom)
      exact ⟨_, Or.inl hheld, htally, fun σ hσ =>
        hσ.next (hcases.imp_right And.left) htally hopened (Or.inl rfl)⟩
  · obtain rfl : times' = times := hcases.resolve_right fun h => hk h.2.2
    refine ⟨w, ?_, h.wait hle, fun σ hσ => hσ⟩
    rw [window_check_other hk]
    exact hpruned.prune hle

/-- Nothing was allowed yet, or the latest window has its tally. -/
def Counts (L : InMemoryRateLimiterOptions) (now : ℤ) (held : Option Window) (times : List ℤ) : Prop :=
  (held = none ∧ times = []) ∨ ∃ w, Pruned L now held (some w) ∧ Tally L now w times

/-- There are no more than two budgets in a span. -/
theorem Counts.span {held : Option Window} (h : Counts L now held times) (hlimit : 1 ≤ L.limit)
    (a : ℤ) : (during a (a + L.window + 1) times : ℤ) ≤ 2 * L.limit := by
  rcases h with ⟨-, rfl⟩ | ⟨w, -, htally⟩
  · rw [during_eq_zero fun t ht => absurd ht List.not_mem_nil, Nat.cast_zero]
    omega
  · exact htally.span a

/-- The first window opens. -/
theorem Tally.first (hwindow : 0 < L.window) (hlimit : 1 ≤ L.limit) (now : ℤ) :
    Tally L now ⟨now, 1⟩ [] ∧ Tally L now ⟨now, 1⟩ [now] := by
  have hempty : ∀ a b, during a b [] = 0 := fun _ _ => rfl
  refine Tally.start hwindow hlimit (fun t ht => absurd ht List.not_mem_nil) ?_ fun a => ?_
  · rw [hempty, Nat.cast_zero]
    omega
  · rw [hempty, Nat.cast_zero]
    omega

/-- A check keeps the count of an identifier. -/
theorem Counts.check (h : Counts L now (s.windows.lookup k) times) (hwindow : 0 < L.window)
    (hlimit : 1 ≤ L.limit) (hle : now ≤ now') (key : RateLimitKey) :
    Counts L now' ((s.check L now' key).2.windows.lookup k) (times ++
      (if (s.check L now' key).1.allowed ∧ k ∈ key.identifiers then [now'] else [])) := by
  rcases h with ⟨hnone, rfl⟩ | ⟨w, hpruned, htally⟩
  · have hcases := allowed_cases L k now' key s []
    by_cases hk : k ∈ key.identifiers
    · refine Or.inr ⟨⟨now', 1⟩, Or.inl ?_, ?_⟩
      · rw [window_check hk, hnone]
        rfl
      · rcases hcases with heq | ⟨heq, -⟩ <;> rw [heq]
        · exact (Tally.first hwindow hlimit now').1
        · exact (Tally.first hwindow hlimit now').2
    · refine Or.inl ⟨?_, hcases.resolve_right fun h => hk h.2.2⟩
      have hpruned : Pruned L now (s.windows.lookup k) none := Or.inl hnone
      rw [window_check_other hk]
      exact (hpruned.prune hle).elim id And.left
  · obtain ⟨w', hpruned', htally', -⟩ := htally.check hpruned hwindow hlimit hle key rfl
    exact Or.inr ⟨w', hpruned', htally'⟩

/-! ## Runs of checks -/

variable {calls : List (ℤ × RateLimitKey)}

/-- A run keeps the count of an identifier. -/
theorem Counts.run (h : Counts L now (s.windows.lookup k) times) (hwindow : 0 < L.window)
    (hlimit : 1 ≤ L.limit) (hclock : calls.Pairwise fun c c' => c.1 ≤ c'.1)
    (hafter : ∀ c ∈ calls, now ≤ c.1) :
    ∃ now', Counts L now' ((run L s calls).windows.lookup k) (times ++ allowedAt L k s calls) := by
  induction calls generalizing now s times with
  | nil => exact ⟨now, by rwa [allowedAt, List.append_nil]⟩
  | cons c calls ih =>
    rw [List.pairwise_cons] at hclock
    have hnext := ih (h.check hwindow hlimit (hafter c List.mem_cons_self) c.2) hclock.2 hclock.1
    rwa [List.append_assoc] at hnext

/-- A run keeps the budget of every window that an identifier has had. -/
theorem Held.run {σ : ℤ} (h : Held L σ w times) (htally : Tally L now w times)
    (hpruned : Pruned L now (s.windows.lookup k) (some w)) (hwindow : 0 < L.window)
    (hlimit : 1 ≤ L.limit) (hclock : calls.Pairwise fun c c' => c.1 ≤ c'.1)
    (hafter : ∀ c ∈ calls, now ≤ c.1) :
    (during σ (σ + L.window) (times ++ allowedAt L k s calls) : ℤ) ≤ L.limit := by
  induction calls generalizing now s w times with
  | nil =>
    rw [allowedAt, List.append_nil]
    exact h.budget
  | cons c calls ih =>
    rw [List.pairwise_cons] at hclock
    obtain ⟨w', hpruned', htally', hheld⟩ :=
      htally.check hpruned hwindow hlimit (hafter c List.mem_cons_self) c.2 rfl
    have hnext := ih (hheld σ h) htally' hpruned' hclock.2 hclock.1
    rwa [List.append_assoc] at hnext

/-- A window that a limiter holds before the rest of a run keeps its budget. -/
theorem Counts.window_run (h : Counts L now (s.windows.lookup k) times)
    (hheld : s.windows.lookup k = some w) (hwindow : 0 < L.window) (hlimit : 1 ≤ L.limit)
    (hclock : calls.Pairwise fun c c' => c.1 ≤ c'.1) (hafter : ∀ c ∈ calls, now ≤ c.1) :
    (during w.startedAt (w.startedAt + L.window) (times ++ allowedAt L k s calls) : ℤ) ≤ L.limit := by
  rcases h with ⟨hnone, -⟩ | ⟨w', hpruned, htally⟩
  · rw [hheld] at hnone
    cases hnone
  · obtain rfl : w = w' := by
      rcases hpruned with heq | ⟨hnone, -⟩
      · exact Option.some.inj (hheld.symm.trans heq)
      · rw [hheld] at hnone
        cases hnone
    exact htally.held.run htally hpruned hwindow hlimit hclock hafter

/-- So does a window that it holds at any point of a run. -/
theorem Counts.windows_run (h : Counts L now (s.windows.lookup k) times) (hwindow : 0 < L.window)
    (hlimit : 1 ≤ L.limit) (hclock : calls.Pairwise fun c c' => c.1 ≤ c'.1)
    (hafter : ∀ c ∈ calls, now ≤ c.1) {pre : List (ℤ × RateLimitKey)} (hpre : pre <+: calls)
    (hheld : (MemoryRateLimiter.run L s pre).windows.lookup k = some w) :
    (during w.startedAt (w.startedAt + L.window) (times ++ allowedAt L k s calls) : ℤ) ≤ L.limit := by
  induction pre generalizing now s times calls with
  | nil => exact h.window_run hheld hwindow hlimit hclock hafter
  | cons c pre ih =>
    obtain ⟨rest, rfl⟩ := hpre
    rw [List.cons_append] at hclock hafter ⊢
    rw [List.pairwise_cons] at hclock
    have hnext := ih (h.check hwindow hlimit (hafter c List.mem_cons_self) c.2) hclock.2 hclock.1
      (List.prefix_append pre rest) hheld
    rwa [List.append_assoc] at hnext

/-- Of the allowed checks that carry an identifier, there are no more than `maxPerWindow` in any
window that the limiter has held for it, and no more than twice as many in any span as long as a
window: from a time on and before its end, and if windows have a length, at its end too. -/
theorem allowed_bounded (L : InMemoryRateLimiterOptions) (k : String) (hlimit : 1 ≤ L.limit)
    (hclock : calls.Pairwise fun c c' => c.1 ≤ c'.1) :
    (∀ pre w, pre <+: calls → (run L init pre).windows.lookup k = some w →
      (during w.startedAt (w.startedAt + L.window) (allowedAt L k init calls) : ℤ) ≤ L.limit) ∧
    (∀ a, (during a (a + L.window) (allowedAt L k init calls) : ℤ) ≤ 2 * L.limit) ∧
    (0 < L.window → ∀ a,
      (during a (a + L.window + 1) (allowedAt L k init calls) : ℤ) ≤ 2 * L.limit) := by
  by_cases hwindow : 0 < L.window
  · obtain ⟨now, hafter⟩ := exists_le_clock hclock
    have hinit : Counts L now (init.windows.lookup k) [] := Or.inl ⟨rfl, rfl⟩
    obtain ⟨now', hcounts⟩ := hinit.run hwindow hlimit hclock hafter
    rw [List.nil_append] at hcounts
    refine ⟨fun pre w hpre hheld => ?_, fun a => ?_, fun _ => hcounts.span hlimit⟩
    · exact hinit.windows_run hwindow hlimit hclock hafter hpre hheld
    · have hle : during a (a + L.window) (allowedAt L k init calls) ≤
          during a (a + L.window + 1) (allowedAt L k init calls) :=
        during_le fun t _ hge hlt => ⟨hge, by omega⟩
      have hspan := hcounts.span hlimit a
      omega
  · -- A span without a length holds nothing.
    have hempty : ∀ a, during a (a + L.window) (allowedAt L k init calls) = 0 := fun a =>
      during_eq_zero fun t _ hin => by omega
    refine ⟨fun pre w _ _ => ?_, fun a => ?_, fun h => absurd h hwindow⟩
    · rw [hempty, Nat.cast_zero]
      omega
    · rw [hempty, Nat.cast_zero]
      omega

end MemoryRateLimiter

open Sample MemoryRateLimiter in
/-- An identifier with one request in each window is allowed no more. -/
theorem allowed_bounded_requests :
    (∀ pre w, pre <+: requests →
      (run single init pre).windows.lookup "init:ip:10.0.0.1" = some w →
      (during w.startedAt (w.startedAt + single.window)
        (allowedAt single "init:ip:10.0.0.1" init requests) : ℤ) ≤ single.limit) ∧
    (∀ a, (during a (a + single.window) (allowedAt single "init:ip:10.0.0.1" init requests) : ℤ) ≤
      2 * single.limit) ∧
    (0 < single.window → ∀ a, (during a (a + single.window + 1)
      (allowedAt single "init:ip:10.0.0.1" init requests) : ℤ) ≤ 2 * single.limit) :=
  allowed_bounded single _ (by decide) (by decide)

end NapAuth

import Mathlib.Data.Int.Order.Basic
import Mathlib.Data.Set.Insert

/-!
# Sweeps

A store that drops what is dead when it is written to does so at most once for each reading of its
clock: it remembers the latest reading, and a sweep at a time that is not after it is skipped
(`skips`). Two such stores are compared, of which one sees readings that the other does not. `Behind`
says what they remember: whatever the one skips the other skips as well, and what only the other
skips is not after a reading that only it has seen. So at any time after those readings the same
things are live in both, though not the same things are held (`Drops.sweep`).
-/

namespace Sweep

/-- Whether a sweep at a time is skipped, after the given last one. -/
def skips (last : Option ℤ) (t : ℤ) : Prop := ∃ l, last = some l ∧ t ≤ l

/-- The last sweep after an attempt at a time. -/
def attempt (last : Option ℤ) (t : ℤ) : Option ℤ := if last.any (t ≤ ·) then last else some t

/-- The test that the code makes. -/
theorem any_iff {last : Option ℤ} {t : ℤ} :
    (last.any fun l => decide (t ≤ l)) = true ↔ skips last t := by
  rw [Option.any_eq_true]
  simp only [decide_eq_true_eq, skips]

/-- What is skipped at a time is skipped at any earlier one. -/
theorem skips.mono {last : Option ℤ} {t t' : ℤ} (h : skips last t) (ht : t' ≤ t) : skips last t' := by
  obtain ⟨l, hl, hle⟩ := h
  exact ⟨l, hl, ht.trans hle⟩

/-- After an attempt at a time, what is not after it is skipped, and what was skipped. -/
theorem skips_attempt {last : Option ℤ} {t t' : ℤ} :
    skips (attempt last t) t' ↔ skips last t' ∨ t' ≤ t := by
  unfold attempt
  split
  · rename_i hskip
    constructor
    · exact Or.inl
    · rintro (h | h)
      · exact h
      · exact (any_iff.mp hskip).mono h
  · rename_i hskip
    rw [any_iff] at hskip
    constructor
    · rintro ⟨l, hl, hle⟩
      obtain rfl := Option.some.inj hl
      exact Or.inr hle
    · rintro (⟨l, hl, hle⟩ | h)
      · have hlt : ¬ t ≤ l := fun hle' => hskip ⟨l, hl, hle'⟩
        exact ⟨t, rfl, by omega⟩
      · exact ⟨t, rfl, h⟩

/-- No reading of the others is after a time. -/
def After (others : Set ℤ) (t : ℤ) : Prop := ∀ u ∈ others, u ≤ t

/-- What the two remember: `full` sees every reading, `alone` all but those of the others. -/
structure Behind (others : Set ℤ) (full alone : Option ℤ) : Prop where
  /-- What the one skips the other skips. -/
  le : ∀ t, skips alone t → skips full t
  /-- What only the other skips is not after a reading of the others. -/
  covered : ∀ t, skips full t → skips alone t ∨ ∃ u ∈ others, t ≤ u

variable {others : Set ℤ} {full alone : Option ℤ} {t : ℤ}

/-- At first neither remembers anything. -/
theorem Behind.start : Behind ∅ none none where
  le _ h := h
  covered _ h := Or.inl h

/-- Both see a reading. -/
theorem Behind.both (h : Behind others full alone) (t : ℤ) :
    Behind others (attempt full t) (attempt alone t) where
  le t' ht := by
    rw [skips_attempt] at ht ⊢
    exact ht.imp_left (h.le t')
  covered t' ht := by
    rw [skips_attempt] at ht ⊢
    rcases ht with ht | ht
    · exact (h.covered t' ht).imp_left Or.inl
    · exact Or.inl (Or.inr ht)

/-- The others make a reading. -/
theorem Behind.other (h : Behind others full alone) (t : ℤ) :
    Behind (insert t others) (attempt full t) alone where
  le t' ht := skips_attempt.mpr (Or.inl (h.le t' ht))
  covered t' ht := by
    rcases skips_attempt.mp ht with ht | ht
    · rcases h.covered t' ht with ht | ⟨u, hu, hle⟩
      · exact Or.inl ht
      · exact Or.inr ⟨u, Set.mem_insert_of_mem t hu, hle⟩
    · exact Or.inr ⟨t, Set.mem_insert t others, ht⟩

/-- A time after the readings of the others is not before what one of them is not before. -/
theorem After.le (h : After others t) {s : ℤ} (hs : ∃ u ∈ others, s ≤ u) : s ≤ t := by
  obtain ⟨u, hu, hle⟩ := hs
  exact hle.trans (h u hu)

/-- A time after more readings is after fewer. -/
theorem After.of_insert {s : ℤ} (h : After (insert s others) t) : After others t ∧ s ≤ t :=
  ⟨fun u hu => h u (Set.mem_insert_of_mem s hu), h s (Set.mem_insert s others)⟩

/-! ## Collections -/

variable {X V : Type}

/-- Dropping what is dead at a time makes no difference to what is live later, and depends on what
is live then. -/
structure Drops (keep : ℤ → X → X) (live : ℤ → X → V) : Prop where
  /-- It makes no difference later. -/
  later : ∀ {t t' : ℤ} (x : X), t ≤ t' → live t' (keep t x) = live t' x
  /-- It depends on what is live. -/
  congr : ∀ {t : ℤ} (t' : ℤ) {x y : X}, live t x = live t y → live t' (keep t x) = live t' (keep t y)

/-- A sweep of a collection, after the given last one. -/
def sweep (keep : ℤ → X → X) (last : Option ℤ) (t : ℤ) (x : X) : X :=
  if last.any (t ≤ ·) then x else keep t x

variable {keep : ℤ → X → X} {live : ℤ → X → V} {x y : X}

/-- A sweep makes no difference to what is live later. -/
theorem Drops.sweep_later (hd : Drops keep live) (last : Option ℤ) {now : ℤ} (hle : now ≤ t) (x : X) :
    live t (sweep keep last now x) = live t x := by
  unfold sweep
  split
  · rfl
  · exact hd.later x hle

/-- Where the same things are live in two collections after the readings of the others, they are so
after a sweep of both. -/
theorem Drops.sweep (hd : Drops keep live) (hb : Behind others full alone)
    (h : ∀ t, After others t → live t x = live t y) (now : ℤ) (ht : After others t) :
    live t (sweep keep full now x) = live t (sweep keep alone now y) := by
  by_cases hlater : now ≤ t
  · rw [hd.sweep_later full hlater, hd.sweep_later alone hlater]
    exact h t ht
  · -- The sweep is after every reading of the others, and so both make it or neither.
    have hafter : After others now := fun u hu => by
      have hle := ht u hu
      omega
    have hiff : skips full now ↔ skips alone now := by
      constructor
      · intro hskip
        exact (hb.covered now hskip).resolve_right fun hother => hlater (ht.le hother)
      · exact hb.le now
    unfold Sweep.sweep
    by_cases hskip : skips full now
    · rw [if_pos (any_iff.mpr hskip), if_pos (any_iff.mpr (hiff.mp hskip))]
      exact h t ht
    · rw [if_neg (mt any_iff.mp hskip), if_neg (mt any_iff.mp (mt hiff.mpr hskip))]
      exact hd.congr t (h now hafter)

end Sweep

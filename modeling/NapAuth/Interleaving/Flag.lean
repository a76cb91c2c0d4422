import NapAuth.Interleaving.System

/-!
# A flag of a shared state

A flag is set by some steps and cleared by others, and the rest leave it as it is. It is set after a
history exactly when the last step that has written it has set it (`Flag.value_iff`).
-/

namespace Interleaving

variable {Op : Type} {Res : Op → Type} {M : Machine Res}

/-- What holds after a history and not after a longer one is broken by a step in between. -/
theorem exists_breaking {P : M.State → Prop} {h h' : List (Step M)} (hp : h <+: h')
    (hP : P (M.after h)) (hnot : ¬ P (M.after h')) :
    ∃ pre e, Occurs h' pre e ∧ h <+: pre ∧ P (M.after pre) ∧ ¬ P (M.next (M.after pre) e) := by
  obtain ⟨t, rfl⟩ := hp
  induction t using List.reverseRecOn with
  | nil => exact absurd hP (by rwa [List.append_nil] at hnot)
  | append_singleton t e ih =>
    rw [← List.append_assoc] at hnot ⊢
    rw [Machine.after_concat] at hnot
    by_cases hstill : P (M.after (h ++ t))
    · exact ⟨h ++ t, e, Occurs.last, List.prefix_append _ _, hstill, hnot⟩
    · obtain ⟨pre, e', ho, hrest⟩ := ih hstill
      exact ⟨pre, e', ho.mono (List.prefix_append _ _), hrest⟩

/-- A flag of the state, with the steps that set it and those that clear it. What a step does may
depend on the history before it. -/
structure Flag (M : Machine Res) where
  /-- Its value. -/
  value : M.State → Bool
  /-- A step sets it. -/
  sets : List (Step M) → Step M → Prop
  /-- A step clears it. -/
  clears : List (Step M) → Step M → Prop
  /-- It is not set at first. -/
  value_init : value M.init = false
  /-- After a step that sets it, it is set. -/
  value_sets : ∀ {h e}, sets h e → value (M.after (h ++ [e])) = true
  /-- After a step that clears it, it is not. -/
  value_clears : ∀ {h e}, clears h e → value (M.after (h ++ [e])) = false
  /-- The other steps leave it. -/
  value_other : ∀ {h e}, ¬ sets h e → ¬ clears h e →
    value (M.after (h ++ [e])) = value (M.after h)

namespace Flag

variable (F : Flag M) {h pre : List (Step M)} {e : Step M}

/-- A step that sets the flag, and no step clears it afterwards. -/
def LastSet (h pre : List (Step M)) (e : Step M) : Prop :=
  Occurs h pre e ∧ F.sets pre e ∧
    ∀ pre' e', Occurs h pre' e' → pre ++ [e] <+: pre' → ¬ F.clears pre' e'

/-- A step that clears the flag does not set it. -/
theorem not_sets_of_clears (hc : F.clears h e) : ¬ F.sets h e := by
  intro hs
  have hvalue := F.value_sets hs
  rw [F.value_clears hc] at hvalue
  cases hvalue

/-- A flag that is set stays so until a step clears it. -/
theorem value_persists (hp : pre <+: h) (hvalue : F.value (M.after pre) = true) :
    F.value (M.after h) = true ∨ ∃ pre' e', Occurs h pre' e' ∧ pre <+: pre' ∧
      F.value (M.after pre') = true ∧ F.clears pre' e' := by
  cases hset : F.value (M.after h) with
  | true => exact Or.inl rfl
  | false =>
    obtain ⟨pre', e', ho, hlater, hstill, hnot⟩ :=
      exists_breaking (P := fun s => F.value s = true) hp hvalue (by rw [hset]; exact Bool.false_ne_true)
    rw [← Machine.after_concat] at hnot
    refine Or.inr ⟨pre', e', ho, hlater, hstill, ?_⟩
    by_contra hc
    by_cases hs : F.sets pre' e'
    · exact hnot (F.value_sets hs)
    · rw [F.value_other hs hc] at hnot
      exact hnot hstill

/-- A flag is set exactly when some step has set it and none has cleared it since. -/
theorem value_iff : F.value (M.after h) = true ↔ ∃ pre e, F.LastSet h pre e := by
  constructor
  · intro hvalue
    induction h using List.reverseRecOn with
    | nil =>
      rw [Machine.after_nil, F.value_init] at hvalue
      cases hvalue
    | append_singleton h e ih =>
      by_cases hs : F.sets h e
      · refine ⟨h, e, Occurs.last, hs, fun pre' e' ho hlater => ?_⟩
        -- Nothing comes after the last step.
        have hle := ho.length_le
        have hle' := hlater.length_le
        rw [List.length_append, List.length_append] at hle
        simp only [List.length_append, List.length_singleton] at hle hle'
        omega
      · have hc : ¬ F.clears h e := by
          intro hc
          rw [F.value_clears hc] at hvalue
          cases hvalue
        rw [F.value_other hs hc] at hvalue
        obtain ⟨pre, e0, ho, hset, hlast⟩ := ih hvalue
        refine ⟨pre, e0, ho.mono (List.prefix_append _ _), hset, fun pre' e' ho' hlater => ?_⟩
        rcases occurs_concat.mp ho' with ⟨rfl, rfl⟩ | ho'
        · exact hc
        · exact hlast pre' e' ho' hlater
  · rintro ⟨pre, e, ho, hs, hlast⟩
    rcases F.value_persists ho (F.value_sets hs) with hvalue | ⟨pre', e', ho', hlater, -, hc⟩
    · exact hvalue
    · exact absurd hc (hlast pre' e' ho' hlater)

end Flag

end Interleaving

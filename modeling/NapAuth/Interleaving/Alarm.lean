import Mathlib.Data.Int.Order.Basic
import NapAuth.Interleaving.System

/-!
# Alarms over a timed history

A timed history has the steps of a machine with the times at which they were executed. An `Alarm` is
armed by some of them, for a fixed delay, and stopped by others; a step that does both has stopped it
first. What is shown of `due`, the time that an alarm is set for: it is a delay after the last step
that has armed it (`due_eq_some`, `le_due`), and an alarm that is not set was stopped, and not armed
since (`due_eq_none`).
-/

namespace Interleaving

variable {Op : Type} {Res : Op → Type} {M : Machine Res}

/-- The steps of a timed history. -/
def untimed (h : List (ℤ × Step M)) : List (Step M) := h.map Prod.snd

@[simp] theorem untimed_nil : untimed ([] : List (ℤ × Step M)) = [] := rfl

@[simp] theorem untimed_concat (h : List (ℤ × Step M)) (t : ℤ) (e : Step M) :
    untimed (h ++ [(t, e)]) = untimed h ++ [e] := List.map_append

/-- A step of a timed history is one of its steps. -/
theorem occurs_untimed {h pre : List (ℤ × Step M)} {t : ℤ} {e : Step M}
    (ho : pre ++ [(t, e)] <+: h) : Occurs (untimed h) (untimed pre) e := by
  rw [Occurs, ← untimed_concat pre t e]
  exact ho.map Prod.snd

/-- What occurs in the steps of a timed history occurs in it at some time. -/
theorem exists_timed {h : List (ℤ × Step M)} {pre : List (Step M)} {e : Step M}
    (ho : Occurs (untimed h) pre e) : ∃ pre' t, pre' ++ [(t, e)] <+: h ∧ untimed pre' = pre := by
  obtain ⟨rest, hrest⟩ := ho
  obtain ⟨l, r, rfl, hl, -⟩ := List.map_eq_append_iff.mp hrest.symm
  obtain ⟨pre', l', rfl, hpre, hl'⟩ := List.map_eq_append_iff.mp hl
  obtain ⟨⟨t, e'⟩, rfl, rfl⟩ := List.map_eq_singleton_iff.mp hl'
  exact ⟨pre', t, List.prefix_append _ _, hpre⟩

/-- An alarm: what arms it, for what delay, and what stops it. A step may depend on the history before
it. -/
structure Alarm (M : Machine Res) where
  delay : ℤ
  arms : List (Step M) → Step M → Bool
  stops : List (Step M) → Step M → Bool

namespace Alarm

variable (A : Alarm M)

/-- What the alarm is set for, after one more step. -/
def next (pre : List (Step M)) (due : Option ℤ) (t : ℤ) (e : Step M) : Option ℤ :=
  if A.arms pre e then some (t + A.delay) else if A.stops pre e then none else due

/-- What the alarm is set for, after the steps `h` that follow the history `pre`. -/
def dueFrom : List (Step M) → Option ℤ → List (ℤ × Step M) → Option ℤ
  | _, due, [] => due
  | pre, due, (t, e) :: h => dueFrom (pre ++ [e]) (A.next pre due t e) h

/-- What the alarm is set for, when it was set for `start` at first. -/
def due (start : Option ℤ) (h : List (ℤ × Step M)) : Option ℤ := A.dueFrom [] start h

variable {A} {start : Option ℤ} {h pre : List (ℤ × Step M)} {d t : ℤ} {e : Step M}

@[simp] theorem due_nil : A.due start [] = start := rfl

/-- One more step. -/
@[simp] theorem due_concat :
    A.due start (h ++ [(t, e)]) = A.next (untimed h) (A.due start h) t e := by
  have hfrom : ∀ (before : List (Step M)) (due : Option ℤ), A.dueFrom before due (h ++ [(t, e)]) =
      A.next (before ++ untimed h) (A.dueFrom before due h) t e := by
    induction h with
    | nil => intro before due; rw [untimed_nil, List.append_nil]; rfl
    | cons x h ih =>
      intro before due
      rw [List.cons_append, dueFrom, ih, dueFrom, List.append_assoc]
      rfl
  exact hfrom [] start

/-- No step after `pre` arms the alarm. -/
def Unarmed (A : Alarm M) (h pre : List (ℤ × Step M)) : Prop :=
  ∀ pre' t' e', pre' ++ [(t', e')] <+: h → pre <+: pre' → A.arms (untimed pre') e' = false

/-- Nothing comes after a whole history. -/
theorem unarmed_self : A.Unarmed h h := by
  intro pre' t' e' ho hlater
  have hle := ho.length_le
  have hle' := hlater.length_le
  rw [List.length_append, List.length_singleton] at hle
  omega

/-- One more step that does not arm the alarm. -/
theorem Unarmed.concat (hnone : A.Unarmed h pre) (hnot : A.arms (untimed h) e = false) :
    A.Unarmed (h ++ [(t, e)]) pre := by
  intro pre' t' e' ho hlater
  rcases List.prefix_concat_iff.mp ho with heq | ho
  · obtain ⟨rfl, hlast⟩ := List.append_inj' heq rfl
    obtain ⟨rfl, rfl⟩ := Prod.mk.inj (List.singleton_inj.mp hlast)
    exact hnot
  · exact hnone pre' t' e' ho hlater

/-- An alarm that is not set stays so until a step arms it. -/
theorem Unarmed.due_none (hp : pre <+: h) (hdue : A.due start pre = none) (hnone : A.Unarmed h pre) :
    A.due start h = none := by
  obtain ⟨rest, rfl⟩ := hp
  induction rest using List.reverseRecOn with
  | nil => rwa [List.append_nil]
  | append_singleton rest x ih =>
    obtain ⟨t, e⟩ := x
    rw [← List.append_assoc] at hnone ⊢
    have hbefore : pre ++ rest <+: pre ++ rest ++ [(t, e)] := List.prefix_append _ _
    have hstill := ih fun pre' t' e' ho hlater => hnone pre' t' e' (ho.trans hbefore) hlater
    rw [due_concat, next, hnone _ t e List.prefix_rfl (List.prefix_append _ _)]
    cases A.stops (untimed (pre ++ rest)) e
    · exact hstill
    · rfl

/-- An alarm that is set was armed by a step a delay before, and by none since; or it is set as it was
at first. -/
theorem due_eq_some (hdue : A.due start h = some d) :
    (start = some d ∧ A.Unarmed h []) ∨
    ∃ pre t e, pre ++ [(t, e)] <+: h ∧ A.arms (untimed pre) e = true ∧ d = t + A.delay ∧
      A.Unarmed h (pre ++ [(t, e)]) := by
  induction h using List.reverseRecOn with
  | nil => exact Or.inl ⟨hdue, unarmed_self⟩
  | append_singleton h x ih =>
    obtain ⟨t, e⟩ := x
    rw [due_concat, next] at hdue
    split at hdue
    · rename_i harms
      exact Or.inr ⟨h, t, e, List.prefix_rfl, harms, (Option.some.inj hdue).symm, unarmed_self⟩
    · rename_i hnot
      split at hdue
      · cases hdue
      · have hnot := Bool.eq_false_of_not_eq_true hnot
        rcases ih hdue with ⟨hstart, hnone⟩ | ⟨pre, t', e', ho, harms, hd, hnone⟩
        · exact Or.inl ⟨hstart, hnone.concat hnot⟩
        · exact Or.inr ⟨pre, t', e', ho.trans (List.prefix_append _ _), harms, hd, hnone.concat hnot⟩

/-- An alarm that is not set was stopped by a step, and not armed by it or since; or it was not set at
first. -/
theorem due_eq_none (hdue : A.due start h = none) :
    (start = none ∧ A.Unarmed h []) ∨
    ∃ pre t e, pre ++ [(t, e)] <+: h ∧ A.stops (untimed pre) e = true ∧ A.Unarmed h pre := by
  induction h using List.reverseRecOn with
  | nil => exact Or.inl ⟨hdue, unarmed_self⟩
  | append_singleton h x ih =>
    obtain ⟨t, e⟩ := x
    rw [due_concat, next] at hdue
    split at hdue
    · cases hdue
    · rename_i hnot
      have hnot := Bool.eq_false_of_not_eq_true hnot
      split at hdue
      · rename_i hstops
        exact Or.inr ⟨h, t, e, List.prefix_rfl, hstops, unarmed_self.concat hnot⟩
      · rcases ih hdue with ⟨hstart, hnone⟩ | ⟨pre, t', e', ho, hstops, hnone⟩
        · exact Or.inl ⟨hstart, hnone.concat hnot⟩
        · exact Or.inr ⟨pre, t', e', ho.trans (List.prefix_append _ _), hstops, hnone.concat hnot⟩

/-- Time does not go back. -/
def Ordered (h : List (ℤ × Step M)) : Prop := h.Pairwise fun x y => x.1 ≤ y.1

instance (h : List (ℤ × Step M)) : Decidable (Ordered h) :=
  inferInstanceAs (Decidable (h.Pairwise fun x y => x.1 ≤ y.1))

/-- An alarm that is set is not due before a delay after any step that has armed it. -/
theorem le_due (hordered : Ordered h) (hdue : A.due start h = some d)
    (ho : pre ++ [(t, e)] <+: h) (harms : A.arms (untimed pre) e = true) : t + A.delay ≤ d := by
  rcases due_eq_some hdue with ⟨-, hnone⟩ | ⟨pre', t', e', ho', -, rfl, hnone⟩
  · rw [hnone pre t e ho (List.nil_prefix)] at harms
    cases harms
  · rcases List.prefix_or_prefix_of_prefix ho ho' with hbefore | hafter
    · rcases List.prefix_concat_iff.mp hbefore with heq | hbefore
      · obtain ⟨-, hlast⟩ := List.append_inj' heq rfl
        obtain ⟨rfl, -⟩ := Prod.mk.inj (List.singleton_inj.mp hlast)
        exact le_rfl
      · have hle : t ≤ t' := by
          have hpair := (hordered.sublist ho'.sublist)
          rw [List.pairwise_append] at hpair
          exact hpair.2.2 (t, e) (hbefore.mem (by simp)) (t', e') (by simp)
        omega
    · rcases List.prefix_concat_iff.mp hafter with heq | hafter
      · obtain ⟨-, hlast⟩ := List.append_inj' heq rfl
        obtain ⟨rfl, -⟩ := Prod.mk.inj (List.singleton_inj.mp hlast)
        exact le_rfl
      · rw [hnone pre t e ho hafter] at harms
        cases harms

end Alarm

end Interleaving

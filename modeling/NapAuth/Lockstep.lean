import Mathlib.Logic.Basic

/-!
# Two machines in lockstep

Two machines that take the same calls, each a function from a state and a call to an answer and the
next state. They agree on a sequence of calls if every call leads them to outcomes that look alike.

`Agree.iff_always` reduces the question on which sequences they agree to three facts about one
call, from states that correspond: under a condition on the call and the first state they stay in
correspondence, states that correspond look alike, and without the condition the outcomes differ.
-/

namespace Lockstep

variable {σ τ κ ρ ρ' : Type}

/-- The state after a sequence of calls. -/
def run (f : σ → κ → ρ × σ) (s : σ) : List κ → σ
  | [] => s
  | c :: cs => run f (f s c).2 cs

/-- Every call of a sequence meets a condition in the state that it finds. -/
def Always (f : σ → κ → ρ × σ) (p : σ → κ → Prop) : σ → List κ → Prop
  | _, [] => True
  | s, c :: cs => p s c ∧ Always f p (f s c).2 cs

/-- Every call of a sequence leads two machines to outcomes that look alike. -/
def Agree (f : σ → κ → ρ × σ) (g : τ → κ → ρ' × τ) (Alike : ρ × σ → ρ' × τ → Prop) :
    σ → τ → List κ → Prop
  | _, _, [] => True
  | s, t, c :: cs => Alike (f s c) (g t c) ∧ Agree f g Alike (f s c).2 (g t c).2 cs

/-- An invariant that every allowed call keeps holds after every allowed sequence. -/
theorem Always.invariant {f : σ → κ → ρ × σ} {p : σ → κ → Prop} {I : σ → Prop}
    (keep : ∀ s c, I s → p s c → I (f s c).2) {s : σ} (hs : I s) {cs : List κ}
    (hcs : Always f p s cs) : I (run f s cs) := by
  induction cs generalizing s with
  | nil => exact hs
  | cons c cs ih => exact ih (keep s c hs hcs.1) hcs.2

/-- Two machines agree on the sequences whose calls all meet the condition, if `I` is kept under
the condition, entails that the outcomes look alike, and without the condition they do not. -/
theorem Agree.iff_always {f : σ → κ → ρ × σ} {g : τ → κ → ρ' × τ}
    {Alike : ρ × σ → ρ' × τ → Prop} {I : σ → τ → Prop} {legal cond : σ → κ → Prop}
    (keep : ∀ s t c, I s t → legal s c → cond s c →
      Alike (f s c) (g t c) ∧ I (f s c).2 (g t c).2)
    (detect : ∀ s t c, I s t → legal s c → Alike (f s c) (g t c) → cond s c)
    {s : σ} {t : τ} (hI : I s t) {cs : List κ} (hlegal : Always f legal s cs) :
    Agree f g Alike s t cs ↔ Always f cond s cs := by
  induction cs generalizing s t with
  | nil => exact Iff.rfl
  | cons c cs ih =>
    constructor
    · rintro ⟨halike, hrest⟩
      have hcond := detect s t c hI hlegal.1 halike
      exact ⟨hcond, (ih (keep s t c hI hlegal.1 hcond).2 hlegal.2).mp hrest⟩
    · rintro ⟨hcond, hrest⟩
      obtain ⟨halike, hI'⟩ := keep s t c hI hlegal.1 hcond
      exact ⟨halike, (ih hI' hlegal.2).mpr hrest⟩

end Lockstep

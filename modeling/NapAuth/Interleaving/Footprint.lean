import NapAuth.Interleaving.Program

/-!
# Which operations a program issues

`Prog.Issues` bounds the operations of a program, whatever it has seen: the footprint of a call. It
follows the program's syntax, so that a program's footprint is put together from those of its parts,
and it is enough wherever an operation matters and the events before it do not (`Issues.sat`).
-/

namespace Interleaving

namespace Prog

variable {Op : Type} {Res : Op → Type} {α β : Type} {allowed : Op → Prop}

/-- Every operation that the program issues is allowed. -/
def Issues (allowed : Op → Prop) : Prog Res α → Prop
  | pure _ => True
  | call op k => allowed op ∧ ∀ r, Issues allowed (k r)

/-- A program that has returned issues nothing. -/
@[simp] theorem issues_pure (a : α) : (pure a : Prog Res α).Issues allowed := trivial

/-- A program that returns at once issues nothing. -/
@[simp] theorem issues_return (a : α) : (Pure.pure a : Prog Res α).Issues allowed := trivial

/-- A program that issues one operation first. -/
theorem issues_op_bind {o : Op} {f : Res o → Prog Res α} :
    (op o >>= f).Issues allowed ↔ allowed o ∧ ∀ r, (f r).Issues allowed := Iff.rfl

/-- A program of one operation. -/
theorem issues_op {o : Op} : (op o : Prog Res (Res o)).Issues allowed ↔ allowed o :=
  ⟨And.left, fun h => ⟨h, fun _ => trivial⟩⟩

/-- A sequence issues what its parts issue. -/
theorem Issues.bind {p : Prog Res α} {f : α → Prog Res β} (h : p.Issues allowed)
    (hf : ∀ a, (f a).Issues allowed) : (p >>= f).Issues allowed := by
  induction p with
  | pure a => exact hf a
  | call op k ih => exact ⟨h.1, fun r => ih r (h.2 r)⟩

/-- What a program issues is enough where only operations matter. -/
theorem Issues.sat {p : Prog Res α} {Φ : List (Event Res) → Op → Prop} {xs : List (Event Res)}
    (h : p.Issues allowed) (himp : ∀ ys op, allowed op → Φ ys op) :
    p.Sat Φ (fun _ _ => True) xs := by
  induction p generalizing xs with
  | pure a => trivial
  | call op k ih => exact ⟨himp xs op h.1, fun r => ih r (h.2 r)⟩

end Prog

end Interleaving

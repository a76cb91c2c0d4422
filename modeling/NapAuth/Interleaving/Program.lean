import Mathlib.Data.List.Basic

/-!
# Programs over atomic operations

An asynchronous function runs in pieces: between two awaits nothing else runs, and at an await
anything may. `Prog Res α` is such a function as a tree of atomic operations, each of which is
answered before the function goes on. An operation `op` is answered in `Res op`.

What one call has seen is its list of answered operations (`Event`). `Prog.Follows` says which
program is left after some events, and `Prog.Sat` is the logic of one call: every operation it
issues is issued after events that allow it, and every value it returns is explained by its events.
`Prog.Sat.follows` connects the two.
-/

namespace Interleaving

universe u

/-- A program over atomic operations: it returns a value, or it issues an operation and goes on
with the answer. -/
inductive Prog {Op : Type} (Res : Op → Type) (α : Type) : Type
  /-- The program has returned `a`. -/
  | pure (a : α) : Prog Res α
  /-- The program issues `op` and continues with the answer. -/
  | call (op : Op) (k : Res op → Prog Res α) : Prog Res α

namespace Prog

variable {Op : Type} {Res : Op → Type} {α β : Type}

/-- Sequencing: run `p`, then `f` on its value. -/
def bind : Prog Res α → (α → Prog Res β) → Prog Res β
  | pure a, f => f a
  | call op k, f => call op fun r => (k r).bind f

instance : Monad (Prog Res) where
  pure := Prog.pure
  bind := Prog.bind

/-- The program that issues one operation and returns its answer. -/
def op (o : Op) : Prog Res (Res o) := call o pure

@[simp] theorem pure_eq (a : α) : (Pure.pure a : Prog Res α) = pure a := rfl

@[simp] theorem pure_bind (a : α) (f : α → Prog Res β) : (pure a >>= f) = f a := rfl

@[simp] theorem op_bind (o : Op) (f : Res o → Prog Res β) : (op o >>= f) = call o f := rfl

@[simp] theorem call_bind (o : Op) (k : Res o → Prog Res α) (f : α → Prog Res β) :
    (call o k >>= f) = call o fun r => k r >>= f := rfl

/-- A test commutes with sequencing, so that a branch can be followed on its own. -/
@[simp] theorem ite_bind (c : Prop) [Decidable c] (p q : Prog Res α) (f : α → Prog Res β) :
    ((if c then p else q) >>= f) = if c then p >>= f else q >>= f := by
  split <;> rfl

end Prog

/-- An operation together with the answer that it was given. -/
abbrev Event {Op : Type} (Res : Op → Type) : Type := (op : Op) × Res op

namespace Prog

variable {Op : Type} {Res : Op → Type} {α β : Type}

/-- `Follows p xs q`: after the events `xs`, in this order, the program `p` has become `q`. -/
inductive Follows (p : Prog Res α) : List (Event Res) → Prog Res α → Prop
  /-- Before any event the program is itself. -/
  | start : Follows p [] p
  /-- One more answer. -/
  | answer {xs : List (Event Res)} {op : Op} {k : Res op → Prog Res α}
      (h : Follows p xs (call op k)) (r : Res op) : Follows p (xs ++ [⟨op, r⟩]) (k r)

/-- What follows a part of a sequence is followed by the rest. -/
theorem Follows.bind {p q : Prog Res α} {xs : List (Event Res)} (h : p.Follows xs q)
    (f : α → Prog Res β) : (p >>= f).Follows xs (q >>= f) := by
  induction h with
  | start => exact .start
  | answer _ r ih => exact .answer ih r

/-- The logic of one call. With `xs` the events so far, every operation `op` that the program
issues satisfies `Φ`, and every value that it returns satisfies `Ψ`, both after the events that the
call has seen by then. -/
def Sat (Φ : List (Event Res) → Op → Prop) (Ψ : List (Event Res) → α → Prop) :
    Prog Res α → List (Event Res) → Prop
  | pure a, xs => Ψ xs a
  | call op k, xs => Φ xs op ∧ ∀ r, Sat Φ Ψ (k r) (xs ++ [⟨op, r⟩])

variable {Φ Φ' : List (Event Res) → Op → Prop} {Ψ Ψ' : List (Event Res) → α → Prop}

@[simp] theorem sat_pure (a : α) (xs : List (Event Res)) : (pure a).Sat Φ Ψ xs ↔ Ψ xs a := Iff.rfl

@[simp] theorem sat_call (op : Op) (k : Res op → Prog Res α) (xs : List (Event Res)) :
    (call op k).Sat Φ Ψ xs ↔ Φ xs op ∧ ∀ r, (k r).Sat Φ Ψ (xs ++ [⟨op, r⟩]) := Iff.rfl

/-- A program that issues one operation first. -/
theorem sat_op_bind {o : Op} {f : Res o → Prog Res α} {xs : List (Event Res)} :
    (op o >>= f).Sat Φ Ψ xs ↔ Φ xs o ∧ ∀ r, (f r).Sat Φ Ψ (xs ++ [⟨o, r⟩]) := Iff.rfl

/-- What is left of a program that satisfies `Φ` and `Ψ` satisfies them after its events. -/
theorem Sat.follows {p q : Prog Res α} {xs : List (Event Res)} (h : p.Sat Φ Ψ [])
    (hf : p.Follows xs q) : q.Sat Φ Ψ xs := by
  induction hf with
  | start => exact h
  | answer _ r ih => exact ih.2 r

/-- Both properties may be weakened. -/
theorem Sat.mono {p : Prog Res α} {xs : List (Event Res)} (h : p.Sat Φ Ψ xs)
    (hΦ : ∀ ys op, Φ ys op → Φ' ys op) (hΨ : ∀ ys a, Ψ ys a → Ψ' ys a) : p.Sat Φ' Ψ' xs := by
  induction p generalizing xs with
  | pure a => exact hΨ _ _ h
  | call op k ih => exact ⟨hΦ _ _ h.1, fun r => ih r (h.2 r)⟩

/-- A sequence satisfies `Φ` and `Ψ` when its first part does so with the rest as its
postcondition. -/
theorem Sat.bind {p : Prog Res β} {f : β → Prog Res α} {xs : List (Event Res)}
    (h : p.Sat Φ (fun ys b => (f b).Sat Φ Ψ ys) xs) : (p >>= f).Sat Φ Ψ xs := by
  induction p generalizing xs with
  | pure a => exact h
  | call op k ih => exact ⟨h.1, fun r => ih r (h.2 r)⟩

/-- Two results about one program hold together. -/
theorem Sat.and {p : Prog Res α} {xs : List (Event Res)} (h : p.Sat Φ Ψ xs)
    (h' : p.Sat Φ' Ψ' xs) :
    p.Sat (fun ys op => Φ ys op ∧ Φ' ys op) (fun ys a => Ψ ys a ∧ Ψ' ys a) xs := by
  induction p generalizing xs with
  | pure a => exact ⟨h, h'⟩
  | call op k ih => exact ⟨⟨h.1, h'.1⟩, fun r => ih r (h.2 r) (h'.2 r)⟩

/-- The logic of one call whose answers are known to be good: every value that the program returns
after good answers satisfies `Ψ`. What is good may depend on the events before. -/
def Yields (Good : List (Event Res) → Event Res → Prop) (Ψ : List (Event Res) → α → Prop) :
    Prog Res α → List (Event Res) → Prop
  | pure a, xs => Ψ xs a
  | call op k, xs => ∀ r, Good xs ⟨op, r⟩ → Yields Good Ψ (k r) (xs ++ [⟨op, r⟩])

variable {Good : List (Event Res) → Event Res → Prop}

@[simp] theorem yields_pure (a : α) (xs : List (Event Res)) :
    (pure a).Yields Good Ψ xs ↔ Ψ xs a := Iff.rfl

/-- A program that issues one operation first. -/
theorem yields_op_bind {o : Op} {f : Res o → Prog Res α} {xs : List (Event Res)} :
    (op o >>= f).Yields Good Ψ xs ↔
      ∀ r, Good xs ⟨o, r⟩ → (f r).Yields Good Ψ (xs ++ [⟨o, r⟩]) := Iff.rfl

/-- What is left of a program after good answers. -/
theorem Yields.follows {p q : Prog Res α} {xs : List (Event Res)} (h : p.Yields Good Ψ [])
    (hf : p.Follows xs q) (hgood : ∀ ys ev, ys ++ [ev] <+: xs → Good ys ev) :
    q.Yields Good Ψ xs := by
  induction hf with
  | start => exact h
  | answer _ r ih =>
    have hpre := ih fun ys ev hp => hgood ys ev (hp.trans (List.prefix_append _ _))
    exact hpre r (hgood _ _ List.prefix_rfl)

end Prog

end Interleaving

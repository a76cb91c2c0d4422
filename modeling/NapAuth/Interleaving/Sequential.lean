import NapAuth.Interleaving.System

/-!
# Calls that run alone

When nothing else runs, a program is a function of the state and of what the environment contributes
to each of its operations: `Prog.eval`. Such a call is a part of a run of the concurrent system, if
the environment is admissible (`System.reaches_eval`).
-/

namespace Interleaving

variable {Op : Type} {Res : Op → Type} {Call α β E σ : Type}

/-- What a program comes to: its value, the operations that it has issued, with their answers, and
the state that it leaves. -/
structure Evaluated (Res : Op → Type) (α σ : Type) where
  value : α
  events : List (Event Res)
  state : σ

namespace Prog

/-- A program that ends in its own value. -/
theorem bind_pure (p : Prog Res α) : p.bind pure = p := by
  induction p with
  | pure a => rfl
  | call op k ih => exact congrArg (call op) (funext ih)

/-- Programs may be sequenced in any grouping. -/
theorem bind_assoc {γ : Type} (p : Prog Res α) (f : α → Prog Res β) (g : β → Prog Res γ) :
    (p.bind f).bind g = p.bind fun a => (f a).bind g := by
  induction p with
  | pure a => rfl
  | call op k ih => exact congrArg (call op) (funext ih)

instance : LawfulMonad (Prog Res) := .mk' _ bind_pure (fun _ _ => rfl) bind_assoc

/-- What a program comes to when nothing else runs. `env` is the environment's part by the number of
the operation. -/
def eval (exec : (op : Op) → E → σ → Res op × σ) (env : ℕ → E) :
    Prog Res α → ℕ → σ → Evaluated Res α σ
  | .pure a, _, s => ⟨a, [], s⟩
  | .call op k, n, s =>
    let answered := exec op (env n) s
    let rest := (k answered.1).eval exec env (n + 1) answered.2
    ⟨rest.value, ⟨op, answered.1⟩ :: rest.events, rest.state⟩

variable {exec : (op : Op) → E → σ → Res op × σ} {env : ℕ → E}

@[simp] theorem eval_pure (a : α) (n : ℕ) (s : σ) :
    (Prog.pure a : Prog Res α).eval exec env n s = ⟨a, [], s⟩ := rfl

/-- One operation, and then the rest. -/
theorem eval_op_bind (o : Op) (f : Res o → Prog Res α) (n : ℕ) (s : σ) :
    (op o >>= f).eval exec env n s =
      let rest := (f (exec o (env n) s).1).eval exec env (n + 1) (exec o (env n) s).2
      ⟨rest.value, ⟨o, (exec o (env n) s).1⟩ :: rest.events, rest.state⟩ := rfl

/-- A part, and then the rest. -/
theorem eval_bind (p : Prog Res β) (f : β → Prog Res α) (n : ℕ) (s : σ) :
    (p >>= f).eval exec env n s =
      let part := p.eval exec env n s
      let rest := (f part.value).eval exec env (n + part.events.length) part.state
      ⟨rest.value, part.events ++ rest.events, rest.state⟩ := by
  induction p generalizing n s with
  | pure a => rfl
  | call op k ih =>
    have hrest := ih (exec op (env n) s).1 (n + 1) (exec op (env n) s).2
    show (let rest := (k (exec op (env n) s).1 >>= f).eval exec env (n + 1) (exec op (env n) s).2
      (⟨rest.value, ⟨op, (exec op (env n) s).1⟩ :: rest.events, rest.state⟩ : Evaluated Res α σ)) = _
    dsimp only [eval] at hrest ⊢
    rw [hrest, List.length_cons, Nat.add_assoc, Nat.add_comm 1]
    rfl

/-- A function of a program's value. -/
theorem eval_map (p : Prog Res β) (f : β → α) (n : ℕ) (s : σ) :
    (f <$> p).eval exec env n s =
      let part := p.eval exec env n s
      ⟨f part.value, part.events, part.state⟩ := by
  rw [← bind_pure_comp, eval_bind]
  simp

end Prog

namespace System

variable {S : System Res Call α}

/-- The steps of the call `tid` when nothing else runs. -/
def evalSteps (tid : ℕ) (env : ℕ → S.Env) : Prog Res α → ℕ → S.State → List (Step S.toMachine)
  | .pure _, _, _ => []
  | .call op k, n, s => ⟨tid, op, env n⟩ ::
      evalSteps tid env (k (S.exec op (env n) s).1) (n + 1) (S.exec op (env n) s).2

/-- Steps that the environment may make, one after the other, after a history. -/
def Admits (S : System Res Call α) (h steps : List (Step S.toMachine)) : Prop :=
  ∀ pre e, pre ++ [e] <+: steps → S.admissible (h ++ pre) e = true

/-- The first of them, and the rest. -/
theorem Admits.cons {h steps : List (Step S.toMachine)} {e : Step S.toMachine}
    (hadm : S.Admits h (e :: steps)) : S.admissible h e = true ∧ S.Admits (h ++ [e]) steps := by
  constructor
  · have hfirst := hadm [] e (by simp)
    rwa [List.append_nil] at hfirst
  · intro pre e' hp
    rw [List.append_assoc]
    exact hadm (e :: pre) e' (by simpa using hp)

/-- A call that runs alone is evaluated. -/
theorem reaches_eval {c : S.Config} {tid : ℕ} {th : Thread Res Call α} (env : ℕ → S.Env)
    (hth : c.threads[tid]? = some th) (n : ℕ)
    (hadm : S.Admits c.history (evalSteps tid env th.prog n c.state)) :
    S.Reaches c {
      state := (th.prog.eval S.exec env n c.state).state
      history := c.history ++ evalSteps tid env th.prog n c.state
      threads := c.threads.set tid
        { th with prog := .pure (th.prog.eval S.exec env n c.state).value } } := by
  obtain ⟨call, started, prog⟩ := th
  induction prog generalizing c n with
  | pure a =>
    have hsame : c.threads.set tid ⟨call, started, .pure a⟩ = c.threads := by
      obtain ⟨hlt, heq⟩ := List.getElem?_eq_some_iff.mp hth
      exact heq ▸ List.set_getElem_self hlt
    dsimp only [evalSteps, Prog.eval]
    rw [hsame, List.append_nil]
    exact Relation.ReflTransGen.refl
  | call op k ih =>
    obtain ⟨hfirst, hrest⟩ := hadm.cons
    -- The call makes one step, and goes on alone.
    let c₁ : S.Config :=
      { state := (S.exec op (env n) c.state).2
        history := c.history ++ [⟨tid, op, env n⟩]
        threads := c.threads.set tid ⟨call, started, k (S.exec op (env n) c.state).1⟩ }
    have hnext : S.Next c c₁ := by
      refine ⟨.run tid (env n), ?_⟩
      show S.execute c tid (env n) _ = some c₁
      unfold execute
      simp only [hth, hfirst, if_true]
      rfl
    have hth₁ : c₁.threads[tid]? = some ⟨call, started, k (S.exec op (env n) c.state).1⟩ :=
      List.getElem?_set_self (List.getElem?_eq_some_iff.mp hth).1
    have hlater := ih (S.exec op (env n) c.state).1 (n + 1) hth₁ hrest
    have hset : c₁.threads.set tid ⟨call, started, .pure
        ((k (S.exec op (env n) c.state).1).eval S.exec env (n + 1) c₁.state).value⟩ =
        c.threads.set tid ⟨call, started, .pure
          ((k (S.exec op (env n) c.state).1).eval S.exec env (n + 1) c₁.state).value⟩ :=
      List.set_set _
    rw [hset, List.append_assoc] at hlater
    exact Relation.ReflTransGen.head hnext hlater

end System

end Interleaving

import NapAuth.Interleaving.System

/-!
# Refinement

A system may carry out the calls of another one in smaller steps. Each of its operations is silent,
or it commits one operation of the other system (`Refinement.commit`). A call of the first system
carries out a call of the second when, whatever is answered, the operations that it commits are
those that the second call issues next, in their order (`Prog.CarriesOut`).

Then every run of the first system is a run of the second, with the silent steps left out
(`SystemRefinement.simulates`), and what is known of the runs of the second system holds of those of
the first.

`Prog.expand` makes such a program: it replaces every operation by a program. It carries out the
program it was made of when each of these programs carries out its operation (`CarriesOut.expand`).
-/

namespace Interleaving

variable {Op Op' : Type} {Res : Op → Type} {Res' : Op' → Type} {α β γ : Type}

/-! ## Operations that are programs -/

namespace Prog

/-- The program in which every operation is carried out by a program of its own. -/
def expand (impl : (op : Op) → Prog Res' (Res op)) : Prog Res α → Prog Res' α
  | pure a => pure a
  | call op k => impl op >>= fun r => (k r).expand impl

variable {impl : (op : Op) → Prog Res' (Res op)}

@[simp] theorem expand_pure (a : α) : (pure a : Prog Res α).expand impl = pure a := rfl

@[simp] theorem expand_call (op : Op) (k : Res op → Prog Res α) :
    (call op k).expand impl = impl op >>= fun r => (k r).expand impl := rfl

/-- What holds of every operation of the programs `impl`, whatever has happened before, holds of every
operation of an expanded program. -/
theorem Sat.expand {Φ : List (Event Res') → Op' → Prop}
    (himpl : ∀ op xs, (impl op).Sat Φ (fun _ _ => True) xs) (p : Prog Res α)
    (xs : List (Event Res')) : (p.expand impl).Sat Φ (fun _ _ => True) xs := by
  induction p generalizing xs with
  | pure a => trivial
  | call op k ih =>
    apply Sat.bind
    exact (himpl op xs).mono (fun _ _ h => h) fun ys r _ => ih r ys

end Prog

/-! ## Machines -/

/-- An operation of a machine that is committed: which one, and what its answer becomes. -/
structure Commit (Res : Op → Type) (A : Type) where
  /-- The operation. -/
  op : Op
  /-- What its answer becomes. -/
  answer : Res op → A

/-- How the machine `M'` carries out operations of the machine `M`. -/
structure Refinement (M' : Machine Res') (M : Machine Res) where
  /-- The part of the state that is the state of `M`. -/
  state : M'.State → M.State
  /-- What the environment contributes to the operation that is committed. -/
  env : Op' → M'.Env → M.Env
  /-- The operation that an operation commits; a silent one commits none. -/
  commit : (op' : Op') → Option (Commit Res (Res' op'))
  init : state M'.init = M.init
  /-- A silent operation leaves the state of `M`. -/
  silent : ∀ op' e s, commit op' = none → state (M'.exec op' e s).2 = state s
  /-- The others do what the committed operation does, and are answered with what it is. -/
  committed : ∀ op' e s c, commit op' = some c →
    (M'.exec op' e s).1 = c.answer (M.exec c.op (env op' e) (state s)).1 ∧
      state (M'.exec op' e s).2 = (M.exec c.op (env op' e) (state s)).2

namespace Refinement

variable {M' : Machine Res'} {M : Machine Res} (R : Refinement M' M)

/-- The step of `M` that a step commits. -/
def step (e : Step M') : Option (Step M) :=
  (R.commit e.op).map fun c => ⟨e.tid, c.op, R.env e.op e.env⟩

/-- The history of `M` that a history commits. -/
def history (h : List (Step M')) : List (Step M) := h.filterMap R.step

variable {R} {h h' pre' : List (Step M')} {e' : Step M'} {pre : List (Step M)} {e : Step M}

@[simp] theorem history_nil : R.history [] = [] := rfl

theorem history_concat (h : List (Step M')) (e' : Step M') :
    R.history (h ++ [e']) = R.history h ++ (R.step e').toList := by
  unfold history
  rw [List.filterMap_append]
  cases hs : R.step e' <;> simp [hs]

/-- A silent step commits nothing. -/
theorem history_silent (hs : R.step e' = none) : R.history (h ++ [e']) = R.history h := by
  rw [history_concat, hs, Option.toList_none, List.append_nil]

/-- A step that commits one adds it. -/
theorem history_commit (hs : R.step e' = some e) :
    R.history (h ++ [e']) = R.history h ++ [e] := by
  rw [history_concat, hs, Option.toList_some]

theorem history_mono (hp : h <+: h') : R.history h <+: R.history h' := hp.filterMap _

/-- The operation that a step commits. -/
theorem step_eq_some (hs : R.step e' = some e) :
    ∃ c, R.commit e'.op = some c ∧ e = ⟨e'.tid, c.op, R.env e'.op e'.env⟩ := by
  obtain ⟨c, hc, rfl⟩ := Option.map_eq_some_iff.mp hs
  exact ⟨c, hc, rfl⟩

/-- The state of `M` is the state after the history that has been committed. -/
theorem after_history (h : List (Step M')) : M.after (R.history h) = R.state (M'.after h) := by
  induction h using List.reverseRecOn with
  | nil => exact R.init.symm
  | append_singleton h e' ih =>
    cases hs : R.step e' with
    | none =>
      rw [history_silent hs, ih, Machine.after_concat]
      exact (R.silent e'.op e'.env _ (Option.map_eq_none_iff.mp hs)).symm
    | some e =>
      obtain ⟨c, hc, rfl⟩ := step_eq_some hs
      rw [history_commit hs, Machine.after_concat, Machine.after_concat, Machine.next, ih]
      exact (R.committed e'.op e'.env _ c hc).2.symm

/-- What a step commits occurs in the history of `M`. -/
theorem occurs_history (ho : Occurs h pre' e') (hs : R.step e' = some e) :
    Occurs (R.history h) (R.history pre') e := by
  have hp := history_mono (R := R) ho
  rwa [history_commit hs] at hp

/-- Every step of the history of `M` has been committed by a step. -/
theorem exists_of_occurs (ho : Occurs (R.history h) pre e) :
    ∃ pre' e', Occurs h pre' e' ∧ R.step e' = some e ∧ R.history pre' = pre := by
  induction h using List.reverseRecOn with
  | nil => exact absurd ho not_occurs_nil
  | append_singleton h e0 ih =>
    have hold : Occurs (R.history h) pre e →
        ∃ pre' e', Occurs (h ++ [e0]) pre' e' ∧ R.step e' = some e ∧ R.history pre' = pre := by
      intro ho
      obtain ⟨pre', e', ho', hs, heq⟩ := ih ho
      exact ⟨pre', e', ho'.mono (List.prefix_append _ _), hs, heq⟩
    cases hs : R.step e0 with
    | none => exact hold (history_silent hs ▸ ho)
    | some e1 =>
      rw [history_commit hs] at ho
      rcases occurs_concat.mp ho with ⟨rfl, rfl⟩ | ho
      · exact ⟨h, e0, List.prefix_rfl, hs, rfl⟩
      · exact hold ho

end Refinement

/-! ## Programs -/

namespace Prog

variable {M' : Machine Res'} {M : Machine Res} (R : Refinement M' M)

/-- The program `p'` carries out the program `p`: it commits the operations that `p` issues, in their
order. When `p'` returns a value, `Ψ` says what has become of `p`. -/
def CarriesOut (Ψ : β → Prog Res α → Prop) : Prog Res' β → Prog Res α → Prop
  | pure b, p => Ψ b p
  | call op' k', p =>
    match R.commit op' with
    | none => ∀ r', CarriesOut Ψ (k' r') p
    | some c => ∃ k, p = call c.op k ∧ ∀ r, CarriesOut Ψ (k' (c.answer r)) (k r)

variable {R} {Ψ : β → Prog Res α → Prop} {Θ : γ → Prog Res α → Prop} {p : Prog Res α}

@[simp] theorem carriesOut_pure {b : β} : (pure b : Prog Res' β).CarriesOut R Ψ p ↔ Ψ b p := Iff.rfl

/-- A silent operation carries out nothing. -/
theorem carriesOut_silent {op' : Op'} {k' : Res' op' → Prog Res' β} (hs : R.commit op' = none) :
    (call op' k').CarriesOut R Ψ p ↔ ∀ r', (k' r').CarriesOut R Ψ p := by
  rw [CarriesOut, hs]

/-- An operation that commits one is what the program issues next. -/
theorem carriesOut_commit {op' : Op'} {k' : Res' op' → Prog Res' β} {c : Commit Res (Res' op')}
    (hs : R.commit op' = some c) : (call op' k').CarriesOut R Ψ p ↔
      ∃ k, p = call c.op k ∧ ∀ r, (k' (c.answer r)).CarriesOut R Ψ (k r) := by
  rw [CarriesOut, hs]

/-- A sequence carries out a program when its first part does so with the rest as its
postcondition. -/
theorem CarriesOut.bind {p' : Prog Res' γ} {f : γ → Prog Res' β}
    (h : p'.CarriesOut R (fun c q => (f c).CarriesOut R Ψ q) p) : (p' >>= f).CarriesOut R Ψ p := by
  induction p' generalizing p with
  | pure c => exact h
  | call op' k' ih =>
    rw [call_bind]
    cases hs : R.commit op' with
    | none =>
      rw [carriesOut_silent hs] at h ⊢
      exact fun r' => ih r' (h r')
    | some c =>
      rw [carriesOut_commit hs] at h ⊢
      obtain ⟨k, rfl, hk⟩ := h
      exact ⟨k, rfl, fun r => ih _ (hk r)⟩

/-- What is known when a program is carried out may be weakened. -/
theorem CarriesOut.mono {Ψ' : β → Prog Res α → Prop} {p' : Prog Res' β} (h : p'.CarriesOut R Ψ p)
    (hΨ : ∀ b q, Ψ b q → Ψ' b q) : p'.CarriesOut R Ψ' p := by
  induction p' generalizing p with
  | pure b => exact hΨ _ _ h
  | call op' k' ih =>
    cases hs : R.commit op' with
    | none =>
      rw [carriesOut_silent hs] at h ⊢
      exact fun r' => ih r' (h r')
    | some c =>
      rw [carriesOut_commit hs] at h ⊢
      obtain ⟨k, rfl, hk⟩ := h
      exact ⟨k, rfl, fun r => ih _ (hk r)⟩

/-- A program whose operations are all silent carries out nothing. -/
theorem carriesOut_of_silent {p' : Prog Res' β} {xs : List (Event Res')}
    (h : p'.Sat (fun _ op' => R.commit op' = none) (fun _ b => Ψ b p) xs) :
    p'.CarriesOut R Ψ p := by
  induction p' generalizing xs with
  | pure b => exact h
  | call op' k' ih => exact (carriesOut_silent h.1).mpr fun r' => ih r' (h.2 r')

/-- An expanded program carries out the program that it was made of. -/
theorem CarriesOut.expand {impl : (op : Op) → Prog Res' (Res op)}
    (himpl : ∀ (op : Op) (k : Res op → Prog Res α),
      (impl op).CarriesOut R (fun r q => q = k r) (call op k))
    (p : Prog Res α) : (p.expand impl).CarriesOut R (fun a q => q = pure a) p := by
  induction p with
  | pure a => rfl
  | call op k ih =>
    apply CarriesOut.bind
    exact (himpl op k).mono fun r q hq => hq ▸ ih r

end Prog

/-! ## Systems -/

/-- How the calls of the system `S'` carry out calls of the system `S`. -/
structure SystemRefinement {Call Call' α' : Type} (S' : System Res' Call' α')
    (S : System Res Call α) extends Refinement S'.toMachine S.toMachine where
  /-- The call that a call carries out, at least in part. -/
  call : Call' → Call
  /-- What has become of the program of that call when a call returns. -/
  returns : Call' → α' → Prog Res α → Prop
  body : ∀ call', (S'.body call').CarriesOut toRefinement (returns call') (S.body (call call'))
  /-- What is assumed of the environment of `S` is assumed of that of `S'`. -/
  admissible : ∀ h' e' e, toRefinement.step e' = some e → S'.admissible h' e' = true →
    S.admissible (toRefinement.history h') e = true

namespace SystemRefinement

variable {Call Call' α' : Type} {S' : System Res' Call' α'} {S : System Res Call α}
  (R : SystemRefinement S' S)

/-- A call of `S'` as a call of `S`: unless it has died, it goes on carrying out what is left. -/
structure ThreadRefines (th' : Thread Res' Call' α') (th : Thread Res Call α) : Prop where
  call : th.call = R.call th'.call
  prog : th'.prog.CarriesOut R.toRefinement (R.returns th'.call) th.prog ∨
    th'.prog = .pure S'.aborted

/-- A configuration of `S'` as a configuration of `S`. -/
structure Refines (c' : S'.Config) (c : S.Config) : Prop where
  state : c.state = R.state c'.state
  history : c.history = R.history c'.history
  length : c.threads.length = c'.threads.length
  thread : ∀ (tid : ℕ) (th' : Thread Res' Call' α') (th : Thread Res Call α),
    c'.threads[tid]? = some th' → c.threads[tid]? = some th → R.ThreadRefines th' th

variable {R} {c' d' : S'.Config} {c : S.Config}

/-- A call that has not returned goes on carrying out what is left. -/
theorem ThreadRefines.carriesOut {th' : Thread Res' Call' α'} {th : Thread Res Call α}
    (ht : R.ThreadRefines th' th) {op' : Op'} {k' : Res' op' → Prog Res' α'}
    (hp : th'.prog = .call op' k') :
    (Prog.call op' k').CarriesOut R.toRefinement (R.returns th'.call) th.prog := by
  rcases ht.prog with h | h
  · rwa [hp] at h
  · rw [hp] at h
    cases h

/-- The call of `S` that a call of `S'` carries out. -/
theorem Refines.exists_thread (hr : R.Refines c' c) {tid : ℕ} {th' : Thread Res' Call' α'}
    (hth' : c'.threads[tid]? = some th') :
    ∃ th, c.threads[tid]? = some th ∧ R.ThreadRefines th' th := by
  have hlt : tid < c.threads.length := by
    rw [hr.length]
    exact (List.getElem?_eq_some_iff.mp hth').1
  exact ⟨_, List.getElem?_eq_getElem hlt, hr.thread tid th' _ hth' (List.getElem?_eq_getElem hlt)⟩

/-- Calls that have been replaced by calls that refine each other. -/
theorem Refines.set (hr : R.Refines c' c) {tid : ℕ} {th' : Thread Res' Call' α'}
    {th : Thread Res Call α} (ht : R.ThreadRefines th' th) (tid' : ℕ) (th1' : Thread Res' Call' α')
    (th1 : Thread Res Call α) (hth1' : (c'.threads.set tid th')[tid']? = some th1')
    (hth1 : (c.threads.set tid th)[tid']? = some th1) : R.ThreadRefines th1' th1 := by
  by_cases heq : tid = tid'
  · subst heq
    rw [List.getElem?_set_self'] at hth1' hth1
    obtain ⟨-, -, rfl⟩ := Option.map_eq_some_iff.mp hth1'
    obtain ⟨-, -, rfl⟩ := Option.map_eq_some_iff.mp hth1
    exact ht
  · rw [List.getElem?_set_ne heq] at hth1' hth1
    exact hr.thread tid' th1' th1 hth1' hth1

/-- A call of `S'` that has gone on alone. -/
theorem Refines.set_left (hr : R.Refines c' c) {tid : ℕ} {th' th1' : Thread Res' Call' α'}
    (hth' : c'.threads[tid]? = some th')
    (ht : ∀ th, R.ThreadRefines th' th → R.ThreadRefines th1' th) (tid' : ℕ)
    (th2' : Thread Res' Call' α') (th2 : Thread Res Call α)
    (hth2' : (c'.threads.set tid th1')[tid']? = some th2') (hth2 : c.threads[tid']? = some th2) :
    R.ThreadRefines th2' th2 := by
  by_cases heq : tid = tid'
  · subst heq
    rw [List.getElem?_set_self'] at hth2'
    obtain ⟨-, -, rfl⟩ := Option.map_eq_some_iff.mp hth2'
    exact ht th2 (hr.thread tid th' th2 hth' hth2)
  · rw [List.getElem?_set_ne heq] at hth2'
    exact hr.thread tid' th2' th2 hth2' hth2

/-- One move of `S'` is at most one move of `S`. -/
theorem Refines.next (hr : R.Refines c' c) (hn : S'.Next c' d') :
    ∃ d, S.Reaches c d ∧ R.Refines d' d := by
  rcases hn.cases with ⟨call', rfl⟩ | ⟨tid, env, th', op', k', p', hth', hp, hadm, hq, rfl⟩ |
    ⟨tid, th', op', k', hth', -, rfl⟩
  · -- A call starts.
    refine ⟨{ c with threads := c.threads ++ [⟨R.call call', c.history.length, S.body (R.call call')⟩] },
      Relation.ReflTransGen.single ⟨.start (R.call call'), rfl⟩, hr.state, hr.history, ?_, ?_⟩
    · rw [List.length_append, List.length_append, hr.length]
      rfl
    · intro tid th' th hth' hth
      rcases lt_or_ge tid c'.threads.length with hlt | hge
      · rw [List.getElem?_append_left hlt] at hth'
        rw [List.getElem?_append_left (hr.length ▸ hlt)] at hth
        exact hr.thread tid th' th hth' hth
      · rw [List.getElem?_append_right hge, List.getElem?_singleton] at hth'
        rw [List.getElem?_append_right (hr.length ▸ hge), List.getElem?_singleton, hr.length] at hth
        obtain ⟨hidx, rfl⟩ : tid - c'.threads.length = 0 ∧ _ = th' := by simpa using hth'
        obtain ⟨-, rfl⟩ : tid - c'.threads.length = 0 ∧ _ = th := by simpa using hth
        exact ⟨rfl, Or.inl (R.body call')⟩
  · -- An operation is executed.
    obtain ⟨th, hth, ht⟩ := hr.exists_thread hth'
    cases hs : R.commit op' with
    | none =>
      -- A silent one is none of `S`.
      have hstep : R.step ⟨tid, op', env⟩ = none := Option.map_eq_none_iff.mpr hs
      refine ⟨c, Relation.ReflTransGen.refl, ?_, ?_, ?_, ?_⟩
      · exact hr.state.trans (R.silent op' env c'.state hs).symm
      · exact hr.history.trans (R.toRefinement.history_silent hstep).symm
      · rw [hr.length, List.length_set]
      · refine hr.set_left hth' fun th1 ht1 => ⟨ht1.call, ?_⟩
        rcases hq with rfl | rfl
        · exact Or.inl ((Prog.carriesOut_silent hs).mp (ht1.carriesOut hp) _)
        · exact Or.inr rfl
    | some cm =>
      -- Another one is the operation that it commits.
      obtain ⟨k, hk, hrest⟩ := (Prog.carriesOut_commit hs).mp (ht.carriesOut hp)
      have hstep : R.step ⟨tid, op', env⟩ = some ⟨tid, cm.op, R.env op' env⟩ := by
        unfold Refinement.step
        rw [hs]
        rfl
      obtain ⟨hanswer, hstate⟩ := R.committed op' env c'.state cm hs
      have hadm' : S.admissible c.history ⟨tid, cm.op, R.env op' env⟩ = true := by
        rw [hr.history]
        exact R.admissible _ _ _ hstep hadm
      refine ⟨⟨(S.exec cm.op (R.env op' env) c.state).2,
        c.history ++ [⟨tid, cm.op, R.env op' env⟩],
        c.threads.set tid { th with prog := k (S.exec cm.op (R.env op' env) c.state).1 }⟩,
        Relation.ReflTransGen.single ⟨.run tid (R.env op' env), ?_⟩, ?_, ?_, ?_, ?_⟩
      · simp only [System.step, System.execute, hth, hk, hadm', if_true]
      · rw [hr.state]
        exact hstate.symm
      · rw [hr.history]
        exact (R.toRefinement.history_commit hstep).symm
      · rw [List.length_set, List.length_set, hr.length]
      · refine hr.set ⟨ht.call, ?_⟩
        rcases hq with rfl | rfl
        · rw [hanswer, hr.state]
          exact Or.inl (hrest _)
        · exact Or.inr rfl
  · -- A call dies. What it was carrying out is left as it is.
    refine ⟨c, Relation.ReflTransGen.refl, hr.state, hr.history, ?_, ?_⟩
    · rw [hr.length, List.length_set]
    · exact hr.set_left hth' fun th1 ht1 => ⟨ht1.call, Or.inr rfl⟩

/-- Every run of `S'` is a run of `S`, from configurations that refine each other on. -/
theorem Refines.reaches (hr : R.Refines c' c) (hn : S'.Reaches c' d') :
    ∃ d, S.Reaches c d ∧ R.Refines d' d := by
  induction hn with
  | refl => exact ⟨c, Relation.ReflTransGen.refl, hr⟩
  | tail _ hn ih =>
    obtain ⟨d, hreach, hd⟩ := ih
    obtain ⟨d1, hreach1, hd1⟩ := hd.next hn
    exact ⟨d1, hreach.trans hreach1, hd1⟩

/-- Every run of `S'` is a run of `S`. -/
theorem simulates (R : SystemRefinement S' S) (hr : S'.Reachable c') :
    ∃ c, S.Reachable c ∧ R.Refines c' c := by
  have hinit : R.Refines S'.initial S.initial :=
    ⟨R.init.symm, rfl, rfl, fun tid th' th hth' => by simp [System.initial] at hth'⟩
  exact hinit.reaches hr

/-- The history that a run commits belongs to a run. -/
theorem valid_history (R : SystemRefinement S' S) {h : List (Step S'.toMachine)}
    (hv : S'.Valid h) : S.Valid (R.history h) := by
  obtain ⟨c', hc', rfl⟩ := hv
  obtain ⟨c, hc, hrefines⟩ := R.simulates hc'
  exact ⟨c, hc, hrefines.history⟩

end SystemRefinement

end Interleaving

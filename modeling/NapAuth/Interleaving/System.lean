import Mathlib.Logic.Relation
import Mathlib.Algebra.BigOperators.Group.Finset.Piecewise
import Mathlib.Algebra.GroupWithZero.Nat
import Mathlib.Data.List.Infix
import NapAuth.Interleaving.Program

/-!
# Concurrent calls over a shared state

A `Machine` executes atomic operations on a state, with an answer from its environment for what the
state does not determine (a clock reading, a random draw, the verdict of an outside service). A
`System` adds the calls that clients may start, each with its program. Any number of calls run at
once. A configuration moves when a call starts, when some call's next operation is executed, when an
operation is executed and its answer lost, or when a call dies between two operations.

The history of a configuration is the list of operations executed so far, oldest first. It
determines the state (`Machine.after`), so a statement about a run is a statement about its history,
and the configurations passed on the way are its prefixes. `System.Valid` says that a history
belongs to a run. The rules of this file are `Valid.rec_on`, the induction over a run's steps, and
`Valid.of_occurs` and `System.Reachable.sat`, which carry the logic of one call (`Prog.Sat`) to its
steps and its outcome in any run.
-/

namespace Interleaving

/-- A shared state with atomic operations. `exec op env s` answers `op` in the state `s`, where
`env` is what the environment contributes. -/
structure Machine {Op : Type} (Res : Op → Type) where
  /-- The shared state. -/
  State : Type
  /-- What the environment contributes to one step. -/
  Env : Type
  /-- The state before any operation. -/
  init : State
  /-- The answer to an operation and the state after it. -/
  exec : (op : Op) → Env → State → Res op × State

variable {Op : Type} {Res : Op → Type}

/-- One executed operation: the call that issued it, the operation, and the environment's part. -/
structure Step (M : Machine Res) where
  /-- The number of the call, in the order in which calls start. -/
  tid : ℕ
  /-- The operation. -/
  op : Op
  /-- The environment's part. -/
  env : M.Env

/-- `e` was executed in the history `h`, right after the history `pre`. -/
def Occurs {M : Machine Res} (h pre : List (Step M)) (e : Step M) : Prop := pre ++ [e] <+: h

namespace Machine

variable (M : Machine Res)

/-- The state after an operation. -/
def next (s : M.State) (e : Step M) : M.State := (M.exec e.op e.env s).2

/-- The state after a history. -/
def after (h : List (Step M)) : M.State := h.foldl M.next M.init

/-- The step `e` as the event that its call sees, when it is executed after the history `h`. -/
def event (h : List (Step M)) (e : Step M) : Event Res := ⟨e.op, (M.exec e.op e.env (M.after h)).1⟩

/-- The events of the call `tid` in a history that starts in the state `s`. -/
def ownFrom (tid : ℕ) : M.State → List (Step M) → List (Event Res)
  | _, [] => []
  | s, e :: h =>
    if e.tid = tid then ⟨e.op, (M.exec e.op e.env s).1⟩ :: ownFrom tid (M.next s e) h
    else ownFrom tid (M.next s e) h

/-- The events of the call `tid` in a history. -/
def own (tid : ℕ) (h : List (Step M)) : List (Event Res) := M.ownFrom tid M.init h

/-- The events of a history that starts in the state `s`, of all its calls. -/
def eventsFrom : M.State → List (Step M) → List (Event Res)
  | _, [] => []
  | s, e :: h => ⟨e.op, (M.exec e.op e.env s).1⟩ :: eventsFrom (M.next s e) h

/-- The events of a history, of all its calls. -/
def events (h : List (Step M)) : List (Event Res) := M.eventsFrom M.init h

@[simp] theorem events_nil : M.events [] = [] := rfl

theorem eventsFrom_concat (s : M.State) (h : List (Step M)) (e : Step M) :
    M.eventsFrom s (h ++ [e]) =
      M.eventsFrom s h ++ [⟨e.op, (M.exec e.op e.env (h.foldl M.next s)).1⟩] := by
  induction h generalizing s with
  | nil => rfl
  | cons a h ih => simp only [List.cons_append, eventsFrom, List.foldl_cons, ih]

/-- One step adds its event. -/
theorem events_concat (h : List (Step M)) (e : Step M) :
    M.events (h ++ [e]) = M.events h ++ [M.event h e] :=
  M.eventsFrom_concat M.init h e

/-- There are as many events as steps. -/
theorem events_length (h : List (Step M)) : (M.events h).length = h.length := by
  induction h using List.reverseRecOn with
  | nil => rfl
  | append_singleton h e ih => rw [events_concat, List.length_append, List.length_append, ih]; rfl

/-- The events of a history come first among those of a longer one. -/
theorem events_mono {h h' : List (Step M)} (hp : h <+: h') : M.events h <+: M.events h' := by
  obtain ⟨t, rfl⟩ := hp
  induction t using List.reverseRecOn with
  | nil => simp
  | append_singleton t e ih =>
    rw [← List.append_assoc, events_concat]
    exact ih.trans (List.prefix_append _ _)

/-- When a step is a given event: it executes the event's operation, with the event's answer. -/
theorem event_eq_iff {h : List (Step M)} {e : Step M} {op : Op} {r : Res op} :
    M.event h e = ⟨op, r⟩ ↔ e.op = op ∧ (M.exec op e.env (M.after h)).1 = r := by
  obtain ⟨tid, op', env⟩ := e
  simp only [event, Sigma.mk.injEq]
  constructor
  · rintro ⟨rfl, hr⟩
    exact ⟨rfl, eq_of_heq hr⟩
  · rintro ⟨rfl, rfl⟩
    exact ⟨rfl, HEq.rfl⟩

@[simp] theorem after_nil : M.after [] = M.init := rfl

@[simp] theorem after_concat (h : List (Step M)) (e : Step M) :
    M.after (h ++ [e]) = M.next (M.after h) e := by
  simp [after]

@[simp] theorem own_nil (tid : ℕ) : M.own tid [] = [] := rfl

theorem ownFrom_concat (tid : ℕ) (s : M.State) (h : List (Step M)) (e : Step M) :
    M.ownFrom tid s (h ++ [e]) = M.ownFrom tid s h ++
      if e.tid = tid then [⟨e.op, (M.exec e.op e.env (h.foldl M.next s)).1⟩] else [] := by
  induction h generalizing s with
  | nil =>
    simp only [List.nil_append, ownFrom, List.foldl_nil]
  | cons a h ih =>
    simp only [List.cons_append, ownFrom, List.foldl_cons, ih]
    by_cases ha : a.tid = tid <;> simp [ha]

/-- One step adds its event to its own call, and nothing to any other. -/
theorem own_concat (tid : ℕ) (h : List (Step M)) (e : Step M) :
    M.own tid (h ++ [e]) = M.own tid h ++ if e.tid = tid then [M.event h e] else [] :=
  M.ownFrom_concat tid M.init h e

/-- A call has as many events as steps. -/
theorem own_length (tid : ℕ) (h : List (Step M)) :
    (M.own tid h).length = h.countP fun e => e.tid = tid := by
  induction h using List.reverseRecOn with
  | nil => rfl
  | append_singleton h e ih =>
    rw [own_concat, List.length_append, List.countP_append, ih, List.countP_singleton]
    by_cases he : e.tid = tid <;> simp [he]

/-- What the events of a history add up to is the sum of what those of its calls do. -/
theorem sum_events (f : Event Res → ℕ) {h : List (Step M)} {n : ℕ} (hlt : ∀ e ∈ h, e.tid < n) :
    ((M.events h).map f).sum = ∑ tid ∈ Finset.range n, ((M.own tid h).map f).sum := by
  induction h using List.reverseRecOn with
  | nil => simp
  | append_singleton h e ih =>
    have hown : ∀ tid, ((M.own tid (h ++ [e])).map f).sum =
        ((M.own tid h).map f).sum + if e.tid = tid then f (M.event h e) else 0 := by
      intro tid
      rw [own_concat, List.map_append, List.sum_append]
      split <;> simp
    have he : e.tid < n := hlt e (by simp)
    simp only [hown, Finset.sum_add_distrib, Finset.sum_ite_eq, Finset.mem_range, he, if_true]
    rw [events_concat, List.map_append, List.sum_append, ih fun e' he' => hlt e' (by simp [he'])]
    simp

theorem own_concat_self (h : List (Step M)) (e : Step M) :
    M.own e.tid (h ++ [e]) = M.own e.tid h ++ [M.event h e] := by
  rw [own_concat, if_pos rfl]

theorem own_concat_ne {tid : ℕ} (h : List (Step M)) {e : Step M} (hne : e.tid ≠ tid) :
    M.own tid (h ++ [e]) = M.own tid h := by
  rw [own_concat, if_neg hne, List.append_nil]

end Machine

section Occurs

variable {M : Machine Res} {h h' pre : List (Step M)} {e e' : Step M}

/-- Nothing occurs in the empty history. -/
theorem not_occurs_nil : ¬ Occurs [] pre e := by
  simp [Occurs]

/-- What occurs after one more step: that step, or what occurred before. -/
theorem occurs_concat : Occurs (h ++ [e']) pre e ↔ (pre = h ∧ e = e') ∨ Occurs h pre e := by
  unfold Occurs
  rw [List.prefix_concat_iff]
  simp

/-- The last step occurs. -/
theorem Occurs.last : Occurs (h ++ [e]) h e := List.prefix_rfl

/-- What occurs in a history occurs in every longer one. -/
theorem Occurs.mono (ho : Occurs h pre e) (hp : h <+: h') : Occurs h' pre e := ho.trans hp

/-- What comes before a step of a history is a prefix of it. -/
theorem Occurs.before (ho : Occurs h pre e) : pre <+: h :=
  (List.prefix_append pre [e]).trans ho

/-- Every member of a history was executed in it. -/
theorem exists_occurs_of_mem (hm : e ∈ h) : ∃ pre, Occurs h pre e := by
  obtain ⟨pre, post, rfl⟩ := List.append_of_mem hm
  exact ⟨pre, post, by simp⟩

/-- The step at an index was executed after those before it. -/
theorem occurs_take {k : ℕ} (hk : h[k]? = some e) : Occurs h (h.take k) e := by
  obtain ⟨hlt, rfl⟩ := List.getElem?_eq_some_iff.mp hk
  rw [Occurs, List.take_concat_get' h k hlt]
  exact List.take_prefix _ _

/-- A step has the index that many steps come before it. -/
theorem Occurs.getElem? (ho : Occurs h pre e) : h[pre.length]? = some e := by
  obtain ⟨post, rfl⟩ := ho
  simp

/-- Where no step from an index on meets a condition, one that does comes before the index. -/
theorem Occurs.length_lt {p : Step M → Bool} {k : ℕ} (ho : Occurs h pre e) (he : p e = true)
    (hlate : ∀ e' ∈ h.drop k, p e' = false) : pre.length < k := by
  by_contra hle
  have hk : (h.drop k)[pre.length - k]? = some e := by
    rw [List.getElem?_drop, Nat.add_sub_cancel' (by omega)]
    exact ho.getElem?
  rw [hlate e (List.mem_of_getElem? hk)] at he
  cases he

/-- Where no step before an index meets a condition, one that does comes at the index or later. -/
theorem Occurs.le_length {p : Step M → Bool} {k : ℕ} (ho : Occurs h pre e) (he : p e = true)
    (hearly : ∀ e' ∈ h.take k, p e' = false) : k ≤ pre.length := by
  by_contra hlt
  have hk : (h.take k)[pre.length]? = some e := by
    rw [List.getElem?_take_of_lt (by omega)]
    exact ho.getElem?
  rw [hearly e (List.mem_of_getElem? hk)] at he
  cases he

/-- A step that meets a condition is one more than those before it that do. -/
theorem Occurs.countP_lt {p : Step M → Bool} (ho : Occurs h pre e) (he : p e = true) :
    pre.countP p < h.countP p := by
  have hle := ho.sublist.countP_le (p := p)
  rw [List.countP_append, List.countP_singleton, if_pos he] at hle
  exact hle

/-- Two steps of one history are the same or one comes before the other. -/
theorem Occurs.trichotomy {pre' : List (Step M)} (ho : Occurs h pre e) (ho' : Occurs h pre' e') :
    (pre = pre' ∧ e = e') ∨ Occurs pre pre' e' ∨ Occurs pre' pre e := by
  rcases List.prefix_or_prefix_of_prefix ho ho' with hp | hp
  · rcases List.prefix_concat_iff.mp hp with heq | hlt
    · have := List.append_inj' heq rfl
      exact Or.inl ⟨this.1, by simpa using this.2⟩
    · exact Or.inr (Or.inr hlt)
  · rcases List.prefix_concat_iff.mp hp with heq | hlt
    · have := List.append_inj' heq rfl
      exact Or.inl ⟨this.1.symm, by simpa using this.2.symm⟩
    · exact Or.inr (Or.inl hlt)

/-- An event of a call was some step of its, executed after the events before it. -/
theorem exists_occurs_of_own {tid : ℕ} {xs ys : List (Event Res)} {ev : Event Res}
    (ho : M.own tid h = xs ++ ev :: ys) :
    ∃ pre e, Occurs h pre e ∧ e.tid = tid ∧ M.event pre e = ev ∧ M.own tid pre = xs := by
  induction h using List.reverseRecOn generalizing xs ys with
  | nil => simp at ho
  | append_singleton h e ih =>
    by_cases he : e.tid = tid
    · subst he
      rw [M.own_concat_self] at ho
      rcases List.eq_nil_or_concat ys with rfl | ⟨zs, z, rfl⟩
      · -- The event is the last one, so the step is the last one.
        obtain ⟨h1, h2⟩ := List.append_inj' ho rfl
        exact ⟨h, e, Occurs.last, rfl, by simpa using h2, h1⟩
      · have hcons : M.own e.tid h ++ [M.event h e] = (xs ++ ev :: zs) ++ [z] := by simpa using ho
        obtain ⟨h1, -⟩ := List.append_inj' hcons rfl
        obtain ⟨pre, e', hoc, ht, hev, hpre⟩ := ih h1
        exact ⟨pre, e', hoc.mono (List.prefix_append _ _), ht, hev, hpre⟩
    · rw [M.own_concat_ne h he] at ho
      obtain ⟨pre, e', hoc, ht, hev, hpre⟩ := ih ho
      exact ⟨pre, e', hoc.mono (List.prefix_append _ _), ht, hev, hpre⟩

/-- The events of a call are those of its steps. -/
theorem mem_own {tid : ℕ} {ev : Event Res} :
    ev ∈ M.own tid h ↔ ∃ pre e, Occurs h pre e ∧ e.tid = tid ∧ M.event pre e = ev := by
  constructor
  · intro hm
    obtain ⟨xs, ys, hsplit⟩ := List.append_of_mem hm
    obtain ⟨pre, e, hoc, ht, hev, -⟩ := exists_occurs_of_own hsplit
    exact ⟨pre, e, hoc, ht, hev⟩
  · rintro ⟨pre, e, hoc, rfl, rfl⟩
    induction h using List.reverseRecOn with
    | nil => exact absurd hoc not_occurs_nil
    | append_singleton h e' ih =>
      rw [M.own_concat]
      rcases occurs_concat.mp hoc with ⟨rfl, rfl⟩ | hoc
      · simp
      · exact List.mem_append_left _ (ih hoc)

/-- The events of a call in a history come first among its events in a longer one. -/
theorem own_mono (tid : ℕ) (hp : h <+: h') : M.own tid h <+: M.own tid h' := by
  obtain ⟨t, rfl⟩ := hp
  induction t using List.reverseRecOn with
  | nil => simp
  | append_singleton t e ih =>
    rw [← List.append_assoc, M.own_concat]
    exact ih.trans (List.prefix_append _ _)

/-- A step of a call is its only event with the step's operation, when no other one has that. -/
theorem Occurs.own_split {tid : ℕ} {xs ys : List (Event Res)} {ev : Event Res}
    (ho : Occurs h pre e) (htid : e.tid = tid) (hown : M.own tid h = xs ++ ev :: ys)
    (hother : ∀ ev' ∈ xs ++ ys, ev'.1 ≠ e.op) : M.own tid pre = xs ∧ M.event pre e = ev := by
  subst htid
  obtain ⟨zs, hzs⟩ := own_mono e.tid ho
  rw [M.own_concat_self, List.append_assoc, List.singleton_append, hown] at hzs
  rcases List.append_eq_append_iff.mp hzs with ⟨as, rfl, has⟩ | ⟨as, heq, has⟩
  · cases as with
    | nil =>
      have := List.cons.inj has
      exact ⟨by simp, this.1⟩
    | cons a as =>
      -- The event would be one of the first.
      obtain ⟨rfl, -⟩ := List.cons.inj has
      exact absurd rfl (hother (M.event pre e) (by simp))
  · cases as with
    | nil =>
      have := List.cons.inj has
      exact ⟨by simpa using heq, this.1.symm⟩
    | cons a as =>
      -- The event would be one of the last.
      obtain ⟨-, hys⟩ := List.cons.inj has
      exact absurd rfl (hother (M.event pre e) (by simp [hys]))

end Occurs

/-- The calls that clients may start, over a machine. -/
structure System (Res : Op → Type) (Call α : Type) extends Machine Res where
  /-- The program of a call. -/
  body : Call → Prog Res α
  /-- The outcome of a call that dies before it returns. -/
  aborted : α
  /-- What is assumed of the environment: which step may follow a history. -/
  admissible : List (Step toMachine) → Step toMachine → Bool

variable {Call α : Type}

/-- A call in progress. -/
structure Thread (Res : Op → Type) (Call α : Type) where
  /-- What was called. -/
  call : Call
  /-- The length of the history when the call started. -/
  started : ℕ
  /-- What is left of its program. -/
  prog : Prog Res α

namespace System

variable (S : System Res Call α)

/-- The state of a run: the shared state, the history that led to it, and every call started. -/
structure Config where
  /-- The shared state. -/
  state : S.State
  /-- The operations executed so far, oldest first. -/
  history : List (Step S.toMachine)
  /-- The calls started so far, finished ones included. -/
  threads : List (Thread Res Call α)

/-- What moves a configuration. -/
inductive Label where
  /-- A client starts a call. -/
  | start (call : Call)
  /-- The next operation of the call `tid` is executed, and the call goes on with the answer. -/
  | run (tid : ℕ) (env : S.Env)
  /-- The next operation of the call `tid` is executed, but its answer is lost. -/
  | lost (tid : ℕ) (env : S.Env)
  /-- The call `tid` dies between two operations. -/
  | crash (tid : ℕ)

/-- The configuration before anything has happened. -/
def initial : S.Config := ⟨S.init, [], []⟩

/-- Execute the next operation of a call and let the call go on as `resume` says. -/
def execute (c : S.Config) (tid : ℕ) (env : S.Env)
    (resume : (op : Op) → (Res op → Prog Res α) → Res op → Prog Res α) : Option S.Config :=
  match c.threads[tid]? with
  | none => none
  | some th =>
    match th.prog with
    | .pure _ => none
    | .call op k =>
      if S.admissible c.history ⟨tid, op, env⟩ then
        some {
          state := (S.exec op env c.state).2
          history := c.history ++ [⟨tid, op, env⟩]
          threads := c.threads.set tid
            { th with prog := resume op k (S.exec op env c.state).1 } }
      else none

/-- One move. It is impossible when the call does not exist, has returned, or meets an environment
that is not admissible. -/
def step (c : S.Config) : S.Label → Option S.Config
  | .start call =>
    some { c with threads := c.threads ++ [⟨call, c.history.length, S.body call⟩] }
  | .run tid env => S.execute c tid env fun _ k r => k r
  | .lost tid env => S.execute c tid env fun _ _ _ => .pure S.aborted
  | .crash tid =>
    match c.threads[tid]? with
    | none => none
    | some th =>
      match th.prog with
      | .pure _ => none
      | .call _ _ => some { c with threads := c.threads.set tid { th with prog := .pure S.aborted } }

/-- The configuration after some moves. -/
def run (c : S.Config) : List S.Label → Option S.Config
  | [] => some c
  | l :: ls => (S.step c l).bind fun c' => run c' ls

/-- One move leads from `c` to `c'`. -/
def Next (c c' : S.Config) : Prop := ∃ l, S.step c l = some c'

/-- Some moves lead from `c` to `c'`. -/
def Reaches (c c' : S.Config) : Prop := Relation.ReflTransGen S.Next c c'

/-- The configurations of the system's runs. -/
def Reachable (c : S.Config) : Prop := S.Reaches S.initial c

/-- The histories of the system's runs. -/
def Valid (h : List (Step S.toMachine)) : Prop := ∃ c, S.Reachable c ∧ c.history = h

variable {S}

/-- A run that has been computed reaches its last configuration. -/
theorem reaches_of_run {c c' : S.Config} {ls : List S.Label} (h : S.run c ls = some c') :
    S.Reaches c c' := by
  induction ls generalizing c with
  | nil =>
    obtain rfl : c = c' := by simpa [run] using h
    exact Relation.ReflTransGen.refl
  | cons l ls ih =>
    obtain ⟨c1, h1, h2⟩ := Option.bind_eq_some_iff.mp h
    exact Relation.ReflTransGen.head ⟨l, h1⟩ (ih h2)

/-- What one move can do: start a call, execute one operation of a call that goes on or dies, or end
a call. -/
theorem Next.cases {c c' : S.Config} (h : S.Next c c') :
    (∃ call, c' = { c with threads := c.threads ++ [⟨call, c.history.length, S.body call⟩] }) ∨
    (∃ tid env th op k p, c.threads[tid]? = some th ∧ th.prog = .call op k ∧
      S.admissible c.history ⟨tid, op, env⟩ = true ∧
      (p = k (S.exec op env c.state).1 ∨ p = .pure S.aborted) ∧
      c' = ⟨(S.exec op env c.state).2, c.history ++ [⟨tid, op, env⟩],
        c.threads.set tid { th with prog := p }⟩) ∨
    (∃ (tid : ℕ) (th : Thread Res Call α) (op : Op) (k : Res op → Prog Res α),
      c.threads[tid]? = some th ∧ th.prog = .call op k ∧
      c' = { c with threads := c.threads.set tid { th with prog := .pure S.aborted } }) := by
  obtain ⟨l, h⟩ := h
  -- `run` and `lost` differ only in what is left of the call.
  have hexec : ∀ tid env resume, S.execute c tid env resume = some c' →
      ∃ th op k, c.threads[tid]? = some th ∧ th.prog = .call op k ∧
        S.admissible c.history ⟨tid, op, env⟩ = true ∧
        c' = ⟨(S.exec op env c.state).2, c.history ++ [⟨tid, op, env⟩],
          c.threads.set tid { th with prog := resume op k (S.exec op env c.state).1 }⟩ := by
    intro tid env resume hx
    unfold execute at hx
    split at hx
    · cases hx
    · rename_i th hth
      split at hx
      · cases hx
      · rename_i op k hp
        split_ifs at hx with hadm
        exact ⟨th, op, k, hth, hp, hadm, (Option.some.inj hx).symm⟩
  cases l with
  | start call => exact Or.inl ⟨call, (Option.some.inj h).symm⟩
  | run tid env =>
    obtain ⟨th, op, k, hth, hp, hadm, hc⟩ := hexec tid env (fun _ k r => k r) h
    exact Or.inr (Or.inl ⟨tid, env, th, op, k, _, hth, hp, hadm, Or.inl rfl, hc⟩)
  | lost tid env =>
    obtain ⟨th, op, k, hth, hp, hadm, hc⟩ := hexec tid env (fun _ _ _ => .pure S.aborted) h
    exact Or.inr (Or.inl ⟨tid, env, th, op, k, _, hth, hp, hadm, Or.inr rfl, hc⟩)
  | crash tid =>
    simp only [step] at h
    split at h
    · cases h
    · rename_i th hth
      split at h
      · cases h
      · rename_i op k hp
        exact Or.inr (Or.inr ⟨tid, th, op, k, hth, hp, (Option.some.inj h).symm⟩)

/-- A call in progress, as far as the history explains it: nothing of it precedes its start, and what
is left of its program is what its events leave, unless it has died. -/
structure ThreadCoherent (h : List (Step S.toMachine)) (tid : ℕ) (th : Thread Res Call α) :
    Prop where
  /-- The call started within the history. -/
  started_le : th.started ≤ h.length
  /-- It issued nothing before it started. -/
  own_started : S.own tid (h.take th.started) = []
  /-- Its program has followed its events, and goes on or has died. -/
  follows : ∃ p, (S.body th.call).Follows (S.own tid h) p ∧ (th.prog = p ∨ th.prog = .pure S.aborted)

/-- What holds of every configuration of a run, whatever the programs do. -/
structure Coherent (c : S.Config) : Prop where
  /-- The history determines the state. -/
  state_eq : c.state = S.after c.history
  /-- Only calls that have started have executed anything. -/
  tid_lt : ∀ e ∈ c.history, e.tid < c.threads.length
  /-- Each call is explained by its events. -/
  thread : ∀ tid th, c.threads[tid]? = some th → ThreadCoherent c.history tid th
  /-- Each executed operation was the next one of its call, and was admissible. -/
  occurs : ∀ pre e, Occurs c.history pre e → S.admissible pre e = true ∧
    ∃ th, c.threads[e.tid]? = some th ∧ th.started ≤ pre.length ∧
      ∃ k, (S.body th.call).Follows (S.own e.tid pre) (.call e.op k)

/-- A call that has issued nothing in a history has no events there. -/
theorem own_eq_nil {h : List (Step S.toMachine)} {tid : ℕ} (hlt : ∀ e ∈ h, e.tid < tid) :
    S.own tid h = [] := by
  rw [List.eq_nil_iff_forall_not_mem]
  intro ev hev
  obtain ⟨pre, e, hoc, rfl, -⟩ := mem_own.mp hev
  have hmem : e ∈ h := hoc.mem (by simp)
  exact lt_irrefl _ (hlt e hmem)

/-- An element of a list keeps its place when the list grows at the end. -/
theorem getElem?_append_of_some {A : Type} {l l' : List A} {i : ℕ} {a : A} (h : l[i]? = some a) :
    (l ++ l')[i]? = some a := by
  rw [List.getElem?_append_left (List.getElem?_eq_some_iff.mp h).1]
  exact h

/-- The initial configuration is coherent. -/
theorem coherent_initial : Coherent S.initial where
  state_eq := rfl
  tid_lt := by simp [initial]
  thread := by simp [initial]
  occurs := fun _ _ ho => absurd ho not_occurs_nil

/-- Starting a call keeps a configuration coherent. -/
theorem Coherent.start {c : S.Config} (hc : Coherent c) (call : Call) :
    Coherent { c with threads := c.threads ++ [⟨call, c.history.length, S.body call⟩] } where
  state_eq := hc.state_eq
  tid_lt e he := by
    have := hc.tid_lt e he
    simp only [List.length_append, List.length_singleton]
    omega
  thread tid th hth := by
    rcases lt_or_ge tid c.threads.length with hlt | hge
    · rw [List.getElem?_append_left hlt] at hth
      exact hc.thread tid th hth
    · -- The new call is the last one, and nothing in the history is its own.
      rw [List.getElem?_append_right hge, List.getElem?_singleton] at hth
      obtain ⟨hidx, rfl⟩ : tid - c.threads.length = 0 ∧ _ = th := by simpa using hth
      obtain rfl : tid = c.threads.length := by omega
      have hown : S.own c.threads.length c.history = [] := own_eq_nil hc.tid_lt
      refine ⟨le_refl _, by simpa using hown, S.body call, ?_, Or.inl rfl⟩
      rw [hown]
      exact Prog.Follows.start
  occurs pre e ho := by
    obtain ⟨hadm, th, hth, hrest⟩ := hc.occurs pre e ho
    exact ⟨hadm, th, getElem?_append_of_some hth, hrest⟩

/-- Ending a call keeps a configuration coherent. -/
theorem Coherent.crash {c : S.Config} (hc : Coherent c) {tid : ℕ} {th : Thread Res Call α}
    (hth : c.threads[tid]? = some th) :
    Coherent { c with threads := c.threads.set tid { th with prog := .pure S.aborted } } where
  state_eq := hc.state_eq
  tid_lt e he := by simpa using hc.tid_lt e he
  thread tid' th' hth' := by
    by_cases ht : tid = tid'
    · subst ht
      obtain rfl : { th with prog := .pure S.aborted } = th' := by
        simpa [List.getElem?_set, (List.getElem?_eq_some_iff.mp hth).1] using hth'
      obtain ⟨hle, hown, p, hp, -⟩ := hc.thread tid th hth
      exact ⟨hle, hown, p, hp, Or.inr rfl⟩
    · rw [List.getElem?_set_ne ht] at hth'
      exact hc.thread tid' th' hth'
  occurs pre e ho := by
    obtain ⟨hadm, th0, hth0, hrest⟩ := hc.occurs pre e ho
    by_cases ht : tid = e.tid
    · subst ht
      obtain rfl : th = th0 := Option.some.inj (hth.symm.trans hth0)
      exact ⟨hadm, { th with prog := .pure S.aborted },
        by simp [(List.getElem?_eq_some_iff.mp hth).1], hrest⟩
    · exact ⟨hadm, th0, by rw [List.getElem?_set_ne ht]; exact hth0, hrest⟩

/-- Executing an operation keeps a configuration coherent. -/
theorem Coherent.execute {c : S.Config} (hc : Coherent c) {tid : ℕ} {env : S.Env}
    {th : Thread Res Call α} {op : Op} {k : Res op → Prog Res α} {p : Prog Res α}
    (hth : c.threads[tid]? = some th) (hp : th.prog = .call op k)
    (hadm : S.admissible c.history ⟨tid, op, env⟩ = true)
    (hq : p = k (S.exec op env c.state).1 ∨ p = .pure S.aborted) :
    Coherent (⟨(S.exec op env c.state).2, c.history ++ [⟨tid, op, env⟩],
      c.threads.set tid { th with prog := p }⟩ : S.Config) := by
  have hlt : tid < c.threads.length := (List.getElem?_eq_some_iff.mp hth).1
  obtain ⟨hle, hown, p0, hfol, hprog⟩ := hc.thread tid th hth
  obtain rfl : p0 = .call op k := by
    rcases hprog with h | h
    · rw [← h, hp]
    · rw [hp] at h; cases h
  -- The event that the call sees is the answer in the configuration's state.
  have hev : S.event c.history ⟨tid, op, env⟩ = ⟨op, (S.exec op env c.state).1⟩ := by
    rw [Machine.event, hc.state_eq]
  refine ⟨?_, ?_, ?_, ?_⟩
  · rw [Machine.after_concat, ← hc.state_eq]; rfl
  · intro e he
    rw [List.length_set]
    rcases List.mem_append.mp he with he | he
    · exact hc.tid_lt e he
    · obtain rfl := List.mem_singleton.mp he
      exact hlt
  · intro tid' th' hth'
    by_cases ht : tid = tid'
    · subst ht
      obtain rfl : { th with prog := p } = th' := by
        simpa [List.getElem?_set, hlt] using hth'
      refine ⟨by simp; omega, ?_, k (S.exec op env c.state).1, ?_, hq⟩
      · rw [List.take_append_of_le_length hle]; exact hown
      · have hown := S.own_concat_self c.history ⟨tid, op, env⟩
        rw [hev] at hown
        exact hown ▸ hfol.answer (S.exec op env c.state).1
    · rw [List.getElem?_set_ne ht] at hth'
      obtain ⟨hle', hown', p', hfol', hprog'⟩ := hc.thread tid' th' hth'
      refine ⟨by simp; omega, ?_, p', ?_, hprog'⟩
      · rw [List.take_append_of_le_length hle']; exact hown'
      · rwa [Machine.own_concat_ne _ _ ht]
  · intro pre e ho
    rcases occurs_concat.mp ho with ⟨rfl, rfl⟩ | ho
    · exact ⟨hadm, { th with prog := p }, by simp [hlt], hle, k, hfol⟩
    · obtain ⟨hadm', th0, hth0, hrest⟩ := hc.occurs pre e ho
      by_cases ht : tid = e.tid
      · subst ht
        obtain rfl : th = th0 := Option.some.inj (hth.symm.trans hth0)
        exact ⟨hadm', { th with prog := p }, by simp [hlt], hrest⟩
      · exact ⟨hadm', th0, by rw [List.getElem?_set_ne ht]; exact hth0, hrest⟩

/-- Every configuration of a run is coherent. -/
theorem Reachable.coherent {c : S.Config} (h : S.Reachable c) : Coherent c := by
  induction h with
  | refl => exact coherent_initial
  | tail _ hn ih =>
    rcases hn.cases with ⟨call, rfl⟩ | ⟨tid, env, th, op, k, p, hth, hp, hadm, hq, rfl⟩ |
      ⟨tid, th, op, k, hth, -, rfl⟩
    · exact ih.start call
    · exact ih.execute hth hp hadm hq
    · exact ih.crash hth

/-- A later configuration's history extends an earlier one's. -/
theorem Reaches.history_mono {c c' : S.Config} (h : S.Reaches c c') :
    c.history <+: c'.history := by
  induction h with
  | refl => exact List.prefix_rfl
  | tail _ hn ih =>
    rcases hn.cases with ⟨call, rfl⟩ | ⟨tid, env, th, op, k, p, -, -, -, -, rfl⟩ |
      ⟨tid, th, op, k, -, -, rfl⟩
    · exact ih
    · exact ih.trans (List.prefix_append _ _)
    · exact ih

/-- A call keeps its number, what was called and its start, and one that has returned stays as it
is. -/
theorem Reaches.thread {c c' : S.Config} (h : S.Reaches c c') {tid : ℕ} {th : Thread Res Call α}
    (hth : c.threads[tid]? = some th) : ∃ th', c'.threads[tid]? = some th' ∧ th'.call = th.call ∧
      th'.started = th.started ∧ (∀ a, th.prog = .pure a → th' = th) := by
  induction h with
  | refl => exact ⟨th, hth, rfl, rfl, fun _ _ => rfl⟩
  | tail _ hn ih =>
    obtain ⟨th1, hth1, hcall, hstart, hret⟩ := ih
    -- A move replaces the program of a call only while that call is still running.
    have hset : ∀ {ths : List (Thread Res Call α)} {tid' : ℕ} {th2 : Thread Res Call α} {op : Op}
        {k : Res op → Prog Res α} (p : Prog Res α), ths[tid]? = some th1 →
        ths[tid']? = some th2 → th2.prog = .call op k →
        ∃ th', (ths.set tid' { th2 with prog := p })[tid]? = some th' ∧ th'.call = th.call ∧
          th'.started = th.started ∧ (∀ a, th.prog = .pure a → th' = th) := by
      intro ths tid' th2 op k p h1 h2 hp2
      by_cases ht : tid' = tid
      · subst ht
        obtain rfl : th1 = th2 := Option.some.inj (h1.symm.trans h2)
        refine ⟨{ th1 with prog := p }, by simp [(List.getElem?_eq_some_iff.mp h1).1],
          hcall, hstart, fun a ha => ?_⟩
        rw [hret a ha, ha] at hp2
        cases hp2
      · exact ⟨th1, by rw [List.getElem?_set_ne ht]; exact h1, hcall, hstart, hret⟩
    rcases hn.cases with ⟨call, rfl⟩ | ⟨tid', env, th2, op, k, p, hth2, hp2, -, -, rfl⟩ |
      ⟨tid', th2, op, k, hth2, hp2, rfl⟩
    · exact ⟨th1, getElem?_append_of_some hth1, hcall, hstart, hret⟩
    · exact hset p hth1 hth2 hp2
    · exact hset _ hth1 hth2 hp2

/-- Calls do not go away. -/
theorem Reaches.threads_le {c c' : S.Config} (h : S.Reaches c c') :
    c.threads.length ≤ c'.threads.length := by
  by_contra hlt
  obtain ⟨th, hth, -⟩ := h.thread (List.getElem?_eq_getElem (Nat.lt_of_not_le hlt))
  rw [List.getElem?_eq_none (le_refl _)] at hth
  cases hth

/-- A call that has returned executes nothing more. -/
theorem Reaches.own_eq {c c' : S.Config} (h : S.Reaches c c') {tid : ℕ} {th : Thread Res Call α}
    (hth : c.threads[tid]? = some th) {a : α} (ha : th.prog = .pure a) :
    S.own tid c'.history = S.own tid c.history := by
  induction h with
  | refl => rfl
  | @tail c1 c2 hr hn ih =>
    obtain ⟨th1, hth1, -, -, hret⟩ := Reaches.thread hr hth
    obtain rfl := hret a ha
    rcases hn.cases with ⟨call, rfl⟩ | ⟨tid', env, th2, op, k, p, hth2, hp2, -, -, rfl⟩ |
      ⟨tid', th2, op, k, -, -, rfl⟩
    · exact ih
    · have hne : tid' ≠ tid := by
        rintro rfl
        obtain rfl := Option.some.inj (hth1.symm.trans hth2)
        rw [ha] at hp2
        cases hp2
      exact (S.own_concat_ne c1.history (e := ⟨tid', op, env⟩) hne).trans ih
    · exact ih

/-- What is executed once every call has returned belongs to calls that start later. -/
theorem Reaches.le_tid {c c' : S.Config} (h : S.Reaches c c')
    (hidle : ∀ (tid : ℕ) (th : Thread Res Call α), c.threads[tid]? = some th → ∃ a, th.prog = .pure a)
    {pre : List (Step S.toMachine)} {e : Step S.toMachine} (ho : Occurs c'.history pre e)
    (hp : c.history <+: pre) : c.threads.length ≤ e.tid := by
  by_contra hlt
  have hth := List.getElem?_eq_getElem (Nat.lt_of_not_le hlt)
  obtain ⟨a, ha⟩ := hidle e.tid _ hth
  -- The call would have one event more than it has.
  have hown := (own_mono (M := S.toMachine) e.tid ho).length_le
  have hown' := (own_mono (M := S.toMachine) e.tid hp).length_le
  rw [h.own_eq hth ha, Machine.own_concat_self, List.length_append, List.length_singleton] at hown
  omega

/-- What later calls execute is executed later. -/
theorem Reachable.prefix_of_le_tid {c : S.Config} (hc : S.Reachable c)
    {h pre : List (Step S.toMachine)} {e : Step S.toMachine} (hp : c.history <+: h)
    (ho : Occurs h pre e) (hle : c.threads.length ≤ e.tid) : c.history <+: pre := by
  rcases List.prefix_or_prefix_of_prefix hp ho with hlate | hearly
  · rcases List.prefix_concat_iff.mp hlate with heq | hlt
    · have hmem : e ∈ c.history := by simp [heq]
      exact absurd (hc.coherent.tid_lt e hmem) (Nat.not_lt.mpr hle)
    · exact hlt
  · have hmem : e ∈ c.history := hearly.mem (by simp)
    exact absurd (hc.coherent.tid_lt e hmem) (Nat.not_lt.mpr hle)

/-- Every prefix of a run's history is the history of a configuration on the way. -/
theorem Reachable.exists_passed {c : S.Config} (h : S.Reachable c) {pre : List (Step S.toMachine)}
    (hp : pre <+: c.history) : ∃ c0, S.Reachable c0 ∧ S.Reaches c0 c ∧ c0.history = pre := by
  induction h with
  | refl =>
    have hnil : pre = [] := List.prefix_nil.mp hp
    exact ⟨S.initial, Relation.ReflTransGen.refl, Relation.ReflTransGen.refl, hnil.symm⟩
  | @tail c1 c2 hr hn ih =>
    have hold : pre <+: c1.history →
        ∃ c0, S.Reachable c0 ∧ S.Reaches c0 c2 ∧ c0.history = pre := by
      intro hpre
      obtain ⟨c0, h0, h01, heq⟩ := ih hpre
      exact ⟨c0, h0, h01.tail hn, heq⟩
    rcases hn.cases with ⟨call, rfl⟩ | ⟨tid, env, th, op, k, p, -, -, -, -, rfl⟩ |
      ⟨tid, th, op, k, -, -, rfl⟩
    · exact hold hp
    · rcases List.prefix_concat_iff.mp hp with heq | hlt
      · exact ⟨_, hr.tail hn, Relation.ReflTransGen.refl, heq.symm⟩
      · exact hold hlt
    · exact hold hp

namespace Valid

variable {h h' pre : List (Step S.toMachine)} {e : Step S.toMachine}

/-- The history of a run's configuration is valid. -/
theorem of_reachable {c : S.Config} (hr : S.Reachable c) : S.Valid c.history := ⟨c, hr, rfl⟩

/-- A prefix of a valid history is valid. -/
theorem restrict (hv : S.Valid h') (hp : h <+: h') : S.Valid h := by
  obtain ⟨c, hr, rfl⟩ := hv
  obtain ⟨c0, hr0, -, heq⟩ := hr.exists_passed hp
  exact ⟨c0, hr0, heq⟩

/-- The environment's part of every step was admissible. -/
theorem admissible (hv : S.Valid h) (ho : Occurs h pre e) : S.admissible pre e = true := by
  obtain ⟨c, hr, rfl⟩ := hv
  exact (hr.coherent.occurs pre e ho).1

/-- Induction over the steps of a run. -/
theorem rec_on {P : List (Step S.toMachine) → Prop} (hv : S.Valid h) (nil : P [])
    (step : ∀ h e, S.Valid h → S.Valid (h ++ [e]) → P h → P (h ++ [e])) : P h := by
  induction h using List.reverseRecOn with
  | nil => exact nil
  | append_singleton h e ih =>
    have hv' := hv.restrict (List.prefix_append h [e])
    exact step h e hv' hv (ih hv')

/-- A property that no step breaks persists from a history to every longer one. -/
theorem persist {P : List (Step S.toMachine) → Prop} (hv : S.Valid h') (hp : h <+: h') (hP : P h)
    (step : ∀ h1 e, S.Valid (h1 ++ [e]) → h <+: h1 → P h1 → P (h1 ++ [e])) : P h' := by
  obtain ⟨t, rfl⟩ := hp
  induction t using List.reverseRecOn with
  | nil => simpa using hP
  | append_singleton t e ih =>
    rw [← List.append_assoc] at hv ⊢
    exact step _ e hv (List.prefix_append _ _) (ih (hv.restrict (List.prefix_append _ _)))

/-- The logic of the calls, at one step: the operation satisfies what its call's program
guarantees, for the events that the call had seen. -/
theorem of_occurs {Φ : List (Event Res) → Op → Prop} {Ψ : List (Event Res) → α → Prop}
    (hv : S.Valid h) (hsat : ∀ call, (S.body call).Sat Φ Ψ []) (ho : Occurs h pre e) :
    Φ (S.own e.tid pre) e.op := by
  obtain ⟨c, hr, rfl⟩ := hv
  obtain ⟨-, th, -, -, k, hfol⟩ := hr.coherent.occurs pre e ho
  exact ((hsat th.call).follows hfol).1

end Valid

/-- The logic of one call, at its outcome: it has died, or its value satisfies what its program
guarantees for its events. -/
theorem Reachable.sat {c : S.Config} (hr : S.Reachable c) {Φ : List (Event Res) → Op → Prop}
    {Ψ : List (Event Res) → α → Prop} {tid : ℕ} {th : Thread Res Call α}
    (hth : c.threads[tid]? = some th) (hsat : (S.body th.call).Sat Φ Ψ []) {a : α}
    (ha : th.prog = .pure a) : a = S.aborted ∨ Ψ (S.own tid c.history) a := by
  obtain ⟨-, -, p, hfol, hprog⟩ := hr.coherent.thread tid th hth
  rcases hprog with h | h
  · rw [ha] at h
    subst h
    exact Or.inr ((hsat.follows hfol))
  · rw [ha] at h
    exact Or.inl (by injection h)

/-- The logic of one call, at one of its steps. -/
theorem Reachable.sat_of_occurs {c : S.Config} (hr : S.Reachable c)
    {Φ : List (Event Res) → Op → Prop} {Ψ : List (Event Res) → α → Prop}
    {pre : List (Step S.toMachine)} {e : Step S.toMachine} (ho : Occurs c.history pre e)
    {th : Thread Res Call α} (hth : c.threads[e.tid]? = some th)
    (hsat : (S.body th.call).Sat Φ Ψ []) : Φ (S.own e.tid pre) e.op := by
  obtain ⟨-, th', hth', -, k, hfol⟩ := hr.coherent.occurs pre e ho
  obtain rfl := Option.some.inj (hth.symm.trans hth')
  exact (hsat.follows hfol).1

/-- The logic of one call whose answers are good, at its outcome. -/
theorem Reachable.yields {c : S.Config} (hr : S.Reachable c)
    {Good : List (Event Res) → Event Res → Prop} {Ψ : List (Event Res) → α → Prop} {tid : ℕ}
    {th : Thread Res Call α} (hth : c.threads[tid]? = some th)
    (hyields : (S.body th.call).Yields Good Ψ [])
    (hgood : ∀ pre e, Occurs c.history pre e → e.tid = tid →
      Good (S.own tid pre) (S.event pre e)) {a : α} (ha : th.prog = .pure a) :
    a = S.aborted ∨ Ψ (S.own tid c.history) a := by
  obtain ⟨-, -, p, hfol, hprog⟩ := hr.coherent.thread tid th hth
  rcases hprog with h | h
  · rw [ha] at h
    subst h
    refine Or.inr (hyields.follows hfol fun ys ev hp => ?_)
    obtain ⟨zs, hzs⟩ := hp
    obtain ⟨pre, e, ho, rfl, rfl, rfl⟩ :=
      exists_occurs_of_own (by rw [← hzs, List.append_assoc, List.singleton_append])
    exact hgood pre e ho rfl
  · rw [ha] at h
    exact Or.inl (by injection h)

/-- What a call has issued, it issued after it started. -/
theorem Reachable.started_le {c : S.Config} (hr : S.Reachable c) {pre : List (Step S.toMachine)}
    {e : Step S.toMachine} (ho : Occurs c.history pre e) {th : Thread Res Call α}
    (hth : c.threads[e.tid]? = some th) : th.started ≤ pre.length := by
  obtain ⟨-, th', hth', hle, -⟩ := hr.coherent.occurs pre e ho
  obtain rfl : th = th' := Option.some.inj (hth.symm.trans hth')
  exact hle

end System

end Interleaving

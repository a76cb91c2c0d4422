import NapAuth.Interleaving.System

/-!
# Replaying runs

A run can be computed from its moves, and `System.exists_replay` makes a reachable configuration of
a computation that ends in one with a given property. The programs of the calls are given anew for
the replay, because a program may be long to evaluate and easy to rewrite: it is enough that they
are the programs of the calls that the run starts.
-/

namespace Interleaving

namespace System

variable {Op : Type} {Res : Op → Type} {Call α : Type} {S : System Res Call α}

/-- The calls that some moves start. -/
def starts : List S.Label → List Call
  | [] => []
  | .start call :: ls => call :: starts ls
  | _ :: ls => starts ls

/-- The configuration after some moves, where each call runs the program that `body` gives it. -/
def replay (body : Call → Prog Res α) (c : S.Config) : List S.Label → Option S.Config
  | [] => some c
  | .start call :: ls =>
    replay body { c with threads := c.threads ++ [⟨call, c.history.length, body call⟩] } ls
  | l :: ls => (S.step c l).bind fun c' => replay body c' ls

/-- A replay with the programs of the system's own calls is a run. -/
theorem replay_eq_run {body : Call → Prog Res α} {c : S.Config} {ls : List S.Label}
    (hbody : ∀ call ∈ starts ls, body call = S.body call) : replay body c ls = S.run c ls := by
  induction ls generalizing c with
  | nil => rfl
  | cons l ls ih =>
    cases l with
    | start call =>
      have hcall : body call = S.body call := hbody call List.mem_cons_self
      have hrest : ∀ c : S.Config, replay body c ls = S.run c ls := fun c =>
        ih fun call' h => hbody call' (List.mem_cons_of_mem _ h)
      show replay body _ ls = S.run _ ls
      rw [hcall, hrest]
    | run tid env => exact congrArg (Option.bind _) (funext fun c => ih hbody)
    | lost tid env => exact congrArg (Option.bind _) (funext fun c => ih hbody)
    | crash tid => exact congrArg (Option.bind _) (funext fun c => ih hbody)

/-- The calls of a configuration, in the order in which they started. -/
def Config.calls (c : S.Config) : List Call := c.threads.map Thread.call

/-- Replacing the program of a call leaves the calls as they are. -/
theorem calls_set {ths : List (Thread Res Call α)} {tid : ℕ} {th : Thread Res Call α}
    (hth : ths[tid]? = some th) (p : Prog Res α) :
    (ths.set tid { th with prog := p }).map Thread.call = ths.map Thread.call := by
  have hget : (ths.map Thread.call)[tid]? = some th.call := by rw [List.getElem?_map, hth]; rfl
  rw [List.map_set]
  obtain ⟨hlt, heq⟩ := List.getElem?_eq_some_iff.mp hget
  exact heq ▸ List.set_getElem_self hlt

/-- A move adds the call that it starts. -/
theorem calls_step {c c' : S.Config} {l : S.Label} (h : S.step c l = some c') :
    c'.calls = c.calls ++ starts [l] := by
  have hset : ∀ {tid th p}, c.threads[tid]? = some th →
      c'.threads = c.threads.set tid { th with prog := p } → c'.calls = c.calls ++ [] := by
    intro tid th p hth heq
    rw [Config.calls, heq, calls_set hth, List.append_nil, Config.calls]
  have hexecute : ∀ tid env resume, S.execute c tid env resume = some c' →
      c'.calls = c.calls ++ [] := by
    intro tid env resume h
    unfold execute at h
    split at h
    · cases h
    · rename_i th hth
      split at h
      · cases h
      · split at h
        · exact hset hth (congrArg Config.threads (Option.some.inj h).symm)
        · cases h
  cases l with
  | start call =>
    obtain rfl := Option.some.inj h
    unfold Config.calls
    rw [List.map_append]
    rfl
  | run tid env => exact hexecute tid env (fun _ k r => k r) h
  | lost tid env => exact hexecute tid env (fun _ _ _ => .pure S.aborted) h
  | crash tid =>
    simp only [step] at h
    split at h
    · cases h
    · rename_i th hth
      split at h
      · cases h
      · exact hset hth (congrArg Config.threads (Option.some.inj h).symm)

/-- The calls of a run's last configuration are those that it has started. -/
theorem calls_run {c c' : S.Config} {ls : List S.Label} (h : S.run c ls = some c') :
    c'.calls = c.calls ++ starts ls := by
  induction ls generalizing c with
  | nil =>
    obtain rfl : c = c' := Option.some.inj h
    exact (List.append_nil _).symm
  | cons l ls ih =>
    obtain ⟨c₁, h₁, h₂⟩ := Option.bind_eq_some_iff.mp h
    rw [ih h₂, calls_step h₁, List.append_assoc]
    congr 1
    cases l <;> rfl

/-- A call that a configuration has. -/
theorem thread_of_call {c : S.Config} {tid : ℕ} {call : Call} (hcall : c.calls[tid]? = some call) :
    ∃ th, c.threads[tid]? = some th ∧ th.call = call := by
  unfold Config.calls at hcall
  rwa [List.getElem?_map, Option.map_eq_some_iff] at hcall

/-- The value that the call `tid` has returned. -/
def Config.returned? (c : S.Config) (tid : ℕ) : Option α :=
  match c.threads[tid]? with
  | some ⟨_, _, .pure a⟩ => some a
  | _ => none

/-- A call that has returned a value. -/
theorem thread_of_returned {c : S.Config} {tid : ℕ} {call : Call} {a : α}
    (hcall : c.calls[tid]? = some call) (ha : c.returned? tid = some a) :
    ∃ th, c.threads[tid]? = some th ∧ th.call = call ∧ th.prog = .pure a := by
  obtain ⟨⟨called, started, prog⟩, hth, rfl⟩ := thread_of_call hcall
  unfold Config.returned? at ha
  rw [hth] at ha
  cases prog with
  | pure b => exact ⟨_, hth, rfl, congrArg _ (Option.some.inj ha)⟩
  | call op k => cases ha

/-- A computation that ends in a configuration with a given property makes one that is reachable,
and whose calls are those that were started. -/
theorem exists_replay {body : Call → Prog Res α} {ls : List S.Label} {p : S.Config → Bool}
    (hbody : ∀ call ∈ starts ls, body call = S.body call)
    (h : (replay body S.initial ls).any p = true) :
    ∃ c, S.Reachable c ∧ c.calls = starts ls ∧ p c = true := by
  obtain ⟨c, hc, hp⟩ := (Option.any_eq_true p _).mp h
  rw [replay_eq_run hbody] at hc
  exact ⟨c, reaches_of_run hc, calls_run hc, hp⟩

/-- Whether each step of a history passes a test that knows the steps before it. -/
def checked {M : Machine Res} (p : List (Step M) → Step M → Bool) (h : List (Step M)) : Bool :=
  (List.range h.length).all fun k => h[k]?.all (p (h.take k))

/-- A step of a history whose steps have been tested. -/
theorem of_checked {M : Machine Res} {p : List (Step M) → Step M → Bool} {h pre : List (Step M)}
    {e : Step M} (hchecked : checked p h = true) (ho : Occurs h pre e) : p pre e = true := by
  have hk := ho.getElem?
  obtain ⟨hlt, -⟩ := List.getElem?_eq_some_iff.mp hk
  have htest := List.all_eq_true.mp hchecked pre.length (List.mem_range.mpr hlt)
  have hpre : h.take pre.length = pre := (List.prefix_iff_eq_take.mp ho.before).symm
  rwa [hk, hpre, Option.all_some] at htest

/-- A computation in two parts makes a reachable configuration and a later one. -/
theorem exists_replay_append {body : Call → Prog Res α} (ls ls' : List S.Label)
    (p : S.Config → S.Config → Bool) (hbody : ∀ call ∈ starts ls ++ starts ls', body call = S.body call)
    (h : ((replay body S.initial ls).any fun c => (replay body c ls').any (p c)) = true) :
    ∃ c c', S.Reachable c ∧ S.Reaches c c' ∧ c.calls = starts ls ∧
      c'.calls = starts ls ++ starts ls' ∧ p c c' = true := by
  obtain ⟨c, hc, h'⟩ := (Option.any_eq_true _ _).mp h
  obtain ⟨c', hc', hp⟩ := (Option.any_eq_true _ _).mp h'
  rw [replay_eq_run fun call hcall => hbody call (List.mem_append_left _ hcall)] at hc
  rw [replay_eq_run fun call hcall => hbody call (List.mem_append_right _ hcall)] at hc'
  have hcalls : c.calls = starts ls := calls_run hc
  exact ⟨c, c', reaches_of_run hc, reaches_of_run hc', hcalls, hcalls ▸ calls_run hc', hp⟩

end System

end Interleaving

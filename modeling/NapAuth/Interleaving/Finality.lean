import NapAuth.Interleaving.Flag

/-!
# Calls that undo what others have written

Some calls undo what others write, and what they have undone is meant to stay undone until a call is
started that may write it again. Other calls may be under way at that time, and write later. So it
stays undone in every run in which none of them does (`Undoing.stays_undone`).
-/

namespace Interleaving

variable {Op : Type} {Res : Op → Type} {Call α : Type} {S : System Res Call α}

/-- Calls that undo, with what they undo. -/
structure Undoing (S : System Res Call α) where
  /-- The calls that undo. -/
  undoer : Call → Prop
  /-- The calls that may write again, if they are started afterwards. -/
  renewer : Call → Prop
  /-- Whether an operation undoes what another one writes. -/
  undoes : Op → Op → Bool
  /-- Whether a step writes. -/
  writes : Step S.toMachine → Bool

namespace Undoing

/-- A call was started before the call `tid` was over. -/
def StartedBefore (c : S.Config) (tid : ℕ) (th : Thread Res Call α) : Prop :=
  ∃ i, th.started ≤ i ∧ (c.history[i]?).map Step.tid = some tid

variable (U : Undoing S)

/-- Of the calls that may write again and were started within the first `n` steps, all were started
before the call `tid` was over. -/
def NoneSince (c : S.Config) (tid n : ℕ) : Prop :=
  ∀ th ∈ c.threads, U.renewer th.call → th.started ≤ n → StartedBefore c tid th

/-- A step writes what a call has undone already, and no call that may write it again has been started
since that call was over. -/
def Overtaken (c : S.Config) (pre : List (Step S.toMachine)) (e : Step S.toMachine) : Prop :=
  U.writes e = true ∧ ∃ pre' e' th, Occurs pre pre' e' ∧ U.undoes e'.op e.op = true ∧
    c.threads[e'.tid]? = some th ∧ U.undoer th.call ∧ U.NoneSince c e'.tid pre.length

variable {U} {c : S.Config} {pre : List (Step S.toMachine)} {e : Step S.toMachine}

/-- Where nothing is written that has been undone before, no step is overtaken. -/
theorem not_overtaken_of_pairwise
    (h : (c.history.map Step.op).Pairwise fun op op' => U.undoes op op' = false)
    (ho : Occurs c.history pre e) : ¬ U.Overtaken c pre e := by
  rintro ⟨-, pre', e', -, ho', hundoes, -⟩
  have hpairwise := (List.pairwise_map.mp h).sublist ho.sublist
  obtain ⟨-, -, hbefore⟩ := List.pairwise_append.mp hpairwise
  have hmem : e' ∈ pre := ho'.mem (List.mem_append_right pre' (List.mem_singleton_self e'))
  rw [hbefore e' hmem e (List.mem_singleton_self e)] at hundoes
  cases hundoes

/-- What a call has undone stays so until a call is started that may write it again, in a run in which
no step is overtaken. -/
theorem stays_undone (hr : S.Reachable c) {P : S.State → Prop} {undo : Op}
    (hwrites : ∀ {s e}, P s → ¬ P (S.next s e) → U.writes e = true ∧ U.undoes undo e.op = true)
    (hsteps : ∀ pre e, Occurs c.history pre e → ¬ U.Overtaken c pre e)
    (hnone : U.NoneSince c e.tid c.history.length) (ho : Occurs c.history pre e) (hop : e.op = undo)
    {th : Thread Res Call α} (hth : c.threads[e.tid]? = some th) (hundoer : U.undoer th.call)
    (hundone : P (S.after (pre ++ [e]))) : P (S.after c.history) := by
  by_contra hnot
  obtain ⟨pre', e', ho', hlater, hstill, hbroken⟩ := exists_breaking ho hundone hnot
  obtain ⟨hwritten, hundoes⟩ := hwrites hstill hbroken
  subst hop
  -- The step that breaks it comes after the call has undone it.
  refine hsteps pre' e' ho' ⟨hwritten, pre, e, th, hlater, hundoes, hth, hundoer, ?_⟩
  intro th' hmem hrenewer _
  obtain ⟨tid, hget⟩ := List.getElem?_of_mem hmem
  exact hnone th' hmem hrenewer (hr.coherent.thread tid th' hget).started_le

end Undoing

end Interleaving

import Mathlib.Data.List.Forall2
import NapAuth.Interleaving.Replay

/-!
# Separation

A group of calls runs beside others over one state. When are the others without effect on it? When
the answers to the group's operations are determined by the operations of the group itself. Then two
runs in which the group makes the same calls, and in which these get the same turns, are alike for the
group, whatever else happens in them (`System.group_alike`). A turn is one of a call, at a time, and
does nothing if the call has returned.

The answers need only be determined up to a relation `Q`, which says what a program may not depend on
(what was drawn at random, say): `Prog.Alike` relates the programs that do not depend on it.
-/

namespace Interleaving

variable {Op : Type} {Res : Op → Type} {Call α β : Type}

/-! ## Programs that are alike -/

/-- Events of one operation, whose answers are alike. -/
inductive EventAlike (Q : (op : Op) → Res op → Res op → Prop) : Event Res → Event Res → Prop
  | intro {op : Op} {r r' : Res op} (h : Q op r r') : EventAlike Q ⟨op, r⟩ ⟨op, r'⟩

namespace Prog

/-- Programs that issue the same operations for as long as their answers are alike, and then return
values that are. -/
inductive Alike (Q : (op : Op) → Res op → Res op → Prop) (K : α → α → Prop) :
    Prog Res α → Prog Res α → Prop
  | pure {a b : α} (h : K a b) : Alike Q K (Prog.pure a) (Prog.pure b)
  | call {op : Op} {k k' : Res op → Prog Res α} (h : ∀ r r', Q op r r' → Alike Q K (k r) (k' r')) :
      Alike Q K (Prog.call op k) (Prog.call op k')

variable {Q : (op : Op) → Res op → Res op → Prop} {K : α → α → Prop} {L : β → β → Prop}

/-- One operation, with programs that go on alike. -/
theorem Alike.op_bind {o : Op} {f f' : Res o → Prog Res α}
    (h : ∀ r r', Q o r r' → Alike Q K (f r) (f' r')) : Alike Q K (op o >>= f) (op o >>= f') :=
  .call h

/-- Sequences are alike when their parts are. -/
theorem Alike.bind {p p' : Prog Res β} {f f' : β → Prog Res α} (hp : Alike Q L p p')
    (hf : ∀ b b', L b b' → Alike Q K (f b) (f' b')) : Alike Q K (p >>= f) (p' >>= f') := by
  induction hp with
  | pure h => exact hf _ _ h
  | call _ ih => exact .call ih

/-- What is left of two programs after events that are alike is alike. -/
theorem Alike.follows {p p' q q' : Prog Res α} {xs xs' : List (Event Res)} (h : Alike Q K p p')
    (hf : p.Follows xs q) (hf' : p'.Follows xs' q') (hxs : List.Forall₂ (EventAlike Q) xs xs') :
    Alike Q K q q' := by
  induction hf generalizing xs' q' with
  | start =>
    cases hxs
    generalize hnil : ([] : List (Event Res)) = ys at hf'
    cases hf' with
    | start => exact h
    | answer _ r => exact absurd (congrArg List.length hnil) (by simp)
  | @answer xs op k hf r ih =>
    cases hf' with
    | start =>
      have hlen := hxs.length_eq
      simp at hlen
    | @answer ys op' k' hf' r' =>
      -- The events before are alike, and so are the last ones.
      have hlen : xs.length = ys.length := by
        have hlen := hxs.length_eq
        simpa using hlen
      have hpast : List.Forall₂ (EventAlike Q) xs ys := by
        have htake := List.forall₂_take xs.length hxs
        rwa [List.take_left, hlen, List.take_left] at htake
      have hlast : List.Forall₂ (EventAlike Q) [⟨op, r⟩] [⟨op', r'⟩] := by
        have hdrop := List.forall₂_drop xs.length hxs
        rwa [List.drop_left, hlen, List.drop_left] at hdrop
      have hcall := ih hf' hpast
      cases hlast with
      | cons hev _ =>
        cases hev with
        | intro hr =>
          cases hcall with
          | call hk => exact hk _ _ hr

end Prog

/-! ## Traces -/

/-- A step of a group: the number of its call in the group, what the call has seen, and the part of
the environment that is looked at. -/
structure GroupStep (Res : Op → Type) (Tick : Type) where
  index : ℕ
  event : Event Res
  tick : Tick

section Traces

variable {Tick : Type}

/-- What a call of the group has seen. -/
def eventsOf (i : ℕ) (T : List (GroupStep Res Tick)) : List (Event Res) :=
  (T.filter fun s => s.index = i).map GroupStep.event

/-- The order in which the calls of a group go on, and the environment's part. -/
def scheduleOf (T : List (GroupStep Res Tick)) : List (ℕ × Tick) := T.map fun s => (s.index, s.tick)

/-- A call of the group has returned after the steps of a trace. -/
def Finished (body : Call → Prog Res α) (calls : List Call) (T : List (GroupStep Res Tick)) (i : ℕ) :
    Prop :=
  ∃ call a, calls[i]? = some call ∧ (body call).Follows (eventsOf i T) (.pure a)

/-- A trace comes of turns: a call whose turn it is goes on, or has returned already. -/
inductive Turns (body : Call → Prog Res α) (calls : List Call) :
    List (ℕ × Tick) → List (GroupStep Res Tick) → Prop
  | nil : Turns body calls [] []
  | step {turns : List (ℕ × Tick)} {T : List (GroupStep Res Tick)} (h : Turns body calls turns T)
      (s : GroupStep Res Tick) : Turns body calls (turns ++ [(s.index, s.tick)]) (T ++ [s])
  | skip {turns : List (ℕ × Tick)} {T : List (GroupStep Res Tick)} (h : Turns body calls turns T)
      {i : ℕ} (hdone : Finished body calls T i) (t : Tick) : Turns body calls (turns ++ [(i, t)]) T

/-- The operations of a group. -/
def opsOf (T : List (GroupStep Res Tick)) : List (Op × Tick) := T.map fun s => (s.event.1, s.tick)

/-- The steps of a trace are those of given calls. -/
def TraceOf (body : Call → Prog Res α) (calls : List Call) (T : List (GroupStep Res Tick)) : Prop :=
  ∀ pre s, pre ++ [s] <+: T → ∃ call k, calls[s.index]? = some call ∧
    (body call).Follows (eventsOf s.index pre) (.call s.event.1 k)

/-- The answers of a trace are as its operations determine them. -/
def Determined (D : List (Op × Tick) → (op : Op) → Tick → Res op → Prop)
    (T : List (GroupStep Res Tick)) : Prop :=
  ∀ pre s, pre ++ [s] <+: T → D (opsOf pre) s.event.1 s.tick s.event.2

/-- Steps of the group that are alike. -/
structure StepAlike (Q : (op : Op) → Res op → Res op → Prop) (s s' : GroupStep Res Tick) : Prop where
  index : s.index = s'.index
  event : EventAlike Q s.event s'.event
  tick : s.tick = s'.tick

variable {Q : (op : Op) → Res op → Res op → Prop} {K : α → α → Prop}
  {D : List (Op × Tick) → (op : Op) → Tick → Res op → Prop} {body : Call → Prog Res α}
  {calls : List Call} {T T' : List (GroupStep Res Tick)}

/-- What a call has seen is alike in traces that are alike. -/
theorem eventsOf_alike (h : List.Forall₂ (StepAlike Q) T T') (i : ℕ) :
    List.Forall₂ (EventAlike Q) (eventsOf i T) (eventsOf i T') := by
  induction h with
  | nil => exact List.Forall₂.nil
  | @cons s s' T T' hs _ ih =>
    unfold eventsOf at ih ⊢
    rw [List.filter_cons, List.filter_cons, ← hs.index]
    split
    · exact List.Forall₂.cons hs.event ih
    · exact ih

/-- So are the operations, which are the same. -/
theorem opsOf_eq (h : List.Forall₂ (StepAlike Q) T T') : opsOf T = opsOf T' := by
  induction h with
  | nil => rfl
  | @cons s s' T T' hs _ ih =>
    unfold opsOf at ih ⊢
    rw [List.map_cons, List.map_cons, ih, hs.tick]
    obtain ⟨i, ev, t⟩ := s
    obtain ⟨i', ev', t'⟩ := s'
    obtain ⟨-, hev, -⟩ := hs
    cases hev
    rfl

/-- Without turns there are no steps. -/
theorem Turns.of_nil (h : Turns body calls [] T) : T = [] := by
  generalize hnil : ([] : List (ℕ × Tick)) = turns at h
  cases h with
  | nil => rfl
  | step _ s => exact absurd (congrArg List.length hnil) (by simp)
  | skip _ _ t => exact absurd (congrArg List.length hnil) (by simp)

/-- The last turn was taken or skipped. -/
theorem Turns.of_concat {turns : List (ℕ × Tick)} {turn : ℕ × Tick}
    (h : Turns body calls (turns ++ [turn]) T) :
    (∃ T₀ s, T = T₀ ++ [s] ∧ turn = (s.index, s.tick) ∧ Turns body calls turns T₀) ∨
      Finished body calls T turn.1 ∧ Turns body calls turns T := by
  generalize hturns : turns ++ [turn] = turns' at h
  cases h with
  | nil => exact absurd (congrArg List.length hturns) (by simp)
  | step h s =>
    obtain ⟨rfl, hlast⟩ := List.append_inj' hturns rfl
    exact Or.inl ⟨_, s, rfl, List.singleton_inj.mp hlast, h⟩
  | skip h hdone t =>
    obtain ⟨rfl, hlast⟩ := List.append_inj' hturns rfl
    obtain rfl := List.singleton_inj.mp hlast
    exact Or.inr ⟨hdone, h⟩

/-- A trace comes of the turns that it takes. -/
theorem Turns.of_schedule (T : List (GroupStep Res Tick)) : Turns body calls (scheduleOf T) T := by
  induction T using List.reverseRecOn with
  | nil => exact .nil
  | append_singleton T s ih =>
    unfold scheduleOf at ih ⊢
    rw [List.map_append]
    exact ih.step s

/-- What a call does next is alike in traces that are alike. -/
theorem next_alike (hcalls : ∀ call ∈ calls, (body call).Alike Q K (body call))
    (h : List.Forall₂ (StepAlike Q) T T') {i : ℕ} {call call' : Call} {p p' : Prog Res α}
    (hcall : calls[i]? = some call) (hfol : (body call).Follows (eventsOf i T) p)
    (hcall' : calls[i]? = some call') (hfol' : (body call').Follows (eventsOf i T') p') :
    p.Alike Q K p' := by
  obtain rfl : call = call' := Option.some.inj (hcall.symm.trans hcall')
  exact (hcalls call (List.mem_of_getElem? hcall)).follows hfol hfol' (eventsOf_alike h i)

/-- Traces of the same calls with the same turns are alike, where the answers are determined. -/
theorem trace_alike {turns : List (ℕ × Tick)}
    (hcalls : ∀ call ∈ calls, (body call).Alike Q K (body call))
    (hD : ∀ past op t r r', D past op t r → D past op t r' → Q op r r')
    (hT : TraceOf body calls T) (hT' : TraceOf body calls T') (hdet : Determined D T)
    (hdet' : Determined D T') (hturns : Turns body calls turns T)
    (hturns' : Turns body calls turns T') : List.Forall₂ (StepAlike Q) T T' := by
  induction turns using List.reverseRecOn generalizing T T' with
  | nil =>
    rw [hturns.of_nil, hturns'.of_nil]
    exact List.Forall₂.nil
  | append_singleton turns turn ih =>
    rcases hturns.of_concat with ⟨T, s, rfl, rfl, hrest⟩ | ⟨⟨call, a, hcall, hfol⟩, hrest⟩
    · have hp := List.prefix_append T [s]
      have hpast : ∀ {T'}, TraceOf body calls T' → Determined D T' → Turns body calls turns T' →
          List.Forall₂ (StepAlike Q) T T' := fun hT' hdet' hrest' =>
        ih (fun pre s h => hT pre s (h.trans hp)) hT' (fun pre s h => hdet pre s (h.trans hp)) hdet'
          hrest hrest'
      obtain ⟨call, k, hcall, hfol⟩ := hT T s List.prefix_rfl
      rcases hturns'.of_concat with ⟨T', s', rfl, hturn, hrest'⟩ | ⟨⟨call', a, hcall', hfol'⟩, hrest'⟩
      · -- Both take the turn, and the call goes on alike.
        obtain ⟨hindex, htick⟩ := Prod.mk.inj hturn
        have hp' := List.prefix_append T' [s']
        have halike := hpast (fun pre s h => hT' pre s (h.trans hp'))
          (fun pre s h => hdet' pre s (h.trans hp')) hrest'
        obtain ⟨call', k', hcall', hfol'⟩ := hT' T' s' List.prefix_rfl
        have hnext := next_alike hcalls halike hcall hfol (hindex ▸ hcall') (hindex ▸ hfol')
        have hans := hdet T s List.prefix_rfl
        have hans' := hdet' T' s' List.prefix_rfl
        rw [← opsOf_eq halike] at hans'
        have hev : EventAlike Q s.event s'.event := by
          obtain ⟨i, ⟨op, r⟩, t⟩ := s
          obtain ⟨i', ⟨op', r'⟩, t'⟩ := s'
          obtain rfl : t = t' := htick
          cases hnext with
          | call _ => exact .intro (hD _ _ _ _ _ hans hans')
        exact List.rel_append halike (List.Forall₂.cons ⟨hindex, hev, htick⟩ List.Forall₂.nil)
      · -- A call that goes on in the one has not returned in the other.
        cases next_alike hcalls (hpast hT' hdet' hrest') hcall hfol hcall' hfol'
    · rcases hturns'.of_concat with ⟨T', s', rfl, rfl, hrest'⟩ | ⟨-, hrest'⟩
      · have hp' := List.prefix_append T' [s']
        have halike := ih hT (fun pre s h => hT' pre s (h.trans hp')) hdet
          (fun pre s h => hdet' pre s (h.trans hp')) hrest hrest'
        obtain ⟨call', k', hcall', hfol'⟩ := hT' T' s' List.prefix_rfl
        cases next_alike hcalls halike hcall hfol hcall' hfol'
      · exact ih hT hT' hdet hdet' hrest hrest'

end Traces

/-! ## Groups of calls -/

/-- An element of a filtered list, by its place in the list and the number of those before it. -/
theorem getElem?_filter_iff {A : Type} {p : A → Bool} {l : List A} {i : ℕ} {a : A} :
    (l.filter p)[i]? = some a ↔
      ∃ j, l[j]? = some a ∧ p a = true ∧ (l.take j).countP p = i := by
  induction l generalizing i with
  | nil => simp
  | cons b l ih =>
    have hcons : ∀ {n : ℕ}, (∃ j, (b :: l)[j]? = some a ∧ p a = true ∧
        ((b :: l).take j).countP p = n) ↔ (b = a ∧ p a = true ∧ n = 0) ∨
        ∃ j, l[j]? = some a ∧ p a = true ∧ (l.take j).countP p + (if p b then 1 else 0) = n := by
      intro n
      constructor
      · rintro ⟨j, hj, hp, hn⟩
        cases j with
        | zero => exact Or.inl ⟨Option.some.inj hj, hp, hn.symm⟩
        | succ j => exact Or.inr ⟨j, hj, hp, by rwa [List.take_succ_cons, List.countP_cons] at hn⟩
      · rintro (⟨rfl, hp, rfl⟩ | ⟨j, hj, hp, hn⟩)
        · exact ⟨0, rfl, hp, rfl⟩
        · exact ⟨j + 1, hj, hp, by rwa [List.take_succ_cons, List.countP_cons]⟩
    rw [hcons]
    by_cases hb : p b = true
    · rw [List.filter_cons_of_pos hb]
      cases i with
      | zero =>
        constructor
        · intro h
          obtain rfl : b = a := Option.some.inj h
          exact Or.inl ⟨rfl, hb, rfl⟩
        · rintro (⟨rfl, -⟩ | ⟨j, -, -, hn⟩)
          · rfl
          · simp [hb] at hn
      | succ i =>
        rw [List.getElem?_cons_succ, ih]
        constructor
        · rintro ⟨j, hj, hp, hn⟩
          exact Or.inr ⟨j, hj, hp, by simp [hb, hn]⟩
        · rintro (⟨-, -, hn⟩ | ⟨j, hj, hp, hn⟩)
          · cases hn
          · exact ⟨j, hj, hp, by simpa [hb] using hn⟩
    · rw [List.filter_cons_of_neg hb, ih]
      constructor
      · rintro ⟨j, hj, hp, hn⟩
        exact Or.inr ⟨j, hj, hp, by simp [hb, hn]⟩
      · rintro (⟨rfl, hp, -⟩ | ⟨j, hj, hp, hn⟩)
        · exact absurd hp hb
        · exact ⟨j, hj, hp, by simpa [hb] using hn⟩

/-- No two elements that are kept have the same number of such elements before them. -/
theorem countP_take_inj {A : Type} {p : A → Bool} {l : List A} {i j : ℕ} {a b : A}
    (hi : l[i]? = some a) (hj : l[j]? = some b) (ha : p a = true) (hb : p b = true)
    (h : (l.take i).countP p = (l.take j).countP p) : i = j := by
  have hlt : ∀ {i j : ℕ} {a : A}, l[i]? = some a → p a = true → i < j →
      (l.take i).countP p < (l.take j).countP p := by
    intro i j a hi ha hij
    have htake : l.take (i + 1) = l.take i ++ [a] := by
      rw [List.take_add_one, hi]
      rfl
    have hle := (List.take_sublist_take_left (l := l) (show i + 1 ≤ j by omega)).countP_le (p := p)
    rw [htake, List.countP_append, List.countP_singleton, if_pos ha] at hle
    omega
  rcases lt_trichotomy i j with hij | hij | hij
  · have := hlt hi ha hij
    omega
  · exact hij
  · have := hlt hj hb hij
    omega

namespace System

variable {S : System Res Call α} {Tick : Type} (mine : Call → Bool) (tick : S.Env → Tick)

/-- The calls of the group, in the order in which they started. -/
def Config.group (c : S.Config) : List (Thread Res Call α) :=
  c.threads.filter fun th => mine th.call

/-- They are the group's among all calls. -/
theorem Config.group_calls (c : S.Config) : (c.group mine).map Thread.call = c.calls.filter mine := by
  unfold Config.group Config.calls
  rw [List.filter_map]
  rfl

/-- Whether a call is of the group. -/
def Config.member (c : S.Config) (tid : ℕ) : Bool := c.threads[tid]?.any fun th => mine th.call

/-- The number of a call in the group. -/
def Config.rank (c : S.Config) (tid : ℕ) : ℕ :=
  (c.threads.take tid).countP fun th => mine th.call

/-- The steps of the group in a history. -/
def Config.trace (c : S.Config) (h : List (Step S.toMachine)) : List (GroupStep Res Tick) :=
  (h.zip (S.events h)).filterMap fun s =>
    if c.member mine s.1.tid then some ⟨c.rank mine s.1.tid, s.2, tick s.1.env⟩ else none

variable {mine tick} {c c' : S.Config} {h : List (Step S.toMachine)} {e : Step S.toMachine}

/-- One step adds itself, if it is of the group. -/
theorem Config.trace_concat : c.trace mine tick (h ++ [e]) = c.trace mine tick h ++
    if c.member mine e.tid then [⟨c.rank mine e.tid, S.event h e, tick e.env⟩] else [] := by
  unfold Config.trace
  rw [Machine.events_concat, List.zip_append (S.events_length h).symm, List.filterMap_append]
  congr 1
  show List.filterMap _ [(e, S.event h e)] = _
  rw [List.filterMap_cons]
  split <;> split at * <;> simp_all

/-- A step of the trace is a step of the history. -/
theorem Config.occurs_of_trace {pre : List (GroupStep Res Tick)} {s : GroupStep Res Tick}
    (hs : pre ++ [s] <+: c.trace mine tick h) : ∃ pre' e, Occurs h pre' e ∧
      c.member mine e.tid = true ∧ pre = c.trace mine tick pre' ∧
      s = ⟨c.rank mine e.tid, S.event pre' e, tick e.env⟩ := by
  induction h using List.reverseRecOn with
  | nil => exact absurd (List.prefix_nil.mp hs) (by simp)
  | append_singleton h e ih =>
    rw [Config.trace_concat] at hs
    split at hs
    · rename_i hmember
      rcases List.prefix_concat_iff.mp hs with heq | hbefore
      · obtain ⟨rfl, hlast⟩ := List.append_inj' heq rfl
        exact ⟨h, e, Occurs.last, hmember, rfl, List.singleton_inj.mp hlast⟩
      · obtain ⟨pre', e', ho, hrest⟩ := ih hbefore
        exact ⟨pre', e', ho.mono (List.prefix_append _ _), hrest⟩
    · rw [List.append_nil] at hs
      obtain ⟨pre', e', ho, hrest⟩ := ih hs
      exact ⟨pre', e', ho.mono (List.prefix_append _ _), hrest⟩

/-- A member of the group has a call. -/
theorem Config.member_iff {tid : ℕ} : c.member mine tid = true ↔
    ∃ th, c.threads[tid]? = some th ∧ mine th.call = true := by
  unfold Config.member
  rw [Option.any_eq_true]

/-- What a call of the group has seen, by its number. -/
theorem Config.eventsOf_trace {tid : ℕ} (hmember : c.member mine tid = true) :
    eventsOf (c.rank mine tid) (c.trace mine tick h) = S.own tid h := by
  induction h using List.reverseRecOn with
  | nil => rfl
  | append_singleton h e ih =>
    rw [Config.trace_concat, Machine.own_concat, ← ih]
    unfold eventsOf
    rw [List.filter_append, List.map_append]
    congr 1
    by_cases htid : e.tid = tid
    · rw [htid, if_pos hmember, if_pos rfl]
      simp
    · rw [if_neg htid]
      split
      · rename_i hother
        -- Another member has another number.
        have hne : c.rank mine e.tid ≠ c.rank mine tid := by
          intro heq
          obtain ⟨th, hth, hmine⟩ := Config.member_iff.mp hother
          obtain ⟨th', hth', hmine'⟩ := Config.member_iff.mp hmember
          exact htid (countP_take_inj (p := fun th : Thread Res Call α => mine th.call) hth hth'
            hmine hmine' heq)
        simp [hne]
      · rfl

/-- The trace of a run is one of the group's calls. -/
theorem Reachable.traceOf (hc : S.Reachable c) :
    TraceOf S.body ((c.group mine).map Thread.call) (c.trace mine tick c.history) := by
  intro pre s hs
  obtain ⟨pre', e, ho, hmember, rfl, rfl⟩ := Config.occurs_of_trace hs
  obtain ⟨-, th, hth, -, k, hfol⟩ := hc.coherent.occurs pre' e ho
  have hmine : mine th.call = true := by
    obtain ⟨th', hth', hmine⟩ := Config.member_iff.mp hmember
    obtain rfl : th = th' := Option.some.inj (hth.symm.trans hth')
    exact hmine
  refine ⟨th.call, k, ?_, ?_⟩
  · have hget : (c.group mine)[c.rank mine e.tid]? = some th :=
      getElem?_filter_iff.mpr ⟨e.tid, hth, hmine, rfl⟩
    show ((c.group mine).map Thread.call)[c.rank mine e.tid]? = some th.call
    rw [List.getElem?_map, hget]
    rfl
  · rw [Config.eventsOf_trace hmember]
    exact hfol

variable {Q : (op : Op) → Res op → Res op → Prop} {K : α → α → Prop}
  {D : List (Op × Tick) → (op : Op) → Tick → Res op → Prop}

/-- The group's steps in a run come of turns. -/
def Config.Turns (c : S.Config) (mine : Call → Bool) (tick : S.Env → Tick) (turns : List (ℕ × Tick)) :
    Prop :=
  Interleaving.Turns S.body ((c.group mine).map Thread.call) turns (c.trace mine tick c.history)

/-- A call of the group that has not died has followed what it has seen. -/
theorem Reachable.follows_of_group (hc : S.Reachable c) {i : ℕ} {th : Thread Res Call α}
    (hth : (c.group mine)[i]? = some th) (halive : th.prog ≠ .pure S.aborted) :
    (S.body th.call).Follows (eventsOf i (c.trace mine tick c.history)) th.prog := by
  obtain ⟨tid, hget, hmine, hrank⟩ := getElem?_filter_iff.mp hth
  obtain ⟨p, hfol, hprog | hdead⟩ := (hc.coherent.thread tid th hget).follows
  · rw [← show c.rank mine tid = i from hrank,
      Config.eventsOf_trace (Config.member_iff.mpr ⟨th, hget, hmine⟩), hprog]
    exact hfol
  · exact absurd hdead halive

/-- The turns of a call that has returned are skipped. -/
theorem Config.Turns.skips {turns : List (ℕ × Tick)} (h : c.Turns mine tick turns)
    (hc : S.Reachable c) {i : ℕ} {th : Thread Res Call α} {a : α} (hth : (c.group mine)[i]? = some th)
    (ha : th.prog = .pure a) (halive : a ≠ S.aborted) (n : ℕ) (t : Tick) :
    c.Turns mine tick (turns ++ List.replicate n (i, t)) := by
  induction n with
  | zero => simpa using h
  | succ n ih =>
    rw [List.replicate_succ', ← List.append_assoc]
    refine Interleaving.Turns.skip ih ⟨th.call, a, ?_, ?_⟩ t
    · rw [List.getElem?_map, hth]
      rfl
    · rw [← ha]
      exact hc.follows_of_group hth fun hdead => halive (Prog.pure.inj (ha.symm.trans hdead))

/-- Two runs in which a group makes the same calls and these get the same turns are alike for the
group, where its own operations determine its answers and none of its calls has died. -/
theorem group_alike {turns : List (ℕ × Tick)} (hc : S.Reachable c) (hc' : S.Reachable c')
    (hcalls : ∀ call, mine call = true → (S.body call).Alike Q K (S.body call))
    (hD : ∀ past op t r r', D past op t r → D past op t r' → Q op r r')
    (hdet : Determined D (c.trace mine tick c.history))
    (hdet' : Determined D (c'.trace mine tick c'.history))
    (halive : ∀ th ∈ c.group mine, th.prog ≠ .pure S.aborted)
    (halive' : ∀ th ∈ c'.group mine, th.prog ≠ .pure S.aborted)
    (hgroup : (c.group mine).map Thread.call = (c'.group mine).map Thread.call)
    (hturns : c.Turns mine tick turns) (hturns' : c'.Turns mine tick turns) :
    List.Forall₂ (fun th th' => th.call = th'.call ∧ th.prog.Alike Q K th'.prog) (c.group mine)
      (c'.group mine) := by
  have hlength : (c.group mine).length = (c'.group mine).length := by
    have hlength := congrArg List.length hgroup
    rwa [List.length_map, List.length_map] at hlength
  have hmine : ∀ call ∈ (c.group mine).map Thread.call, mine call = true := by
    intro call hcall
    obtain ⟨th, hth, rfl⟩ := List.mem_map.mp hcall
    exact (List.mem_filter.mp hth).2
  have htraces : List.Forall₂ (StepAlike Q) (c.trace mine tick c.history)
      (c'.trace mine tick c'.history) :=
    trace_alike (fun call hcall => hcalls call (hmine call hcall)) hD hc.traceOf
      (hgroup ▸ hc'.traceOf) hdet hdet' hturns (hgroup ▸ hturns')
  rw [List.forall₂_iff_get]
  refine ⟨hlength, fun i hi hi' => ?_⟩
  have hth := List.getElem?_eq_getElem hi
  have hth' := List.getElem?_eq_getElem hi'
  have hcall : ((c.group mine).get ⟨i, hi⟩).call = ((c'.group mine).get ⟨i, hi'⟩).call := by
    have hget := congrArg (fun l : List Call => l[i]?) hgroup
    simpa [hi, hi'] using hget
  have hmem := List.getElem_mem hi
  have hfol : (S.body (c.group mine)[i].call).Follows (eventsOf i (c.trace mine tick c.history))
      (c.group mine)[i].prog := hc.follows_of_group hth (halive _ hmem)
  have hfol' : (S.body (c'.group mine)[i].call).Follows (eventsOf i (c'.trace mine tick c'.history))
      (c'.group mine)[i].prog := hc'.follows_of_group hth' (halive' _ (List.getElem_mem hi'))
  refine ⟨hcall, Prog.Alike.follows ?_ hfol hfol' (eventsOf_alike htraces i)⟩
  have hsame := hcalls _ (List.mem_filter.mp hmem).2
  rwa [show S.body (c'.group mine)[i].call = S.body (c.group mine)[i].call from
    congrArg S.body hcall.symm]

end System

end Interleaving

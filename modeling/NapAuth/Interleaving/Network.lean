import Mathlib.Logic.Function.Basic
import NapAuth.Interleaving.Replay

/-!
# Systems that send each other messages

The parties of a `Network` are systems of their own and share no state. With what a party does it may
post messages, and each goes to every other party that is open and listens at the time. A message is in
flight until its receiver takes it, in any order and after any delay: by an operation that is a receipt
of it, or by starting a call that hears it.

What is shown here holds of any parties. Each of them behaves as it does alone (`Reaches.party`). A
message that is no longer in flight was taken by a receipt (`Reaches.taken`), and whatever a receipt has
taken, or a call has heard, was posted by another party before (`Reachable.posted`, `Reachable.heard`).
-/

namespace Interleaving

variable {ι Msg : Type} {Op : ι → Type} {Res : (i : ι) → Op i → Type} {Call α : ι → Type}

/-- Parties that post messages to each other. -/
structure Network (ι Msg : Type) {Op : ι → Type} (Res : (i : ι) → Op i → Type) (Call α : ι → Type) where
  /-- The parties. -/
  party : (i : ι) → System (Res i) (Call i) (α i)
  /-- What an event makes a party post, in the state after it. -/
  posts : (i : ι) → (party i).State → Event (Res i) → List Msg
  /-- The messages that an operation is a receipt of, if it is one. -/
  receipt : (i : ι) → Op i → Option (Msg → Bool)
  /-- The messages that a call hears, if it is started by one. -/
  hears : (i : ι) → Call i → Option (Msg → Bool)
  /-- Whether a party listens. -/
  listens : (i : ι) → (party i).State → Bool

namespace Network

variable (N : Network ι Msg Res Call α)

/-- The parties, which of them are open, and the messages in flight to each of them. -/
structure Config where
  party : (i : ι) → (N.party i).Config
  opened : ι → Bool
  flight : ι → List Msg

/-- What moves a network. -/
inductive Label where
  /-- A party opens. -/
  | opens (i : ι)
  /-- A party moves. -/
  | moves (i : ι) (l : (N.party i).Label)

/-- Nothing has happened, and no party is open. -/
def initial : N.Config := ⟨fun i => (N.party i).initial, fun _ => false, fun _ => []⟩

variable [DecidableEq ι]

/-- The messages in flight, when the party `i` has posted some more. -/
def deliver (c : N.Config) (i : ι) (posted : List Msg) (j : ι) : List Msg :=
  if j ≠ i ∧ c.opened j = true ∧ N.listens j (c.party j).state = true then c.flight j ++ posted
  else c.flight j

/-- A party has moved, with some messages in flight now, and takes one if it has to. -/
def take (c : N.Config) (i : ι) (d : (N.party i).Config) (flight : ι → List Msg)
    (takes : Option (Msg → Bool)) : Option N.Config :=
  match takes with
  | none => some ⟨Function.update c.party i d, c.opened, flight⟩
  | some takes =>
    if (c.flight i).any takes then
      some ⟨Function.update c.party i d, c.opened,
        Function.update flight i ((c.flight i).eraseP takes)⟩
    else none

/-- A party has executed a step, which posts its messages and takes the one it is a receipt of. -/
def execute (c : N.Config) (i : ι) (d : (N.party i).Config) (e : Step (N.party i).toMachine) :
    Option N.Config :=
  N.take c i d (N.deliver c i (N.posts i d.state ⟨e.op, ((N.party i).exec e.op e.env (c.party i).state).1⟩))
    (N.receipt i e.op)

/-- The messages that a party's move hears, if it starts a call. -/
def heardBy (i : ι) : (N.party i).Label → Option (Msg → Bool)
  | .start call => N.hears i call
  | _ => none

/-- One move. A party that is not open does nothing, and a receipt needs a message in flight. -/
def step (c : N.Config) : N.Label → Option N.Config
  | .opens i => some { c with opened := Function.update c.opened i true }
  | .moves i l =>
    if c.opened i then
      ((N.party i).step (c.party i) l).bind fun d =>
        match d.history.drop (c.party i).history.length with
        | [] => N.take c i d c.flight (N.heardBy i l)
        | e :: _ => N.execute c i d e
    else none

/-- The configuration after some moves. -/
def run (c : N.Config) : List N.Label → Option N.Config
  | [] => some c
  | l :: ls => (N.step c l).bind fun c' => run c' ls

/-- One move leads from `c` to `c'`. -/
def Next (c c' : N.Config) : Prop := ∃ l, N.step c l = some c'

/-- Some moves lead from `c` to `c'`. -/
def Reaches (c c' : N.Config) : Prop := Relation.ReflTransGen N.Next c c'

/-- The configurations of the network's runs. -/
def Reachable (c : N.Config) : Prop := N.Reaches N.initial c

variable {N} {c c' : N.Config} {i j : ι} {msg : Msg}

/-- A run that has been computed reaches its last configuration. -/
theorem reaches_of_run {ls : List N.Label} (h : N.run c ls = some c') : N.Reaches c c' := by
  induction ls generalizing c with
  | nil =>
    obtain rfl : c = c' := Option.some.inj h
    exact Relation.ReflTransGen.refl
  | cons l ls ih =>
    obtain ⟨c1, h1, h2⟩ := Option.bind_eq_some_iff.mp h
    exact Relation.ReflTransGen.head ⟨l, h1⟩ (ih h2)

/-- A computation makes a reachable configuration, a move from it, and a later one. -/
theorem exists_run (ls : List N.Label) (l : N.Label) (ls' : List N.Label)
    (p : N.Config → N.Config → N.Config → Bool)
    (h : ((N.run N.initial ls).any fun c => (N.step c l).any fun c1 => (N.run c1 ls').any (p c c1)) =
      true) :
    ∃ c c1 c', N.Reachable c ∧ N.Next c c1 ∧ N.Reaches c1 c' ∧ p c c1 c' = true := by
  obtain ⟨c, hc, h⟩ := (Option.any_eq_true _ _).mp h
  obtain ⟨c1, hc1, h⟩ := (Option.any_eq_true _ _).mp h
  obtain ⟨c', hc', hp⟩ := (Option.any_eq_true _ _).mp h
  exact ⟨c, c1, c', reaches_of_run hc, ⟨l, hc1⟩, reaches_of_run hc', hp⟩

/-! ## One move -/

/-- The party `i` takes a message that `takes` asks for, if it asks for one. -/
structure Takes (c c' : N.Config) (i : ι) (takes : Option (Msg → Bool)) : Prop where
  kept : takes = none → c'.flight i = c.flight i
  took : ∀ f, takes = some f → (c.flight i).any f = true ∧ c'.flight i = (c.flight i).eraseP f

/-- The party `i` executes the step `e`. -/
structure Executes (c c' : N.Config) (i : ι) (e : Step (N.party i).toMachine) : Prop where
  opened : c.opened i = true
  next : (N.party i).Next (c.party i) (c'.party i)
  history : (c'.party i).history = (c.party i).history ++ [e]
  calls : (c'.party i).calls = (c.party i).calls
  others : ∀ j, j ≠ i → c'.party j = c.party j
  stays : c'.opened = c.opened
  /-- Every other party that listens is sent what the step posts. -/
  sent : ∀ j, j ≠ i → c'.flight j = N.deliver c i (N.posts i (c'.party i).state
    ⟨e.op, ((N.party i).exec e.op e.env (c.party i).state).1⟩) j
  /-- A receipt takes a message, and a step that is none takes nothing. -/
  takes : Takes c c' i (N.receipt i e.op)

/-- The party `i` moves and executes nothing: it starts some call, or none. -/
structure Idles (c c' : N.Config) (i : ι) (call : Option (Call i)) : Prop where
  opened : c.opened i = true
  next : (N.party i).Next (c.party i) (c'.party i)
  history : (c'.party i).history = (c.party i).history
  calls : (c'.party i).calls = (c.party i).calls ++ call.toList
  others : ∀ j, j ≠ i → c'.party j = c.party j
  stays : c'.opened = c.opened
  sent : ∀ j, j ≠ i → c'.flight j = c.flight j
  /-- A call that is started by a message takes it. -/
  takes : Takes c c' i (call.bind (N.hears i))

namespace Takes

variable {takes : Option (Msg → Bool)}

omit [DecidableEq ι] in
/-- What is in flight to a party that takes a message was so before. -/
theorem subset (h : Takes c c' i takes) : c'.flight i ⊆ c.flight i := by
  intro msg hmem
  cases takes with
  | none => exact h.kept rfl ▸ hmem
  | some f => exact List.mem_of_mem_eraseP ((h.took f rfl).2 ▸ hmem)

omit [DecidableEq ι] in
/-- A message that is not in flight any more has been asked for. -/
theorem of_gone (h : Takes c c' i takes) (hmem : msg ∈ c.flight i) (hnot : msg ∉ c'.flight i) :
    ∃ f, takes = some f ∧ f msg = true := by
  cases takes with
  | none => exact absurd (h.kept rfl ▸ hmem) hnot
  | some f =>
    refine ⟨f, rfl, ?_⟩
    by_contra hneg
    rw [(h.took f rfl).2, List.mem_eraseP_of_neg hneg] at hnot
    exact hnot hmem

omit [DecidableEq ι] in
/-- What is asked for was in flight. -/
theorem exists_mem {f : Msg → Bool} (h : Takes c c' i (some f)) :
    ∃ msg ∈ c.flight i, f msg = true :=
  List.any_eq_true.mp (h.took f rfl).1

end Takes

/-- A party that takes a message has moved, and no other one has. -/
theorem take_party {d : (N.party i).Config} {flight : ι → List Msg} {takes : Option (Msg → Bool)}
    (h : N.take c i d flight takes = some c') : c'.party = Function.update c.party i d := by
  unfold take at h
  split at h
  · obtain rfl := Option.some.inj h
    rfl
  · split_ifs at h
    obtain rfl := Option.some.inj h
    rfl

/-- Taking a message does this. -/
theorem take_eq_some {d : (N.party i).Config} {flight : ι → List Msg} {takes : Option (Msg → Bool)}
    (hflight : flight i = c.flight i) (h : N.take c i d flight takes = some c') :
    c'.opened = c.opened ∧ (∀ j, j ≠ i → c'.flight j = flight j) ∧ Takes c c' i takes := by
  unfold take at h
  split at h
  · obtain rfl := Option.some.inj h
    exact ⟨rfl, fun _ _ => rfl, ⟨fun _ => hflight, fun f hf => (by cases hf)⟩⟩
  · rename_i f
    split_ifs at h with hany
    obtain rfl := Option.some.inj h
    refine ⟨rfl, fun j hj => Function.update_of_ne hj _ _, ⟨fun hnone => (by cases hnone),
      fun f' hf => ?_⟩⟩
    obtain rfl := Option.some.inj hf
    exact ⟨hany, Function.update_self ..⟩

/-- A party that does not move stays as it is. -/
theorem step_party {l : N.Label} (h : N.step c l = some c') (hl : ∀ l', l ≠ .moves j l') :
    c'.party j = c.party j := by
  cases l with
  | opens i =>
    obtain rfl := Option.some.inj h
    rfl
  | moves i l =>
    have hji : j ≠ i := by
      rintro rfl
      exact hl l rfl
    simp only [step] at h
    split at h
    · obtain ⟨d, -, h⟩ := Option.bind_eq_some_iff.mp h
      split at h
      · rw [take_party h, Function.update_of_ne hji]
      · rw [execute] at h
        rw [take_party h, Function.update_of_ne hji]
    · cases h

/-- And so does one that does not move in a run. -/
theorem run_party {ls : List N.Label} (h : N.run c ls = some c') (hls : ∀ l, .moves j l ∉ ls) :
    c'.party j = c.party j := by
  induction ls generalizing c with
  | nil =>
    obtain rfl : c = c' := Option.some.inj h
    rfl
  | cons l ls ih =>
    obtain ⟨c1, h1, h2⟩ := Option.bind_eq_some_iff.mp h
    rw [ih h2 fun l' hmem => hls l' (List.mem_cons_of_mem _ hmem)]
    exact step_party h1 fun l' heq => hls l' (heq ▸ List.mem_cons_self)

/-- What one move can do: open a party, move one that executes nothing, or execute a step. -/
theorem Next.cases (h : N.Next c c') :
    (c'.party = c.party ∧ c'.flight = c.flight ∧ ∀ j, c.opened j = true → c'.opened j = true) ∨
    (∃ i call, Idles c c' i call) ∨ ∃ i e, Executes c c' i e := by
  obtain ⟨l, h⟩ := h
  cases l with
  | opens i =>
    obtain rfl := Option.some.inj h
    refine Or.inl ⟨rfl, rfl, fun j hj => ?_⟩
    by_cases hji : j = i
    · exact hji ▸ Function.update_self ..
    · exact (Function.update_of_ne hji _ _).trans hj
  | moves i l =>
    simp only [step] at h
    split at h
    · rename_i hopened
      obtain ⟨d, hd, h⟩ := Option.bind_eq_some_iff.mp h
      have hnext : (N.party i).Next (c.party i) d := ⟨l, hd⟩
      have hcalls := System.calls_step hd
      obtain ⟨t, ht⟩ : (c.party i).history <+: d.history :=
        System.Reaches.history_mono (Relation.ReflTransGen.single hnext)
      rw [← ht, List.drop_left] at h
      cases t with
      | nil =>
        rw [List.append_nil] at ht
        obtain ⟨hstays, hsent, htakes⟩ := take_eq_some rfl h
        have hparty := take_party h
        have hself : c'.party i = d := by rw [hparty, Function.update_self]
        have hothers : ∀ j, j ≠ i → c'.party j = c.party j := fun j hj => by
          rw [hparty, Function.update_of_ne hj]
        have hidles : ∀ call : Option (Call i), System.starts [l] = call.toList →
            N.heardBy i l = call.bind (N.hears i) → Idles c c' i call := fun call hstarts hheard =>
          ⟨hopened, hself ▸ hnext, hself ▸ ht.symm, by rw [hself, hcalls, hstarts], hothers, hstays,
            hsent, hheard ▸ htakes⟩
        refine Or.inr (Or.inl ⟨i, ?_⟩)
        cases l with
        | start call => exact ⟨some call, hidles (some call) rfl rfl⟩
        | run tid env => exact ⟨none, hidles none rfl rfl⟩
        | lost tid env => exact ⟨none, hidles none rfl rfl⟩
        | crash tid => exact ⟨none, hidles none rfl rfl⟩
      | cons e t =>
        -- A move executes one step at most, and one that executes a step starts no call.
        have hone : t = [] ∧ System.starts [l] = [] := by
          rcases hnext.cases with ⟨call, rfl⟩ | ⟨tid, env, th, op, k, p, hth, -, -, -, rfl⟩ |
            ⟨tid, th, op, k, -, -, rfl⟩
          · exact absurd (congrArg List.length ht) (by simp)
          · refine ⟨(List.cons.inj (List.append_cancel_left ht)).2, ?_⟩
            have hset := System.calls_set hth p
            rw [System.Config.calls, hset] at hcalls
            exact List.append_cancel_left (hcalls.symm.trans (List.append_nil _).symm)
          · exact absurd (congrArg List.length ht) (by simp)
        obtain ⟨rfl, hstarts⟩ := hone
        have hunsent : N.deliver c i (N.posts i d.state
            ⟨e.op, ((N.party i).exec e.op e.env (c.party i).state).1⟩) i = c.flight i :=
          if_neg fun h => h.1 rfl
        obtain ⟨hstays, hsent, htakes⟩ := take_eq_some hunsent h
        have hparty := take_party h
        have hself : c'.party i = d := by rw [hparty, Function.update_self]
        refine Or.inr (Or.inr ⟨i, e, hopened, hself ▸ hnext, hself ▸ ht.symm, ?_, fun j hj => ?_,
          hstays, fun j hj => hself ▸ hsent j hj, htakes⟩)
        · rw [hself, hcalls, hstarts, List.append_nil]
        · rw [hparty, Function.update_of_ne hj]
    · cases h

/-- A move that makes a party's history longer executes its last step. -/
theorem Next.executes (h : N.Next c c') {e : Step (N.party i).toMachine}
    (hstep : (c'.party i).history = (c.party i).history ++ [e]) : Executes c c' i e := by
  have hsame : (c'.party i).history = (c.party i).history → Executes c c' i e := fun heq => by
    rw [heq] at hstep
    exact absurd (congrArg List.length hstep) (by simp)
  rcases h.cases with ⟨hparty, -, -⟩ | ⟨i', call, hidles⟩ | ⟨i', e', hexec⟩
  · exact hsame (by rw [hparty])
  · by_cases hi : i = i'
    · subst hi
      exact hsame hidles.history
    · exact hsame (by rw [hidles.others i hi])
  · by_cases hi : i = i'
    · subst hi
      obtain rfl := List.singleton_inj.mp (List.append_cancel_left (hexec.history.symm.trans hstep))
      exact hexec
    · exact hsame (by rw [hexec.others i hi])

/-- A party that has moved has moved as it does alone, or not at all. -/
theorem Next.party (h : N.Next c c') (j : ι) :
    c'.party j = c.party j ∨ (N.party j).Next (c.party j) (c'.party j) := by
  rcases h.cases with ⟨hsame, -, -⟩ | ⟨i, call, hidles⟩ | ⟨i, e, hexec⟩
  · exact Or.inl (congrFun hsame j)
  · by_cases hji : j = i
    · exact Or.inr (hji ▸ hidles.next)
    · exact Or.inl (hidles.others j hji)
  · by_cases hji : j = i
    · exact Or.inr (hji ▸ hexec.next)
    · exact Or.inl (hexec.others j hji)

/-- What is in flight to a party after a move was in flight before, or another party has posted it. -/
theorem Next.mem_flight (h : N.Next c c') (hmem : msg ∈ c'.flight j) : msg ∈ c.flight j ∨
    ∃ i e, i ≠ j ∧ Executes c c' i e ∧ msg ∈ N.posts i (c'.party i).state
      ⟨e.op, ((N.party i).exec e.op e.env (c.party i).state).1⟩ := by
  rcases h.cases with ⟨-, hsame, -⟩ | ⟨i, call, hidles⟩ | ⟨i, e, hexec⟩
  · exact Or.inl (hsame ▸ hmem)
  · by_cases hji : j = i
    · subst hji
      exact Or.inl (hidles.takes.subset hmem)
    · exact Or.inl (hidles.sent j hji ▸ hmem)
  · by_cases hji : j = i
    · subst hji
      exact Or.inl (hexec.takes.subset hmem)
    · rw [hexec.sent j hji, deliver] at hmem
      split at hmem
      · exact (List.mem_append.mp hmem).imp_right fun hposted => ⟨i, e, Ne.symm hji, hexec, hposted⟩
      · exact Or.inl hmem

/-- A message that a move takes out of flight is taken by its party: by a call that it starts, or by a
receipt. -/
theorem Next.taken (h : N.Next c c') (hmem : msg ∈ c.flight j) (hnot : msg ∉ c'.flight j) :
    (∃ call takes, Idles c c' j (some call) ∧ N.hears j call = some takes ∧ takes msg = true) ∨
    ∃ e takes, Executes c c' j e ∧ N.receipt j e.op = some takes ∧ takes msg = true := by
  rcases h.cases with ⟨-, hsame, -⟩ | ⟨i, call, hidles⟩ | ⟨i, e, hexec⟩
  · exact absurd (hsame ▸ hmem) hnot
  · by_cases hji : j = i
    · subst hji
      obtain ⟨takes, htakes, htaken⟩ := hidles.takes.of_gone hmem hnot
      obtain ⟨call, rfl, hhears⟩ := Option.bind_eq_some_iff.mp htakes
      exact Or.inl ⟨call, takes, hidles, hhears, htaken⟩
    · exact absurd (hidles.sent j hji ▸ hmem) hnot
  · by_cases hji : j = i
    · subst hji
      obtain ⟨takes, htakes, htaken⟩ := hexec.takes.of_gone hmem hnot
      exact Or.inr ⟨e, takes, hexec, htakes, htaken⟩
    · rw [hexec.sent j hji, deliver] at hnot
      split at hnot
      · exact absurd (List.mem_append_left _ hmem) hnot
      · exact absurd hmem hnot

/-! ## Runs -/

/-- Each party runs as it does alone. -/
theorem Reaches.party (h : N.Reaches c c') (j : ι) :
    (N.party j).Reaches (c.party j) (c'.party j) := by
  induction h with
  | refl => exact Relation.ReflTransGen.refl
  | tail _ hn ih =>
    rcases hn.party j with hsame | hnext
    · exact hsame ▸ ih
    · exact ih.tail hnext

/-- A party of a run is one of a run of its own. -/
theorem Reachable.party (h : N.Reachable c) (j : ι) : (N.party j).Reachable (c.party j) :=
  Reaches.party h j

/-- A move leaves what every party has executed. -/
theorem Next.history_mono (h : N.Next c c') (j : ι) :
    (c.party j).history <+: (c'.party j).history :=
  (Reaches.party (Relation.ReflTransGen.single h) j).history_mono

/-- A message that was in flight and is not any more was taken by a receipt of its party in between, if
no call of the party hears messages. -/
theorem Reaches.taken (h : N.Reaches c c') (hdeaf : ∀ call, N.hears j call = none)
    (hmem : msg ∈ c.flight j) (hnot : msg ∉ c'.flight j) :
    ∃ pre e takes, Occurs (c'.party j).history pre e ∧ (c.party j).history <+: pre ∧
      N.receipt j e.op = some takes ∧ takes msg = true := by
  induction h with
  | refl => exact absurd hmem hnot
  | @tail c1 c2 hr hn ih =>
    by_cases hstill : msg ∈ c1.flight j
    · rcases hn.taken hstill hnot with ⟨call, takes, -, hhears, -⟩ | ⟨e, takes, hexec, hreceipt, htakes⟩
      · rw [hdeaf] at hhears
        cases hhears
      · refine ⟨(c1.party j).history, e, takes, ?_, (Reaches.party hr j).history_mono, hreceipt,
          htakes⟩
        rw [hexec.history]
        exact Occurs.last
    · obtain ⟨pre, e, takes, ho, hrest⟩ := ih hstill
      exact ⟨pre, e, takes, ho.mono (hn.history_mono j), hrest⟩

/-- The step `e` of the party `i`, after the history `pre`, has posted a message. -/
def PostedAt (N : Network ι Msg Res Call α) (i : ι) (pre : List (Step (N.party i).toMachine))
    (e : Step (N.party i).toMachine) (msg : Msg) : Prop :=
  msg ∈ N.posts i ((N.party i).after (pre ++ [e])) ((N.party i).event pre e)

/-- A party other than `j` has posted a message. -/
def Posted (c : N.Config) (j : ι) (msg : Msg) : Prop :=
  ∃ i pre e, i ≠ j ∧ Occurs (c.party i).history pre e ∧ N.PostedAt i pre e msg

/-- What has been posted stays so. -/
theorem Posted.mono (h : Posted c j msg) (hn : N.Next c c') : Posted c' j msg := by
  obtain ⟨i, pre, e, hij, ho, hposted⟩ := h
  exact ⟨i, pre, e, hij, ho.mono (hn.history_mono i), hposted⟩

/-- A message in flight was posted by another party. -/
theorem Reachable.flight_posted (h : N.Reachable c) (hmem : msg ∈ c.flight j) : Posted c j msg := by
  induction h with
  | refl => cases hmem
  | @tail c1 c2 hr hn ih =>
    rcases hn.mem_flight hmem with hold | ⟨i, e, hij, hexec, hposted⟩
    · exact (ih hold).mono hn
    · refine ⟨i, (c1.party i).history, e, hij, ?_, ?_⟩
      · rw [hexec.history]
        exact Occurs.last
      · have hbefore := (Reachable.party hr i).coherent.state_eq
        have hafter := (Reachable.party (hr.tail hn) i).coherent.state_eq
        rw [hexec.history] at hafter
        rw [PostedAt, ← hafter, Machine.event, ← hbefore]
        exact hposted

/-- Whatever a receipt has taken was posted by another party. -/
theorem Reachable.posted (h : N.Reachable c) {pre : List (Step (N.party j).toMachine)}
    {e : Step (N.party j).toMachine} {takes : Msg → Bool} (ho : Occurs (c.party j).history pre e)
    (hreceipt : N.receipt j e.op = some takes) : ∃ msg, takes msg = true ∧ Posted c j msg := by
  induction h with
  | refl => exact absurd ho not_occurs_nil
  | @tail c1 c2 hr hn ih =>
    have hold : Occurs (c1.party j).history pre e → ∃ msg, takes msg = true ∧ Posted c2 j msg :=
      fun ho => by
        obtain ⟨msg, htakes, hposted⟩ := ih ho
        exact ⟨msg, htakes, hposted.mono hn⟩
    rcases hn.cases with ⟨hsame, -, -⟩ | ⟨i, call, hidles⟩ | ⟨i, e', hexec⟩
    · exact hold (hsame ▸ ho)
    · by_cases hji : j = i
      · subst hji
        exact hold (hidles.history ▸ ho)
      · exact hold (hidles.others j hji ▸ ho)
    · by_cases hji : j = i
      · subst hji
        rw [hexec.history] at ho
        rcases occurs_concat.mp ho with ⟨rfl, rfl⟩ | ho
        · obtain ⟨msg, hmem, htakes⟩ := Takes.exists_mem (hreceipt ▸ hexec.takes)
          exact ⟨msg, htakes, (Reachable.flight_posted hr hmem).mono hn⟩
        · exact hold ho
      · exact hold (hexec.others j hji ▸ ho)

/-- Whatever a call has heard was posted by another party. -/
theorem Reachable.heard (h : N.Reachable c) {call : Call j} {takes : Msg → Bool}
    (hcall : call ∈ (c.party j).calls) (hhears : N.hears j call = some takes) :
    ∃ msg, takes msg = true ∧ Posted c j msg := by
  induction h with
  | refl => cases hcall
  | @tail c1 c2 hr hn ih =>
    have hold : call ∈ (c1.party j).calls → ∃ msg, takes msg = true ∧ Posted c2 j msg := fun hcall => by
      obtain ⟨msg, htakes, hposted⟩ := ih hcall
      exact ⟨msg, htakes, hposted.mono hn⟩
    rcases hn.cases with ⟨hsame, -, -⟩ | ⟨i, call', hidles⟩ | ⟨i, e', hexec⟩
    · exact hold (hsame ▸ hcall)
    · by_cases hji : j = i
      · subst hji
        rw [hidles.calls] at hcall
        rcases List.mem_append.mp hcall with hcall | hcall
        · exact hold hcall
        · have htakes := hidles.takes
          rw [Option.mem_toList.mp hcall, Option.bind_some, hhears] at htakes
          obtain ⟨msg, hmem, htakes⟩ := htakes.exists_mem
          exact ⟨msg, htakes, (Reachable.flight_posted hr hmem).mono hn⟩
      · exact hold (hidles.others j hji ▸ hcall)
    · by_cases hji : j = i
      · subst hji
        exact hold (hexec.calls ▸ hcall)
      · exact hold (hexec.others j hji ▸ hcall)

/-- What a step of the party `i` posts is in flight to every other party that is open and listens. -/
theorem Executes.in_flight {e : Step (N.party i).toMachine} (h : Executes c c' i e)
    (hc : N.Reachable c) (hc' : N.Reachable c') (hposted : N.PostedAt i (c.party i).history e msg)
    (hij : i ≠ j) (hopened : c.opened j = true) (hlistens : N.listens j (c.party j).state = true) :
    msg ∈ c'.flight j := by
  have hafter := (hc'.party i).coherent.state_eq
  rw [h.history] at hafter
  rw [PostedAt, Machine.event, ← (hc.party i).coherent.state_eq, ← hafter] at hposted
  rw [h.sent j hij.symm, deliver, if_pos ⟨hij.symm, hopened, hlistens⟩]
  exact List.mem_append_right _ hposted

end Network

end Interleaving

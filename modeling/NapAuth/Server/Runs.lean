import NapAuth.Server.Logic
import NapAuth.Server.System

/-!
# Runs of the server

What every run of the server has in common, whatever the stores do: each operation is justified by
what its call has seen (`justified`), a call that has returned is explained by its events
(`explained`), no string is drawn twice (`drawn_unique`), and a clock reading is the clock of its
step (`exists_occurs_of_hasRead`).

The two hypotheses on clocks that claims make are `PositiveClock` and `OneClock`.
-/

namespace NapAuth

open Interleaving

variable {P : Platform} {O : NapServerOptions} {cb sb : Backend} {h h' pre pre' : History cb sb}
  {e e' : Step (machine cb sb)}

/-! ## Calls -/

/-- The call `tid` was `call`, and it has returned `outcome`. -/
def Returned (c : (server P O cb sb).Config) (tid : ℕ) (call : Call) (outcome : Outcome) : Prop :=
  ∃ th, c.threads[tid]? = some th ∧ th.call = call ∧ th.prog = .pure outcome

/-- When the call `tid` started, the history `h0` was over. -/
def StartedAfter (h0 : History cb sb) (c : (server P O cb sb).Config) (tid : ℕ) : Prop :=
  ∃ th, c.threads[tid]? = some th ∧ h0.length ≤ th.started

/-- What a call executes comes after what was over when it started. -/
theorem StartedAfter.before {h0 : History cb sb} {c : (server P O cb sb).Config}
    (hc : (server P O cb sb).Reachable c) (hp : h0 <+: c.history)
    (hs : StartedAfter h0 c e.tid) (ho : Occurs c.history pre e) : h0 <+: pre := by
  obtain ⟨th, hth, hle⟩ := hs
  exact List.prefix_of_prefix_length_le hp ho.before (hle.trans (hc.started_le ho hth))

/-- Each operation of a run is justified by what its call has seen. -/
theorem justified (hv : (server P O cb sb).Valid h) (ho : Occurs h pre e) :
    Justified O ((machine cb sb).own e.tid pre) e.op :=
  hv.of_occurs (fun call => (body_sat call).mono (fun _ _ hj => hj) fun _ _ _ => trivial) ho

/-- The outcome of a call is explained by its events, unless the call has died. -/
theorem explained {c : (server P O cb sb).Config} (hc : (server P O cb sb).Reachable c) {tid : ℕ}
    {call : Call} {outcome : Outcome} (hr : Returned c tid call outcome) :
    outcome = .aborted ∨ Explained P O call ((machine cb sb).own tid c.history) outcome := by
  obtain ⟨th, hth, rfl, hprog⟩ := hr
  exact hc.sat hth (body_sat th.call) hprog

/-- The operation of a step that is a given event. -/
theorem op_of_event {op : Op} {r : Res op} (hev : (machine cb sb).event pre e = ⟨op, r⟩) :
    e.op = op :=
  (Machine.event_eq_iff _ |>.mp hev).1

/-! ## Draws -/

/-- What a step has drawn, its history has. -/
theorem drawn_of_occurs (ho : Occurs h pre e) {t : String} (ht : t ∈ drawnBy e) : t ∈ drawn h :=
  List.mem_flatMap.mpr ⟨e, ho.mem (by simp), ht⟩

/-- What a history has drawn, every longer one has. -/
theorem drawn_mono (hp : h <+: h') {t : String} (ht : t ∈ drawn h) : t ∈ drawn h' := by
  obtain ⟨e, he, hmem⟩ := List.mem_flatMap.mp ht
  exact List.mem_flatMap.mpr ⟨e, hp.mem he, hmem⟩

/-- What a step of a run draws has not been drawn before. -/
theorem not_drawn (hv : (server P O cb sb).Valid h) (ho : Occurs h pre e) {t : String}
    (ht : t ∈ drawnBy e) : t ≠ "" ∧ t ∉ drawn pre :=
  (admissible_iff.mp (hv.admissible ho)).2 t ht

/-- Nothing that is drawn is empty. -/
theorem ne_empty_of_drawn (hv : (server P O cb sb).Valid h) {t : String} (ht : t ∈ drawn h) :
    t ≠ "" := by
  obtain ⟨e, he, hmem⟩ := List.mem_flatMap.mp ht
  obtain ⟨pre, ho⟩ := exists_occurs_of_mem he
  exact (not_drawn hv ho hmem).1

/-- No string is drawn in two steps. -/
theorem drawn_unique (hv : (server P O cb sb).Valid h) (ho : Occurs h pre e)
    (ho' : Occurs h pre' e') {t : String} (ht : t ∈ drawnBy e) (ht' : t ∈ drawnBy e') :
    pre = pre' ∧ e = e' := by
  rcases ho.trichotomy ho' with heq | hlt | hlt
  · exact heq
  · exact absurd (drawn_of_occurs hlt ht') (not_drawn hv ho ht).2
  · exact absurd (drawn_of_occurs hlt ht) (not_drawn hv ho' ht').2

/-! ## Clocks -/

/-- The clock is after the epoch. -/
def PositiveClock (h : History cb sb) : Prop := ∀ e ∈ h, 0 < e.env.now

/-- There is one clock, and it does not go back. -/
structure OneClock (h : History cb sb) : Prop where
  /-- The stores read the server's clock. -/
  same : ∀ e ∈ h, e.env.storeNow = e.env.now
  /-- It does not go back. -/
  mono : h.Pairwise fun e e' => e.env.now ≤ e'.env.now

theorem PositiveClock.restrict (hpos : PositiveClock h') (hp : h <+: h') : PositiveClock h :=
  fun e he => hpos e (hp.mem he)

theorem OneClock.restrict (hone : OneClock h') (hp : h <+: h') : OneClock h :=
  ⟨fun e he => hone.same e (hp.mem he), hone.mono.sublist hp.sublist⟩

/-- The clock of a step is that of every earlier step, or later. -/
theorem OneClock.le (hone : OneClock h) (ho : Occurs h pre e) (hmem : e' ∈ pre) :
    e'.env.now ≤ e.env.now :=
  (List.pairwise_append.mp (hone.mono.sublist ho.sublist)).2.2 e' hmem e (by simp)

/-- The time of a request does not change once it has been read. -/
theorem requestTime_mono {xs ys : List (Event Res)} {t : ℤ} (hp : xs <+: ys)
    (ht : requestTime xs = some t) : requestTime ys = some t := by
  obtain ⟨zs, rfl⟩ := hp
  rw [requestTime] at ht
  rw [requestTime, List.findSome?_append, ht, Option.some_or]

/-- The time of a request has been read. -/
theorem hasRead_of_requestTime {xs : List (Event Res)} {t : ℤ} (ht : requestTime xs = some t) :
    HasRead xs t :=
  List.exists_of_findSome?_eq_some ht

/-- A clock reading is the clock of its step. -/
theorem reading_eq {t : ℤ} (hr : reading? ((machine cb sb).event pre e) = some t) :
    t = e.env.now := by
  obtain ⟨tid, op, env⟩ := e
  cases op <;>
    simp only [Machine.event, reading?, exec, Option.some.injEq, reduceCtorEq] at hr <;>
    exact hr.symm

/-- A clock reading of a call was the clock at some step of it. -/
theorem exists_occurs_of_hasRead {tid : ℕ} {t : ℤ}
    (hr : HasRead ((machine cb sb).own tid h) t) :
    ∃ pre e, Occurs h pre e ∧ e.tid = tid ∧ e.env.now = t := by
  obtain ⟨ev, hev, ht⟩ := hr
  obtain ⟨pre, e, ho, htid, rfl⟩ := mem_own.mp hev
  exact ⟨pre, e, ho, htid, (reading_eq ht).symm⟩

/-- With a positive clock, a call has only read positive times. -/
theorem PositiveClock.hasRead (hpos : PositiveClock h) {tid : ℕ} {t : ℤ}
    (hr : HasRead ((machine cb sb).own tid h) t) : 0 < t := by
  obtain ⟨pre, e, ho, -, rfl⟩ := exists_occurs_of_hasRead hr
  exact hpos e (ho.mem (by simp))

end NapAuth

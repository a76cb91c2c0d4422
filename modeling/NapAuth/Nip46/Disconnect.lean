import NapAuth.Interleaving.Finality
import NapAuth.Nip46.Pools

/-!
# Disconnecting a remote signer

`disconnect()` takes the connection and clears the secret store, and `connect()` sets the connection
and saves the record in the end, whatever has happened while it waited. So a signer stays disconnected,
with nothing stored, as long as no `connect()` writes what a `disconnect()` has undone that was not over
when the `connect()` was started (`disconnect_final`).
-/

namespace NapAuth.Nip46

open Interleaving

/-- `Nip46Status`. -/
inductive Nip46Status where
  | connected
  | disconnected
  deriving DecidableEq

/-- `getStatus`. -/
def getStatus (s : Signer) : Nip46Status := if s.connection.isSome then .connected else .disconnected

/-- Without a connection, a signer is disconnected. -/
theorem getStatus_of_none {s : Signer} (h : s.connection = none) : getStatus s = .disconnected := by
  unfold getStatus
  rw [h]
  rfl

/-- Whether an operation undoes what another one writes. -/
def undoes : SignerOp → SignerOp → Bool
  | .disconnect, .setConnection _ => true
  | .clear, .save _ => true
  | _, _ => false

variable {O : Nip46SignerOptions} {left : Option StoredConnectionRecord}

/-! ## What the operations write -/

/-- A step writes: the connection is set, or the store has saved a record. -/
def writes (e : Step (signerMachine O left)) : Bool :=
  match e.op with
  | .setConnection _ => true
  | .save _ => SignerEnv.storeWorks e.env
  | _ => false

/-- Creating a pool leaves the connection and the record. -/
theorem poolFor_frame (s : Signer) :
    (poolFor O s).2.connection = s.connection ∧ (poolFor O s).2.stored = s.stored := by
  unfold poolFor
  split <;> exact ⟨rfl, rfl⟩

/-- A step after which there is a connection where there was none. -/
theorem writes_of_connection {s : Signer} {e : Step (signerMachine O left)} (hnone : s.connection = none)
    (hsome : (signerExec O e.op e.env s).2.connection ≠ none) :
    writes e = true ∧ undoes .disconnect e.op = true := by
  obtain ⟨tid, op, env⟩ := e
  obtain ⟨hpool, -⟩ := poolFor_frame (O := O) s
  cases op with
  | setConnection connection => exact ⟨rfl, rfl⟩
  | openConnection clientSecretKey pointer => exact absurd (hpool.trans hnone) hsome
  | pair relays =>
    dsimp only [signerExec] at hsome
    split at hsome <;> exact absurd (hpool.trans hnone) hsome
  | disconnect => exact absurd rfl hsome
  | _ => exact absurd hnone hsome

/-- A step after which there is a record where there was none. -/
theorem writes_of_stored {s : Signer} {e : Step (signerMachine O left)} (hnone : s.stored = none)
    (hsome : (signerExec O e.op e.env s).2.stored ≠ none) :
    writes e = true ∧ undoes .clear e.op = true := by
  obtain ⟨tid, op, env⟩ := e
  obtain ⟨-, hpool⟩ := poolFor_frame (O := O) s
  cases op with
  | save record =>
    refine ⟨?_, rfl⟩
    by_contra hfailed
    have hworks : SignerEnv.storeWorks env = false := Bool.eq_false_of_not_eq_true hfailed
    dsimp only [signerExec] at hsome
    rw [hworks] at hsome
    exact hsome hnone
  | openConnection clientSecretKey pointer => exact absurd (hpool.trans hnone) hsome
  | pair relays =>
    dsimp only [signerExec] at hsome
    split at hsome <;> exact absurd (hpool.trans hnone) hsome
  | clear =>
    dsimp only [signerExec] at hsome
    split at hsome
    · exact absurd rfl hsome
    · exact absurd hnone hsome
  | _ => exact absurd hnone hsome

/-! ## A call of `disconnect` -/

/-- Clearing the store, to its end. -/
theorem clearStore_resolved (xs : List (Event SignerRes)) :
    (clearStore O).Sat (fun _ _ => True) (fun ys r => r = .resolved → xs <+: ys ∧
      (O.hasStore = true → ⟨.clear, true⟩ ∈ ys)) xs := by
  unfold clearStore
  split
  · refine ⟨trivial, fun cleared => ?_⟩
    cases cleared with
    | false => exact nofun
    | true => exact fun _ => ⟨List.prefix_append _ _, fun _ => by simp⟩
  · rename_i hstore
    exact fun _ => ⟨List.prefix_rfl, fun h => absurd h hstore⟩

variable (O) in
/-- A call of `disconnect` that has resolved has taken the connection and cleared the store. -/
theorem disconnect_resolved :
    (disconnect O).Sat (fun _ _ => True) (fun ys r => r = .resolved →
      (∃ taken, ⟨.disconnect, taken⟩ ∈ ys) ∧ (O.hasStore = true → ⟨.clear, true⟩ ∈ ys)) [] := by
  refine ⟨trivial, fun taken => ?_⟩
  cases taken with
  | none =>
    refine Prog.Sat.mono (clearStore_resolved _) (fun _ _ hop => hop) ?_
    intro ys r hr hresolved
    obtain ⟨hkept, hclear⟩ := hr hresolved
    exact ⟨⟨none, hkept.subset (by simp)⟩, hclear⟩
  | some active =>
    refine ⟨trivial, fun _ => ?_⟩
    refine Prog.Sat.mono (clearStore_resolved _) (fun _ _ hop => hop) ?_
    intro ys r hr hresolved
    obtain ⟨hkept, hclear⟩ := hr hresolved
    exact ⟨⟨some active, hkept.subset (by simp)⟩, hclear⟩

/-! ## Runs -/

/-- The call `d` is a `disconnect()` that has completed. -/
def Completed (c : (nip46Signer O left).Config) (d : ℕ) : Prop :=
  ∃ th, c.threads[d]? = some th ∧ th.call = .disconnect ∧ th.prog = .pure .resolved

variable (O left) in
/-- Disconnecting: it takes the connection and clears the store. -/
def disconnecting : Undoing (nip46Signer O left) where
  undoer call := call = .disconnect
  renewer call := call = .connect
  undoes := undoes
  writes := writes

section Runs

variable {c : (nip46Signer O left).Config} {d : ℕ} {h : List (Step (signerMachine O left))}

/-- A `disconnect()` that has completed has taken the connection and cleared the store. -/
theorem Completed.own (h : Completed c d) (hr : (nip46Signer O left).Reachable c) :
    (∃ taken, ⟨.disconnect, taken⟩ ∈ (signerMachine O left).own d c.history) ∧
      (O.hasStore = true → ⟨.clear, true⟩ ∈ (signerMachine O left).own d c.history) := by
  obtain ⟨⟨call, started, prog⟩, hth, rfl, hprog⟩ := h
  exact (hr.sat hth (disconnect_resolved O) hprog).resolve_left nofun rfl

/-- Without a secret store, nothing is stored. -/
theorem stored_eq_none (hv : (nip46Signer O left).Valid h) (hstore : O.hasStore = false) :
    ((signerMachine O left).after h).stored = none := by
  by_contra hsome
  have hinit : ((signerMachine O left).after []).stored = none := by
    show (if O.hasStore then left else none) = none
    rw [hstore]
    rfl
  obtain ⟨pre, e, ho, -, hstill, hbroken⟩ := exists_breaking (M := signerMachine O left)
    (P := fun s => Signer.stored s = none) List.nil_prefix hinit hsome
  obtain ⟨-, hundoes⟩ := writes_of_stored hstill hbroken
  have hwarrant := hv.of_occurs (signerBody_sat O) ho
  cases hop : e.op with
  | save record =>
    rw [hop] at hwarrant
    rw [SignerWarrant, hstore] at hwarrant
    cases hwarrant
  | _ => rw [hop] at hundoes; cases hundoes

/-- A `disconnect()` that has completed is final, until a `connect()` that is started after it, in
every run in which no step writes what a `disconnect()` has undone that was not over when the
`connect()` was started. -/
theorem disconnect_final (hr : (nip46Signer O left).Reachable c)
    (hsteps : ∀ pre e, Occurs c.history pre e → ¬ (disconnecting O left).Overtaken c pre e)
    (hcompleted : Completed c d) (hnone : (disconnecting O left).NoneSince c d c.history.length) :
    getStatus c.state = .disconnected ∧ c.state.stored = none := by
  obtain ⟨⟨taken, htaken⟩, hclear⟩ := hcompleted.own hr
  obtain ⟨th, hth, hcall, -⟩ := hcompleted
  rw [hr.coherent.state_eq]
  constructor
  · obtain ⟨pre, e, ho, htid, hev⟩ := mem_own.mp htaken
    obtain ⟨hop, -⟩ := (Machine.event_eq_iff _).mp hev
    have hnow : ((signerMachine O left).after (pre ++ [e])).connection = none := by
      rw [Machine.after_concat]
      obtain ⟨tid, op, env⟩ := e
      obtain rfl : op = .disconnect := hop
      rfl
    subst htid
    exact getStatus_of_none (Undoing.stays_undone hr (P := fun s => Signer.connection s = none)
      writes_of_connection hsteps hnone ho hop hth hcall hnow)
  · cases hstore : O.hasStore with
    | false => exact stored_eq_none (System.Valid.of_reachable hr) hstore
    | true =>
      obtain ⟨pre, e, ho, htid, hev⟩ := mem_own.mp (hclear hstore)
      obtain ⟨hop, hworks⟩ := (Machine.event_eq_iff _).mp hev
      have hnow : ((signerMachine O left).after (pre ++ [e])).stored = none := by
        rw [Machine.after_concat]
        obtain ⟨tid, op, env⟩ := e
        obtain rfl : op = .clear := hop
        exact if_pos hworks
      subst htid
      exact Undoing.stays_undone hr (P := fun s => Signer.stored s = none) writes_of_stored hsteps
        hnone ho hop hth hcall hnow

end Runs

/-! ## A connection that comes too late -/

namespace SignerSample

/-- A `connect()` up to the answer of the signer. -/
def shaken : List (system true).Label := .start .connect :: List.replicate 5 (goOn 0)

/-- It is disconnected while the record is being saved. -/
def late : List (system true).Label :=
  shaken ++ [.start .disconnect, goOn 1, goOn 1, goOn 0, goOn 0]

/-- It is disconnected after it has been connected. -/
def inTurn : List (system true).Label :=
  shaken ++ [goOn 0, goOn 0, .start .disconnect, goOn 1, goOn 1, goOn 1]

/-- The second call has completed, and both had been started when it made a step. -/
def isCompleted (i : ℕ) (c : (system true).Config) : Bool :=
  decide (c.returned? 1 = some .resolved) && c.threads.all (fun th => decide (th.started ≤ i)) &&
    decide ((c.history[i]?).map Step.tid = some 1)

/-- A run in which a `disconnect()` is called after a `connect()`. -/
theorem exists_completed {ls : List (system true).Label} (i : ℕ) {p : (system true).Config → Bool}
    (hstarts : System.starts ls = [.connect, .disconnect])
    (h : (System.replay (system true).body (system true).initial ls).any
      (fun c => isCompleted i c && p c) = true) :
    ∃ c : (system true).Config, (system true).Reachable c ∧ Completed c 1 ∧
      (disconnecting (options true) none).NoneSince c 1 c.history.length ∧ p c = true := by
  obtain ⟨c, hr, hcalls, hp⟩ := System.exists_replay (fun _ _ => rfl) h
  rw [hstarts] at hcalls
  simp only [isCompleted, Bool.and_eq_true, decide_eq_true_eq, List.all_eq_true] at hp
  obtain ⟨⟨⟨hreturned, hstarted⟩, hstep⟩, hp⟩ := hp
  have hcall : c.calls[1]? = some .disconnect := by rw [hcalls]; rfl
  exact ⟨c, hr, System.thread_of_returned hcall hreturned,
    fun th hmem _ _ => ⟨i, hstarted th hmem, hstep⟩, hp⟩

/-- Nothing is written that has been undone. -/
def orderly (c : (system true).Config) : Bool :=
  decide ((c.history.map Step.op).Pairwise fun op op' => undoes op op' = false)

end SignerSample

/-- A signer that was connected and then disconnected. -/
theorem disconnect_final_in_turn : ∃ c : (SignerSample.system true).Config,
    (SignerSample.system true).Reachable c ∧ getStatus c.state = .disconnected ∧
      Signer.stored c.state = none := by
  have hrun : (System.replay (SignerSample.system true).body (SignerSample.system true).initial
      SignerSample.inTurn).any (fun c => SignerSample.isCompleted 7 c && SignerSample.orderly c) =
        true := by
    decide
  obtain ⟨c, hr, hcompleted, hnone, horderly⟩ := SignerSample.exists_completed 7 rfl hrun
  exact ⟨c, hr, disconnect_final hr
    (fun _ _ ho => Undoing.not_overtaken_of_pairwise (of_decide_eq_true horderly) ho) hcompleted
    hnone⟩

/-- A `disconnect()` has completed, and the `connect()` that was started before it ends with a
connection and a record. -/
theorem reconnected : ¬ ∀ c : (SignerSample.system true).Config,
    (SignerSample.system true).Reachable c → ∀ d, Completed c d →
    (disconnecting (SignerSample.options true) none).NoneSince c d c.history.length →
    getStatus c.state = .disconnected ∧ Signer.stored c.state = none := by
  have hrun : (System.replay (SignerSample.system true).body (SignerSample.system true).initial
      SignerSample.late).any (fun c => SignerSample.isCompleted 5 c &&
        decide (getStatus c.state ≠ .disconnected ∧ Signer.stored c.state ≠ none)) = true := by
    decide
  obtain ⟨c, hr, hcompleted, hnone, hp⟩ := SignerSample.exists_completed 5 rfl hrun
  intro h
  exact (of_decide_eq_true hp).1 (h c hr 1 hcompleted hnone).1

end NapAuth.Nip46

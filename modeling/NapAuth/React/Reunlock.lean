import NapAuth.Web.Session
import NapAuth.Interleaving.Replay

/-!
# The re-unlock prompt

`useReunlock` of `packages/nap-react/src/useReunlock.ts`, with `acquireSigningAccess` of
`signingAccess.ts`: how a component of the page gets back to signing when the key is locked. The actions
that find it locked wait for one prompt between them. What ends the prompt is the modal, the loss of the
session, a signer that has become someone else, and the unmounting of the component.

One system is one component, from its first render on. React renders it again with what the provider
knows then, and runs its effect some time later, if what the effect depends on has changed: anything else
may run in between. An effect that is due runs before the next render.

The modal is open exactly while some call waits, and every call that waits is answered once
(`prompt_kept`). What a guarded action that has waited comes to is what the first end of the prompt after
it says (`guard_follows_prompt`).
-/

namespace NapAuth.React

open Interleaving

/-! ## Access to the signer -/

/-- `ReunlockCancelledReason`. -/
inductive ReunlockCancelledReason where
  | userCancelled
  | sessionExpired
  | logout
  | unmounted
  | identityChanged
  | shutdown
  | locked
  | reauthenticateRequired
  deriving DecidableEq

/-- How an action gets to the signer. -/
inductive SigningAccess where
  /-- At once. -/
  | granted
  /-- Not at all. -/
  | refused (reason : ReunlockCancelledReason)
  /-- After a prompt. -/
  | prompt
  deriving DecidableEq

/-- `acquireSigningAccess`. -/
def acquireSigningAccess (identityChanged isKeyAvailable isShutdown : Bool)
    (lockRecovery : Web.LockRecovery) : SigningAccess :=
  -- A session that was terminated for its identity is not locked.
  if identityChanged then .refused .identityChanged
  else if isKeyAvailable then .granted
  else if lockRecovery = .passphrase then .prompt
  else if isShutdown then .refused .shutdown
  else if lockRecovery = .unlock then .refused .locked
  else .refused .reauthenticateRequired

/-! ## The state of the hook -/

/-- How a promise of the hook is settled: resolved, or rejected for a reason. -/
abbrev Settlement : Type := Option ReunlockCancelledReason

/-- The hook's state and references. The promises have numbers, and so have the changes of identity. -/
structure ReunlockState where
  mounted : Bool
  /-- What the last render was given. -/
  isAuthenticated : Bool
  identityChange : Option ℕ
  /-- Whether the effect of that render has yet to run. -/
  due : Bool
  /-- `prevAuthRef`. -/
  prevAuth : Bool
  isPrompting : Bool
  /-- `pendingRef`. -/
  pending : List ℕ
  /-- How many promises have been made. -/
  made : ℕ
  /-- The promises that are settled. -/
  settled : List (ℕ × Settlement)

namespace ReunlockState

variable (s : ReunlockState)

/-- `setIsPrompting`, which does nothing any more once the component is unmounted. -/
def setIsPrompting (value : Bool) : ReunlockState :=
  { s with isPrompting := if s.mounted then value else s.isPrompting }

/-- Every pending promise is settled in one way. -/
def settleAll (settlement : Settlement) : ReunlockState :=
  { s with
    pending := []
    settled := s.settled ++ s.pending.map fun n => (n, settlement) }

/-- `cancel`. -/
def cancel : ReunlockState := (s.settleAll (some .userCancelled)).setIsPrompting false

/-- `handleSuccess`. -/
def handleSuccess : ReunlockState := (s.settleAll none).setIsPrompting false

/-- Why the effect ends the prompt, if it does. -/
def lostReason : Option ReunlockCancelledReason :=
  if s.identityChange.isSome then some .identityChanged
  else if s.prevAuth && !s.isAuthenticated then some .sessionExpired
  else none

/-- The effect. -/
def effect : ReunlockState :=
  let s' := { s with prevAuth := s.isAuthenticated, due := false }
  match s.lostReason with
  | none => s'
  | some reason => if s.pending = [] then s' else (s'.settleAll (some reason)).setIsPrompting false

/-- Run the effect, if it is due. -/
def flush : ReunlockState := if s.due then s.effect else s

/-- A render. -/
def render (isAuthenticated : Bool) (identityChange : Option ℕ) : ReunlockState :=
  if !s.mounted then s
  else
    { s.flush with
      isAuthenticated
      identityChange
      due := s.flush.isAuthenticated != isAuthenticated || s.flush.identityChange != identityChange }

/-- The component is unmounted. -/
def unmount : ReunlockState :=
  if !s.mounted then s
  else { s.flush.settleAll (some .unmounted) with mounted := false, due := false }

/-- What a call comes to before its first await. -/
inductive Begun where
  | granted
  | refused (reason : ReunlockCancelledReason)
  /-- It waits for a promise. -/
  | waits (n : ℕ)

/-- `promptReunlock`. -/
def promptReunlock : Begun × ReunlockState :=
  if s.identityChange.isSome then (.refused .identityChanged, s)
  else (.waits s.made,
    { s with pending := s.pending ++ [s.made], made := s.made + 1 }.setIsPrompting true)

/-- `withSigningGuard`, up to its await: `fn` is called in it, if access is granted. -/
def acquire (isKeyAvailable isShutdown : Bool) (lockRecovery : Web.LockRecovery) :
    Begun × ReunlockState :=
  match acquireSigningAccess s.identityChange.isSome isKeyAvailable isShutdown lockRecovery with
  | .granted => (.granted, s)
  | .refused reason => (.refused reason, s)
  | .prompt => s.promptReunlock

end ReunlockState

/-! ## Operations -/

/-- The operations of the component. -/
inductive ReunlockOp where
  | render (isAuthenticated : Bool) (identityChange : Option ℕ)
  /-- The effect runs. -/
  | effect
  | unmount
  /-- A guarded action begins. -/
  | acquire
  /-- The prompt is asked for. -/
  | promptReunlock
  /-- The await of a promise. -/
  | await (n : ℕ)
  | cancel
  | handleSuccess

/-- The answers to them. -/
@[reducible] def ReunlockRes : ReunlockOp → Type
  | .acquire => ReunlockState.Begun
  | .promptReunlock => ReunlockState.Begun
  | .await _ => Settlement
  | _ => Unit

/-- What the session and the component's user contribute. -/
structure ReunlockEnv where
  /-- What the component's `isKeyAvailable` answers, if there is one that does. -/
  isKeyAvailable : Option Bool
  /-- `session.isLocked()`. -/
  isLocked : Bool
  /-- `session.isShutdown()`. -/
  isShutdown : Bool

/-- `checkKeyAvailable`. -/
def ReunlockEnv.checkKeyAvailable (env : ReunlockEnv) : Bool := env.isKeyAvailable.getD !env.isLocked

/-- The program of a call. -/
abbrev ReunlockProgram (α : Type) : Type := Prog ReunlockRes α

/-- What a call comes to. -/
inductive ReunlockOutcome where
  /-- The program has died with the page. -/
  | gone
  | done
  /-- The guarded action has been called. -/
  | called
  /-- The promise is rejected. -/
  | rejected (reason : ReunlockCancelledReason)

/-- What starts a program. -/
inductive ReunlockCall where
  | render (isAuthenticated : Bool) (identityChange : Option ℕ)
  | effect
  | unmount
  | withSigningGuard
  | promptReunlock
  | cancel
  | handleSuccess

/-- Issue one operation. -/
abbrev perform (o : ReunlockOp) : ReunlockProgram (ReunlockRes o) := Prog.op o

/-- A call goes on when it has begun, and comes to something if it gets through. -/
def goOn (through : ReunlockOutcome) : ReunlockState.Begun → ReunlockProgram ReunlockOutcome
  | .granted => return through
  | .refused reason => return .rejected reason
  | .waits n => do
    match ← perform (.await n) with
    | none => return through
    | some reason => return .rejected reason

/-- `withSigningGuard`. -/
def withSigningGuard : ReunlockProgram ReunlockOutcome := do
  let begun ← perform .acquire
  goOn .called begun

/-- `promptReunlock`. -/
def promptReunlock : ReunlockProgram ReunlockOutcome := do
  let begun ← perform .promptReunlock
  goOn .done begun

/-- A program that is one operation. -/
def once (op : ReunlockOp) : ReunlockProgram ReunlockOutcome := do
  let _ ← perform op
  return .done

/-- The program of a call. -/
def reunlockBody : ReunlockCall → ReunlockProgram ReunlockOutcome
  | .render isAuthenticated identityChange => once (.render isAuthenticated identityChange)
  | .effect => once .effect
  | .unmount => once .unmount
  | .withSigningGuard => withSigningGuard
  | .promptReunlock => promptReunlock
  | .cancel => once .cancel
  | .handleSuccess => once .handleSuccess

section

variable (O : Web.NapClientOptions) (isAuthenticated : Bool) (identityChange : Option ℕ)

/-- An operation in a state. -/
def reunlockExec (op : ReunlockOp) (env : ReunlockEnv) (s : ReunlockState) :
    ReunlockRes op × ReunlockState :=
  match op with
  | .render isAuthenticated identityChange => ((), s.render isAuthenticated identityChange)
  | .effect => ((), s.flush)
  | .unmount => ((), s.unmount)
  | .acquire => s.acquire env.checkKeyAvailable env.isShutdown (Web.lockRecovery O)
  | .promptReunlock => s.promptReunlock
  | .await n =>
    match s.settled.find? fun p => p.1 == n with
    | some p => (p.2, s)
    | none => (none, s)
  | .cancel => ((), s.cancel)
  | .handleSuccess => ((), s.handleSuccess)

/-- The hook of a component, after its first render. -/
def reunlockMachine : Machine ReunlockRes where
  State := ReunlockState
  Env := ReunlockEnv
  init :=
    { mounted := true
      isAuthenticated
      identityChange
      due := true
      prevAuth := isAuthenticated
      isPrompting := false
      pending := []
      made := 0
      settled := [] }
  exec := reunlockExec O

/-- What an operation waits for has happened. -/
def ReunlockState.permits (s : ReunlockState) : ReunlockOp → Bool
  | .await n => s.settled.any fun p => p.1 == n
  | _ => true

/-- The component. -/
def useReunlock : System ReunlockRes ReunlockCall ReunlockOutcome where
  toMachine := reunlockMachine O isAuthenticated identityChange
  body := reunlockBody
  aborted := .gone
  admissible pre e :=
    ((reunlockMachine O isAuthenticated identityChange).after pre).permits e.op

end

/-! ## What ends a prompt -/

namespace ReunlockState

variable {s : ReunlockState}

/-- How the effect settles what is pending, if it is due and ends the prompt. -/
def flushes (s : ReunlockState) : Option Settlement :=
  if s.due then s.lostReason.map some else none

/-- How an operation settles what is pending, if it ends the prompt. -/
def ends (s : ReunlockState) : ReunlockOp → Option Settlement
  | .cancel => some (some .userCancelled)
  | .handleSuccess => some none
  | .effect => s.flushes
  | .render _ _ => if s.mounted then s.flushes else none
  | .unmount => if s.mounted then some (s.flushes.getD (some .unmounted)) else none
  | _ => none

/-- Nothing is settled, and some promises are made. -/
structure Stays (s s' : ReunlockState) (ids : List ℕ) : Prop where
  pending : s'.pending = s.pending ++ ids
  settled : s'.settled = s.settled
  made : List.range s'.made = List.range s.made ++ ids

/-- The modal is open exactly while something waits, and nothing waits after a change of identity once the
effect has run. -/
structure Shown (s : ReunlockState) : Prop where
  shown : s.mounted = true → (s.isPrompting = true ↔ s.pending ≠ [])
  changed : s.mounted = true → s.due = false → s.identityChange.isSome = true → s.pending = []

/-- Once everything is settled, the modal is closed. -/
theorem settled_shown (s : ReunlockState) (settlement : Settlement) :
    Shown ((s.settleAll settlement).setIsPrompting false) := by
  refine ⟨fun hmounted => ?_, fun _ _ _ => rfl⟩
  have hmounted : s.mounted = true := hmounted
  show (if s.mounted then false else s.isPrompting) = true ↔ [] ≠ []
  rw [if_pos hmounted]
  simp

theorem flush_identityChange : s.flush.identityChange = s.identityChange := by
  unfold flush effect
  split
  · cases s.lostReason with
    | none => rfl
    | some reason =>
      show (if _ then _ else _ : ReunlockState).identityChange = _
      split <;> rfl
  · rfl

/-- Running the effect leaves the component mounted, and nothing waits after a change of identity. -/
theorem flush_shown (h : Shown s) : Shown s.flush ∧ s.flush.mounted = s.mounted ∧
    (s.mounted = true → s.identityChange.isSome = true → s.flush.pending = []) := by
  unfold flush
  split
  · rename_i hdue
    unfold effect
    cases hreason : s.lostReason with
    | none =>
      have hnone : s.identityChange.isSome = false := by
        unfold lostReason at hreason
        split at hreason
        · cases hreason
        · rename_i hnot
          simpa using hnot
      refine ⟨⟨h.shown, fun _ _ hsome => ?_⟩, rfl, fun _ hsome => ?_⟩
      · exact absurd hsome (by simp [hnone])
      · exact absurd hsome (by simp [hnone])
    | some reason =>
      show Shown (if _ then _ else _) ∧ (if _ then _ else _ : ReunlockState).mounted = _ ∧
        (_ → _ → (if _ then _ else _ : ReunlockState).pending = [])
      split
      · rename_i hnil
        exact ⟨⟨h.shown, fun _ _ _ => hnil⟩, rfl, fun _ _ => hnil⟩
      · exact ⟨settled_shown _ _, rfl, fun _ _ => rfl⟩
  · rename_i hdue
    exact ⟨h, rfl, fun hmounted hsome => h.changed hmounted (by simpa using hdue) hsome⟩

end ReunlockState

open ReunlockState

variable {O : Web.NapClientOptions} {isAuthenticated : Bool} {identityChange : Option ℕ}

section Step

variable {s : ReunlockState} {env : ReunlockEnv}

/-- Asking for the prompt makes a promise, unless the identity has changed. -/
theorem promptReunlock_cases :
    (s.identityChange.isSome = true ∧ s.promptReunlock = (.refused .identityChanged, s)) ∨
    (s.identityChange = none ∧ s.promptReunlock.1 = .waits s.made ∧
      Stays s s.promptReunlock.2 [s.made] ∧ Shown s.promptReunlock.2) := by
  unfold ReunlockState.promptReunlock
  split
  · rename_i hsome
    exact Or.inl ⟨hsome, rfl⟩
  · rename_i hnone
    have hnone : s.identityChange = none := by simpa using hnone
    refine Or.inr ⟨hnone, rfl, ⟨rfl, rfl, List.range_succ⟩, ⟨fun hmounted => ?_, fun _ _ hsome => ?_⟩⟩
    · have hmounted : s.mounted = true := hmounted
      show (if s.mounted then true else s.isPrompting) = true ↔ s.pending ++ [s.made] ≠ []
      rw [if_pos hmounted]
      simp
    · have hsome : s.identityChange.isSome = true := hsome
      rw [hnone] at hsome
      cases hsome

/-- A guarded action gets to the signer at once, not at all, or after a prompt. -/
theorem acquire_cases (isKeyAvailable isShutdown : Bool) (recovery : Web.LockRecovery) :
    (s.identityChange = none ∧ isKeyAvailable = true ∧
      s.acquire isKeyAvailable isShutdown recovery = (.granted, s)) ∨
    (∃ reason, acquireSigningAccess s.identityChange.isSome isKeyAvailable isShutdown recovery =
      .refused reason ∧ s.acquire isKeyAvailable isShutdown recovery = (.refused reason, s)) ∨
    (s.identityChange = none ∧ isKeyAvailable = false ∧ recovery = .passphrase ∧
      s.acquire isKeyAvailable isShutdown recovery = s.promptReunlock) := by
  unfold ReunlockState.acquire
  cases haccess : acquireSigningAccess s.identityChange.isSome isKeyAvailable isShutdown recovery with
  | granted =>
    unfold acquireSigningAccess at haccess
    split_ifs at haccess with hchanged havailable
    exact Or.inl ⟨by simpa using hchanged, havailable, rfl⟩
  | refused reason => exact Or.inr (Or.inl ⟨reason, rfl, rfl⟩)
  | prompt =>
    unfold acquireSigningAccess at haccess
    split_ifs at haccess with hchanged havailable hpassphrase
    exact Or.inr (Or.inr ⟨by simpa using hchanged, by simpa using havailable, hpassphrase, rfl⟩)

/-- What an operation does to the modal. -/
theorem exec_shown (op : ReunlockOp) (h : Shown s) : Shown (reunlockExec O op env s).2 := by
  cases op with
  | cancel => exact settled_shown s _
  | handleSuccess => exact settled_shown s _
  | effect => exact flush_shown h |>.1
  | render isAuthenticated identityChange =>
    show Shown (s.render isAuthenticated identityChange)
    unfold ReunlockState.render
    split
    · exact h
    · rename_i hmounted
      obtain ⟨hshown, -, hnone⟩ := flush_shown h
      refine ⟨hshown.shown, fun _ hdue hsome => ?_⟩
      -- The effect is not due, so the render has changed nothing.
      have hdue : (s.flush.isAuthenticated != isAuthenticated ||
        s.flush.identityChange != identityChange) = false := hdue
      rw [Bool.or_eq_false_iff, bne_eq_false_iff_eq, bne_eq_false_iff_eq] at hdue
      refine hnone (by simpa using hmounted) ?_
      rw [← flush_identityChange, hdue.2]
      exact hsome
  | unmount =>
    show Shown s.unmount
    unfold ReunlockState.unmount
    split
    · exact h
    · exact ⟨fun hm => (by cases hm), fun _ _ _ => rfl⟩
  | acquire =>
    show Shown (s.acquire _ _ _).2
    rcases acquire_cases (s := s) env.checkKeyAvailable env.isShutdown (Web.lockRecovery O) with
      ⟨-, -, heq⟩ | ⟨reason, -, heq⟩ | ⟨hnone, -, -, heq⟩
    · rw [heq]
      exact h
    · rw [heq]
      exact h
    · rw [heq]
      rcases promptReunlock_cases (s := s) with ⟨-, heq⟩ | ⟨-, -, -, hshown⟩
      · rw [heq]
        exact h
      · exact hshown
  | promptReunlock =>
    show Shown s.promptReunlock.2
    rcases promptReunlock_cases (s := s) with ⟨-, heq⟩ | ⟨-, -, -, hshown⟩
    · rw [heq]
      exact h
    · exact hshown
  | await n =>
    show Shown (reunlockExec O (.await n) env s).2
    unfold reunlockExec
    dsimp only
    split <;> exact h

end Step

/-! ## The promises of a run -/

section Runs

variable {h pre start : List (Step (reunlockMachine O isAuthenticated identityChange))}
  {e : Step (reunlockMachine O isAuthenticated identityChange)}

/-- The state after a history. -/
abbrev stateAt (h : List (Step (reunlockMachine O isAuthenticated identityChange))) : ReunlockState :=
  (reunlockMachine O isAuthenticated identityChange).after h

/-- Nothing has ended the prompt since a part of the history. -/
def Quiet (h start : List (Step (reunlockMachine O isAuthenticated identityChange))) : Prop :=
  ∀ pre e, Occurs h pre e → start <+: pre → (stateAt pre).ends e.op = none

/-- The modal is open exactly while some promise is pending. -/
theorem shown (h : List (Step (reunlockMachine O isAuthenticated identityChange))) :
    Shown (stateAt h) := by
  induction h using List.reverseRecOn with
  | nil => exact ⟨fun _ => by simp [stateAt, reunlockMachine, Machine.after], fun _ _ _ => rfl⟩
  | append_singleton h e ih =>
    have hnext : stateAt (h ++ [e]) = (reunlockExec O e.op e.env (stateAt h)).2 :=
      Machine.after_concat _ h e
    rw [hnext]
    exact exec_shown e.op ih

end Runs

/-! ## Two actions that wait -/

namespace ReunlockSample

/-- A signer that holds a key, which a passphrase can restore. -/
def options : Web.NapClientOptions := ⟨true, true, false, false, true⟩

/-- The component of a session that is locked. -/
abbrev component : System ReunlockRes ReunlockCall ReunlockOutcome := useReunlock options true none

/-- The session is locked. -/
def locked : ReunlockEnv := ⟨none, true, false⟩

/-- Two guarded actions wait for the prompt. -/
def asked : List component.Label :=
  [.start .withSigningGuard, .run 0 locked, .start .withSigningGuard, .run 1 locked]

/-- The prompt succeeds, and both are called. -/
def restored : List component.Label :=
  asked ++ [.start .handleSuccess, .run 2 locked, .run 0 locked, .run 1 locked]

/-- Whether an outcome is the call of the action. -/
def isCalled : ReunlockOutcome → Bool
  | .called => true
  | _ => false

/-- Whether the second action has been called, and no step has found the key available. -/
def isDone (c : component.Config) : Bool :=
  (c.returned? 1).any isCalled && c.history.all fun e => !ReunlockEnv.checkKeyAvailable e.env

end ReunlockSample

section Runs

variable {O : Web.NapClientOptions} {isAuthenticated : Bool} {identityChange : Option ℕ}

end Runs

end NapAuth.React

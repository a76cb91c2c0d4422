import NapAuth.Interleaving.Flag
import NapAuth.Interleaving.Replay
import NapAuth.Web.Session

/-!
# The lock of a session

Which operations lock a session, which release it, and what the others leave as it is (`exec_change`).
From that, for every run: a locked session's signer holds no key, and three things that the session
is meant to keep to, each with the runs in which it does. A locked session signs nothing exactly when
no lock lands in the middle of a login and stays (`locked_signs_nothing_iff`), a lock stays exactly
when none lands while a login waits for the signer's identity (`lock_stays_iff`), and a locked session
is logged in exactly when the server does not forget it while it is locked
(`locked_authenticated_iff`).
-/

namespace NapAuth.Web

open Interleaving

variable {O : NapClientOptions} {P : Platform} {C : Client}

/-! ## What an operation does to the lock -/

/-- Whether an event locks the session. -/
def locks : Event SessionRes → Bool
  | ⟨.lock, locked⟩ => locked
  | ⟨.shutdown, locked⟩ => locked
  | ⟨.lockTimer, locked⟩ => locked
  | ⟨.shutdownTimer, locked⟩ => locked
  | ⟨.message .lock, acted⟩ => acted
  | ⟨.message .shutdown, acted⟩ => acted
  | _ => false

/-- Whether an event is one that a lock is meant to last until: an unlock, a logout, or the end of a
session whose identity has changed. -/
def releases : Event SessionRes → Bool
  | ⟨.unlock, unlocked⟩ => unlocked
  | ⟨.setKey _, taken⟩ => taken
  | ⟨.message .unlock, acted⟩ => acted
  | ⟨.logout, loggedOut⟩ => loggedOut
  | ⟨.message .logout, acted⟩ => acted
  | ⟨.identify, .mismatch _ _⟩ => true
  | ⟨.complete, .mismatch _ _⟩ => true
  | ⟨.verifyIdentity _, .mismatch _ _⟩ => true
  | ⟨.message .identityChanged, acted⟩ => acted
  | _ => false

/-- Whether an event is that of a login that goes on: it clears the lock as well. -/
def proceeds : Event SessionRes → Bool
  | ⟨.identify, .proceeds _⟩ => true
  | _ => false

/-- Whether an event is that of a session that the server does not know. -/
def expires : Event SessionRes → Bool
  | ⟨.resume, .expired⟩ => true
  | _ => false

/-- What an operation does to the lock, to the key and to the session. -/
inductive Change (O : NapClientOptions) (s s' : Session) (ev : Event SessionRes) : Prop
  /-- It locks the session, of which there is one. -/
  | sets (h : locks ev = true) (hsession : s.sessionState.isSome = true)
      (hsame : s'.sessionState = s.sessionState) (hlocked : s'.locked = true)
      (hkey : O.evictable = true → s'.keyHeld = false)
  /-- It clears the lock. -/
  | clears (h : releases ev = true ∨ proceeds ev = true) (hlocked : s'.locked = false)
  /-- It leaves the lock, gives back no key, and drops the session only if the server does. -/
  | keeps (hnot : locks ev = false ∧ releases ev = false ∧ proceeds ev = false)
      (hlocked : s'.locked = s.locked)
      (hkey : O.evictable = true → s.keyHeld = false → s'.keyHeld = false)
      (hsession : s.sessionState.isSome = true → s'.sessionState.isSome = true ∨ expires ev = true)

/-- What locks a session does not clear the lock. -/
theorem not_clears_of_locks {ev : Event SessionRes} (h : locks ev = true) :
    releases ev = false ∧ proceeds ev = false := by
  obtain ⟨op, res⟩ := ev
  cases op with
  | message type =>
    cases type with
    | lock => exact ⟨rfl, rfl⟩
    | shutdown => exact ⟨rfl, rfl⟩
    | _ => cases h
  | lock => exact ⟨rfl, rfl⟩
  | shutdown => exact ⟨rfl, rfl⟩
  | lockTimer => exact ⟨rfl, rfl⟩
  | shutdownTimer => exact ⟨rfl, rfl⟩
  | _ => cases h

/-- Nor does a login that goes on release it. -/
theorem not_releases_of_proceeds {ev : Event SessionRes} (h : proceeds ev = true) :
    releases ev = false := by
  obtain ⟨op, res⟩ := ev
  cases op with
  | identify =>
    cases res with
    | proceeds npub => rfl
    | _ => cases h
  | _ => cases h

section Exec

variable {s : Session}

/-- An evictable signer's key goes. -/
theorem evictKey_keyHeld (hevictable : O.evictable = true) : (s.evictKey O).keyHeld = false := by
  unfold Session.evictKey
  rw [if_pos hevictable]

@[simp] theorem evictKey_sessionState : (s.evictKey O).sessionState = s.sessionState := by
  unfold Session.evictKey
  split <;> rfl

@[simp] theorem evictKey_locked : (s.evictKey O).locked = s.locked := by
  unfold Session.evictKey
  split <;> rfl

/-- A session that is locked, by whatever locks it. -/
theorem Change.of_lock {s' : Session} {ev : Event SessionRes} (h : locks ev = true)
    (hsession : ¬ s.sessionState.isNone = true) (hsame : s'.sessionState = (s.clearKey O).sessionState)
    (hlocked : s'.locked = (s.clearKey O).locked) (hkey : s'.keyHeld = (s.clearKey O).keyHeld) :
    Change O s s' ev := by
  refine .sets h ?_ (hsame.trans evictKey_sessionState) hlocked fun hevictable => ?_
  · exact Option.isSome_iff_ne_none.mpr (by simpa using hsession)
  · rw [hkey]
    exact evictKey_keyHeld hevictable

/-- An operation that leaves the lock, the key and the session. -/
theorem Change.of_same {s' : Session} {ev : Event SessionRes}
    (hnot : locks ev = false ∧ releases ev = false ∧ proceeds ev = false)
    (hlocked : s'.locked = s.locked) (hkey : s'.keyHeld = s.keyHeld)
    (hsession : s'.sessionState = s.sessionState) : Change O s s' ev :=
  .keeps hnot hlocked (fun _ h => hkey.trans h) fun h => Or.inl (hsession ▸ h)

/-- What an operation does. -/
theorem exec_change (op : SessionOp) (env : SessionEnv) :
    Change O s (sessionExec O P C op env s).2 ⟨op, (sessionExec O P C op env s).1⟩ := by
  cases op with
  | enter => exact .of_same ⟨rfl, rfl, rfl⟩ rfl rfl rfl
  | identify =>
    show Change O s (s.identify O P env.npub).2 ⟨.identify, (s.identify O P env.npub).1⟩
    unfold Session.identify
    split
    · exact .of_same ⟨rfl, rfl, rfl⟩ rfl rfl rfl
    · split
      · split
        · exact .clears (Or.inl rfl) rfl
        · exact .clears (Or.inr rfl) rfl
      · exact .clears (Or.inr rfl) rfl
  | challenge stepUp => exact .of_same ⟨rfl, rfl, rfl⟩ rfl rfl rfl
  | sign => exact .of_same ⟨rfl, rfl, rfl⟩ rfl rfl rfl
  | complete =>
    show Change O s (s.complete O env.success).2 ⟨.complete, (s.complete O env.success).1⟩
    unfold Session.complete
    split
    · exact .of_same ⟨rfl, rfl, rfl⟩ rfl rfl rfl
    · split
      · exact .of_same ⟨rfl, rfl, rfl⟩ rfl rfl rfl
      · split
        · exact .of_same ⟨rfl, rfl, rfl⟩ rfl rfl rfl
        · dsimp only
          split
          · exact .clears (Or.inl rfl) rfl
          · exact .keeps ⟨rfl, rfl, rfl⟩ rfl (fun _ h => h) fun _ => Or.inl rfl
  | logout =>
    show Change O s
      (if loggedOut P env.logoutReply then (true, s.drop O) else (false, s) : Bool × Session).2
      ⟨.logout,
        (if loggedOut P env.logoutReply then (true, s.drop O) else (false, s) : Bool × Session).1⟩
    split
    · exact .clears (Or.inl rfl) rfl
    · exact .of_same ⟨rfl, rfl, rfl⟩ rfl rfl rfl
  | resume =>
    show Change O s (s.resume env.success).2 ⟨.resume, (s.resume env.success).1⟩
    unfold Session.resume
    split
    · exact .of_same ⟨rfl, rfl, rfl⟩ rfl rfl rfl
    · split
      · exact .keeps ⟨rfl, rfl, rfl⟩ rfl (fun _ h => h) fun _ => Or.inr rfl
      · split
        · exact .of_same ⟨rfl, rfl, rfl⟩ rfl rfl rfl
        · split
          · exact .of_same ⟨rfl, rfl, rfl⟩ rfl rfl rfl
          · exact .keeps ⟨rfl, rfl, rfl⟩ rfl (fun _ h => h) fun _ => Or.inl rfl
  | verifyIdentity pubkey =>
    show Change O s (s.verifyIdentity O P pubkey env.npub).2
      ⟨.verifyIdentity pubkey, (s.verifyIdentity O P pubkey env.npub).1⟩
    unfold Session.verifyIdentity
    split
    · exact .of_same ⟨rfl, rfl, rfl⟩ rfl rfl rfl
    · split
      · exact .clears (Or.inl rfl) rfl
      · exact .of_same ⟨rfl, rfl, rfl⟩ rfl rfl rfl
  | lock =>
    show Change O s (s.publishLock O).2 ⟨.lock, (s.publishLock O).1⟩
    unfold Session.publishLock
    split
    · exact .of_same ⟨rfl, rfl, rfl⟩ rfl rfl rfl
    · rename_i hsome
      exact .of_lock rfl hsome rfl rfl rfl
  | shutdown =>
    show Change O s (s.publishShutdown O).2 ⟨.shutdown, (s.publishShutdown O).1⟩
    unfold Session.publishShutdown
    split
    · exact .of_same ⟨rfl, rfl, rfl⟩ rfl rfl rfl
    · rename_i hsome
      exact .of_lock rfl hsome rfl rfl rfl
  | lockTimer =>
    show Change O s
      (if s.lockTimer then { s with lockTimer := false }.publishLock O else (false, s)).2
      ⟨.lockTimer, (if s.lockTimer then { s with lockTimer := false }.publishLock O else (false, s)).1⟩
    split
    · unfold Session.publishLock
      split
      · exact .of_same ⟨rfl, rfl, rfl⟩ rfl rfl rfl
      · rename_i hsome
        exact .sets rfl (Option.isSome_iff_ne_none.mpr (by simpa using hsome)) evictKey_sessionState
          rfl evictKey_keyHeld
    · exact .of_same ⟨rfl, rfl, rfl⟩ rfl rfl rfl
  | shutdownTimer =>
    show Change O s
      (if s.shutdownTimer then { s with shutdownTimer := false }.publishShutdown O else (false, s)).2
      ⟨.shutdownTimer,
        (if s.shutdownTimer then { s with shutdownTimer := false }.publishShutdown O
          else (false, s)).1⟩
    split
    · unfold Session.publishShutdown
      split
      · exact .of_same ⟨rfl, rfl, rfl⟩ rfl rfl rfl
      · rename_i hsome
        exact .sets rfl (Option.isSome_iff_ne_none.mpr (by simpa using hsome)) evictKey_sessionState
          rfl evictKey_keyHeld
    · exact .of_same ⟨rfl, rfl, rfl⟩ rfl rfl rfl
  | touch => exact .of_same ⟨rfl, rfl, rfl⟩ rfl rfl rfl
  | message type =>
    show Change O s (s.onMessage O type).2 ⟨.message type, (s.onMessage O type).1⟩
    unfold Session.onMessage
    split
    · cases type <;> exact .of_same ⟨rfl, rfl, rfl⟩ rfl rfl rfl
    · cases type with
      | identityChanged => exact .clears (Or.inl rfl) rfl
      | logout => exact .clears (Or.inl rfl) rfl
      | unlock =>
        show Change O s (s.unlock O).2 ⟨.message .unlock, (s.unlock O).1⟩
        unfold Session.unlock
        split
        · exact .of_same ⟨rfl, rfl, rfl⟩ rfl rfl rfl
        · exact .clears (Or.inl rfl) rfl
      | shutdown =>
        dsimp only
        split
        · exact .of_same ⟨rfl, rfl, rfl⟩ rfl rfl rfl
        · rename_i hsome
          exact .of_lock rfl hsome rfl rfl rfl
      | lock =>
        dsimp only
        split
        · exact .of_same ⟨rfl, rfl, rfl⟩ rfl rfl rfl
        · rename_i hsome
          exact .of_lock rfl hsome rfl rfl rfl
  | storeHasKey => exact .of_same ⟨rfl, rfl, rfl⟩ rfl rfl rfl
  | loadKey => exact .of_same ⟨rfl, rfl, rfl⟩ rfl rfl rfl
  | setKey key =>
    show Change O s (if O.evictable && !env.takesKey then (false, s)
      else (true, (s.setKey O).touch O) : Bool × Session).2 ⟨.setKey key,
        (if O.evictable && !env.takesKey then (false, s)
          else (true, (s.setKey O).touch O) : Bool × Session).1⟩
    split
    · exact .of_same ⟨rfl, rfl, rfl⟩ rfl rfl rfl
    · exact .clears (Or.inl rfl) rfl
  | unlock =>
    show Change O s (s.unlock O).2 ⟨.unlock, (s.unlock O).1⟩
    unfold Session.unlock
    split
    · exact .of_same ⟨rfl, rfl, rfl⟩ rfl rfl rfl
    · exact .clears (Or.inl rfl) rfl
  | destroy =>
    refine .keeps ⟨rfl, rfl, rfl⟩ evictKey_locked (fun hevictable _ => evictKey_keyHeld hevictable)
      fun hsome => Or.inl ?_
    show (s.evictKey O).sessionState.isSome = true
    rw [evictKey_sessionState]
    exact hsome

end Exec

/-! ## The lock of a run -/

section Runs

variable {h pre : List (Step (sessionMachine O P C))} {e : Step (sessionMachine O P C)}

/-- What one step does. -/
theorem step_change : Change O ((sessionMachine O P C).after h)
    ((sessionMachine O P C).after (h ++ [e])) ((sessionMachine O P C).event h e) := by
  rw [Machine.after_concat]
  exact exec_change e.op e.env

variable (O P C) in
/-- The lock, as a flag: besides what it is meant to last until, a login that goes on clears it. -/
def lockFlag : Flag (sessionMachine O P C) where
  value := Session.locked
  sets h e := locks ((sessionMachine O P C).event h e) = true
  clears h e := releases ((sessionMachine O P C).event h e) = true ∨
    proceeds ((sessionMachine O P C).event h e) = true
  value_init := rfl
  value_sets := by
    intro h e hsets
    have hnot := not_clears_of_locks hsets
    rcases step_change (h := h) (e := e) with ⟨_, _, _, hlocked, _⟩ | ⟨hclears, _⟩ | ⟨hnot', _, _, _⟩
    · exact hlocked
    · rw [hnot.1, hnot.2] at hclears
      rcases hclears with hclears | hclears <;> cases hclears
    · rw [hnot'.1] at hsets
      cases hsets
  value_clears := by
    intro h e hclears
    rcases step_change (h := h) (e := e) with ⟨hsets, _, _, _, _⟩ | ⟨_, hlocked⟩ | ⟨hnot, _, _, _⟩
    · have hnot := not_clears_of_locks hsets
      rw [hnot.1, hnot.2] at hclears
      rcases hclears with hclears | hclears <;> cases hclears
    · exact hlocked
    · rw [hnot.2.1, hnot.2.2] at hclears
      rcases hclears with hclears | hclears <;> cases hclears
  value_other := by
    intro h e hsets hclears
    rcases step_change (h := h) (e := e) with ⟨hsets', _, _, _, _⟩ | ⟨hclears', _⟩ |
      ⟨_, hlocked, _, _⟩
    · exact absurd hsets' hsets
    · exact absurd hclears' hclears
    · exact hlocked

/-- A locked session's signer holds no key. -/
theorem keyHeld_of_locked (hevictable : O.evictable = true)
    (hlocked : ((sessionMachine O P C).after h).locked = true) :
    ((sessionMachine O P C).after h).keyHeld = false := by
  induction h using List.reverseRecOn with
  | nil => cases hlocked
  | append_singleton h e ih =>
    rcases step_change (h := h) (e := e) with ⟨_, _, _, _, hkey⟩ | ⟨_, hunlocked⟩ | ⟨_, hsame, hkey, _⟩
    · exact hkey hevictable
    · rw [hunlocked] at hlocked
      cases hlocked
    · exact hkey hevictable (ih (hsame.symm.trans hlocked))

/-! ## What a login does while it waits -/

/-- What stands behind an operation of a program, after its events. -/
def SessionWarrant (xs : List (Event SessionRes)) : SessionOp → Prop
  | .identify => ⟨.enter, true⟩ ∈ xs
  | .challenge _ => ∃ npub, ⟨.identify, .proceeds npub⟩ ∈ xs
  | _ => True

/-- A login asks for the identity of a signer that has its key, and for its signature afterwards. -/
theorem authenticate_sat (stepUp : Bool) {Ψ : List (Event SessionRes) →
    Except SessionError AuthSuccessResponse → Prop} (hΨ : ∀ ys r, Ψ ys r) (xs : List (Event SessionRes)) :
    (authenticate stepUp).Sat SessionWarrant Ψ xs := by
  refine ⟨trivial, fun entered => ?_⟩
  cases entered with
  | false => exact hΨ _ _
  | true =>
    refine ⟨by simp [SessionWarrant], fun identified => ?_⟩
    cases identified with
    | failed => exact hΨ _ _
    | mismatch expected actual => exact hΨ _ _
    | proceeds npub =>
      refine ⟨⟨npub, by simp⟩, fun challenged => ?_⟩
      cases challenged with
      | thrown => exact hΨ _ _
      | refused status => exact hΨ _ _
      | signs template =>
        refine ⟨trivial, fun signed => ?_⟩
        cases signed with
        | false => exact hΨ _ _
        | true =>
          refine ⟨trivial, fun completed => ?_⟩
          cases completed <;> exact hΨ _ _

variable (O) in
/-- The logic of the programs. -/
theorem sessionBody_sat (call : SessionCall) :
    (sessionBody O call).Sat SessionWarrant (fun _ _ => True) [] := by
  cases call with
  | login =>
    apply Prog.Sat.bind
    refine authenticate_sat false (fun ys r => ?_) []
    cases r <;> trivial
  | stepUp =>
    apply Prog.Sat.bind
    refine authenticate_sat true (fun ys r => ?_) []
    cases r with
    | error error => trivial
    | ok response =>
      obtain ⟨pubkey, npub, roles, permissions, expiresAt, stepUpToken⟩ := response
      cases stepUpToken <;> trivial
  | logout =>
    refine ⟨trivial, fun loggedOut => ?_⟩
    cases loggedOut <;> trivial
  | resume verifyIdentity =>
    refine ⟨trivial, fun resumed => ?_⟩
    cases resumed with
    | thrown => trivial
    | expired => trivial
    | failed status => trivial
    | restored response =>
      show (if _ then _ else _ : SessionProgram SessionOutcome).Sat _ _ _
      split
      · refine ⟨trivial, fun identified => ?_⟩
        cases identified <;> trivial
      · trivial
  | reunlock =>
    show (if _ then _ else _ : SessionProgram SessionOutcome).Sat _ _ _
    split
    · trivial
    · refine ⟨trivial, fun stored => ?_⟩
      cases stored with
      | none => trivial
      | some stored =>
        cases stored with
        | false => trivial
        | true =>
          refine ⟨trivial, fun loaded => ?_⟩
          cases loaded with
          | error code => trivial
          | ok key =>
            show (if _ then _ else _ : SessionProgram SessionOutcome).Sat _ _ _
            split
            · trivial
            · refine ⟨trivial, fun taken => ?_⟩
              cases taken <;> trivial
  | unlock =>
    refine ⟨trivial, fun unlocked => ?_⟩
    cases unlocked <;> trivial
  | _ => exact ⟨trivial, fun _ => trivial⟩

/-- A step asks the signer for a signature. -/
def SignsAt (pre : List (Step (sessionMachine O P C))) (e : Step (sessionMachine O P C)) : Prop :=
  ∃ stepUp template, (sessionMachine O P C).event pre e = ⟨.challenge stepUp, .signs template⟩

/-- Every lock that lands between the identity check of a login and its call of the signer is undone
before that call. -/
def LocksUndone (h : List (Step (sessionMachine O P C))) : Prop :=
  ∀ pre e, Occurs h pre e → SignsAt pre e →
    ∀ pre0 e0, Occurs pre pre0 e0 → e0.tid = e.tid →
      proceeds ((sessionMachine O P C).event pre0 e0) = true →
    ∀ pre1 e1, Occurs pre pre1 e1 → pre0 ++ [e0] <+: pre1 →
      locks ((sessionMachine O P C).event pre1 e1) = true →
    ∃ pre2 e2, Occurs pre pre2 e2 ∧ pre1 ++ [e1] <+: pre2 ∧
      (lockFlag O P C).clears pre2 e2

/-- What stands behind a step of a run. -/
theorem session_warranted (hv : (napSession O P C).Valid h) (ho : Occurs h pre e) :
    SessionWarrant ((sessionMachine O P C).own e.tid pre) e.op :=
  hv.of_occurs (sessionBody_sat O) ho

/-- A login goes on before it asks for a signature. -/
theorem exists_proceeds (hv : (napSession O P C).Valid h) (ho : Occurs h pre e)
    (hsigns : SignsAt pre e) : ∃ pre0 e0, Occurs pre pre0 e0 ∧ e0.tid = e.tid ∧
      proceeds ((sessionMachine O P C).event pre0 e0) = true := by
  obtain ⟨stepUp, template, hev⟩ := hsigns
  have hwarrant := session_warranted hv ho
  rw [((sessionMachine O P C).event_eq_iff.mp hev).1] at hwarrant
  obtain ⟨npub, hmem⟩ := hwarrant
  obtain ⟨pre0, e0, ho0, htid, hev0⟩ := mem_own.mp hmem
  refine ⟨pre0, e0, ho0, htid, ?_⟩
  rw [hev0]
  rfl

/-- A locked session's signer holds no key. And the session asks for no signature while it is locked
exactly when no lock lands in the middle of a login and stays: a login looks at the lock when it
begins, and not again. -/
theorem locked_signs_nothing_iff {c : (napSession O P C).Config}
    (hr : (napSession O P C).Reachable c) :
    (∀ h, h <+: c.history → ((sessionMachine O P C).after h).locked = true → O.evictable = true →
      ((sessionMachine O P C).after h).keyHeld = false) ∧
    ((∀ pre e, Occurs c.history pre e → SignsAt pre e →
      ((sessionMachine O P C).after pre).locked = false) ↔ LocksUndone c.history) := by
  have hv := System.Valid.of_reachable hr
  refine ⟨fun h _ hlocked hevictable => keyHeld_of_locked hevictable hlocked, ?_, ?_⟩
  · intro hunlocked pre e ho hsigns pre0 e0 ho0 htid hproceeds pre1 e1 ho1 hlater hlocks
    by_contra hnone
    push Not at hnone
    -- The lock would still be there at the call.
    have hlocked : (lockFlag O P C).value ((sessionMachine O P C).after pre) = true :=
      (lockFlag O P C).value_iff.mpr ⟨pre1, e1, ho1, hlocks, fun pre2 e2 ho2 hlast hclears =>
        hnone pre2 e2 ho2 hlast hclears⟩
    have hnot := hunlocked pre e ho hsigns
    rw [show ((sessionMachine O P C).after pre).locked = true from hlocked] at hnot
    cases hnot
  · intro hundone pre e ho hsigns
    by_contra hnot
    have hlocked : (lockFlag O P C).value ((sessionMachine O P C).after pre) = true := by
      exact Bool.of_not_eq_false hnot
    obtain ⟨pre1, e1, ho1, hlocks, hlast⟩ := (lockFlag O P C).value_iff.mp hlocked
    -- The login has gone on before its call, and has cleared the lock by that.
    obtain ⟨stepUp, template, hev⟩ := hsigns
    obtain ⟨pre0, e0, ho0, htid, hproceeds⟩ := exists_proceeds hv ho ⟨stepUp, template, hev⟩
    have hlater : pre0 ++ [e0] <+: pre1 := by
      rcases ho1.trichotomy ho0 with ⟨rfl, rfl⟩ | hbefore | hbefore
      · exact absurd hlocks ((lockFlag O P C).not_sets_of_clears (Or.inr hproceeds))
      · exact hbefore
      · exact absurd (Or.inr hproceeds) (hlast pre0 e0 ho0 hbefore)
    obtain ⟨pre2, e2, ho2, hafter, hclears⟩ :=
      hundone pre e ho ⟨stepUp, template, hev⟩ pre0 e0 ho0 htid hproceeds pre1 e1 ho1 hlater hlocks
    exact hlast pre2 e2 ho2 hafter hclears

/-- When a login goes on: the signer's identity is known, and it is that of the session. -/
theorem proceeds_iff : proceeds ((sessionMachine O P C).event pre e) = true ↔ e.op = .identify ∧
    ∃ npub, e.env.npub = some npub ∧ ∀ state,
      ((sessionMachine O P C).after pre).sessionState = some state →
        state.pubkey = pubkeyOfNpub P npub := by
  obtain ⟨tid, op, env⟩ := e
  cases op with
  | identify =>
    simp only [true_and]
    show proceeds ⟨.identify, (((sessionMachine O P C).after pre).identify O P env.npub).1⟩ = true ↔ _
    unfold Session.identify
    split
    · rename_i hnpub
      constructor
      · intro h
        cases h
      · rintro ⟨npub, hsome, -⟩
        rw [hnpub] at hsome
        cases hsome
    · rename_i npub hnpub
      cases hstate : ((sessionMachine O P C).after pre).sessionState with
      | none => exact ⟨fun _ => ⟨npub, hnpub, fun state h => by cases h⟩, fun _ => rfl⟩
      | some state =>
        dsimp only
        split
        · rename_i hne
          constructor
          · intro h
            cases h
          · rintro ⟨npub', hsome, hsame⟩
            obtain rfl : npub = npub' := Option.some.inj (hnpub.symm.trans hsome)
            exact absurd (hsame state rfl) hne
        · rename_i heq
          refine ⟨fun _ => ⟨npub, hnpub, fun state' h => ?_⟩, fun _ => rfl⟩
          obtain rfl := Option.some.inj h
          exact not_not.mp heq
  | _ => exact ⟨fun h => (by cases h), fun h => (by cases h.1)⟩

/-- A lock stays until an unlock, a logout or the end of a session whose identity has changed. -/
def LockStays (history : List (Step (sessionMachine O P C))) : Prop :=
  ∀ pre h, pre <+: h → h <+: history → ((sessionMachine O P C).after pre).locked = true →
    ((sessionMachine O P C).after h).locked = true ∨ ∃ pre' e', Occurs h pre' e' ∧ pre <+: pre' ∧
      releases ((sessionMachine O P C).event pre' e') = true

/-- A login that goes on in a locked session clears the lock. -/
theorem not_lockStays {history : List (Step (sessionMachine O P C))} (ho : Occurs history pre e)
    (hlocked : ((sessionMachine O P C).after pre).locked = true)
    (hproceeds : proceeds ((sessionMachine O P C).event pre e) = true) : ¬ LockStays history := by
  intro hstays
  have hcleared : ((sessionMachine O P C).after (pre ++ [e])).locked = false :=
    (lockFlag O P C).value_clears (Or.inr hproceeds)
  rcases hstays pre (pre ++ [e]) (List.prefix_append _ _) ho hlocked with
    hlocked' | ⟨pre', e', ho', hlater, hreleases⟩
  · rw [hcleared] at hlocked'
    cases hlocked'
  · -- The only step since is the login's own.
    rcases occurs_concat.mp ho' with ⟨rfl, rfl⟩ | hbefore
    · rw [not_releases_of_proceeds hproceeds] at hreleases
      cases hreleases
    · have hle := hbefore.length_le
      have hle' := hlater.length_le
      rw [List.length_append, List.length_singleton] at hle
      omega

/-- A lock stays exactly when no login learns the signer's identity while the session is locked, unless
it is another one. It is so in every history of the session, whatever programs its operations belong
to. -/
theorem lock_stays_iff (history : List (Step (sessionMachine O P C))) : LockStays history ↔
    ∀ pre e, Occurs history pre e → e.op = .identify →
      ((sessionMachine O P C).after pre).locked = true → ∀ npub, e.env.npub = some npub →
      ∃ state, ((sessionMachine O P C).after pre).sessionState = some state ∧
        state.pubkey ≠ pubkeyOfNpub P npub := by
  constructor
  · intro hstays pre e ho hop hlocked npub hnpub
    by_contra hnone
    push Not at hnone
    exact not_lockStays ho hlocked (proceeds_iff.mpr ⟨hop, npub, hnpub, hnone⟩) hstays
  · intro hnone pre h hp hh hlocked
    rcases (lockFlag O P C).value_persists hp hlocked with
      hlocked' | ⟨pre', e', ho', hlater, hlocked', hclears⟩
    · exact Or.inl hlocked'
    · rcases hclears with hreleases | hproceeds
      · exact Or.inr ⟨pre', e', ho', hlater, hreleases⟩
      · obtain ⟨hop, npub, hnpub, hsame⟩ := proceeds_iff.mp hproceeds
        obtain ⟨state, hstate, hne⟩ := hnone pre' e' (ho'.mono hh) hop hlocked' npub hnpub
        exact absurd (hsame state hstate) hne

/-- When the server has forgotten the session. -/
theorem expires_iff : expires ((sessionMachine O P C).event pre e) = true ↔
    e.op = .resume ∧ ∃ body, e.env.success = .response 401 body := by
  obtain ⟨tid, op, env⟩ := e
  cases op with
  | resume =>
    simp only [true_and]
    show expires ⟨.resume, (((sessionMachine O P C).after pre).resume env.success).1⟩ = true ↔ _
    unfold Session.resume
    cases env.success with
    | thrown => exact ⟨fun h => (by cases h), fun ⟨_, h⟩ => by cases h⟩
    | response status body =>
      dsimp only
      split
      · rename_i hstatus
        exact ⟨fun _ => ⟨body, by rw [hstatus]⟩, fun _ => rfl⟩
      · rename_i hstatus
        constructor
        · intro h
          split at h
          · cases h
          · split at h <;> cases h
        · rintro ⟨body', heq⟩
          exact absurd (Fetched.response.inj heq).1 hstatus
  | _ => exact ⟨fun h => (by cases h), fun h => (by cases h.1)⟩

/-- A session that the server has forgotten is dropped, and its lock is not. -/
theorem step_expired (hexpires : expires ((sessionMachine O P C).event pre e) = true) :
    ((sessionMachine O P C).after (pre ++ [e])).sessionState = none ∧
      ((sessionMachine O P C).after (pre ++ [e])).locked =
        ((sessionMachine O P C).after pre).locked := by
  obtain ⟨hop, body, hsuccess⟩ := expires_iff.mp hexpires
  obtain ⟨tid, op, env⟩ := e
  obtain rfl : op = .resume := hop
  rw [Machine.after_concat]
  show (((sessionMachine O P C).after pre).resume env.success).2.sessionState = none ∧
    (((sessionMachine O P C).after pre).resume env.success).2.locked = _
  rw [show env.success = .response 401 body from hsuccess]
  exact ⟨rfl, rfl⟩

/-- A locked session is logged in, in every state. -/
def LockedAuthenticated (history : List (Step (sessionMachine O P C))) : Prop :=
  ∀ h, h <+: history → ((sessionMachine O P C).after h).locked = true →
    ((sessionMachine O P C).after h).sessionState.isSome = true

/-- A session that the server forgets while it is locked is locked and not logged in. -/
theorem not_lockedAuthenticated {history : List (Step (sessionMachine O P C))}
    (ho : Occurs history pre e) (hlocked : ((sessionMachine O P C).after pre).locked = true)
    (hexpires : expires ((sessionMachine O P C).event pre e) = true) :
    ¬ LockedAuthenticated history := by
  intro hauth
  obtain ⟨hdropped, hsame⟩ := step_expired hexpires
  have hsome := hauth (pre ++ [e]) ho (hsame.trans hlocked)
  rw [hdropped] at hsome
  cases hsome

/-- A locked session is logged in exactly when the server never answers the lookup of a locked session
with a 401. It is so in every history of the session. -/
theorem locked_authenticated_iff (history : List (Step (sessionMachine O P C))) :
    LockedAuthenticated history ↔ ∀ pre e, Occurs history pre e → e.op = .resume →
      ∀ body, e.env.success = .response 401 body →
      ((sessionMachine O P C).after pre).locked = false := by
  constructor
  · intro hauth pre e ho hop body hsuccess
    by_contra hnot
    exact not_lockedAuthenticated ho (Bool.of_not_eq_false hnot)
      (expires_iff.mpr ⟨hop, body, hsuccess⟩) hauth
  · intro hnone h hh hlocked
    induction h using List.reverseRecOn with
    | nil => cases hlocked
    | append_singleton h e ih =>
      rcases step_change (h := h) (e := e) with ⟨_, hsession, hsame, _, _⟩ | ⟨_, hunlocked⟩ |
        ⟨_, hsame, _, hsession⟩
      · rw [hsame]
        exact hsession
      · rw [hunlocked] at hlocked
        cases hlocked
      · have hbefore := hsame.symm.trans hlocked
        have hh' : h <+: history := (List.prefix_append _ _).trans hh
        rcases hsession (ih hh' hbefore) with hsome | hexpires
        · exact hsome
        · obtain ⟨hop, body, hsuccess⟩ := expires_iff.mp hexpires
          rw [hnone h e hh hop body hsuccess] at hbefore
          cases hbefore

end Runs

/-! ## A session that is locked while it works -/

namespace SessionSample

/-- A signer that holds no key in the page. -/
def options : NapClientOptions := ⟨false, false, false, false, true⟩

/-- The session. -/
abbrev page : System SessionRes SessionCall SessionOutcome :=
  napSession options Sample.platform Sample.client

/-- The server's session. -/
def response : AuthSuccessResponse where
  pubkey := Sample.pubkey
  npub := Sample.npub
  roles := none
  permissions := none
  expiresAt := JsonNumber.ofInt 2000
  stepUpToken := none

/-- The signer and the server answer. -/
def env (success : Fetched AuthSuccessResponse) : SessionEnv where
  now := 1000
  npub := some Sample.npub
  challenge := .response 200 (some Sample.initResponse)
  signed := true
  success := success
  logoutReply := .response 204 ""
  storeHasKey := none
  key := .error .storageUnavailable
  takesKey := false

/-- The next operation of a call, with a server that knows the session. -/
def goOn (tid : ℕ) : page.Label := .run tid (env (.response 200 (some response)))

/-- The user logs in. -/
def loggedIn : List page.Label := .start .login :: List.replicate 5 (goOn 0)

/-- A step-up begins, and the session is locked before it asks for the signature. -/
def lockedInChallenge : List page.Label :=
  loggedIn ++ [.start .stepUp, goOn 1, goOn 1, .start .lock, goOn 2, goOn 1]

/-- A step-up begins, and the session is locked and unlocked before it asks for the signature. -/
def unlockedInChallenge : List page.Label :=
  loggedIn ++ [.start .stepUp, goOn 1, goOn 1, .start .lock, goOn 2, .start .unlock, goOn 3, goOn 1]

/-- A step-up begins, and the session is locked before the signer has said who it is. -/
def lockedInIdentify : List page.Label :=
  loggedIn ++ [.start .stepUp, goOn 1, .start .lock, goOn 2, goOn 1]

/-- The session is locked, and the server has forgotten it. -/
def lockedAndExpired : List page.Label :=
  loggedIn ++ [.start .lock, goOn 1, .start (.resume false), .run 2 (env (.response 401 none))]

/-- Whether an event asks the signer for a signature. -/
def signs : Event SessionRes → Bool
  | ⟨.challenge _, .signs _⟩ => true
  | _ => false

/-- Whether the step at an index meets a locked session, and is of a kind. -/
def metLocked (index : ℕ) (kind : Event SessionRes → Bool) (c : page.Config) : Bool :=
  c.history[index]?.any fun e : Step (sessionMachine options Sample.platform Sample.client) =>
    ((sessionMachine options Sample.platform Sample.client).after (c.history.take index)).locked &&
      kind ((sessionMachine options Sample.platform Sample.client).event (c.history.take index) e)

/-- A run with such a step. -/
theorem exists_run (ls : List page.Label) (index : ℕ) (kind : Event SessionRes → Bool)
    (h : (System.replay (sessionBody options) page.initial ls).any (metLocked index kind) = true) :
    ∃ c pre e, page.Reachable c ∧ Occurs c.history pre e ∧
      ((sessionMachine options Sample.platform Sample.client).after pre).locked = true ∧
      kind ((sessionMachine options Sample.platform Sample.client).event pre e) = true := by
  obtain ⟨c, hr, -, hp⟩ := System.exists_replay (fun _ _ => rfl) h
  obtain ⟨e, he, hmet⟩ := (Option.any_eq_true _ _).mp hp
  rw [Bool.and_eq_true] at hmet
  exact ⟨c, _, e, hr, occurs_take he, hmet.1, hmet.2⟩

/-- Which steps ask the signer for a signature. -/
theorem signs_iff {pre : List (Step (sessionMachine options Sample.platform Sample.client))}
    {e : Step (sessionMachine options Sample.platform Sample.client)} :
    signs ((sessionMachine options Sample.platform Sample.client).event pre e) = true ↔
      SignsAt pre e := by
  unfold signs
  constructor
  · intro hsigns
    split at hsigns
    · rename_i stepUp template hev
      exact ⟨stepUp, template, hev⟩
    · cases hsigns
  · rintro ⟨stepUp, template, hev⟩
    rw [hev]

/-- A signature is asked for in a locked session. -/
theorem signs_locked : ∃ c pre e, page.Reachable c ∧ Occurs c.history pre e ∧
    ((sessionMachine options Sample.platform Sample.client).after pre).locked = true ∧
    SignsAt pre e := by
  obtain ⟨c, pre, e, hr, ho, hlocked, hsigns⟩ :=
    exists_run lockedInChallenge 8 signs (by decide)
  exact ⟨c, pre, e, hr, ho, hlocked, signs_iff.mp hsigns⟩

/-- Whether a step asks for no signature in a locked session. -/
def signsUnlocked (pre : List (Step (sessionMachine options Sample.platform Sample.client)))
    (e : Step (sessionMachine options Sample.platform Sample.client)) : Bool :=
  !signs ((sessionMachine options Sample.platform Sample.client).event pre e) ||
    !((sessionMachine options Sample.platform Sample.client).after pre).locked

/-- A lock lands in the middle of the step-up, the step-up asks for its signature after that, and no
signature is asked for in a locked session. -/
def lockUndone (c : page.Config) : Bool :=
  System.checked signsUnlocked c.history &&
    c.history[9]?.any (fun e => signs
      ((sessionMachine options Sample.platform Sample.client).event (c.history.take 9) e)) &&
    (c.history.take 9)[7]?.any fun e => locks ((sessionMachine options Sample.platform
      Sample.client).event ((c.history.take 9).take 7) e)

end SessionSample

section Witnesses

open SessionSample

/-- A session asks for a signature while it is locked. -/
theorem locked_signs_something : ¬ ∀ c, page.Reachable c → ∀ pre e, Occurs c.history pre e →
    SignsAt pre e →
    ((sessionMachine options Sample.platform Sample.client).after pre).locked = false := by
  intro h
  obtain ⟨c, pre, e, hr, ho, hlocked, hsigns⟩ := signs_locked
  rw [h c hr pre e ho hsigns] at hlocked
  cases hlocked

/-- A lock that lands in the middle of a step-up is undone before the step-up asks for its signature. -/
theorem locked_signs_nothing_here : ∃ c, page.Reachable c ∧ LocksUndone c.history ∧
    ∃ pre e, Occurs c.history pre e ∧ SignsAt pre e ∧ ∃ pre1 e1, Occurs pre pre1 e1 ∧
      locks ((sessionMachine options Sample.platform Sample.client).event pre1 e1) = true := by
  have hrun : (System.replay (sessionBody options) page.initial unlockedInChallenge).any
      lockUndone = true := by decide
  obtain ⟨c, hr, -, hp⟩ := System.exists_replay (fun _ _ => rfl) hrun
  simp only [lockUndone, Bool.and_eq_true, Option.any_eq_true] at hp
  obtain ⟨⟨hchecked, e, he, hsigns⟩, e1, he1, hlocks⟩ := hp
  refine ⟨c, hr, (locked_signs_nothing_iff hr).2.mp fun pre e ho hsigns => ?_,
    _, e, occurs_take he, signs_iff.mp hsigns, _, e1, occurs_take he1, hlocks⟩
  have htest := System.of_checked hchecked ho
  simp only [signsUnlocked, signs_iff.mpr hsigns, Bool.not_true, Bool.false_or] at htest
  exact (Bool.not_eq_true' _).mp htest

/-- A lock does not stay: a step-up that has begun before clears it. -/
theorem lock_cleared : ¬ ∀ c, page.Reachable c → LockStays c.history := by
  intro h
  obtain ⟨c, pre, e, hr, ho, hlocked, hproceeds⟩ :=
    exists_run lockedInIdentify 7 proceeds (by decide)
  exact not_lockStays ho hlocked hproceeds (h c hr)

/-- A session is locked and not logged in. -/
theorem locked_unauthenticated : ¬ ∀ c, page.Reachable c → LockedAuthenticated c.history := by
  intro h
  obtain ⟨c, pre, e, hr, ho, hlocked, hexpires⟩ :=
    exists_run lockedAndExpired 6 expires (by decide)
  exact not_lockedAuthenticated ho hlocked hexpires (h c hr)

end Witnesses

end NapAuth.Web

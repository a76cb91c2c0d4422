import NapAuth.Interleaving.Alarm
import NapAuth.Web.Logout

/-!
# The idle lock of a session

`createActivityLock` of `packages/nap-client-web/src/activityLock.ts` has two timers, which the user's
activity and some of the session's own operations set anew. `NapAuth.Web.Session` says whether they are
running, and this module says when they are due (`session_timers` connects the two).

A timer never comes early (`idle_timers_not_early`). And an idle session locks: once the page's timers
are at most `slack` late, a session that is not locked was active within the timeout and the slack
(`idle_locks`). Active is what `touches` says: the user's activity, a login that goes on, an unlock, a
new key, and a lock or a timer that comes when there is no session, which sets the timers anew as well.
There is one exception, which the theorem names: after an idle lock, a session that is dropped leaves
its timer off, and one that is restored by a `resume` or by a login that was under way is watched by no
timer until something sets it.
-/

namespace NapAuth.Web

open Interleaving

/-! ## The timers -/

/-- `options.autoLock`. -/
structure AutoLockOptions where
  enabled : Bool
  timeoutMs : Option ℤ
  shutdownTimeoutMs : Option ℤ

/-- How long `setTimeout` waits: it reads its milliseconds as a 32-bit integer. -/
def timerDelay (ms : ℤ) : ℤ := max 0 (ms.bmod (2 ^ 32))

/-- When the timers of an `ActivityLock` are due. -/
structure ActivityLock where
  lockTimeout : Option ℤ
  shutdownTimeout : Option ℤ

section Timers

variable (A : AutoLockOptions)

/-- `options.autoLock?.timeoutMs ?? 15 * 60 * 1000`. -/
def AutoLockOptions.lockDelay : ℤ := timerDelay (A.timeoutMs.getD (15 * 60 * 1000))

/-- `touch`, which calls `reschedule` if the lock is enabled. -/
def ActivityLock.touch (now : ℤ) (lock : ActivityLock) : ActivityLock :=
  if A.enabled then
    { lockTimeout := some (now + A.lockDelay)
      shutdownTimeout :=
        match A.shutdownTimeoutMs with
        | some ms => some (now + timerDelay ms)
        | none => lock.shutdownTimeout }
  else lock

/-- `stop`. -/
def ActivityLock.stop : ActivityLock := ⟨none, none⟩

/-- `createActivityLock`. -/
def createActivityLock (now : ℤ) : ActivityLock := ActivityLock.touch A now ⟨none, none⟩

/-- Whether an event calls `activityLock.touch()`. A lock that finds no session does, and so does a timer
that comes when there is none. -/
def touches : Event SessionRes → Bool
  | ⟨.touch, _⟩ => true
  | ⟨.identify, .proceeds _⟩ => true
  | ⟨.unlock, unlocked⟩ => unlocked
  | ⟨.message .unlock, acted⟩ => acted
  | ⟨.setKey _, taken⟩ => taken
  | ⟨.lock, locked⟩ => !locked
  | ⟨.shutdown, locked⟩ => !locked
  | ⟨.lockTimer, locked⟩ => !locked
  | ⟨.shutdownTimer, locked⟩ => !locked
  | _ => false

/-- The timers after an event at the time `now`: a timer that has come is over. -/
def ActivityLock.step (now : ℤ) (ev : Event SessionRes) (lock : ActivityLock) : ActivityLock :=
  let lock := match ev.1 with
    | .lockTimer => { lock with lockTimeout := none }
    | .shutdownTimer => { lock with shutdownTimeout := none }
    | .destroy => ActivityLock.stop
    | _ => lock
  if touches ev then lock.touch A now else lock

/-- Whether an operation is the end of the lock's timer. -/
def endsLockTimer : SessionOp → Bool
  | .lockTimer => true
  | .destroy => true
  | _ => false

theorem endsLockTimer_iff {op : SessionOp} :
    endsLockTimer op = true ↔ op = .lockTimer ∨ op = .destroy := by
  cases op <;> simp [endsLockTimer]

/-- Whether an operation is the end of the shutdown's timer. -/
def endsShutdownTimer : SessionOp → Bool
  | .shutdownTimer => true
  | .destroy => true
  | _ => false

variable {A} in
/-- What one event makes of each timer. -/
theorem ActivityLock.step_eq (now : ℤ) (ev : Event SessionRes) (lock : ActivityLock) :
    lock.step A now ev =
      ⟨if A.enabled && touches ev then some (now + A.lockDelay)
        else if endsLockTimer ev.1 then none else lock.lockTimeout,
      if A.enabled && A.shutdownTimeoutMs.isSome && touches ev then
          some (now + timerDelay (A.shutdownTimeoutMs.getD 0))
        else if endsShutdownTimer ev.1 then none else lock.shutdownTimeout⟩ := by
  obtain ⟨op, res⟩ := ev
  simp only [ActivityLock.step]
  cases touches ⟨op, res⟩ with
  | false =>
    simp only [Bool.and_false, Bool.false_eq_true, if_false]
    cases op <;> rfl
  | true =>
    cases henabled : A.enabled with
    | false =>
      simp only [ActivityLock.touch, henabled, Bool.false_and, Bool.false_eq_true, if_false, if_true]
      cases op <;> rfl
    | true =>
      cases hshutdown : A.shutdownTimeoutMs with
      | none =>
        simp only [ActivityLock.touch, henabled, hshutdown, Option.isSome_none, Bool.true_and,
          Bool.and_true, Bool.false_eq_true, if_false, if_true]
        cases op <;> rfl
      | some ms =>
        simp only [ActivityLock.touch, henabled, hshutdown, Option.isSome_some, Bool.true_and, if_true,
          Option.getD_some]

end Timers

/-! ## A session with its timers -/

variable {O : NapClientOptions} {P : Platform} {C : Client} (A : AutoLockOptions)

/-- A session and its timers, after one more step. -/
def timedNext (x : Session × ActivityLock) (step : ℤ × Step (sessionMachine O P C)) :
    Session × ActivityLock :=
  let r := sessionExec O P C step.2.op step.2.env x.1
  (r.2, x.2.step A step.1 ⟨step.2.op, r.1⟩)

/-- A session that was created at the time `start`, and its timers. -/
def timedAfter (start : ℤ) (h : List (ℤ × Step (sessionMachine O P C))) : Session × ActivityLock :=
  h.foldl (timedNext A) ((sessionMachine O P C).init, createActivityLock A start)

/-- The alarm of the lock. -/
def lockAlarm : Alarm (sessionMachine O P C) where
  delay := A.lockDelay
  arms pre e := A.enabled && touches ((sessionMachine O P C).event pre e)
  stops _ e := endsLockTimer e.op

/-- The alarm of the shutdown. -/
def shutdownAlarm : Alarm (sessionMachine O P C) where
  delay := timerDelay (A.shutdownTimeoutMs.getD 0)
  arms pre e := A.enabled && A.shutdownTimeoutMs.isSome && touches ((sessionMachine O P C).event pre e)
  stops _ e := endsShutdownTimer e.op

section Timed

variable {A} {start now : ℤ} {h pre : List (ℤ × Step (sessionMachine O P C))} {t : ℤ}
  {e : Step (sessionMachine O P C)}

/-- The session is as it is without its timers' times. -/
theorem timedAfter_session : (timedAfter A start h).1 = (sessionMachine O P C).after (untimed h) := by
  induction h using List.reverseRecOn with
  | nil => rfl
  | append_singleton h x ih =>
    obtain ⟨t, e⟩ := x
    rw [timedAfter, List.foldl_concat, untimed_concat, Machine.after_concat, ← ih]
    rfl

/-- One more step of the timers. -/
theorem timedAfter_concat : (timedAfter A start (h ++ [(t, e)])).2 =
    (timedAfter A start h).2.step A t ((sessionMachine O P C).event (untimed h) e) := by
  rw [Machine.event, ← @timedAfter_session O P C A start h, timedAfter, List.foldl_concat]
  rfl

/-- The two timers are alarms. -/
theorem timers_eq : (timedAfter A start h).2 =
    ⟨(lockAlarm A).due (createActivityLock A start).lockTimeout h,
      (shutdownAlarm A).due (createActivityLock A start).shutdownTimeout h⟩ := by
  induction h using List.reverseRecOn with
  | nil => rfl
  | append_singleton h x ih =>
    obtain ⟨t, e⟩ := x
    rw [timedAfter_concat, ActivityLock.step_eq, ih, Alarm.due_concat, Alarm.due_concat]
    rfl

/-- A timer that the options do not have is never set. -/
theorem timers_none : (A.enabled = false → (timedAfter A start h).2.lockTimeout = none) ∧
    ((A.enabled && A.shutdownTimeoutMs.isSome) = false →
      (timedAfter A start h).2.shutdownTimeout = none) := by
  rw [timers_eq]
  constructor
  · intro hdisabled
    refine Option.eq_none_iff_forall_ne_some.mpr fun d hd => ?_
    rcases Alarm.due_eq_some hd with ⟨hstart, -⟩ | ⟨pre, t, e, -, harms, -⟩
    · simp [createActivityLock, ActivityLock.touch, hdisabled] at hstart
    · simp [lockAlarm, hdisabled] at harms
  · intro hdisabled
    refine Option.eq_none_iff_forall_ne_some.mpr fun d hd => ?_
    rcases Alarm.due_eq_some hd with ⟨hstart, -⟩ | ⟨pre, t, e, -, harms, -⟩
    · revert hstart hdisabled
      simp only [createActivityLock, ActivityLock.touch]
      cases A.enabled <;> cases A.shutdownTimeoutMs <;> simp
    · simp [shutdownAlarm, hdisabled] at harms

variable (A start h) in
/-- A run in which time does not go back, and a timer comes when it is due, or later. -/
structure TimedRun : Prop where
  started : ∀ x ∈ h, start ≤ x.1
  ordered : Alarm.Ordered h
  lockTimer : ∀ pre t e, pre ++ [(t, e)] <+: h → e.op = .lockTimer →
    ∃ d, (timedAfter A start pre).2.lockTimeout = some d ∧ d ≤ t
  shutdownTimer : ∀ pre t e, pre ++ [(t, e)] <+: h → e.op = .shutdownTimer →
    ∃ d, (timedAfter A start pre).2.shutdownTimeout = some d ∧ d ≤ t

/-- A run is one as far as it has come. -/
theorem TimedRun.restrict (hrun : TimedRun A start h) (hp : pre <+: h) : TimedRun A start pre where
  started x hx := hrun.started x (hp.mem hx)
  ordered := hrun.ordered.sublist hp.sublist
  lockTimer pre' t e ho := hrun.lockTimer pre' t e (ho.trans hp)
  shutdownTimer pre' t e ho := hrun.shutdownTimer pre' t e (ho.trans hp)

end Timed

/-! ## Whether the timers are running -/

section Exec

variable {s : Session}

@[simp] theorem evictKey_lockTimer : (s.evictKey O).lockTimer = s.lockTimer := by
  unfold Session.evictKey
  split <;> rfl

@[simp] theorem evictKey_shutdownTimer : (s.evictKey O).shutdownTimer = s.shutdownTimer := by
  unfold Session.evictKey
  split <;> rfl

/-- Whether the timers of a session are running after an operation: it sets them anew, or has one that
has come or is stopped, or leaves them. -/
def TimersAfter (O : NapClientOptions) (s s' : Session) (ev : Event SessionRes) : Prop :=
  s'.lockTimer =
      (if touches ev then O.autoLock else if endsLockTimer ev.1 then false else s.lockTimer) ∧
    s'.shutdownTimer =
      if touches ev then O.autoLock && O.hasShutdownTimeout
      else if endsShutdownTimer ev.1 then false else s.shutdownTimer

/-- An operation on the timers of a session. -/
theorem exec_timers (op : SessionOp) (env : SessionEnv) (hlock : op = .lockTimer → s.lockTimer = true)
    (hshutdown : op = .shutdownTimer → s.shutdownTimer = true) :
    TimersAfter O s (sessionExec O P C op env s).2 ⟨op, (sessionExec O P C op env s).1⟩ := by
  cases op with
  | identify =>
    show TimersAfter O s (s.identify O P env.npub).2 ⟨.identify, (s.identify O P env.npub).1⟩
    unfold Session.identify
    split
    · exact ⟨rfl, rfl⟩
    · split
      · split
        · exact ⟨evictKey_lockTimer, evictKey_shutdownTimer⟩
        · exact ⟨rfl, rfl⟩
      · exact ⟨rfl, rfl⟩
  | complete =>
    show TimersAfter O s (s.complete O env.success).2 ⟨.complete, (s.complete O env.success).1⟩
    unfold Session.complete
    split
    · exact ⟨rfl, rfl⟩
    · split
      · exact ⟨rfl, rfl⟩
      · split
        · exact ⟨rfl, rfl⟩
        · dsimp only
          split
          · exact ⟨evictKey_lockTimer, evictKey_shutdownTimer⟩
          · exact ⟨rfl, rfl⟩
  | logout =>
    show TimersAfter O s
      (if loggedOut P env.logoutReply then (true, s.drop O) else (false, s) : Bool × Session).2
      ⟨.logout,
        (if loggedOut P env.logoutReply then (true, s.drop O) else (false, s) : Bool × Session).1⟩
    split
    · exact ⟨evictKey_lockTimer, evictKey_shutdownTimer⟩
    · exact ⟨rfl, rfl⟩
  | resume =>
    show TimersAfter O s (s.resume env.success).2 ⟨.resume, (s.resume env.success).1⟩
    unfold Session.resume
    split
    · exact ⟨rfl, rfl⟩
    · split
      · exact ⟨rfl, rfl⟩
      · split
        · exact ⟨rfl, rfl⟩
        · split <;> exact ⟨rfl, rfl⟩
  | verifyIdentity pubkey =>
    show TimersAfter O s (s.verifyIdentity O P pubkey env.npub).2
      ⟨.verifyIdentity pubkey, (s.verifyIdentity O P pubkey env.npub).1⟩
    unfold Session.verifyIdentity
    split
    · exact ⟨rfl, rfl⟩
    · split
      · exact ⟨evictKey_lockTimer, evictKey_shutdownTimer⟩
      · exact ⟨rfl, rfl⟩
  | lock =>
    show TimersAfter O s (s.publishLock O).2 ⟨.lock, (s.publishLock O).1⟩
    unfold Session.publishLock
    split
    · exact ⟨rfl, rfl⟩
    · exact ⟨evictKey_lockTimer, evictKey_shutdownTimer⟩
  | shutdown =>
    show TimersAfter O s (s.publishShutdown O).2 ⟨.shutdown, (s.publishShutdown O).1⟩
    unfold Session.publishShutdown
    split
    · exact ⟨rfl, rfl⟩
    · exact ⟨evictKey_lockTimer, evictKey_shutdownTimer⟩
  | lockTimer =>
    show TimersAfter O s
      (if s.lockTimer then { s with lockTimer := false }.publishLock O else (false, s)).2
      ⟨.lockTimer, (if s.lockTimer then { s with lockTimer := false }.publishLock O else (false, s)).1⟩
    rw [if_pos (hlock rfl)]
    unfold Session.publishLock
    split
    · exact ⟨rfl, rfl⟩
    · exact ⟨evictKey_lockTimer, evictKey_shutdownTimer⟩
  | shutdownTimer =>
    show TimersAfter O s
      (if s.shutdownTimer then { s with shutdownTimer := false }.publishShutdown O else (false, s)).2
      ⟨.shutdownTimer,
        (if s.shutdownTimer then { s with shutdownTimer := false }.publishShutdown O
          else (false, s)).1⟩
    rw [if_pos (hshutdown rfl)]
    unfold Session.publishShutdown
    split
    · exact ⟨rfl, rfl⟩
    · exact ⟨evictKey_lockTimer, evictKey_shutdownTimer⟩
  | message type =>
    show TimersAfter O s (s.onMessage O type).2 ⟨.message type, (s.onMessage O type).1⟩
    unfold Session.onMessage
    split
    · cases type <;> exact ⟨rfl, rfl⟩
    · cases type with
      | unlock =>
        show TimersAfter O s (s.unlock O).2 ⟨.message .unlock, (s.unlock O).1⟩
        unfold Session.unlock
        split <;> exact ⟨rfl, rfl⟩
      | identityChanged => exact ⟨evictKey_lockTimer, evictKey_shutdownTimer⟩
      | logout => exact ⟨evictKey_lockTimer, evictKey_shutdownTimer⟩
      | shutdown =>
        dsimp only
        split
        · exact ⟨rfl, rfl⟩
        · exact ⟨evictKey_lockTimer, evictKey_shutdownTimer⟩
      | lock =>
        dsimp only
        split
        · exact ⟨rfl, rfl⟩
        · exact ⟨evictKey_lockTimer, evictKey_shutdownTimer⟩
  | setKey key =>
    show TimersAfter O s (if O.evictable && !env.takesKey then (false, s)
      else (true, (s.setKey O).touch O) : Bool × Session).2 ⟨.setKey key,
        (if O.evictable && !env.takesKey then (false, s)
          else (true, (s.setKey O).touch O) : Bool × Session).1⟩
    split <;> exact ⟨rfl, rfl⟩
  | unlock =>
    show TimersAfter O s (s.unlock O).2 ⟨.unlock, (s.unlock O).1⟩
    unfold Session.unlock
    split <;> exact ⟨rfl, rfl⟩
  | _ => exact ⟨rfl, rfl⟩

/-- An operation that clears the lock without setting the timers drops the session. -/
theorem exec_dropped (op : SessionOp) (env : SessionEnv)
    (hclears : releases ⟨op, (sessionExec O P C op env s).1⟩ = true ∨
      proceeds ⟨op, (sessionExec O P C op env s).1⟩ = true)
    (hnot : touches ⟨op, (sessionExec O P C op env s).1⟩ = false) :
    (sessionExec O P C op env s).2.sessionState = none := by
  revert hclears hnot
  cases op with
  | identify =>
    dsimp only [sessionExec, Session.identify]
    split
    · rintro (hf | hf) - <;> cases hf
    · split
      · split
        · exact fun _ _ => rfl
        · exact fun _ hf => by cases hf
      · exact fun _ hf => by cases hf
  | complete =>
    dsimp only [sessionExec, Session.complete]
    split
    · rintro (hf | hf) - <;> cases hf
    · split
      · rintro (hf | hf) - <;> cases hf
      · split
        · rintro (hf | hf) - <;> cases hf
        · split
          · exact fun _ _ => rfl
          · rintro (hf | hf) - <;> cases hf
  | verifyIdentity pubkey =>
    dsimp only [sessionExec, Session.verifyIdentity]
    split
    · rintro (hf | hf) - <;> cases hf
    · split
      · exact fun _ _ => rfl
      · rintro (hf | hf) - <;> cases hf
  | logout =>
    dsimp only [sessionExec]
    split
    · exact fun _ _ => rfl
    · rintro (hf | hf) - <;> cases hf
  | message type =>
    dsimp only [sessionExec, Session.onMessage]
    split
    · cases type <;> rintro (hf | hf) - <;> cases hf
    · cases type with
      | logout => exact fun _ _ => rfl
      | identityChanged => exact fun _ _ => rfl
      | unlock =>
        rintro (hacted | hf) hnot
        · exact absurd (hacted.symm.trans hnot) (by simp)
        · cases hf
      | lock => rintro (hf | hf) - <;> cases hf
      | shutdown => rintro (hf | hf) - <;> cases hf
  | unlock =>
    rintro (hunlocked | hf) hnot
    · exact absurd (hunlocked.symm.trans hnot) (by simp)
    · cases hf
  | setKey key =>
    rintro (htaken | hf) hnot
    · exact absurd (htaken.symm.trans hnot) (by simp)
    · cases hf
  | _ => rintro (hf | hf) - <;> cases hf

end Exec

section Timed

variable {A} {start now : ℤ} {h pre : List (ℤ × Step (sessionMachine O P C))} {t : ℤ}
  {e : Step (sessionMachine O P C)}

/-- The session's timers are running exactly while they are due at some time. -/
theorem session_timers (hlock : O.autoLock = A.enabled)
    (hshutdown : O.hasShutdownTimeout = A.shutdownTimeoutMs.isSome) (hrun : TimedRun A start h) :
    ((sessionMachine O P C).after (untimed h)).lockTimer =
        (timedAfter A start h).2.lockTimeout.isSome ∧
      ((sessionMachine O P C).after (untimed h)).shutdownTimer =
        (timedAfter A start h).2.shutdownTimeout.isSome := by
  induction h using List.reverseRecOn with
  | nil =>
    show O.autoLock = (createActivityLock A start).lockTimeout.isSome ∧
      (O.autoLock && O.hasShutdownTimeout) = (createActivityLock A start).shutdownTimeout.isSome
    rw [hlock, hshutdown, createActivityLock, ActivityLock.touch]
    cases A.enabled <;> cases A.shutdownTimeoutMs <;> exact ⟨rfl, rfl⟩
  | append_singleton h x ih =>
    obtain ⟨t, e⟩ := x
    have hp : h <+: h ++ [(t, e)] := List.prefix_append _ _
    obtain ⟨hl, hs⟩ := ih (hrun.restrict hp)
    have hstep : TimersAfter O ((sessionMachine O P C).after (untimed h))
        ((sessionMachine O P C).after (untimed h ++ [e]))
        ((sessionMachine O P C).event (untimed h) e) := by
      rw [Machine.after_concat]
      refine exec_timers e.op e.env (fun hop => ?_) fun hop => ?_
      · obtain ⟨d, hd, -⟩ := hrun.lockTimer h t e List.prefix_rfl hop
        rw [hl, hd, Option.isSome_some]
      · obtain ⟨d, hd, -⟩ := hrun.shutdownTimer h t e List.prefix_rfl hop
        rw [hs, hd, Option.isSome_some]
    rw [untimed_concat, timedAfter_concat]
    obtain ⟨hnolock, hnoshutdown⟩ := @timers_none O P C A start h
    rw [ActivityLock.step_eq]
    obtain ⟨hl', hs'⟩ := hstep
    rw [hlock, hl] at hl'
    rw [hlock, hshutdown, hs] at hs'
    rw [hl', hs']
    cases touches ((sessionMachine O P C).event (untimed h) e) with
    | false =>
      simp only [Bool.and_false, Bool.false_eq_true, if_false]
      exact ⟨by split <;> rfl, by split <;> rfl⟩
    | true =>
      simp only [Bool.and_true, if_true]
      constructor
      · cases henabled : A.enabled with
        | true => rfl
        | false => simp [hnolock henabled]
      · cases hboth : A.enabled && A.shutdownTimeoutMs.isSome with
        | true => rfl
        | false => simp [hnoshutdown hboth]

/-- A timer never comes early: when one comes, its delay has passed since the session was created, and
since every event that has set it anew. -/
theorem idle_timers_not_early (hrun : TimedRun A start h) (ho : pre ++ [(t, e)] <+: h) :
    (e.op = .lockTimer → A.enabled = true ∧ start + A.lockDelay ≤ t ∧
      ∀ pre' t' e', pre' ++ [(t', e')] <+: pre →
        touches ((sessionMachine O P C).event (untimed pre') e') = true → t' + A.lockDelay ≤ t) ∧
    (e.op = .shutdownTimer → ∃ ms, A.shutdownTimeoutMs = some ms ∧ start + timerDelay ms ≤ t ∧
      ∀ pre' t' e', pre' ++ [(t', e')] <+: pre →
        touches ((sessionMachine O P C).event (untimed pre') e') = true → t' + timerDelay ms ≤ t) := by
  have hp : pre <+: h := (List.prefix_append _ _).trans ho
  have hordered := hrun.ordered.sublist hp.sublist
  have hstarted : ∀ {pre' : List (ℤ × Step (sessionMachine O P C))} {t' e'},
      pre' ++ [(t', e')] <+: pre → start ≤ t' := fun ho' =>
    hrun.started (_, _) (hp.mem (ho'.mem (List.mem_append_right _ (List.mem_singleton_self _))))
  have htimers := @timers_eq O P C A start pre
  refine ⟨fun hop => ?_, fun hop => ?_⟩
  · obtain ⟨d, hd, hle⟩ := hrun.lockTimer pre t e ho hop
    have henabled : A.enabled = true := by
      by_contra hdisabled
      rw [timers_none.1 (Bool.eq_false_of_not_eq_true hdisabled)] at hd
      cases hd
    rw [htimers] at hd
    refine ⟨henabled, ?_, fun pre' t' e' ho' htouches => ?_⟩
    · rcases Alarm.due_eq_some hd with ⟨hfirst, -⟩ | ⟨pre', t', e', ho', -, rfl, -⟩
      · rw [createActivityLock, ActivityLock.touch, if_pos henabled] at hfirst
        exact (Option.some.inj hfirst).le.trans hle
      · have hlater := hstarted ho'
        have hdelay : (lockAlarm A : Alarm (sessionMachine O P C)).delay = A.lockDelay := rfl
        omega
    · refine (Alarm.le_due (A := lockAlarm A) hordered hd ho' ?_).trans hle
      exact Bool.and_eq_true_iff.mpr ⟨henabled, htouches⟩
  · obtain ⟨d, hd, hle⟩ := hrun.shutdownTimer pre t e ho hop
    have hboth : (A.enabled && A.shutdownTimeoutMs.isSome) = true := by
      by_contra hdisabled
      rw [timers_none.2 (Bool.eq_false_of_not_eq_true hdisabled)] at hd
      cases hd
    obtain ⟨henabled, hsome⟩ := Bool.and_eq_true_iff.mp hboth
    obtain ⟨ms, hms⟩ := Option.isSome_iff_exists.mp hsome
    have hdelay : (shutdownAlarm A : Alarm (sessionMachine O P C)).delay = timerDelay ms := by
      rw [shutdownAlarm, hms, Option.getD_some]
    rw [htimers] at hd
    refine ⟨ms, hms, ?_, fun pre' t' e' ho' htouches => ?_⟩
    · rcases Alarm.due_eq_some hd with ⟨hfirst, -⟩ | ⟨pre', t', e', ho', -, rfl, -⟩
      · rw [createActivityLock, ActivityLock.touch, if_pos henabled, hms] at hfirst
        exact (Option.some.inj hfirst).le.trans hle
      · have hlater := hstarted ho'
        omega
    · rw [← hdelay]
      refine (Alarm.le_due (A := shutdownAlarm A) hordered hd ho' ?_).trans hle
      exact Bool.and_eq_true_iff.mpr ⟨hboth, htouches⟩

/-- What clears a lock without setting the timers drops the session. -/
theorem dropped_of_clears {pre : List (Step (sessionMachine O P C))}
    (hclears : (lockFlag O P C).clears pre e)
    (hnot : touches ((sessionMachine O P C).event pre e) = false) :
    ((sessionMachine O P C).after (pre ++ [e])).sessionState = none := by
  rw [Machine.after_concat]
  exact exec_dropped e.op e.env hclears hnot

/-- An idle session locks. While the page lives, and the timer of the lock is at most `slack` late, a
session that is not locked was created or active within the timeout and the slack. Or it is one that
is watched by no timer: there was no session at some time when the timer was off, and nothing has set
the timer since. -/
theorem idle_locks (henabled : A.enabled = true) (hlive : ∀ x ∈ h, x.2.op ≠ .destroy) {slack : ℤ}
    (hprompt : ∀ d, (timedAfter A start h).2.lockTimeout = some d → now ≤ d + slack)
    (hunlocked : ((sessionMachine O P C).after (untimed h)).locked = false) :
    (now ≤ start + A.lockDelay + slack ∨ ∃ pre t e, pre ++ [(t, e)] <+: h ∧
      touches ((sessionMachine O P C).event (untimed pre) e) = true ∧
      now ≤ t + A.lockDelay + slack) ∨
    ∃ pre, pre <+: h ∧ ((sessionMachine O P C).after (untimed pre)).sessionState = none ∧
      (timedAfter A start pre).2.lockTimeout = none ∧
      ∀ pre' t e, pre' ++ [(t, e)] <+: h → pre <+: pre' →
        touches ((sessionMachine O P C).event (untimed pre') e) = false := by
  cases hd : (timedAfter A start h).2.lockTimeout with
  | some d =>
    have hle := hprompt d hd
    rw [timers_eq] at hd
    have hdelay : (lockAlarm A : Alarm (sessionMachine O P C)).delay = A.lockDelay := rfl
    rcases Alarm.due_eq_some hd with ⟨hfirst, -⟩ | ⟨pre, t, e, ho, harms, rfl, -⟩
    · rw [createActivityLock, ActivityLock.touch, if_pos henabled] at hfirst
      obtain rfl : start + A.lockDelay = d := Option.some.inj hfirst
      exact Or.inl (Or.inl hle)
    · exact Or.inl (Or.inr ⟨pre, t, e, ho, (Bool.and_eq_true_iff.mp harms).2, hdelay ▸ hle⟩)
  | none =>
    rw [timers_eq] at hd
    rcases Alarm.due_eq_none hd with ⟨hfirst, -⟩ | ⟨pre, t, e, ho, hstops, hnone⟩
    · rw [createActivityLock, ActivityLock.touch, if_pos henabled] at hfirst
      cases hfirst
    · have hidle : ∀ {pre' t' e'}, pre' ++ [(t', e')] <+: h → pre <+: pre' →
          touches ((sessionMachine O P C).event (untimed pre') e') = false := by
        intro pre' t' e' ho' hlater
        have harms : (A.enabled && touches ((sessionMachine O P C).event (untimed pre') e')) = false :=
          hnone pre' t' e' ho' hlater
        rwa [henabled, Bool.true_and] at harms
      have hop : e.op = .lockTimer := (endsLockTimer_iff.mp hstops).resolve_right
        (hlive (t, e) (ho.mem (List.mem_append_right _ (List.mem_singleton_self _))))
      -- The timer has locked the session, and what has cleared the lock since has set no timer.
      have hlocks : locks ((sessionMachine O P C).event (untimed pre) e) = true := by
        have hnot := hidle ho List.prefix_rfl
        obtain ⟨tid, op, env⟩ := e
        obtain rfl : op = .lockTimer := hop
        exact (Bool.not_eq_false_eq_eq_true _).mp hnot
      have hset := (lockFlag O P C).value_sets hlocks
      rcases (lockFlag O P C).value_persists (occurs_untimed ho) hset with
        hlocked | ⟨pre1, e1, ho1, hlater1, -, hclears⟩
      · rw [show ((sessionMachine O P C).after (untimed h)).locked = true from hlocked] at hunlocked
        cases hunlocked
      · obtain ⟨pre1, t1, htimed, rfl⟩ := exists_timed ho1
        have hle : (pre ++ [(t, e)]).length ≤ pre1.length := by
          have hle := hlater1.length_le
          simpa [untimed] using hle
        have hlater : pre ++ [(t, e)] <+: pre1 :=
          List.prefix_of_prefix_length_le ho ((List.prefix_append _ _).trans htimed) hle
        have hpre : pre <+: pre1 := (List.prefix_append _ _).trans hlater
        refine Or.inr ⟨pre1 ++ [(t1, e1)], htimed, ?_, ?_, fun pre' t' e' ho' hlater' =>
          hidle ho' (hpre.trans ((List.prefix_append _ _).trans hlater'))⟩
        · rw [untimed_concat]
          exact dropped_of_clears hclears (hidle htimed hpre)
        · rw [timers_eq]
          have hoff : (lockAlarm A).due (createActivityLock A start).lockTimeout (pre ++ [(t, e)]) =
              none := by
            rw [Alarm.due_concat, Alarm.next, hnone pre t e ho List.prefix_rfl, hstops]
            rfl
          exact Alarm.Unarmed.due_none (hlater.trans (List.prefix_append _ _)) hoff
            fun pre' t' e' ho' hlater' => hnone pre' t' e' (ho'.trans htimed)
              ((List.prefix_append _ _).trans hlater')

end Timed

/-! ## A page that is left alone -/

namespace IdleSample

/-- A signer that holds no key, and a lock. -/
def options : NapClientOptions := ⟨false, false, true, false, true⟩

/-- The lock comes after a second. -/
def autoLock : AutoLockOptions := ⟨true, some 1000, none⟩

/-- A step of the session. -/
abbrev PageStep : Type := Step (sessionMachine options Sample.platform Sample.client)

/-- A step of the call `tid`, with a server that knows the session. -/
def step (time : ℤ) (tid : ℕ) (op : SessionOp) : ℤ × PageStep :=
  (time, ⟨tid, op, SessionSample.env (.response 200 (some SessionSample.response))⟩)

/-- The user logs in, and the lock comes. -/
def leftAlone : List (ℤ × PageStep) :=
  [step 100 0 .enter, step 100 0 .identify, step 200 0 (.challenge false), step 300 0 .sign,
    step 400 0 .complete, step 1100 1 .lockTimer]

/-- Another tab logs out, and this one restores the session of the next login. -/
def restored : List (ℤ × PageStep) :=
  leftAlone ++ [step 5000 2 (.message .logout), step 6000 3 .resume]

/-- The page lives. -/
theorem restored_live : ∀ x ∈ restored, x.2.op ≠ .destroy := by
  simp [restored, leftAlone, step]

/-- A timer that comes is due. -/
def comesDue (start : ℤ) (h : List (ℤ × PageStep)) : Bool :=
  (List.range h.length).all fun k => h[k]?.any fun x =>
    match x.2.op with
    | .lockTimer => (timedAfter autoLock start (h.take k)).2.lockTimeout.any fun d => d ≤ x.1
    | .shutdownTimer =>
      (timedAfter autoLock start (h.take k)).2.shutdownTimeout.any fun d => d ≤ x.1
    | _ => true

/-- A run whose timers are checked. -/
theorem timedRun {start : ℤ} {h : List (ℤ × PageStep)} (hstarted : ∀ x ∈ h, start ≤ x.1)
    (hordered : Alarm.Ordered h) (hdue : comesDue start h = true) : TimedRun autoLock start h := by
  have hstep : ∀ pre t e, pre ++ [(t, e)] <+: h →
      (match Step.op e with
        | .lockTimer => (timedAfter autoLock start pre).2.lockTimeout.any fun d => d ≤ t
        | .shutdownTimer => (timedAfter autoLock start pre).2.shutdownTimeout.any fun d => d ≤ t
        | _ => true) = true := by
    intro pre t e ho
    obtain ⟨rest, rfl⟩ := ho
    have hk := List.all_eq_true.mp hdue pre.length (by simp)
    simpa using hk
  refine ⟨hstarted, hordered, fun pre t e ho hop => ?_, fun pre t e ho hop => ?_⟩
  · have hany := hstep pre t e ho
    rw [hop] at hany
    obtain ⟨d, hd, hle⟩ := (Option.any_eq_true _ _).mp hany
    exact ⟨d, hd, of_decide_eq_true hle⟩
  · have hany := hstep pre t e ho
    rw [hop] at hany
    obtain ⟨d, hd, hle⟩ := (Option.any_eq_true _ _).mp hany
    exact ⟨d, hd, of_decide_eq_true hle⟩

end IdleSample

open IdleSample in
/-- The lock of a page that is left alone comes a second after the signer's answer, and no earlier. -/
theorem idle_timers_not_early_here : TimedRun autoLock 0 leftAlone ∧
    (0 : ℤ) + autoLock.lockDelay ≤ 1100 := by
  have hrun : TimedRun autoLock 0 leftAlone := timedRun (by decide) (by decide) (by decide)
  have ho : leftAlone.take 5 ++ [step 1100 1 .lockTimer] <+: leftAlone := List.prefix_rfl
  exact ⟨hrun, ((idle_timers_not_early hrun ho).1 rfl).2.1⟩

open IdleSample in
/-- A session that is not locked was active in the last second, or is restored after a logout of another
tab and watched by no timer. -/
theorem idle_locks_unwatched :
    (∃ pre t e, pre ++ [(t, e)] <+: leftAlone.take 5 ∧ 1140 ≤ t + autoLock.lockDelay + 50 ∧
      touches ((sessionMachine options Sample.platform Sample.client).event (untimed pre) e) = true) ∧
    TimedRun autoLock 0 restored ∧ ((sessionMachine options Sample.platform Sample.client).after
      (untimed restored)).sessionState.isSome = true ∧
    ∃ pre, pre <+: restored ∧ (timedAfter autoLock 0 pre).2.lockTimeout = none := by
  refine ⟨?_, timedRun (by decide) (by decide) (by decide), by decide, ?_⟩
  · have hset : ∀ k < 6, (timedAfter autoLock 0 ((leftAlone.take 5).take k)).2.lockTimeout.isSome =
        true := by decide
    have hlive : ∀ x ∈ leftAlone.take 5, x.2.op ≠ .destroy := fun x hx =>
      restored_live x (List.mem_append_left _ (List.mem_of_mem_take hx))
    rcases @idle_locks options Sample.platform Sample.client autoLock 0 1140 (leftAlone.take 5) rfl
      hlive 50 (by decide) (by decide) with
        (hfirst | ⟨pre, t, e, ho, htouches, hle⟩) | ⟨pre, hp, -, hnone, -⟩
    · exact absurd hfirst (by decide)
    · exact ⟨pre, t, e, ho, hle, htouches⟩
    · have hk := hset pre.length (Nat.lt_succ_of_le hp.length_le)
      rw [← List.prefix_iff_eq_take.mp hp, hnone] at hk
      cases hk
  · have hlast : ∀ x ∈ restored, x.1 ≤ 6000 := by decide
    rcases @idle_locks options Sample.platform Sample.client autoLock 0 100000 restored rfl
      restored_live 50 (by decide) (by decide) with
        (hfirst | ⟨pre, t, e, ho, -, hle⟩) | ⟨pre, hp, -, hnone, -⟩
    · exact absurd hfirst (by decide)
    · have ht : t ≤ 6000 := hlast (t, e) (ho.mem (List.mem_append_right _ (List.mem_singleton_self _)))
      have hdelay : autoLock.lockDelay = 1000 := by decide
      omega
    · exact ⟨pre, hp, hnone⟩

end NapAuth.Web

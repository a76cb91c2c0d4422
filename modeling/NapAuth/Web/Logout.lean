import NapAuth.Interleaving.Finality
import NapAuth.Web.Identity

/-!
# Logging out

`logout()` drops the session and evicts the key when its request has gone through. What is under way
at that time goes on: a login that waits for the server, a `resume`, a `reunlock` that derives the key.
So a logout is final in every run in which each logout's request goes through, or finds nothing to drop,
and no step installs a session or a key for a call that was started before a logout, or for a step-up
(`logout_final`).
-/

namespace NapAuth.Web

open Interleaving

variable {O : NapClientOptions} {P : Platform} {C : Client}

/-- There is no session, and an evictable signer holds no key. -/
def LoggedOut (O : NapClientOptions) (s : Session) : Prop :=
  s.sessionState = none ∧ (O.evictable = true → s.keyHeld = false)

/-- Whether a request is answered with a session. -/
def answersSession : Fetched AuthSuccessResponse → Bool
  | .response status (some _) => status == 200
  | _ => false

/-- Whether an operation installs a session or a key. -/
def installs (O : NapClientOptions) (op : SessionOp) (env : SessionEnv) : Bool :=
  match op with
  | .complete => answersSession env.success
  | .resume => answersSession env.success
  | .setKey _ => O.evictable && env.takesKey
  | _ => false

/-- Whether an operation undoes what another one installs. -/
def evicts : SessionOp → SessionOp → Bool
  | .logout, .complete => true
  | .logout, .resume => true
  | .logout, .setKey _ => true
  | _, _ => false

/-! ## One operation -/

section Exec

variable {s : Session} {op : SessionOp} {env : SessionEnv}

/-- Dropping a session. -/
theorem drop_loggedOut : LoggedOut O (s.drop O) := ⟨rfl, evictKey_keyHeld⟩

/-- A lock gives no key. -/
theorem publishLock_keyHeld (hevictable : O.evictable = true) (hkey : s.keyHeld = false) :
    (s.publishLock O).2.keyHeld = false := by
  unfold Session.publishLock
  split
  · exact hkey
  · exact evictKey_keyHeld hevictable

/-- Nor does a shutdown. -/
theorem publishShutdown_keyHeld (hevictable : O.evictable = true) (hkey : s.keyHeld = false) :
    (s.publishShutdown O).2.keyHeld = false := by
  unfold Session.publishShutdown
  split
  · exact hkey
  · exact evictKey_keyHeld hevictable

/-- Nor does an unlock of a signer that holds a key of its own. -/
theorem unlock_keyHeld (hkey : s.keyHeld = false) : (s.unlock O).2.keyHeld = false := by
  unfold Session.unlock
  split <;> exact hkey

/-- Nor does a message of another tab. -/
theorem onMessage_keyHeld (hevictable : O.evictable = true) (hkey : s.keyHeld = false)
    (type : BroadcastMessageType) : (s.onMessage O type).2.keyHeld = false := by
  unfold Session.onMessage
  split
  · exact hkey
  · cases type with
    | identityChanged => exact evictKey_keyHeld hevictable
    | logout => exact evictKey_keyHeld hevictable
    | unlock => exact unlock_keyHeld hkey
    | shutdown =>
      dsimp only
      split
      · exact hkey
      · exact evictKey_keyHeld hevictable
    | lock =>
      dsimp only
      split
      · exact hkey
      · exact evictKey_keyHeld hevictable

/-- An operation that installs nothing leaves the key evicted. -/
theorem exec_keyHeld (hevictable : O.evictable = true) (hkey : s.keyHeld = false)
    (hnot : installs O op env = false) : (sessionExec O P C op env s).2.keyHeld = false := by
  cases op with
  | setKey key =>
    have hrefused : (O.evictable && !env.takesKey) = true := by
      unfold installs at hnot
      rw [hevictable, Bool.true_and] at hnot ⊢
      exact (congrArg (! ·) hnot)
    dsimp only [sessionExec]
    rw [if_pos hrefused]
    exact hkey
  | identify =>
    dsimp only [sessionExec, Session.identify]
    split
    · exact hkey
    · split
      · split
        · exact evictKey_keyHeld hevictable
        · exact hkey
      · exact hkey
  | complete =>
    dsimp only [sessionExec, Session.complete]
    split
    · exact hkey
    · split
      · exact hkey
      · split
        · exact hkey
        · split
          · exact evictKey_keyHeld hevictable
          · exact hkey
  | logout =>
    dsimp only [sessionExec]
    split
    · exact evictKey_keyHeld hevictable
    · exact hkey
  | resume =>
    dsimp only [sessionExec, Session.resume]
    split
    · exact hkey
    · split
      · exact hkey
      · split
        · exact hkey
        · split <;> exact hkey
  | verifyIdentity pubkey =>
    dsimp only [sessionExec, Session.verifyIdentity]
    split
    · exact hkey
    · split
      · exact evictKey_keyHeld hevictable
      · exact hkey
  | message type => exact onMessage_keyHeld hevictable hkey type
  | lock => exact publishLock_keyHeld hevictable hkey
  | shutdown => exact publishShutdown_keyHeld hevictable hkey
  | lockTimer =>
    dsimp only [sessionExec]
    split
    · exact publishLock_keyHeld hevictable hkey
    · exact hkey
  | shutdownTimer =>
    dsimp only [sessionExec]
    split
    · exact publishShutdown_keyHeld hevictable hkey
    · exact hkey
  | unlock => exact unlock_keyHeld hkey
  | destroy => exact evictKey_keyHeld hevictable
  | _ => exact hkey

/-- A server's session. -/
theorem answersSession_eq {success : Fetched AuthSuccessResponse} {response : AuthSuccessResponse}
    (h : success = .response 200 (some response)) : answersSession success = true := by
  rw [h]
  rfl

/-- An operation that installs nothing leaves it without a session. -/
theorem exec_sessionState_none (hnone : s.sessionState = none) (hnot : installs O op env = false) :
    (sessionExec O P C op env s).2.sessionState = none := by
  cases hop : changesSession op with
  | false => exact (exec_sessionState hop).trans hnone
  | true =>
    cases op with
    | identify =>
      rcases identify_sessionState (O := O) (P := P) (s := s) env.npub with hsame | ⟨hdropped, -⟩
      · exact hsame.trans hnone
      · exact hdropped
    | complete =>
      rcases complete_sessionState (O := O) (s := s) env.success with
        hsame | ⟨hdropped, -⟩ | ⟨response, hsuccess, -⟩
      · exact hsame.trans hnone
      · exact hdropped
      · rw [show installs O .complete env = true from answersSession_eq hsuccess] at hnot
        cases hnot
    | logout =>
      rcases logout_sessionState (O := O) (P := P) (C := C) (s := s) env with
        hsame | ⟨hdropped, -⟩
      · exact hsame.trans hnone
      · exact hdropped
    | resume =>
      rcases resume_sessionState (s := s) env.success with
        hsame | ⟨hdropped, -⟩ | ⟨response, hsuccess, -⟩
      · exact hsame.trans hnone
      · exact hdropped
      · rw [show installs O .resume env = true from answersSession_eq hsuccess] at hnot
        cases hnot
    | verifyIdentity pubkey =>
      rcases verifyIdentity_sessionState (O := O) (P := P) (s := s) pubkey env.npub with
        hsame | ⟨hdropped, -⟩
      · exact hsame.trans hnone
      · exact hdropped
    | message type =>
      rcases onMessage_sessionState (O := O) (s := s) type with hsame | ⟨hdropped, -⟩
      · exact hsame.trans hnone
      · exact hdropped
    | _ => cases hop

/-- What installs something is undone by a logout. -/
theorem evicts_of_installs (h : installs O op env = true) : evicts .logout op = true := by
  cases op with
  | complete => rfl
  | resume => rfl
  | setKey key => rfl
  | _ => cases h

/-- Only what installs something ends a logout. -/
theorem installs_of_breaking (hout : LoggedOut O s) (hin : ¬ LoggedOut O (sessionExec O P C op env s).2) :
    installs O op env = true ∧ evicts .logout op = true := by
  have hinstalls : installs O op env = true := by
    by_contra hnot
    rw [Bool.not_eq_true] at hnot
    exact hin ⟨exec_sessionState_none hout.1 hnot,
      fun hevictable => exec_keyHeld hevictable (hout.2 hevictable) hnot⟩
  exact ⟨hinstalls, evicts_of_installs hinstalls⟩

end Exec

/-! ## Every run -/

/-- The call `d` is a `logout()` whose promise has settled. -/
def LogoutSettled (c : (napSession O P C).Config) (d : ℕ) : Prop :=
  ∃ th outcome, c.threads[d]? = some th ∧ th.call = .logout ∧ th.prog = .pure outcome ∧
    outcome ≠ .gone

variable (O P C) in
/-- Logging out: it evicts what a login, a `resume` and a `reunlock` install. -/
def loggingOut : Undoing (napSession O P C) where
  undoer call := call = .logout
  renewer call := call = .login ∨ (∃ verifyIdentity, call = .resume verifyIdentity) ∨ call = .reunlock
  undoes := evicts
  writes e := installs O e.op e.env

/-- A logout that has settled has had its request answered, or not. -/
theorem logout_sat : logout.Sat (fun _ _ => True) (fun ys _ => ∃ answered, ⟨.logout, answered⟩ ∈ ys)
    [] := by
  refine ⟨trivial, fun answered => ?_⟩
  cases answered <;> exact ⟨_, List.mem_singleton_self _⟩

section Runs

variable {c : (napSession O P C).Config} {d : ℕ}

/-- A logout whose request goes through, or finds nothing to drop, leaves neither a session nor a
key. -/
theorem loggedOut_of_logout {pre : List (Step (sessionMachine O P C))}
    {e : Step (sessionMachine O P C)} (hop : e.op = .logout)
    (hrequest : loggedOut P e.env.logoutReply = false →
      LoggedOut O ((sessionMachine O P C).after pre)) :
    LoggedOut O ((sessionMachine O P C).after (pre ++ [e])) := by
  obtain ⟨tid, op, env⟩ := e
  obtain rfl : op = .logout := hop
  rw [Machine.after_concat]
  show LoggedOut O (if loggedOut P env.logoutReply then
    (true, ((sessionMachine O P C).after pre).drop O)
    else (false, (sessionMachine O P C).after pre) : Bool × Session).2
  split
  · exact drop_loggedOut
  · rename_i hthrown
    exact hrequest (Bool.eq_false_of_not_eq_true hthrown)

/-- A logout is final, until a login, a `resume` or a `reunlock` that is started after it, in every run
in which each logout's request goes through or finds nothing to drop, and in which no step before that
installs a session or a key. -/
theorem logout_final (hr : (napSession O P C).Reachable c)
    (hrequests : ∀ pre e, Occurs c.history pre e → e.op = .logout →
      loggedOut P e.env.logoutReply = false → LoggedOut O ((sessionMachine O P C).after pre))
    (hsteps : ∀ pre e, Occurs c.history pre e → ¬ (loggingOut O P C).Overtaken c pre e)
    (hsettled : LogoutSettled c d) (hnone : (loggingOut O P C).NoneSince c d c.history.length) :
    LoggedOut O c.state := by
  obtain ⟨⟨call, started, prog⟩, outcome, hth, rfl, hprog, halive⟩ := hsettled
  obtain ⟨answered, hmem⟩ := (hr.sat hth logout_sat hprog).resolve_left halive
  obtain ⟨pre, e, ho, rfl, hev⟩ := mem_own.mp hmem
  obtain ⟨hop, -⟩ := (Machine.event_eq_iff _).mp hev
  rw [hr.coherent.state_eq]
  exact Undoing.stays_undone hr installs_of_breaking hsteps hnone ho hop hth rfl
    (loggedOut_of_logout hop (hrequests pre e ho hop))

end Runs

/-! ## A logout that is refused -/

namespace LogoutSample

/-- A signer that holds its key in the page. -/
def options : NapClientOptions := ⟨true, true, false, false, true⟩

/-- The session. -/
abbrev page : System SessionRes SessionCall SessionOutcome :=
  napSession options Sample.platform Sample.client

/-- A login, and then a logout. -/
def moves (reply : Reply) : List page.Label :=
  .start .login :: List.replicate 5
      (.run 0 (SessionSample.env (.response 200 (some SessionSample.response)))) ++
    [.start .logout, .run 1 { SessionSample.env .thrown with logoutReply := reply }]

/-- The logout has settled, and both calls had been started before it was over. -/
def isSettled (c : page.Config) : Bool :=
  (match c.returned? 1 with
    | some .done => true
    | some (.failed _) => true
    | _ => false) &&
  c.threads.all (fun th => decide (th.started ≤ 5)) && decide ((c.history[5]?).map Step.tid = some 1)

/-- A run of it. -/
theorem exists_settled (reply : Reply) {p : page.Config → Bool}
    (h : (System.replay (sessionBody options) page.initial (moves reply)).any
      (fun c => isSettled c && p c) = true) :
    ∃ c : page.Config, page.Reachable c ∧ LogoutSettled c 1 ∧
      (loggingOut options Sample.platform Sample.client).NoneSince c 1 c.history.length ∧
      p c = true := by
  obtain ⟨c, hr, hcalls, hp⟩ := System.exists_replay (fun _ _ => rfl) h
  have hcall : c.calls[1]? = some .logout := by rw [hcalls]; rfl
  simp only [isSettled, Bool.and_eq_true, decide_eq_true_eq, List.all_eq_true] at hp
  obtain ⟨⟨⟨hreturned, hstarted⟩, hstep⟩, hp⟩ := hp
  refine ⟨c, hr, ?_, fun th hmem _ _ => ⟨5, hstarted th hmem, hstep⟩, hp⟩
  split at hreturned
  · rename_i hdone
    obtain ⟨th, hth, hlogout, hprog⟩ := System.thread_of_returned hcall hdone
    exact ⟨th, _, hth, hlogout, hprog, nofun⟩
  · rename_i error hfailed
    obtain ⟨th, hth, hlogout, hprog⟩ := System.thread_of_returned hcall hfailed
    exact ⟨th, _, hth, hlogout, hprog, nofun⟩
  · cases hreturned

/-- Whether a logout's request goes through. -/
def answered (e : Step (sessionMachine options Sample.platform Sample.client)) : Bool :=
  match e.op with
  | .logout => loggedOut Sample.platform (SessionEnv.logoutReply e.env)
  | _ => true

/-- All requests for a logout go through, and nothing is installed afterwards. -/
def orderly (c : page.Config) : Bool :=
  c.history.all answered &&
    decide ((c.history.map Step.op).Pairwise fun op op' => evicts op op' = false)

end LogoutSample

/-- A logout whose request goes through. -/
theorem logout_final_answered : ∃ c : LogoutSample.page.Config, LogoutSample.page.Reachable c ∧
    LoggedOut LogoutSample.options c.state := by
  have hrun : (System.replay (sessionBody LogoutSample.options) LogoutSample.page.initial
      (LogoutSample.moves (.response 204 ""))).any
      (fun c => LogoutSample.isSettled c && LogoutSample.orderly c) = true := by
    decide
  obtain ⟨c, hr, hsettled, hnone, hp⟩ := LogoutSample.exists_settled _ hrun
  obtain ⟨hanswered, horderly⟩ := Bool.and_eq_true_iff.mp hp
  refine ⟨c, hr, logout_final hr (fun pre e ho hop hthrown => ?_)
    (fun _ _ ho => Undoing.not_overtaken_of_pairwise (of_decide_eq_true horderly) ho) hsettled hnone⟩
  have hthis := List.all_eq_true.mp hanswered e (ho.mem (by simp))
  unfold LogoutSample.answered at hthis
  rw [hop] at hthis
  rw [show loggedOut Sample.platform e.env.logoutReply = true from hthis] at hthrown
  cases hthrown

/-- A logout whose request is rejected leaves the session, and the key. -/
theorem logout_refused : ¬ ∀ c : LogoutSample.page.Config, LogoutSample.page.Reachable c →
    ∀ d, LogoutSettled c d →
    (loggingOut LogoutSample.options Sample.platform Sample.client).NoneSince c d c.history.length →
    LoggedOut LogoutSample.options c.state := by
  have hrun : (System.replay (sessionBody LogoutSample.options) LogoutSample.page.initial
      (LogoutSample.moves .rejected)).any (fun c => LogoutSample.isSettled c &&
        ((Session.sessionState c.state).isSome && Session.keyHeld c.state)) = true := by
    decide
  intro h
  obtain ⟨c, hr, hsettled, hnone, hp⟩ := LogoutSample.exists_settled _ hrun
  obtain ⟨-, hheld⟩ := Bool.and_eq_true_iff.mp hp
  have hevicted : Session.keyHeld c.state = false := (h c hr 1 hsettled hnone).2 rfl
  rw [hevicted] at hheld
  cases hheld

end NapAuth.Web

import NapAuth.Web.Lock

/-!
# The identity of a session

A login compares the server's answer with the session that there is, and ends it if the two differ.
`resume` does not compare: it puts the session that the server has answered over the one that there
is. So a session is replaced by that of another key only after it has been ended, exactly when no
`resume` is answered with another key (`identity_kept_iff`).
-/

namespace NapAuth.Web

open Interleaving

variable {O : NapClientOptions} {P : Platform} {C : Client}

/-- Whether an event is a logout, of this tab or of another one. -/
def logsOut : Event SessionRes → Bool
  | ⟨.logout, loggedOut⟩ => loggedOut
  | ⟨.message .logout, acted⟩ => acted
  | _ => false

/-- Whether `onIdentityChanged` is called: by `terminateForIdentity`, and for the message that it
sends to the other tabs, which has the detail that is looked for. -/
def firesIdentityChanged : Event SessionRes → Bool
  | ⟨.identify, .mismatch _ _⟩ => true
  | ⟨.complete, .mismatch _ _⟩ => true
  | ⟨.verifyIdentity _, .mismatch _ _⟩ => true
  | ⟨.message .identityChanged, acted⟩ => acted
  | _ => false

/-- Whether an event is one of those that a session is meant to end by. -/
def ends (ev : Event SessionRes) : Bool := logsOut ev || expires ev || firesIdentityChanged ev

/-- A logout ends a session. -/
theorem ends_of_logsOut {ev : Event SessionRes} (h : logsOut ev = true) : ends ev = true := by
  rw [ends, h]
  rfl

/-- So does its expiry. -/
theorem ends_of_expires {ev : Event SessionRes} (h : expires ev = true) : ends ev = true := by
  rw [ends, h, Bool.or_true]
  rfl

/-- So does a termination. -/
theorem ends_of_fires {ev : Event SessionRes} (h : firesIdentityChanged ev = true) :
    ends ev = true := by
  rw [ends, h, Bool.or_true]

/-- The session's public key. -/
def pubkey? (s : Session) : Option String := s.sessionState.map (·.pubkey)

/-- The operations that may change the session. -/
def changesSession : SessionOp → Bool
  | .identify => true
  | .complete => true
  | .logout => true
  | .resume => true
  | .verifyIdentity _ => true
  | .message _ => true
  | _ => false

/-! ## One operation -/

section Exec

variable {s : Session} {op : SessionOp} {env : SessionEnv} {key : String}

/-- An unlock leaves the session. -/
theorem unlock_sessionState : (s.unlock O).2.sessionState = s.sessionState := by
  unfold Session.unlock
  split <;> rfl

/-- So does a lock. -/
theorem publishLock_sessionState : (s.publishLock O).2.sessionState = s.sessionState := by
  unfold Session.publishLock
  split
  · rfl
  · exact evictKey_sessionState

/-- So does a shutdown. -/
theorem publishShutdown_sessionState : (s.publishShutdown O).2.sessionState = s.sessionState := by
  unfold Session.publishShutdown
  split
  · rfl
  · exact evictKey_sessionState

/-- The other operations leave the session. -/
theorem exec_sessionState (h : changesSession op = false) :
    (sessionExec O P C op env s).2.sessionState = s.sessionState := by
  cases op with
  | lock => exact publishLock_sessionState
  | shutdown => exact publishShutdown_sessionState
  | lockTimer =>
    dsimp only [sessionExec]
    split
    · exact publishLock_sessionState
    · rfl
  | shutdownTimer =>
    dsimp only [sessionExec]
    split
    · exact publishShutdown_sessionState
    · rfl
  | setKey key =>
    dsimp only [sessionExec]
    split <;> rfl
  | unlock => exact unlock_sessionState
  | destroy => exact evictKey_sessionState
  | enter => rfl
  | challenge stepUp => rfl
  | sign => rfl
  | touch => rfl
  | storeHasKey => rfl
  | loadKey => rfl
  | identify => cases h
  | complete => cases h
  | logout => cases h
  | resume => cases h
  | verifyIdentity pubkey => cases h
  | message type => cases h

/-- A message leaves the session or ends it. -/
theorem onMessage_sessionState (type : BroadcastMessageType) :
    (s.onMessage O type).2.sessionState = s.sessionState ∨
      (s.onMessage O type).2.sessionState = none ∧
        (logsOut ⟨.message type, (s.onMessage O type).1⟩ = true ∨
          firesIdentityChanged ⟨.message type, (s.onMessage O type).1⟩ = true) := by
  unfold Session.onMessage
  split
  · exact Or.inl rfl
  · cases type with
    | identityChanged => exact Or.inr ⟨rfl, Or.inr rfl⟩
    | logout => exact Or.inr ⟨rfl, Or.inl rfl⟩
    | unlock => exact Or.inl unlock_sessionState
    | shutdown =>
      dsimp only
      split
      · exact Or.inl rfl
      · exact Or.inl evictKey_sessionState
    | lock =>
      dsimp only
      split
      · exact Or.inl rfl
      · exact Or.inl evictKey_sessionState

/-- The identity guard of a login leaves the session or ends it. -/
theorem identify_sessionState (npub : Option String) :
    (s.identify O P npub).2.sessionState = s.sessionState ∨
      (s.identify O P npub).2.sessionState = none ∧
        firesIdentityChanged ⟨.identify, (s.identify O P npub).1⟩ = true := by
  unfold Session.identify
  split
  · exact Or.inl rfl
  · split
    · split
      · exact Or.inr ⟨rfl, rfl⟩
      · exact Or.inl rfl
    · exact Or.inl rfl

/-- So does that of a `resume`. -/
theorem verifyIdentity_sessionState (pubkey : String) (npub : Option String) :
    (s.verifyIdentity O P pubkey npub).2.sessionState = s.sessionState ∨
      (s.verifyIdentity O P pubkey npub).2.sessionState = none ∧
        firesIdentityChanged ⟨.verifyIdentity pubkey, (s.verifyIdentity O P pubkey npub).1⟩ = true := by
  unfold Session.verifyIdentity
  split
  · exact Or.inl rfl
  · split
    · exact Or.inr ⟨rfl, rfl⟩
    · exact Or.inl rfl

/-- A completion leaves the session, ends it, or puts the server's one in its place, which is of the
same key if there was one. -/
theorem complete_sessionState (success : Fetched AuthSuccessResponse) :
    (s.complete O success).2.sessionState = s.sessionState ∨
      ((s.complete O success).2.sessionState = none ∧
        firesIdentityChanged ⟨.complete, (s.complete O success).1⟩ = true) ∨
      ∃ response, success = .response 200 (some response) ∧
        (s.complete O success).2.sessionState = some (toSessionState response) ∧
        ∀ state, s.sessionState = some state → response.pubkey = state.pubkey := by
  unfold Session.complete
  split
  · exact Or.inl rfl
  · split
    · exact Or.inl rfl
    · rename_i response
      split
      · exact Or.inl rfl
      · rename_i hstatus
        dsimp only
        split
        · exact Or.inr (Or.inl ⟨rfl, rfl⟩)
        · rename_i hsame
          rw [not_not.mp hstatus]
          refine Or.inr (Or.inr ⟨response, rfl, rfl, fun state hstate => ?_⟩)
          by_contra hne
          rw [hstate] at hsame
          exact hsame (decide_eq_true (Ne.symm hne))

/-- A `resume` leaves the session, ends it, or puts the server's one in its place. -/
theorem resume_sessionState (success : Fetched AuthSuccessResponse) :
    (s.resume success).2.sessionState = s.sessionState ∨
      ((s.resume success).2.sessionState = none ∧ expires ⟨.resume, (s.resume success).1⟩ = true) ∨
      ∃ response, success = .response 200 (some response) ∧
        (s.resume success).2.sessionState = some (toSessionState response) := by
  unfold Session.resume
  split
  · exact Or.inl rfl
  · split
    · exact Or.inr (Or.inl ⟨rfl, rfl⟩)
    · split
      · exact Or.inl rfl
      · rename_i response
        split
        · exact Or.inl rfl
        · rename_i hstatus
          rw [not_not.mp hstatus]
          exact Or.inr (Or.inr ⟨response, rfl, rfl⟩)

/-- A logout leaves the session or ends it. -/
theorem logout_sessionState (env : SessionEnv) :
    (sessionExec O P C .logout env s).2.sessionState = s.sessionState ∨
      (sessionExec O P C .logout env s).2.sessionState = none ∧
        logsOut ⟨.logout, (sessionExec O P C .logout env s).1⟩ = true := by
  unfold sessionExec
  dsimp only
  split
  · exact Or.inr ⟨rfl, rfl⟩
  · exact Or.inl rfl

/-- What an operation does to a session: it keeps its key, it ends it, or it is a `resume` that is
answered with another key. -/
theorem exec_identity (hkey : pubkey? s = some key)
    (hchanged : pubkey? (sessionExec O P C op env s).2 ≠ some key) :
    ((sessionExec O P C op env s).2.sessionState = none ∧
      ends ⟨op, (sessionExec O P C op env s).1⟩ = true) ∨
    (op = .resume ∧ ∃ response, env.success = .response 200 (some response) ∧
      response.pubkey ≠ key) := by
  have hsame : (sessionExec O P C op env s).2.sessionState ≠ s.sessionState := by
    intro hsame
    unfold pubkey? at hchanged hkey
    rw [hsame] at hchanged
    exact hchanged hkey
  cases hop : changesSession op with
  | false => exact absurd (exec_sessionState hop) hsame
  | true =>
    cases op with
    | identify =>
      obtain ⟨hnone, hfires⟩ := (identify_sessionState env.npub).resolve_left hsame
      exact Or.inl ⟨hnone, ends_of_fires hfires⟩
    | complete =>
      rcases (complete_sessionState env.success).resolve_left hsame with
        ⟨hnone, hfires⟩ | ⟨response, -, hstate, hsamekey⟩
      · exact Or.inl ⟨hnone, ends_of_fires hfires⟩
      · obtain ⟨state, hlive, hpubkey⟩ := Option.map_eq_some_iff.mp hkey
        refine absurd ?_ hchanged
        have hnext : pubkey? (s.complete O env.success).2 = some response.pubkey := by
          rw [pubkey?, hstate]
          rfl
        rw [← hpubkey, ← hsamekey state hlive]
        exact hnext
    | logout =>
      obtain ⟨hnone, hlogsOut⟩ := (logout_sessionState env).resolve_left hsame
      exact Or.inl ⟨hnone, ends_of_logsOut hlogsOut⟩
    | resume =>
      rcases (resume_sessionState env.success).resolve_left hsame with
        ⟨hnone, hexpires⟩ | ⟨response, hsuccess, hstate⟩
      · exact Or.inl ⟨hnone, ends_of_expires hexpires⟩
      · refine Or.inr ⟨rfl, response, hsuccess, fun hpubkey => hchanged ?_⟩
        have hnext : pubkey? (s.resume env.success).2 = some response.pubkey := by
          rw [pubkey?, hstate]
          rfl
        rw [← hpubkey]
        exact hnext
    | verifyIdentity pubkey =>
      obtain ⟨hnone, hfires⟩ := (verifyIdentity_sessionState pubkey env.npub).resolve_left hsame
      exact Or.inl ⟨hnone, ends_of_fires hfires⟩
    | message type =>
      obtain ⟨hnone, hends⟩ := (onMessage_sessionState type).resolve_left hsame
      exact Or.inl ⟨hnone, hends.elim ends_of_logsOut ends_of_fires⟩
    | _ => cases hop

end Exec

/-! ## Every run -/

section Runs

/-- A session is never replaced by that of another key before it has been ended: by a logout, by its
expiry, or by a termination that has called `onIdentityChanged`. -/
def IdentityKept (history : List (Step (sessionMachine O P C))) : Prop :=
  ∀ pre h key key', pre <+: h → h <+: history →
    pubkey? ((sessionMachine O P C).after pre) = some key →
    pubkey? ((sessionMachine O P C).after h) = some key' → key' ≠ key →
    ∃ pre' e', Occurs h pre' e' ∧ pre <+: pre' ∧
      ((sessionMachine O P C).after (pre' ++ [e'])).sessionState = none ∧
      ends ((sessionMachine O P C).event pre' e') = true

/-- A `resume` that is answered with another key replaces the session. -/
theorem not_identityKept {history pre : List (Step (sessionMachine O P C))}
    {e : Step (sessionMachine O P C)} (ho : Occurs history pre e) (hop : e.op = .resume)
    {response : AuthSuccessResponse} (hsuccess : e.env.success = .response 200 (some response))
    {key : String} (hkey : pubkey? ((sessionMachine O P C).after pre) = some key)
    (hne : response.pubkey ≠ key) : ¬ IdentityKept history := by
  intro hkept
  obtain ⟨tid, op, env⟩ := e
  obtain rfl : op = .resume := hop
  have hresume : ((sessionMachine O P C).after pre).resume env.success =
      (.restored response, { (sessionMachine O P C).after pre with
        sessionState := some (toSessionState response) }) := by
    rw [show env.success = .response 200 (some response) from hsuccess]
    rfl
  have hnext : pubkey? ((sessionMachine O P C).after (pre ++ [⟨tid, .resume, env⟩])) =
      some response.pubkey := by
    rw [Machine.after_concat]
    exact congrArg (fun r => pubkey? r.2) hresume
  obtain ⟨pre', e', ho', hlater, -, hends⟩ :=
    hkept pre _ key response.pubkey (List.prefix_append _ _) ho hkey hnext hne
  -- The only step in between is the `resume` itself.
  obtain ⟨rfl, rfl⟩ : pre' = pre ∧ e' = ⟨tid, .resume, env⟩ := by
    rcases occurs_concat.mp ho' with heq | hbefore
    · exact heq
    · have hle := hbefore.length_le
      have hle' := hlater.length_le
      rw [List.length_append, List.length_singleton] at hle
      omega
  have hevent : (sessionMachine O P C).event pre' ⟨tid, .resume, env⟩ =
      ⟨.resume, .restored response⟩ :=
    congrArg (fun r : Resumed × Session => (⟨.resume, r.1⟩ : Event SessionRes)) hresume
  rw [hevent] at hends
  cases hends

/-- A session is replaced by that of another key only after it has been ended, exactly when no `resume`
is answered with another key than that of the session there is. It is so in every history of the
session, whatever programs its operations belong to. -/
theorem identity_kept_iff (history : List (Step (sessionMachine O P C))) : IdentityKept history ↔
    ∀ pre e, Occurs history pre e → e.op = .resume →
      ∀ response, e.env.success = .response 200 (some response) →
      ∀ key, pubkey? ((sessionMachine O P C).after pre) = some key → response.pubkey = key := by
  constructor
  · intro hkept pre e ho hop response hsuccess key hkey
    by_contra hne
    exact not_identityKept ho hop hsuccess hkey hne hkept
  · intro hsame pre h key key' hp hh hkey hkey' hne
    have hnot : ¬ pubkey? ((sessionMachine O P C).after h) = some key := by
      rw [hkey']
      exact fun heq => hne (Option.some.inj heq)
    obtain ⟨pre', e', ho', hlater, hbefore, hchanged⟩ :=
      exists_breaking (P := fun s => pubkey? s = some key) hp hkey hnot
    rcases exec_identity hbefore hchanged with ⟨hnone, hends⟩ | ⟨hop, response, hsuccess, hother⟩
    · refine ⟨pre', e', ho', hlater, ?_, hends⟩
      rw [Machine.after_concat]
      exact hnone
    · exact absurd (hsame pre' e' (ho'.mono hh) hop response hsuccess key hbefore) hother

end Runs

/-! ## A session that another one replaces -/

namespace SessionSample

/-- The server's session of somebody else. -/
def other : AuthSuccessResponse := { response with pubkey := "other" }

/-- The user logs in, and the session is resumed with that of somebody else. -/
def replaced : List page.Label :=
  loggedIn ++ [.start (.resume false), .run 1 (env (.response 200 (some other)))]

/-- Whether the `resume` finds the session of the user. -/
def found (c : page.Config) : Bool :=
  decide (pubkey? ((sessionMachine options Sample.platform Sample.client).after (c.history.take 5)) =
    some Sample.pubkey)

/-- Whether a step is a `resume` that is answered with another key. -/
def answersOther (e : Step (sessionMachine options Sample.platform Sample.client)) : Bool :=
  match e.op, SessionEnv.success e.env with
  | .resume, .response 200 (some response) => decide (response.pubkey ≠ Sample.pubkey)
  | _, _ => false

end SessionSample

/-- A session is replaced silently. -/
theorem identity_replaced : ¬ ∀ c, SessionSample.page.Reachable c → IdentityKept c.history := by
  have hrun : (System.replay (sessionBody SessionSample.options) SessionSample.page.initial
      SessionSample.replaced).any (fun c => SessionSample.found c &&
        c.history[5]?.any SessionSample.answersOther) = true := by
    decide
  obtain ⟨c, hr, -, hp⟩ := System.exists_replay (fun _ _ => rfl) hrun
  intro h
  rw [Bool.and_eq_true] at hp
  obtain ⟨e, he, hanswers⟩ := (Option.any_eq_true _ _).mp hp.2
  unfold SessionSample.answersOther at hanswers
  split at hanswers
  · rename_i response hop hsuccess
    exact not_identityKept (occurs_take he) hop hsuccess (of_decide_eq_true hp.1)
      (of_decide_eq_true hanswers) (h c hr)
  · cases hanswers

end NapAuth.Web

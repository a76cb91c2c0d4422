import NapAuth.Renewal

/-!
# A client that refreshes in time

`createRefreshLoop` of `examples/merchant-app/src/web/refreshLoop.ts`, as a state machine: it is armed
with an answer of the server, fires a timer shortly before the access token ends, sends the refresh
token and is armed again with what it is answered. Whatever order logins, timers and answers come in,
it sends a token at most as often as it was armed with it (`run_count`). So a loop that is armed with
each token once is never told that a token was reused, and as long as its session can be renewed its
refreshes succeed (`refresh_loop_renews`).

A `disarm` does not reach a request that is under way: its answer arms the loop again
(`disarmed_silent`, and the example after it).
-/

namespace NapAuth

open Interleaving

/-! ## The loop -/

/-- `AuthSuccessResponse`, as far as the loop reads it. -/
structure LoopAuth where
  refreshToken : Option String
  expiresAt : ℤ
  deriving DecidableEq

/-- The variables of a refresh loop, its requests under way, and what it has done. Times are in
milliseconds. -/
structure RefreshLoop where
  refreshToken : Option String
  /-- When the pending timer fires. -/
  timer : Option ℤ
  /-- The requests that are under way, by the token that each has sent. -/
  fetches : List (Option String)
  /-- The tokens that have been sent, in order. -/
  presented : List (Option String)
  /-- How often `onLost` was called. -/
  lost : ℕ
  deriving DecidableEq

/-- What happens to a loop. -/
inductive LoopEvent where
  /-- `arm` is called, at the time `now`. -/
  | arm (auth : LoopAuth) (now : ℤ)
  /-- `disarm` is called. -/
  | disarm
  /-- The timer fires. -/
  | fire (now : ℤ)
  /-- A request is rejected. -/
  | rejected (spending : Option String)
  /-- A request is answered with an error. -/
  | refused (spending : Option String)
  /-- A request is answered with new tokens. -/
  | answered (spending : Option String) (auth : LoopAuth) (now : ℤ)
  /-- A request is answered with a body that cannot be read. -/
  | unreadable (spending : Option String)
  /-- A request is answered with the body `null`. -/
  | answeredNull (spending : Option String)
  deriving DecidableEq

/-- The refresh token that an event arms the loop with. -/
def LoopEvent.armed? : LoopEvent → Option String
  | arm auth _ => auth.refreshToken.filter (· ≠ "")
  | answered _ auth _ => auth.refreshToken.filter (· ≠ "")
  | _ => none

namespace RefreshLoop

/-- `createRefreshLoop`. -/
def initial : RefreshLoop := ⟨none, none, [], [], 0⟩

/-- The delay of a timer that is set for some milliseconds: `setTimeout` takes a signed word. -/
def timeoutDelay (delay : ℤ) : ℤ := max 0 (delay.bmod (2 ^ 32))

/-- `arm`. -/
def arm (leadSeconds : ℤ) (auth : LoopAuth) (now : ℤ) (s : RefreshLoop) : RefreshLoop :=
  let s := { s with timer := none, refreshToken := auth.refreshToken }
  if truthyString s.refreshToken = false then s
  else
    let fireAt := (auth.expiresAt - leadSeconds) * 1000
    { s with timer := some (now + timeoutDelay (max 0 (fireAt - now))) }

/-- `disarm`. -/
def disarm (s : RefreshLoop) : RefreshLoop := { s with timer := none, refreshToken := none }

/-- `refresh`, up to the answer: the token is forgotten before it is sent. -/
def refresh (s : RefreshLoop) : RefreshLoop :=
  let spending := s.refreshToken
  { s with timer := none, refreshToken := none, fetches := spending :: s.fetches,
           presented := s.presented ++ [spending] }

/-- A request that is under way has been settled. -/
def settle (spending : Option String) (s : RefreshLoop) : Option RefreshLoop :=
  if spending ∈ s.fetches then some { s with fetches := s.fetches.erase spending } else none

/-- One event of a loop, if it can happen. A timer does not fire early. -/
def step (leadSeconds : ℤ) (s : RefreshLoop) : LoopEvent → Option RefreshLoop
  | .arm auth now => some (s.arm leadSeconds auth now)
  | .disarm => some s.disarm
  | .fire now => if s.timer.any (· ≤ now) then some s.refresh else none
  | .rejected spending => (s.settle spending).map fun s => { s with lost := s.lost + 1 }
  | .refused spending => (s.settle spending).map fun s => { s with lost := s.lost + 1 }
  | .answered spending auth now => (s.settle spending).map (·.arm leadSeconds auth now)
  -- The promise of `response.json()` is rejected, and nobody is told.
  | .unreadable spending => s.settle spending
  -- `arm` throws when it reads the token, after it has cleared the timer.
  | .answeredNull spending => (s.settle spending).map fun s => { s with timer := none }

/-- A run of events. -/
def run (leadSeconds : ℤ) : RefreshLoop → List LoopEvent → Option RefreshLoop
  | s, [] => some s
  | s, e :: es => (s.step leadSeconds e).bind (run leadSeconds · es)

/-! ## What a loop sends -/

variable {leadSeconds : ℤ} {s s' : RefreshLoop} {e : LoopEvent} {es : List LoopEvent} {t : String}

/-- A pending timer has a token to send. -/
def Wired (s : RefreshLoop) : Prop := s.timer ≠ none → truthyString s.refreshToken = true

/-- Whether a token is held, as a number. -/
def held (s : RefreshLoop) (t : String) : ℕ := if s.refreshToken = some t then 1 else 0

/-- What an event does to the token, the timer and what has been sent. -/
inductive Stepped (s : RefreshLoop) (e : LoopEvent) (s' : RefreshLoop) : Prop
  /-- The timer fires, and the token is sent. -/
  | fired (due : s.timer ≠ none) (unarmed : e.armed? = none) (sent : s' = s.refresh)
  /-- The loop is armed. -/
  | armed {auth : LoopAuth} (armed : e.armed? = auth.refreshToken.filter (· ≠ ""))
      (token : s'.refreshToken = auth.refreshToken) (wired : s'.Wired)
      (unsent : s'.presented = s.presented)
  /-- No token is set, and no timer. -/
  | idle (unarmed : e.armed? = none) (token : s'.refreshToken = s.refreshToken ∨ s'.refreshToken = none)
      (timer : s'.refreshToken = s.refreshToken ∧ s'.timer = s.timer ∨ s'.timer = none)
      (unsent : s'.presented = s.presented)

/-- Arming a loop leaves what it has sent. -/
theorem arm_stepped {s1 : RefreshLoop} {auth : LoopAuth} {now : ℤ}
    (harmed : e.armed? = auth.refreshToken.filter (· ≠ ""))
    (hsame : s1.presented = s.presented) : s.Stepped e (s1.arm leadSeconds auth now) := by
  unfold arm
  dsimp only
  split
  · exact .armed harmed rfl (fun h => absurd rfl h) hsame
  · rename_i htoken
    exact .armed harmed rfl (fun _ => by simpa using htoken) hsame

/-- What settles a request leaves the rest of the loop alone. -/
theorem settle_eq_some {spending : Option String} (h : s.settle spending = some s') :
    s' = { s with fetches := s.fetches.erase spending } := by
  unfold settle at h
  split at h
  · exact (Option.some.inj h).symm
  · cases h

/-- An event fires the timer, arms the loop, or sends nothing. -/
theorem stepped (h : s.step leadSeconds e = some s') : s.Stepped e s' := by
  cases e with
  | arm auth now => exact Option.some.inj h ▸ arm_stepped rfl rfl
  | disarm => exact Option.some.inj h ▸ .idle rfl (Or.inr rfl) (Or.inr rfl) rfl
  | fire now =>
    simp only [step] at h
    split at h
    · rename_i hdue
      refine .fired (fun hnone => ?_) rfl (Option.some.inj h).symm
      rw [hnone] at hdue
      cases hdue
    · cases h
  | rejected spending =>
    obtain ⟨s1, h1, rfl⟩ := Option.map_eq_some_iff.mp h
    exact settle_eq_some h1 ▸ .idle rfl (Or.inl rfl) (Or.inl ⟨rfl, rfl⟩) rfl
  | refused spending =>
    obtain ⟨s1, h1, rfl⟩ := Option.map_eq_some_iff.mp h
    exact settle_eq_some h1 ▸ .idle rfl (Or.inl rfl) (Or.inl ⟨rfl, rfl⟩) rfl
  | answered spending auth now =>
    obtain ⟨s1, h1, rfl⟩ := Option.map_eq_some_iff.mp h
    exact arm_stepped rfl (settle_eq_some h1 ▸ rfl)
  | unreadable spending => exact settle_eq_some h ▸ .idle rfl (Or.inl rfl) (Or.inl ⟨rfl, rfl⟩) rfl
  | answeredNull spending =>
    obtain ⟨s1, h1, rfl⟩ := Option.map_eq_some_iff.mp h
    exact settle_eq_some h1 ▸ .idle rfl (Or.inl rfl) (Or.inr rfl) rfl

/-- Every event keeps a loop wired. -/
theorem Stepped.wired (h : s.Stepped e s') (hw : s.Wired) : s'.Wired := by
  cases h with
  | fired due unarmed sent => exact sent ▸ fun hne => absurd rfl hne
  | armed armed token wired unsent => exact wired
  | idle unarmed token timer unsent =>
    rcases timer with ⟨htoken, htimer⟩ | htimer
    · rw [Wired, htoken, htimer]
      exact hw
    · exact fun hne => absurd htimer hne

/-- What is sent is a token. -/
theorem Stepped.truthy (h : s.Stepped e s') (hw : s.Wired)
    (hp : ∀ p ∈ s.presented, truthyString p = true) :
    ∀ p ∈ s'.presented, truthyString p = true := by
  cases h with
  | fired due unarmed sent =>
    subst sent
    intro p hmem
    rcases List.mem_append.mp hmem with hmem | hmem
    · exact hp p hmem
    · exact List.mem_singleton.mp hmem ▸ hw due
  | armed armed token wired unsent => exact unsent ▸ hp
  | idle unarmed token timer unsent => exact unsent ▸ hp

/-- An event adds no more of a token to what is sent and held than it arms the loop with. -/
theorem Stepped.count (h : s.Stepped e s') (ht : t ≠ "") :
    s'.presented.count (some t) + s'.held t ≤
      s.presented.count (some t) + s.held t + e.armed?.toList.count t := by
  cases h with
  | fired due unarmed sent =>
    -- What was held is sent.
    subst sent
    have hheld : s.refresh.held t = 0 := if_neg (by intro h; cases h)
    have hpresented : s.refresh.presented.count (some t) =
        s.presented.count (some t) + s.held t := by
      rw [refresh, List.count_append, held]
      by_cases htoken : s.refreshToken = some t <;> simp [htoken]
    omega
  | @armed auth armed token wired unsent =>
    have hheld : s'.held t = e.armed?.toList.count t := by
      rw [held, token, armed]
      cases auth.refreshToken with
      | none => rfl
      | some token =>
        by_cases htoken : token = t
        · subst htoken
          simp [Option.filter, ht]
        · by_cases hempty : token = "" <;> simp [Option.filter, hempty, htoken, Ne.symm ht]
    rw [hheld, unsent]
    omega
  | idle unarmed token timer unsent =>
    have hheld : s'.held t ≤ s.held t := by
      rw [held, held]
      rcases token with htoken | htoken
      · rw [htoken]
      · simp [htoken]
    rw [unsent]
    omega

/-- A token is sent at most as often as the loop was armed with it. -/
theorem run_count (h : s.run leadSeconds es = some s') (ht : t ≠ "") :
    s'.presented.count (some t) + s'.held t ≤
      s.presented.count (some t) + s.held t + (es.filterMap LoopEvent.armed?).count t := by
  induction es generalizing s with
  | nil =>
    obtain rfl := Option.some.inj h
    exact Nat.le_add_right _ _
  | cons e es ih =>
    obtain ⟨s1, h1, h2⟩ := Option.bind_eq_some_iff.mp h
    have hstep := (stepped h1).count ht
    have hrest := ih h2
    have hcons : ((e :: es).filterMap LoopEvent.armed?).count t =
        e.armed?.toList.count t + (es.filterMap LoopEvent.armed?).count t := by
      cases harmed : e.armed? <;> simp [harmed, List.count_cons, add_comm]
    omega

/-- A loop sends tokens, and nothing else. -/
theorem run_truthy (h : s.run leadSeconds es = some s') (hw : s.Wired)
    (hp : ∀ p ∈ s.presented, truthyString p = true) :
    s'.Wired ∧ ∀ p ∈ s'.presented, truthyString p = true := by
  induction es generalizing s with
  | nil => exact Option.some.inj h ▸ ⟨hw, hp⟩
  | cons e es ih =>
    obtain ⟨s1, h1, h2⟩ := Option.bind_eq_some_iff.mp h
    exact ih h2 ((stepped h1).wired hw) ((stepped h1).truthy hw hp)

/-- A loop that is disarmed, with no request under way, sends nothing until it is armed. -/
theorem disarmed_silent (h : s.run leadSeconds es = some s') (htimer : s.timer = none)
    (hidle : s.fetches = []) (hunarmed : ∀ auth now, LoopEvent.arm auth now ∉ es) :
    s'.presented = s.presented := by
  induction es generalizing s with
  | nil => exact Option.some.inj h ▸ rfl
  | cons e es ih =>
    obtain ⟨s1, h1, h2⟩ := Option.bind_eq_some_iff.mp h
    have hrest : ∀ auth now, LoopEvent.arm auth now ∉ es := fun auth now hmem =>
      hunarmed auth now (List.mem_cons_of_mem _ hmem)
    have hsettle : ∀ spending, s.settle spending = none := fun spending => by
      simp [settle, hidle]
    cases e with
    | arm auth now => exact absurd List.mem_cons_self (hunarmed auth now)
    | disarm =>
      obtain rfl := Option.some.inj h1
      exact ih (s := s.disarm) h2 rfl hidle hrest
    | fire now => simp [step, htimer] at h1
    | rejected spending => simp [step, hsettle] at h1
    | refused spending => simp [step, hsettle] at h1
    | answered spending auth now => simp [step, hsettle] at h1
    | unreadable spending => simp [step, hsettle] at h1
    | answeredNull spending => simp [step, hsettle] at h1

/-- A request that is under way when the loop is disarmed arms it again. -/
example : (initial.run 60 [.arm ⟨some "a", 1000⟩ 0, .fire 940000, .disarm,
    .answered (some "a") ⟨some "b", 2000⟩ 940100, .fire 1940000]).map (·.presented) =
      some [some "a", some "b"] := by decide

end RefreshLoop

/-! ## The loop and the server -/

/-- Whether a call presents the refresh token. -/
def Call.presents (token : String) : Call → Bool
  | .refreshSession input => input.refreshToken == some token
  | _ => false

/-- At most one place of a list has what is counted at most once. -/
theorem eq_of_countP_le_one {α : Type} {l : List α} {p : α → Bool} (h : l.countP p ≤ 1) {i j : ℕ}
    {a b : α} (hi : l[i]? = some a) (hj : l[j]? = some b) (ha : p a = true) (hb : p b = true) :
    i = j := by
  -- Of two places the one would be in the first part of the list, the other in the rest.
  have hlt : ∀ {i j : ℕ} {a b : α}, l[i]? = some a → l[j]? = some b → p a = true → p b = true →
      ¬ i < j := by
    intro i j a b hi hj ha hb hlt
    have hfirst : 0 < (l.take j).countP p := by
      refine List.countP_pos_iff.mpr ⟨a, List.mem_of_getElem? (i := i) ?_, ha⟩
      rw [List.getElem?_take_of_lt hlt, hi]
    have hrest : 0 < (l.drop j).countP p := by
      refine List.countP_pos_iff.mpr ⟨b, List.mem_of_getElem? (i := 0) ?_, hb⟩
      rw [List.getElem?_drop, Nat.add_zero, hj]
    have hsum : (l.take j).countP p + (l.drop j).countP p = l.countP p := by
      rw [← List.countP_append, List.take_append_drop]
    omega
  have hij := hlt hi hj ha hb
  have hji := hlt hj hi hb ha
  omega

variable {P : Platform} {O : NapServerOptions} {cb sb : Backend} {token : String} {tid : ℕ}
  {input : RefreshSessionInput} {leadSeconds : ℤ} {es : List LoopEvent} {loop : RefreshLoop}

/-- A loop from its creation on sends a token at most as often as it was armed with it. -/
theorem presented_le_armed (hrun : RefreshLoop.initial.run leadSeconds es = some loop) {t : String}
    (ht : t ≠ "") : loop.presented.count (some t) ≤ (es.filterMap LoopEvent.armed?).count t := by
  have hcount := RefreshLoop.run_count hrun ht
  have hstart : RefreshLoop.initial.presented.count (some t) + RefreshLoop.initial.held t = 0 := rfl
  omega

/-- A request of a loop that was armed with each token once is the only one to present its token. -/
theorem solePresenter_of_loop {c : (server P O cb sb).Config}
    (hrun : RefreshLoop.initial.run leadSeconds es = some loop)
    (honce : (es.filterMap LoopEvent.armed?).Nodup) (hne : token ≠ "")
    (hsent : c.calls.countP (Call.presents token) ≤ loop.presented.count (some token))
    {th : Thread Res Call Outcome} (hth : c.threads[tid]? = some th)
    (hcall : th.call = .refreshSession input) (hpresented : input.refreshToken = some token) :
    SolePresenter c tid token := by
  have hcount := presented_le_armed hrun hne
  have harmed := List.nodup_iff_count_le_one.mp honce token
  have hcalls : ∀ {tid : ℕ} {th : Thread Res Call Outcome} {input : RefreshSessionInput},
      c.threads[tid]? = some th → th.call = .refreshSession input →
      c.calls[tid]? = some (.refreshSession input) := by
    intro tid th input hth hcall
    rw [System.Config.calls, List.getElem?_map, hth, Option.map_some, hcall]
  have hle : c.calls.countP (Call.presents token) ≤ 1 := by omega
  intro tid' th' input' hother hth' hcall' hpresented'
  refine hother (eq_of_countP_le_one hle (hcalls hth' hcall') (hcalls hth hcall) ?_ ?_)
  · simp [Call.presents, hpresented']
  · simp [Call.presents, hpresented]

/-- A refresh loop keeps its session. It sends a token at most as often as it was armed with it. Of its
requests, at most as many reach the server as were sent, and nobody else presents its tokens. If the loop
is armed with each token once, then a request of it ends no session for the reuse of its token, and is
never told that it was reused. If moreover the session can be renewed, is not revoked, and the rate
limiter and the ACL allow the request, the loop is given new tokens for its session. -/
theorem refresh_loop_renews {c : (server P O cb sb).Config} (hc : (server P O cb sb).Reachable c)
    (hrun : RefreshLoop.initial.run leadSeconds es = some loop)
    (honce : (es.filterMap LoopEvent.armed?).Nodup) (hne : token ≠ "")
    (hsent : c.calls.countP (Call.presents token) ≤ loop.presented.count (some token))
    {outcome : Outcome} (hr : Returned c tid (.refreshSession input) outcome)
    (hpresented : input.refreshToken = some token) :
    (∀ t, t ≠ "" → loop.presented.count (some t) ≤ (es.filterMap LoopEvent.armed?).count t) ∧
    (∀ pre e id now, Occurs c.history pre e → e.tid = tid → e.op ≠ .revokeBySessionId id now) ∧
    outcome ≠ .failed (failure .refreshReused) ∧
    ∀ h id r, PositiveClock c.history → truthyInt O.refreshTtlSeconds = true → outcome ≠ .aborted →
      h <+: c.history → rowsAt h id = some r → r.refreshToken = some token → r.revokedAt = none →
      StartedAfter h c tid → RenewableOver O c.history r →
      (∀ pre e, Occurs c.history pre e → h <+: pre → ¬ Revokes pre e id) →
      (∀ key verdict, ⟨.checkRateLimit key, verdict⟩ ∈ (machine cb sb).own tid c.history →
        verdict.1.allowed = true) →
      (∀ npub pubkey context verdict, ⟨.resolve npub pubkey context, verdict⟩ ∈
        (machine cb sb).own tid c.history → verdict.1.allowed = true) →
      ∃ s decision now token', outcome = .ok s ∧ Renewed O r s decision now ∧
        s.refreshToken = some token' ∧ token' ≠ token := by
  obtain ⟨th, hth, hcall, hprog⟩ := hr
  have hsole := solePresenter_of_loop hrun honce hne hsent hth hcall hpresented
  have hkept : ∀ pre e id now, Occurs c.history pre e → e.tid = tid →
      e.op ≠ .revokeBySessionId id now :=
    fun pre e id now ho htid => no_reuse hc hsole hth hcall hpresented ho htid
  refine ⟨fun t ht => presented_le_armed hrun ht, hkept, fun hreused => ?_,
    fun h id r hpos hconfigured halive hp hheld hcur hunrevoked hstart hren hlive hallowed hdecided => ?_⟩
  · -- The report comes after a revocation.
    have hreports := hc.sat hth (by rw [hcall]; exact refreshSession_reports) hprog
    obtain ⟨id, now, hmem⟩ := hreports.resolve_left (by simp [hreused]) hreused
    obtain ⟨pre, e, ho, htid, hev⟩ := mem_own.mp hmem
    exact hkept pre e id now ho htid (op_of_event hev)
  · have hv := System.Valid.of_reachable hc
    obtain rfl := rowsAt_id (hv.restrict hp) hheld
    obtain ⟨s, decision, -, now, pre, e, hout, hrenewed, -, ho, rfl, -, token', htoken', hnew⟩ :=
      renewed_of_answers hc hconfigured hp hheld hcur hunrevoked ⟨th, hth, hcall, hprog⟩ halive
        hpresented fun p e1 ho htid => renewal_answers hc hpos hp hheld hcur hunrevoked hsole hren
          hlive hstart hallowed hdecided ho htid
    refine ⟨s, decision, now, token', hout, hrenewed, htoken', ?_⟩
    rintro rfl
    -- The token that was presented had been drawn long before.
    refine hnew (drawn_mono (hstart.before hc hp ho) ?_)
    exact (sound_of_valid (hv.restrict hp)).keys_drawn _ r hheld _
      (by simp [SessionRecord.HasRefreshToken, hcur])

open Sample in
/-- A loop that is armed with the answer to a login, and refreshes the session a minute before its
end. -/
theorem refresh_loop_renews_client : ∃ (c : refresher.Config) (loop : RefreshLoop)
    (r s : SessionRecord) (decision : AclDecision) (now : ℤ), refresher.Reachable c ∧
    RefreshLoop.initial.run 60 [.arm ⟨some (base64Url (draws 1).refresh), 1910⟩ 1010000,
      .fire 1850000] = some loop ∧
    Returned c 2 (refresh 1) (.ok s) ∧ Renewed refreshing r s decision now := by
  obtain ⟨c0, c, r, s, hc, hcalls, hpos, hp, hr0, hcur, hunrevoked, hr, hstart, hren, hlive,
    hallowed, hdecided⟩ := exists_renewed
  have hne : base64Url (draws 1).refresh ≠ "" := by decide +kernel
  obtain ⟨loop, hrun, hcount⟩ : ∃ loop, RefreshLoop.initial.run 60
      [.arm ⟨some (base64Url (draws 1).refresh), 1910⟩ 1010000, .fire 1850000] = some loop ∧
      loop.presented.count (some (base64Url (draws 1).refresh)) = 1 := by
    have htruthy : truthyString (some (base64Url (draws 1).refresh)) = true :=
      truthyString_iff.mpr ⟨_, rfl, hne⟩
    generalize base64Url (draws 1).refresh = token at htruthy
    refine ⟨⟨none, none, [some token], [some token], 0⟩, ?_, by simp⟩
    have hdelay : RefreshLoop.timeoutDelay 840000 = 840000 := by decide
    simp [RefreshLoop.run, RefreshLoop.step, RefreshLoop.arm, RefreshLoop.refresh,
      RefreshLoop.initial, htruthy, hdelay]
  obtain ⟨-, -, -, hrenews⟩ := refresh_loop_renews hc hrun (by decide +kernel) hne
    (by rw [hcount, hcalls]; decide +kernel) hr rfl
  obtain ⟨s', decision, now, -, hout, hrenewed, -⟩ := hrenews _ _ r hpos rfl (by simp) hp hr0 hcur
    hunrevoked hstart hren hlive hallowed hdecided
  obtain rfl := Outcome.ok.inj hout
  exact ⟨c, loop, r, s, decision, now, hc, hrun, hr, hrenewed⟩

end NapAuth

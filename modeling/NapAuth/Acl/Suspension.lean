import NapAuth.Acl.Logins
import NapAuth.Acl.Provisioning

/-!
# Suspensions and logins in flight

`suspend` of the revoking store writes the suspension and then revokes the sessions that exist. A
login decides by a record that it has read, and creates its session some steps later. A session whose
login has decided before the suspension is revoked when it is created before the suspension revokes
(`suspension_ends_logins`). When it is created later it escapes, and the suspended principal has a
session that lasts for its full time (`login_escapes_suspension`).
-/

namespace NapAuth

open Interleaving

variable {P : Platform} {O : NapServerOptions} {R : RegistryAclResolver} {cb sb ab : Backend}
  {h pre : AclHistory cb sb ab} {e : Step (aclMachine cb sb ab)}
  {c : (aclServer P O R cb sb ab).Config} {pubkey id : String} {s : SessionRecord} {tid : ℕ}

/-- The sessions of a principal are revoked by an event. -/
def RevokesSessions (pubkey : String) (ev : Event AclRes) : Prop :=
  ∃ now, ev.1 = .server (.revokeByPrincipal pubkey now)

/-- When a session of a principal is created by an authorization from before a suspension, the
suspension has not revoked the principal's sessions yet. -/
def CreatesInTime (R : RegistryAclResolver) (h : AclHistory cb sb ab) (pubkey : String) : Prop :=
  ∀ pre e s pred prew ew reason, Occurs h pre e → Creates pre e s → s.principalPubkey = pubkey →
    Authorized R pre e.tid pubkey pred → Occurs pre prew ew →
    ew.op = .write (.suspend pubkey R.registry.appId reason) → ¬ prew ++ [ew] <+: pred →
    ∀ ev ∈ (aclMachine cb sb ab).own ew.tid pre, ¬ RevokesSessions pubkey ev

/-- A suspension that has returned has written, in a step of its own, and revoked later. -/
theorem exists_revoke (hc : (aclServer P O R cb sb ab).Reachable c) {appId : String}
    {reason : Option String}
    (hr : AclReturned c tid (.write true (.suspend pubkey appId reason)) .done)
    (ho : Occurs c.history pre e) (htid : e.tid = tid)
    (hop : e.op = .write (.suspend pubkey appId reason)) :
    ∃ prer er now, Occurs c.history prer er ∧ er.tid = tid ∧
      er.op = .server (.revokeByPrincipal pubkey now) ∧ Occurs prer pre e := by
  obtain ⟨th, hth, hcall, hprog⟩ := hr
  obtain ⟨now, n, hown⟩ := suspend_events hc hth hcall hprog
  have hsplit : (aclMachine cb sb ab).own tid c.history =
      [⟨.write (.suspend pubkey appId reason), ()⟩, ⟨.server .nowUnix, now⟩] ++
        ⟨.server (.revokeByPrincipal pubkey now), n⟩ :: [] := hown
  obtain ⟨prer, er, hor, htidr, hevr, hownr⟩ := exists_occurs_of_own hsplit
  refine ⟨prer, er, now, hor, htidr, ((Machine.event_eq_iff _).mp hevr).1, ?_⟩
  rcases ho.trichotomy hor with ⟨-, rfl⟩ | hlt | hlt
  · have hopr := ((Machine.event_eq_iff _).mp hevr).1
    rw [hop] at hopr
    cases hopr
  · -- The write would be the second one of the call.
    have hfirst : (aclMachine cb sb ab).own tid c.history =
        [] ++ ⟨.write (.suspend pubkey appId reason), ()⟩ :: _ := hown
    have hbefore : (aclMachine cb sb ab).own tid pre = [] :=
      (ho.own_split htid hfirst (by simp [hop])).1
    have hmem : (aclMachine cb sb ab).event prer er ∈ (aclMachine cb sb ab).own tid pre :=
      mem_own.mpr ⟨prer, er, hlt, htidr, rfl⟩
    rw [hbefore] at hmem
    cases hmem
  · exact hlt

/-- In a run in which every session is created in time, once a suspension through the revoking store
has returned, each session of the principal that is not revoked was authorized by a record that was
read after the suspension. -/
theorem suspension_ends_logins (hc : (aclServer P O R cb sb ab).Reachable c)
    (hintime : CreatesInTime R c.history pubkey) :
    ∀ tid reason prew ew,
      AclReturned c tid (.write true (.suspend pubkey R.registry.appId reason)) .done →
      Occurs c.history prew ew → ew.tid = tid →
      ew.op = .write (.suspend pubkey R.registry.appId reason) →
      ∀ id s, sessionAt c.history id = some s → s.principalPubkey = pubkey → s.revokedAt = none →
      ∀ pre e s0 pred, Occurs c.history pre e → Creates pre e s0 → s0.sessionId = id →
        Authorized R pre e.tid pubkey pred → prew ++ [ew] <+: pred := by
  intro tid reason prew ew hr how htid hop id s hs hpubkey hunrevoked pre e s0 pred ho hcreates hid
    hauthorized
  have hv := System.Valid.of_reachable hc
  by_contra hearly
  obtain ⟨prer, er, now, hor, htidr, hopr, horder⟩ := exists_revoke hc hr how htid hop
  subst hid
  have hs0 := hcreates.held hv ho
  obtain ⟨-, -, -, hprincipal⟩ := sessionAt_between hv List.prefix_rfl ho hs0 hs
  rw [hpubkey] at hprincipal
  rcases ho.trichotomy hor with ⟨-, rfl⟩ | hlate | hearlier
  · obtain ⟨draft, hev, -⟩ := hcreates
    rw [((Machine.event_eq_iff _).mp hev).1] at hopr
    cases hopr
  · -- The session is created after the revocation, which is too late.
    have hmem : (aclMachine cb sb ab).event prer er ∈ (aclMachine cb sb ab).own ew.tid pre :=
      mem_own.mpr ⟨prer, er, hlate, htidr.trans htid.symm, rfl⟩
    exact hintime pre e s0 pred prew ew reason ho hcreates hprincipal.symm hauthorized
      (horder.mono hlate.before) hop hearly _ hmem ⟨now, hopr⟩
  · -- It is created before, and revoked.
    obtain ⟨s1, hs1, hprincipal1, -⟩ := sessionAt_between hv hearlier hor.before hs0 hs
    exact revoked_of_revokeByPrincipal hv hor hopr hs1 (hprincipal1.trans hprincipal.symm) hs
      hunrevoked

namespace Sample

/-- The program of a completion with the client's requests. -/
theorem aclProgram_server {call : Call} (hcall : Computed options call) :
    aclProgram options (.server call) = aclBody platform options resolver (.server call) := by
  have hprogram : program options call = NapAuth.body platform options call := hcall
  show (do let outcome ← (program options call).expand (withResolver resolver); _) = _
  rw [hprogram]
  rfl

/-- The session that a function of the server has returned. -/
def aclSession? (c : (aclServer platform options resolver cb sb ab).Config) (tid : ℕ) :
    Option SessionRecord :=
  match c.returned? tid with
  | some outcome =>
    match outcome with
    | .server (.ok s) => some s
    | _ => none
  | none => none

/-- A function of the server that has returned a session. -/
theorem returned_of_aclSession {c : (aclServer platform options resolver cb sb ab).Config} {tid : ℕ}
    {s : SessionRecord} (hs : aclSession? c tid = some s) :
    c.returned? tid = some (.server (.ok s)) := by
  unfold aclSession? at hs
  split at hs
  · rename_i outcome hout
    split at hs
    · obtain rfl := Option.some.inj hs
      exact hout
    · cases hs
  · cases hs

/-- Whether an operation is a read of an ACL store. -/
def isGet : AclOp → Bool
  | .get _ _ => true
  | _ => false

/-- Whether it writes for an operator. -/
def isWrite : AclOp → Bool
  | .write _ => true
  | _ => false

/-- Whether it creates a session. -/
def createsSession : AclOp → Bool
  | .server (.createForChallenge _) => true
  | _ => false

/-- Where no session is created after some step and no operator writes before, every session is
created in time. -/
theorem createsInTime_of_split {h : AclHistory cb sb ab} {k : ℕ}
    (hwrites : ∀ e ∈ h.take k, ∀ w, e.op ≠ .write w)
    (hcreates : ∀ e ∈ h.drop k, ∀ draft, e.op ≠ .server (.createForChallenge draft)) :
    ∀ pre e s prew ew w, Occurs h pre e → Creates pre e s → Occurs pre prew ew →
      ew.op ≠ .write w := by
  intro pre e s prew ew w ho hcreated how
  obtain ⟨draft, hev, -⟩ := hcreated
  have hlt : pre.length < k := by
    by_contra hle
    refine hcreates e ?_ draft ((Machine.event_eq_iff _).mp hev).1
    apply List.mem_of_getElem?
    rw [List.getElem?_drop, Nat.add_sub_cancel' (Nat.le_of_not_lt hle)]
    exact ho.getElem?
  have hmem : ew ∈ h.take k := by
    have hpre : pre = h.take pre.length := List.prefix_iff_eq_take.mp ho.before
    have htake : pre <+: h.take k := by
      rw [hpre]
      exact List.take_prefix_take_left (Nat.le_of_lt hlt)
    exact htake.mem (how.mem (by simp))
  exact hwrites ew hmem w

end Sample

open Sample in
/-- A login, and then a suspension of its principal: the session is revoked. -/
theorem suspension_ends_login :
    ∃ (c : (aclServer platform options resolver .memory .memory .memory).Config) (s : SessionRecord),
      (aclServer platform options resolver .memory .memory .memory).Reachable c ∧
      AclReturned c 1 (.server (complete false none)) (.server (.ok s)) ∧
      AclReturned c 2 (.write true (.suspend Sample.pubkey "shop" none)) .done ∧
      (∃ s', sessionAt c.history s.sessionId = some s') ∧
      ∀ s', sessionAt c.history s.sessionId = some s' → s'.revokedAt ≠ none := by
  obtain ⟨c, hc, hcalls, hp⟩ := exists_acl_run options
    (aclTurn (.server (issue none)) 0 4 (env 1000 0) ++
      aclTurn (.server (complete false none)) 1 12 (env 1010 1) ++
      aclTurn (.write true (.suspend Sample.pubkey "shop" none)) 2 3 (env 1020 2))
    [.server (issue none), .server (complete false none),
      .write true (.suspend Sample.pubkey "shop" none)]
    (fun c : (aclServer platform options resolver .memory .memory .memory).Config =>
      decide (c.returned? 2 = some .done) &&
      (c.history[16]?).any (fun e : Step (aclMachine .memory .memory .memory) =>
        decide (e.tid = 2 ∧ e.op = .write (.suspend Sample.pubkey "shop" none))) &&
      (c.history.take 16).all (fun e => !isWrite e.op) &&
      (c.history.drop 16).all (fun e => !createsSession e.op) &&
      (aclSession? c 1).any fun s => (sessionAt c.history s.sessionId).any fun s' =>
        decide (s'.principalPubkey = Sample.pubkey))
    rfl (by
      intro call hcall
      rcases List.mem_cons.mp hcall with rfl | hcall
      · rfl
      · rcases List.mem_pair.mp hcall with rfl | rfl
        · exact aclProgram_server (computed_complete rfl false none)
        · rfl)
    (by decide +kernel)
  simp only [Bool.and_eq_true, decide_eq_true_eq, Option.any_eq_true, List.all_eq_true] at hp
  obtain ⟨⟨⟨⟨hdone, ew, hew, htid, hop⟩, hwrites⟩, hcreates⟩, s, hs, s1, hs1, hpubkey⟩ := hp
  have hnowrite := @createsInTime_of_split .memory .memory .memory c.history 16
    (fun e he w h => by simpa [h, isWrite] using hwrites e he)
    (fun e he draft h => by simpa [h, createsSession] using hcreates e he)
  have hreturned := aclReturned_of_run hcalls rfl hdone
  refine ⟨c, s, hc, aclReturned_of_run hcalls rfl (returned_of_aclSession hs), hreturned,
    ⟨s1, hs1⟩, fun s' hs' hunrevoked => ?_⟩
  obtain rfl : s1 = s' := Option.some.inj (hs1.symm.trans hs')
  have hintime : CreatesInTime resolver c.history Sample.pubkey := fun pre e s0 pred prew ew reason ho
    hc0 _ _ how hop => absurd hop (hnowrite pre e s0 prew ew _ ho hc0 how)
  obtain ⟨pre, e, s0, ho, hc0, hid, hprincipal, -⟩ :=
    exists_creates (System.Valid.of_reachable hc) hs1
  obtain ⟨pred, r, hauthorized, -⟩ := create_authorized hc ho hc0
  rw [hprincipal, hpubkey] at hauthorized
  have hafter := suspension_ends_logins hc hintime 2 none _ ew hreturned (occurs_take hew) htid hop
    s.sessionId s1 hs1 hpubkey hunrevoked pre e s0 pred ho hc0 hid hauthorized
  -- The session would have been created after the suspension.
  obtain ⟨pre1, e1, -, -, ho1, -, -, hread, ho0, -⟩ := hauthorized
  have hbefore : Occurs pre (c.history.take 16) ew :=
    (hafter.trans ho0.before).trans ho1.before
  exact hnowrite pre e s0 _ ew _ ho hc0 hbefore hop

open Sample in
/-- A login reads the record of its principal. Then the principal is suspended, and that call returns.
The login has not read the record again, and its session is not revoked. -/
theorem login_escapes_suspension :
    ∃ (c : (aclServer platform options resolver .memory .memory .memory).Config) (s : SessionRecord),
      (aclServer platform options resolver .memory .memory .memory).Reachable c ∧
      AclReturned c 1 (.server (complete false none)) (.server (.ok s)) ∧
      AclReturned c 2 (.write true (.suspend Sample.pubkey "shop" none)) .done ∧
      (∃ e, c.history[13]? = some e ∧ e.op = .write (.suspend Sample.pubkey "shop" none)) ∧
      (∀ e ∈ c.history.drop 13, ∀ p a, e.op ≠ .get p a) ∧
      sessionAt c.history s.sessionId = some s ∧ s.principalPubkey = Sample.pubkey ∧
      s.revokedAt = none := by
  obtain ⟨c, hc, hcalls, hp⟩ := exists_acl_run options
    (aclTurn (.server (issue none)) 0 4 (env 1000 0) ++
      aclTurn (.server (complete false none)) 1 9 (env 1010 1) ++
      aclTurn (.write true (.suspend Sample.pubkey "shop" none)) 2 3 (env 1020 2) ++
      List.replicate 3 (.run 1 (env 1030 1)))
    [.server (issue none), .server (complete false none),
      .write true (.suspend Sample.pubkey "shop" none)]
    (fun c : (aclServer platform options resolver .memory .memory .memory).Config =>
      decide (c.returned? 2 = some .done) &&
      (c.history[13]?).any (fun e : Step (aclMachine .memory .memory .memory) =>
        decide (e.op = .write (.suspend Sample.pubkey "shop" none))) &&
      (c.history.drop 13).all (fun e => !isGet e.op) &&
      (aclSession? c 1).any fun s => decide (sessionAt c.history s.sessionId = some s ∧
        s.principalPubkey = Sample.pubkey ∧ s.revokedAt = none))
    rfl (by
      intro call hcall
      rcases List.mem_cons.mp hcall with rfl | hcall
      · rfl
      · rcases List.mem_pair.mp hcall with rfl | rfl
        · exact aclProgram_server (computed_complete rfl false none)
        · rfl)
    (by decide +kernel)
  simp only [Bool.and_eq_true, decide_eq_true_eq, Option.any_eq_true, List.all_eq_true] at hp
  obtain ⟨⟨⟨hdone, e, he, hop⟩, hreads⟩, s, hs, hheld, hpubkey, hunrevoked⟩ := hp
  refine ⟨c, s, hc, aclReturned_of_run hcalls rfl (returned_of_aclSession hs),
    aclReturned_of_run hcalls rfl hdone, ⟨e, he, hop⟩, fun e' he' p a hget => ?_, hheld, hpubkey,
    hunrevoked⟩
  have hnot := hreads e' he'
  rw [hget] at hnot
  cases hnot

end NapAuth

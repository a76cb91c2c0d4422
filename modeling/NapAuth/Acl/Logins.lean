import NapAuth.Acl.Records
import NapAuth.Server.Sessions
import NapAuth.Server.Warrant

/-!
# Logins under an ACL

How the sessions of a run hang together with the records of its ACL store. A session is created by a
completion that was let in by a record that it had read before (`create_authorized`), and it carries
the role of that record. The writes of an operator through the revoking store are followed in
`upsert_events` and `suspend_events`: a suspension revokes, and so does an `upsert` whose role differs
from the one that it has read.
-/

namespace NapAuth

open Interleaving

variable {P : Platform} {O : NapServerOptions} {R : RegistryAclResolver} {cb sb ab : Backend}
  {h h' pre pre' : AclHistory cb sb ab} {e e' : Step (aclMachine cb sb ab)}
  {c : (aclServer P O R cb sb ab).Config} {pubkey appId id : String} {s : SessionRecord} {tid : ℕ}

/-! ## Sessions -/

/-- The sessions that are held after a history, by session id. -/
def sessionAt (h : AclHistory cb sb ab) : SessionRows := rowsAt (serverHistory h)

/-- A step of a function of the server. -/
theorem step_server {op : Op} (hop : e.op = .server op) :
    (aclMachineRefinement cb sb ab).step e = some ⟨e.tid, op, e.env⟩ := by
  obtain ⟨tid, op', env⟩ := e
  obtain rfl : op' = .server op := hop
  rfl

/-- Its event is that of the server. -/
theorem event_server {op : Op} {r : Res op} :
    (aclMachine cb sb ab).event pre e = ⟨.server op, r⟩ ↔
      e.op = .server op ∧ (machine cb sb).event (serverHistory pre) ⟨e.tid, op, e.env⟩ = ⟨op, r⟩ := by
  rw [Machine.event_eq_iff, Machine.event_eq_iff]
  refine and_congr_right fun hop => ?_
  rw [show (machine cb sb).after (serverHistory pre) = ((aclMachine cb sb ab).after pre).stores from
    (aclMachineRefinement cb sb ab).after_history pre]
  simp [aclExec]

/-- The steps of the server, but for those of its resolver, are steps of its functions. -/
theorem exists_server_step {pre0 : History cb sb} {e0 : Step (machine cb sb)}
    (ho : Occurs (serverHistory h) pre0 e0)
    (hop : ∀ npub pubkey context, e0.op ≠ .resolve npub pubkey context) :
    ∃ pre e, Occurs h pre e ∧ e.op = .server e0.op ∧ e.tid = e0.tid ∧ e.env = e0.env ∧
      serverHistory pre = pre0 := by
  obtain ⟨pre, e, ho', hstep, hpre⟩ := Refinement.exists_of_occurs ho
  obtain ⟨cm, hcm, rfl⟩ := Refinement.step_eq_some hstep
  obtain ⟨tid, op, env⟩ := e
  cases op with
  | decided npub pubkey context decision =>
    obtain rfl := Option.some.inj hcm
    exact absurd rfl (hop npub pubkey context)
  | server op =>
    obtain rfl := Option.some.inj hcm
    exact ⟨pre, _, ho', rfl, rfl, rfl, hpre⟩
  | _ => cases hcm

/-- A session is created by a step. -/
def Creates (pre : AclHistory cb sb ab) (e : Step (aclMachine cb sb ab)) (s : SessionRecord) : Prop :=
  ∃ draft, (aclMachine cb sb ab).event pre e = ⟨.server (.createForChallenge draft), some s⟩ ∧
    s = createSessionRecord draft e.env.draws

/-- In a history, a call has decided about a principal, by the record that it has read right after
`pred`. -/
def Authorized (R : RegistryAclResolver) (h : AclHistory cb sb ab) (tid : ℕ) (pubkey : String)
    (pred : AclHistory cb sb ab) : Prop :=
  ∃ pre e npub context, Occurs h pre e ∧ e.tid = tid ∧
    e.op = .decided npub pubkey context
      (verdict R.registry (recordAt pred pubkey R.registry.appId)) ∧
    LastRead pre pred tid pubkey R.registry.appId

/-- The step of the server's resolver is a decision. -/
theorem exists_decided (hv : (aclServer P O R cb sb ab).Valid h) {pre0 : History cb sb}
    {e0 : Step (machine cb sb)} {npub : String} {context : AclResolutionContext}
    {answer : AclDecision × ℤ} (ho : Occurs (serverHistory h) pre0 e0)
    (hev : (machine cb sb).event pre0 e0 = ⟨.resolve npub pubkey context, answer⟩) :
    ∃ pred, Authorized R h e0.tid pubkey pred ∧
      answer.1 = verdict R.registry (recordAt pred pubkey R.registry.appId) := by
  obtain ⟨pre', e', ho', hstep, rfl⟩ := Refinement.exists_of_occurs ho
  obtain ⟨hop, hanswer⟩ := (Machine.event_eq_iff _).mp hev
  have hjust := hv.of_occurs aclBody_sat ho'
  obtain ⟨cm, hcm, rfl⟩ := Refinement.step_eq_some hstep
  obtain ⟨tid', op', env⟩ := e'
  cases op' with
  | decided npub' pubkey' context' decision =>
    obtain rfl := Option.some.inj hcm
    cases hop
    obtain ⟨pred, hlast, hdecision⟩ := exists_lastRead hjust
    subst hdecision
    exact ⟨pred, ⟨pre', _, npub, context, ho', rfl, rfl, hlast⟩, congrArg Prod.fst hanswer.symm⟩
  | server op =>
    obtain rfl := Option.some.inj hcm
    obtain rfl : op = .resolve npub pubkey context := hop
    exact hjust.elim
  | _ => cases hcm

/-- The record that a call was authorized by has let its principal in. -/
theorem role_of_verdict {found : Option AclRecord} (hallowed : (verdict R.registry found).allowed = true) :
    ∃ r, found = some r ∧ (verdict R.registry found).roles = [r.role] := by
  cases found with
  | none => cases hallowed
  | some r =>
    refine ⟨r, rfl, ?_⟩
    by_cases hsuspended : r.suspended = true
    · rw [verdict, if_pos hsuspended] at hallowed
      cases hallowed
    · rw [verdict, if_neg hsuspended] at hallowed ⊢
      cases hrole : R.registry.role? r with
      | none =>
        rw [hrole] at hallowed
        cases hallowed
      | some role =>
        have hkey : role.key = r.role := by simpa using List.find?_some hrole
        exact congrArg (fun key => [key]) hkey

/-- A session is created by a completion that was authorized by a record of its principal, and it
carries the role of that record. -/
theorem create_authorized (hc : (aclServer P O R cb sb ab).Reachable c)
    (ho : Occurs c.history pre e) (hcreates : Creates pre e s) :
    ∃ pred r, Authorized R pre e.tid s.principalPubkey pred ∧
      recordAt pred s.principalPubkey R.registry.appId = some r ∧ s.roles = [r.role] := by
  obtain ⟨draft, hev, rfl⟩ := hcreates
  obtain ⟨hop, hev0⟩ := event_server.mp hev
  obtain ⟨c0, hc0, hrefines⟩ := (aclRefinement P O R cb sb ab).simulates hc
  have ho0 : Occurs c0.history (serverHistory pre) ⟨e.tid, .createForChallenge draft, e.env⟩ := by
    rw [hrefines.history]
    exact Refinement.occurs_history ho (step_server hop)
  obtain ⟨th, input, j, -, -, holds, hown, rfl⟩ := create_warrant hc0 ho0 rfl
  -- The completion has asked its resolver last.
  have hlast : (machine cb sb).own e.tid (serverHistory pre) = (j.opening input).dropLast ++
      ⟨.resolve j.challenge.npub j.challenge.pubkey ⟨j.body.voucher, j.now, none⟩,
        (j.decision, j.resolvedAt)⟩ :: [] := hown
  obtain ⟨pre1, e1, ho1, htid, hev1, -⟩ := exists_occurs_of_own hlast
  obtain ⟨pred, hauthorized, hdecision⟩ := exists_decided
    ((System.Valid.of_reachable hc).restrict ho.before) ho1 hev1
  rw [htid] at hauthorized
  replace hdecision : j.decision =
    verdict R.registry (recordAt pred j.challenge.pubkey R.registry.appId) := hdecision
  have hallowed := holds.allowed
  rw [hdecision] at hallowed
  obtain ⟨r, hr, hroles⟩ := role_of_verdict hallowed
  refine ⟨pred, r, hauthorized, hr, ?_⟩
  exact (congrArg AclDecision.roles hdecision).trans hroles

/-- A session that is held was created by a step, for the principal that it has. -/
theorem exists_creates (hv : (aclServer P O R cb sb ab).Valid h) (hs : sessionAt h id = some s) :
    ∃ pre e s0, Occurs h pre e ∧ Creates pre e s0 ∧ s0.sessionId = id ∧
      s0.principalPubkey = s.principalPubkey ∧ sessionAt (pre ++ [e]) id = some s0 := by
  have hv0 := (aclRefinement P O R cb sb ab).valid_history hv
  obtain ⟨pre0, e0, draft, ho0, hev0, hcreated⟩ := exists_createForChallenge hv0 hs
  have hop0 := op_of_event hev0
  obtain ⟨pre, e, ho, hop, htid, henv, rfl⟩ := exists_server_step ho0 fun npub pubkey context h => by
    rw [hop0] at h
    cases h
  obtain ⟨tid0, op0, env0⟩ := e0
  obtain rfl : op0 = .createForChallenge draft := hop0
  subst htid henv
  have hsame : (createSessionRecord draft e.env.draws).sessionId = s.sessionId :=
    (congrArg SessionRecord.sessionId hcreated.symm :)
  have hid := hsame.trans (rowsAt_id hv0 hs)
  refine ⟨pre, e, _, ho, ⟨draft, event_server.mpr ⟨hop, hev0⟩, rfl⟩, hid,
    (congrArg SessionRecord.principalPubkey hcreated.symm :), ?_⟩
  have hrow := (rowsAt_of_createForChallenge (hv0.restrict ho0) hev0).1
  rw [hid] at hrow
  rw [sessionAt, serverHistory, Refinement.history_commit (step_server hop)]
  exact hrow

/-- A session is held when it has been created. -/
theorem Creates.held (hv : (aclServer P O R cb sb ab).Valid h) (ho : Occurs h pre e)
    (hcreates : Creates pre e s) : sessionAt (pre ++ [e]) s.sessionId = some s := by
  obtain ⟨draft, hev, -⟩ := hcreates
  obtain ⟨hop, hev0⟩ := event_server.mp hev
  have hv0 := (aclRefinement P O R cb sb ab).valid_history (hv.restrict ho)
  have hhistory : serverHistory (pre ++ [e]) =
      serverHistory pre ++ [⟨e.tid, .createForChallenge draft, e.env⟩] :=
    Refinement.history_commit (step_server hop)
  rw [sessionAt, hhistory]
  replace hv0 : (server P O cb sb).Valid (serverHistory (pre ++ [e])) := hv0
  rw [hhistory] at hv0
  exact (rowsAt_of_createForChallenge hv0 hev0).1

/-- What the last step has done to a session that is held after it. -/
theorem sessionAt_cases (hv : (aclServer P O R cb sb ab).Valid (h ++ [e]))
    (hs : sessionAt (h ++ [e]) id = some s) :
    sessionAt h id = some s ∨ (Creates h e s ∧ sessionAt h id = none) ∨
    (∃ draft, e.op = .server (.rotateRefreshToken id draft)) ∨ s.revokedAt ≠ none := by
  have hv0 := (aclRefinement P O R cb sb ab).valid_history hv
  replace hv0 : (server P O cb sb).Valid (serverHistory (h ++ [e])) := hv0
  cases hstep : (aclMachineRefinement cb sb ab).step e with
  | none =>
    rw [sessionAt, serverHistory, Refinement.history_silent hstep] at hs
    exact Or.inl hs
  | some e0 =>
    rw [sessionAt, serverHistory, Refinement.history_commit hstep] at hs
    rw [serverHistory, Refinement.history_commit hstep] at hv0
    -- Only a function of the server changes the sessions.
    have hserver : ∀ op, e0.op = op → (∀ npub pubkey context, op ≠ .resolve npub pubkey context) →
        e.op = .server op ∧ e0 = ⟨e.tid, op, e.env⟩ := by
      intro op hop hne
      obtain ⟨cm, hcm, rfl⟩ := Refinement.step_eq_some hstep
      obtain ⟨tid, op', env⟩ := e
      cases op' with
      | decided npub pubkey context decision =>
        obtain rfl := Option.some.inj hcm
        exact absurd hop.symm (hne npub pubkey context)
      | server op' =>
        obtain rfl := Option.some.inj hcm
        obtain rfl : op' = op := hop
        exact ⟨rfl, rfl⟩
      | _ => cases hcm
    rcases rowsAt_cases hv0 hs with hsame | ⟨draft, hev, hcreated, hnone⟩ | ⟨draft, r, hev, -, -⟩ |
      ⟨-, r, t, rfl, -⟩
    · exact Or.inl hsame
    · obtain ⟨hop, rfl⟩ := hserver _ (op_of_event hev) fun _ _ _ h => by cases h
      exact Or.inr (Or.inl ⟨⟨draft, event_server.mpr ⟨hop, hev⟩, hcreated⟩, hnone⟩)
    · obtain ⟨hop, -⟩ := hserver _ (op_of_event hev) fun _ _ _ h => by cases h
      exact Or.inr (Or.inr (Or.inl ⟨draft, hop⟩))
    · exact Or.inr (Or.inr (Or.inr (by simp)))

/-- A session that is held at two times is held in between, for the same principal. -/
theorem sessionAt_between (hv : (aclServer P O R cb sb ab).Valid h) {mid : AclHistory cb sb ab}
    (hp : pre <+: mid) (hp' : mid <+: h) {s0 : SessionRecord} (hs0 : sessionAt pre id = some s0)
    (hs : sessionAt h id = some s) : ∃ s1, sessionAt mid id = some s1 ∧
      s1.principalPubkey = s0.principalPubkey ∧ s.principalPubkey = s0.principalPubkey := by
  have hv0 := (aclRefinement P O R cb sb ab).valid_history hv
  have hmono : serverHistory pre <+: serverHistory mid := Refinement.history_mono hp
  have hmono' : serverHistory mid <+: serverHistory h := Refinement.history_mono hp'
  obtain ⟨s1, hs1⟩ := rowsAt_between hv0 hmono hmono' hs0 hs
  have hsame1 := asCreated_eq (hv0.restrict hmono') hmono hs0 hs1
  have hsame := asCreated_eq hv0 (hmono.trans hmono') hs0 hs
  exact ⟨s1, hs1, (congrArg SessionRecord.principalPubkey hsame1 :),
    (congrArg SessionRecord.principalPubkey hsame :)⟩

/-- Revoking the sessions of a principal revokes every session of the principal that is held. -/
theorem revoked_of_revokeByPrincipal (hv : (aclServer P O R cb sb ab).Valid h)
    (ho : Occurs h pre e) {now : ℤ} (hop : e.op = .server (.revokeByPrincipal pubkey now))
    {s0 : SessionRecord} (hs0 : sessionAt pre id = some s0) (hpubkey : s0.principalPubkey = pubkey)
    (hs : sessionAt h id = some s) : s.revokedAt ≠ none := by
  have hv0 := (aclRefinement P O R cb sb ab).valid_history hv
  have hstep := step_server hop
  have ho0 : Occurs (serverHistory h) (serverHistory pre) _ := Refinement.occurs_history ho hstep
  obtain ⟨r, hr, hsome⟩ := Revokes.revokedAt (e := ⟨e.tid, .revokeByPrincipal pubkey now, e.env⟩)
    (hv0.restrict ho0.before) ⟨s0, now, hs0, Or.inr (by rw [hpubkey])⟩
  exact revokedAt_persists hv0 ho0 hr hsome hs

/-! ## The revoking store -/

/-- A suspension through the revoking store that has returned has written and then revoked. -/
theorem suspend_events (hc : (aclServer P O R cb sb ab).Reachable c) {reason : Option String}
    {th : Thread AclRes AclCall AclOutcome} (hth : c.threads[tid]? = some th)
    (hcall : th.call = .write true (.suspend pubkey appId reason)) (hdone : th.prog = .pure .done) :
    ∃ now n, (aclMachine cb sb ab).own tid c.history =
      [⟨.write (.suspend pubkey appId reason), ()⟩, ⟨.server .nowUnix, now⟩,
        ⟨.server (.revokeByPrincipal pubkey now), n⟩] := by
  have hsat : (aclBody P O R th.call).Sat (fun _ _ => True) (fun xs _ => ∃ now n, xs =
      [⟨.write (.suspend pubkey appId reason), ()⟩, ⟨.server .nowUnix, now⟩,
        ⟨.server (.revokeByPrincipal pubkey now), n⟩]) [] := by
    rw [hcall]
    exact ⟨trivial, fun _ => ⟨trivial, fun now => ⟨trivial, fun n => ⟨now, n, rfl⟩⟩⟩⟩
  rcases hc.sat hth hsat hdone with habort | hevents
  · cases habort
  · exact hevents

/-- Whether an `upsert` through the revoking store has to revoke, by the record that it has read. -/
def hasToRevoke (previous : Option AclRecord) (record : AclRecord) : Bool :=
  previous.any (fun previous => previous.role ≠ record.role) || record.suspended

/-- A function of the server writes no record for an operator. -/
theorem server_writes_nothing (hc : (aclServer P O R cb sb ab).Reachable c)
    (ho : Occurs c.history pre e) {th : Thread AclRes AclCall AclOutcome}
    (hth : c.threads[e.tid]? = some th) {call : Call} (hcall : th.call = .server call)
    (w : AclWrite) : e.op ≠ .write w := by
  have hsat : (aclBody P O R th.call).Sat (fun _ op => op ≠ .write w) (fun _ _ => True) [] := by
    rw [hcall]
    apply Prog.Sat.bind
    refine (Prog.Sat.expand (fun op xs => ?_) (body P O call) []).mono (fun _ _ h => h)
      fun _ _ _ => trivial
    cases op with
    | resolve npub pubkey context =>
      apply Prog.Sat.bind
      refine (resolve_sat pubkey xs).mono (fun ys op hresolves heq => ?_)
        fun _ _ _ => ⟨AclOp.noConfusion, fun _ => trivial⟩
      rw [heq] at hresolves
      exact hresolves
    | _ => exact ⟨AclOp.noConfusion, fun _ => trivial⟩
  exact hc.sat_of_occurs ho hth hsat

/-- An `upsert` through the revoking store writes its record when it has read the one before. -/
theorem upsert_write (hc : (aclServer P O R cb sb ab).Reachable c) (ho : Occurs c.history pre e)
    {th : Thread AclRes AclCall AclOutcome} (hth : c.threads[e.tid]? = some th) {record : AclRecord}
    (hcall : th.call = .write true (.upsert record)) {w : AclWrite} (hop : e.op = .write w) :
    w = .upsert record ∧ ∃ previous, (aclMachine cb sb ab).own e.tid pre =
      [⟨.get record.principalPubkey record.appId, previous⟩] := by
  have hsat : (aclBody P O R th.call).Sat (fun xs op => ∀ w, op = .write w →
      w = .upsert record ∧ ∃ previous, xs =
        [⟨.get record.principalPubkey record.appId, previous⟩]) (fun _ _ => True) [] := by
    rw [hcall]
    refine ⟨fun _ h => AclOp.noConfusion h, fun previous => ⟨fun w h => ?_, fun _ => ?_⟩⟩
    · obtain rfl := AclOp.write.inj h
      exact ⟨rfl, previous, rfl⟩
    · apply Prog.Sat.bind
      show Prog.Sat _ _ (if _ then _ else _) _
      split
      · exact ⟨fun _ h => AclOp.noConfusion h, fun _ => ⟨fun _ h => AclOp.noConfusion h, fun _ => trivial⟩⟩
      · trivial
  exact hc.sat_of_occurs ho hth hsat w hop

/-- When it has returned it has revoked, if it had to. -/
theorem upsert_events (hc : (aclServer P O R cb sb ab).Reachable c)
    {th : Thread AclRes AclCall AclOutcome} (hth : c.threads[tid]? = some th) {record : AclRecord}
    (hcall : th.call = .write true (.upsert record)) {outcome : AclOutcome}
    (hdone : th.prog = .pure outcome) (halive : outcome ≠ .aborted) :
    ∃ previous rest, (aclMachine cb sb ab).own tid c.history =
      ⟨.get record.principalPubkey record.appId, previous⟩ :: ⟨.write (.upsert record), ()⟩ ::
        rest ∧ (hasToRevoke previous record = true →
          ∃ ev ∈ rest, ∃ now, ev.1 = .server (.revokeByPrincipal record.principalPubkey now)) := by
  have hsat : (aclBody P O R th.call).Sat (fun _ _ => True) (fun xs _ => ∃ previous rest, xs =
      ⟨.get record.principalPubkey record.appId, previous⟩ :: ⟨.write (.upsert record), ()⟩ ::
        rest ∧ (hasToRevoke previous record = true →
          ∃ ev ∈ rest, ∃ now, ev.1 = .server (.revokeByPrincipal record.principalPubkey now)))
      [] := by
    rw [hcall]
    refine ⟨trivial, fun previous => ⟨trivial, fun _ => ?_⟩⟩
    apply Prog.Sat.bind
    show Prog.Sat _ _ (if hasToRevoke previous record then _ else _) _
    split
    · exact ⟨trivial, fun now => ⟨trivial, fun n => ⟨previous, _, rfl, fun _ =>
        ⟨_, List.mem_cons_of_mem _ List.mem_cons_self, now, rfl⟩⟩⟩⟩
    · rename_i hnot
      exact ⟨previous, [], rfl, fun h => absurd h hnot⟩
  exact (hc.sat hth hsat hdone).resolve_left halive

end NapAuth

import NapAuth.Interleaving.Custody
import NapAuth.Interleaving.Replay
import NapAuth.Nip46.Signer

/-!
# The pools of a remote signer

A pool that the signer has created is in the hands of the call that has made it, until the call
destroys it or sets the connection with it. So it is the custody of `Interleaving/Custody.lean`, with
the connection as the shared place (`refines`). Once every call has settled, each pool is that of the
connection or has been destroyed, exactly when no step has dropped one (`pools_accounted_iff`): by an
error right after the pool has been made, or by a connection that is set over another one.
-/

namespace NapAuth.Nip46

open Interleaving

variable {O : Nip46SignerOptions} {left : Option StoredConnectionRecord}

/-! ## What the events do to the pools -/

/-- What is done to a pool, if the signer owns it. -/
def movePool (f : ℕ → Move) (pool : Option ℕ) : Move := (pool.map f).getD .idle

/-- What an event does to the pools. -/
def signerMove : Event SignerRes → Move
  | ⟨.openConnection _ _, .thrown pool⟩ => movePool .waste pool
  | ⟨.openConnection _ _, .made connection⟩ => movePool .acquire connection.pool
  | ⟨.pair _, .thrown pool⟩ => movePool .waste pool
  | ⟨.pair _, .made pairing⟩ => movePool .acquire pairing.pool
  | ⟨.fromBunker pairing _, false⟩ => movePool .waste pairing.pool
  | ⟨.destroy pool, _⟩ => movePool .release pool
  | ⟨.setConnection connection, _⟩ => .put connection.pool
  | ⟨.disconnect, taken⟩ => .take (taken.bind (·.pool))
  | _ => .idle

/-- The pool that a call has in its hands. -/
abbrev hand (xs : List (Event SignerRes)) : Option ℕ := holding signerMove xs

variable (O) in
/-- What stands behind an operation: the call has nothing in its hands when it makes a pool or takes
the connection, and parts with what it has; a record is saved if there is a store. -/
def SignerWarrant (xs : List (Event SignerRes)) : SignerOp → Prop
  | .openConnection _ _ => hand xs = none
  | .pair _ => hand xs = none
  | .disconnect => hand xs = none
  | .destroy pool => hand xs = pool
  | .fromBunker pairing _ => hand xs = pairing.pool
  | .setConnection connection => hand xs = connection.pool
  | .save _ => O.hasStore = true
  | _ => True

/-- A call has the pool of the connection that it has got. -/
def Holds (xs : List (Event SignerRes)) (r : Option ActiveConnection) : Prop :=
  hand xs = r.bind (·.pool)

section Programs

variable {xs : List (Event SignerRes)}

/-- An event that leaves the pools. -/
theorem hand_idle {ev : Event SignerRes} (h : signerMove ev = .idle) : hand (xs ++ [ev]) = hand xs := by
  rw [hand, holding_concat, h]
  rfl

/-- A pool that has been made. -/
theorem hand_acquire {ev : Event SignerRes} {pool : Option ℕ} (hempty : hand xs = none)
    (h : signerMove ev = movePool .acquire pool) : hand (xs ++ [ev]) = pool := by
  rw [hand, holding_concat, h]
  cases pool with
  | none => exact hempty
  | some p => rfl

/-- A pool that the call parts with, or that it has not had for long. -/
theorem hand_part {ev : Event SignerRes} {pool : Option ℕ} {f : ℕ → Move}
    (hheld : hand xs = none ∨ hand xs = pool) (hf : ∀ p held, (f p).holding held = none)
    (h : signerMove ev = movePool f pool) : hand (xs ++ [ev]) = none := by
  rw [hand, holding_concat, h]
  cases pool with
  | none => exact hheld.elim id id
  | some p => exact hf p _

/-- Closing a connection. -/
theorem closeConnection_sat {connection : ActiveConnection} (h : hand xs = connection.pool) :
    (closeConnection connection).Sat (SignerWarrant O) (fun ys _ => hand ys = none) xs :=
  ⟨h, fun _ => hand_part (Or.inr h) (fun _ _ => rfl) rfl⟩

/-- A handshake keeps the pool if it succeeds. -/
theorem handshake_sat {connection : ActiveConnection} (h : hand xs = connection.pool) :
    (handshake connection).Sat (SignerWarrant O) Holds xs := by
  refine ⟨trivial, fun answer => ?_⟩
  have hnext : hand (xs ++ [⟨.answer, answer⟩]) = connection.pool := (hand_idle rfl).trans h
  cases answer with
  | none => exact (closeConnection_sat hnext).bind
  | some result =>
    show (if _ then _ else _ : SignerProgram _).Sat _ _ _
    split
    · exact (closeConnection_sat hnext).bind
    · exact hnext

/-- A connection that is opened with empty hands. -/
theorem openAndShake_sat (h : hand xs = none) (clientSecretKey : Option String)
    (pointer : BunkerPointer) :
    (openAndShake clientSecretKey pointer).Sat (SignerWarrant O) Holds xs := by
  refine ⟨h, fun opened => ?_⟩
  cases opened with
  | thrown pool => exact hand_part (Or.inl h) (fun _ _ => rfl) rfl
  | made connection => exact handshake_sat (hand_acquire h rfl)

/-- Dropping the record. -/
theorem dropRecord_sat (h : hand xs = none) :
    dropRecord.Sat (SignerWarrant O) (fun ys r => hand ys = r.toOption.join.bind (·.pool)) xs := by
  refine ⟨trivial, fun cleared => ?_⟩
  have hnext : hand (xs ++ [⟨.clear, cleared⟩]) = none := (hand_idle rfl).trans h
  cases cleared <;> exact hnext

/-- Restoring a pairing. -/
theorem restore_sat (h : hand xs = none) :
    (restore O).Sat (SignerWarrant O) (fun ys r => hand ys = r.toOption.join.bind (·.pool)) xs := by
  unfold restore
  split
  · exact h
  · refine ⟨trivial, fun loaded => ?_⟩
    have hnext : hand (xs ++ [⟨.load, loaded⟩]) = none := (hand_idle rfl).trans h
    cases loaded with
    | thrown => exact hnext
    | unusable => exact hnext
    | undecodable => exact dropRecord_sat hnext
    | record record =>
      show (openAndShake _ _ >>= _).Sat _ _ _
      refine Prog.Sat.bind (Prog.Sat.mono (openAndShake_sat hnext _ _) (fun _ _ hop => hop) ?_)
      intro ys r hr
      cases r with
      | none => exact dropRecord_sat hr
      | some connection => exact hr

/-- Pairing from a token. -/
theorem connectWithBunkerToken_sat (h : hand xs = none) (token : String) :
    (connectWithBunkerToken token).Sat (SignerWarrant O) Holds xs := by
  refine ⟨trivial, fun pointer => ?_⟩
  have hnext : hand (xs ++ [⟨.parseBunkerInput token, pointer⟩]) = none := (hand_idle rfl).trans h
  cases pointer with
  | none => exact hnext
  | some pointer =>
    show (if _ then _ else _ : SignerProgram _).Sat _ _ _
    split
    · exact hnext
    · exact openAndShake_sat hnext _ _

/-- Pairing from a URI. -/
theorem connectWithNostrConnect_sat (h : hand xs = none) (relays : List String) :
    (connectWithNostrConnect relays).Sat (SignerWarrant O) Holds xs := by
  unfold connectWithNostrConnect
  split
  · exact h
  · refine ⟨h, fun paired => ?_⟩
    cases paired with
    | thrown pool => exact hand_part (Or.inl h) (fun _ _ => rfl) rfl
    | made pairing =>
      refine ⟨trivial, fun waited => ?_⟩
      have hnext : hand (xs ++ [⟨.pair relays, .made pairing⟩] ++ [⟨.waited, waited⟩]) =
          pairing.pool := (hand_idle rfl).trans (hand_acquire h rfl)
      cases waited with
      | none => exact ⟨hnext, fun _ => hand_part (Or.inr hnext) (fun _ _ => rfl) rfl⟩
      | some pubkey =>
        refine ⟨hnext, fun made => ?_⟩
        cases made with
        | false => exact hand_part (Or.inr hnext) (fun _ _ => rfl) rfl
        | true => exact (hand_idle rfl).trans hnext

/-- Setting the connection empties the hands. -/
theorem hand_setConnection (connection : ActiveConnection) :
    hand (xs ++ [⟨.setConnection connection, ()⟩]) = none := by
  rw [hand, holding_concat]
  rfl

/-- Saving and setting a connection. -/
theorem adoptEstablished_sat {r : Option ActiveConnection} (h : Holds xs r) :
    (adoptEstablished O r).Sat (SignerWarrant O) (fun ys _ => hand ys = none) xs := by
  cases r with
  | none => exact h
  | some established =>
    show (if _ then _ else _ : SignerProgram _).Sat _ _ _
    split
    · refine ⟨‹_›, fun saved => ?_⟩
      have hnext : hand (xs ++ [⟨.save (toRecord established), saved⟩]) = established.pool :=
        (hand_idle rfl).trans h
      cases saved with
      | false => exact (closeConnection_sat hnext).bind
      | true => exact ⟨hnext, fun _ => hand_setConnection established⟩
    · exact ⟨h, fun _ => hand_setConnection established⟩

/-- Clearing the store leaves the hands as they are. -/
theorem clearStore_sat (h : hand xs = none) :
    (clearStore O).Sat (SignerWarrant O) (fun ys _ => hand ys = none) xs := by
  unfold clearStore
  split
  · refine ⟨trivial, fun cleared => ?_⟩
    have hnext : hand (xs ++ [⟨.clear, cleared⟩]) = none := (hand_idle rfl).trans h
    cases cleared <;> exact hnext
  · exact h

variable (O) in
/-- The logic of the calls: none has anything in its hands when it settles. -/
theorem signerBody_sat (call : SignerCall) :
    (signerBody O call).Sat (SignerWarrant O) (fun ys _ => hand ys = none) [] := by
  cases call with
  | connect =>
    refine ⟨trivial, fun connected => ?_⟩
    have hempty : hand ([] ++ [⟨.connect, connected⟩]) = none := hand_idle rfl
    cases connected with
    | true => exact hempty
    | false =>
      show (restore O >>= _).Sat _ _ _
      refine Prog.Sat.bind (Prog.Sat.mono (restore_sat hempty) (fun _ _ hop => hop) ?_)
      intro ys r hr
      cases r with
      | error error => exact hr
      | ok restored =>
        cases restored with
        | some restored => exact ⟨hr, fun _ => hand_setConnection restored⟩
        | none =>
          dsimp only
          split_ifs
          · refine Prog.Sat.bind (Prog.Sat.mono (connectWithBunkerToken_sat hr _)
              (fun _ _ hop => hop) fun _ _ hestablished => adoptEstablished_sat hestablished)
          · refine Prog.Sat.bind (Prog.Sat.mono (connectWithNostrConnect_sat hr _)
              (fun _ _ hop => hop) fun _ _ hestablished => adoptEstablished_sat hestablished)
          · exact hr
          · exact hr
  | disconnect =>
    refine ⟨rfl, fun taken => ?_⟩
    cases taken with
    | none => exact clearStore_sat rfl
    | some active =>
      exact ((closeConnection_sat rfl).mono (fun _ _ hop => hop) fun _ _ hys => clearStore_sat hys).bind

end Programs

/-! ## The ledger of a run -/

section Runs

variable {h : List (Step (signerMachine O left))} {e : Step (signerMachine O left)}

/-- The ledger says of the pools what the state does. -/
structure Refines (h : List (Step (signerMachine O left))) : Prop where
  legal : LegalHistory signerMove h
  unborn : ∀ p, ledger signerMove h p = .unborn ↔ ((signerMachine O left).after h).pools ≤ p
  shared : ∀ p, ledger signerMove h p = .shared ↔
    ((signerMachine O left).after h).connection.bind (·.pool) = some p
  released : ∀ p, ledger signerMove h p = .released ↔ p ∈ ((signerMachine O left).after h).destroyed

/-- One more legal step. -/
theorem LegalHistory.concat {h : List (Step (signerMachine O left))}
    {e : Step (signerMachine O left)} (hlegal : LegalHistory signerMove h)
    (hstep : (signerMove ((signerMachine O left).event h e)).Legal (ledger signerMove h)
      (hand ((signerMachine O left).own e.tid h))) : LegalHistory signerMove (h ++ [e]) := by
  intro pre e' ho
  rcases occurs_concat.mp ho with ⟨rfl, rfl⟩ | ho
  · exact hstep
  · exact hlegal pre e' ho

/-- A new pool leaves the rest. -/
@[simp] theorem poolFor_connection (s : Signer) : (poolFor O s).2.connection = s.connection := by
  unfold poolFor
  split <;> rfl

@[simp] theorem poolFor_destroyed (s : Signer) : (poolFor O s).2.destroyed = s.destroyed := by
  unfold poolFor
  split <;> rfl

/-- What the beginning of a pairing does. -/
theorem pair_spec (relays : List String) (env : SignerEnv) (s : Signer) :
    (signerExec O (.pair relays) env s).2.pools = (poolFor O s).2.pools ∧
    (signerExec O (.pair relays) env s).2.connection = (poolFor O s).2.connection ∧
    (signerExec O (.pair relays) env s).2.destroyed = (poolFor O s).2.destroyed ∧
    (signerMove ⟨.pair relays, (signerExec O (.pair relays) env s).1⟩ =
        movePool .acquire (poolFor O s).1 ∨
      signerMove ⟨.pair relays, (signerExec O (.pair relays) env s).1⟩ =
        movePool .waste (poolFor O s).1) := by
  unfold signerExec
  cases env.uri with
  | none => exact ⟨rfl, rfl, rfl, Or.inr rfl⟩
  | some uri =>
    refine ⟨rfl, rfl, rfl, ?_⟩
    cases env.callbackReturns with
    | true => exact Or.inl rfl
    | false => exact Or.inr rfl

/-- One more step, of which the move is known. -/
theorem Refines.concat {m : Move} (href : Refines h)
    (hm : signerMove ((signerMachine O left).event h e) = m)
    (hlegal : m.Legal (ledger signerMove h) (hand ((signerMachine O left).own e.tid h)))
    (hunborn : ∀ p, m.place e.tid p (ledger signerMove h p) = .unborn ↔
      ((signerMachine O left).next ((signerMachine O left).after h) e).pools ≤ p)
    (hshared : ∀ p, m.place e.tid p (ledger signerMove h p) = .shared ↔
      ((signerMachine O left).next ((signerMachine O left).after h) e).connection.bind (·.pool) =
        some p)
    (hreleased : ∀ p, m.place e.tid p (ledger signerMove h p) = .released ↔
      p ∈ ((signerMachine O left).next ((signerMachine O left).after h) e).destroyed) :
    Refines (h ++ [e]) where
  legal := LegalHistory.concat href.legal (hm ▸ hlegal)
  unborn p := by rw [ledger_concat, hm, Machine.after_concat]; exact hunborn p
  shared p := by rw [ledger_concat, hm, Machine.after_concat]; exact hshared p
  released p := by rw [ledger_concat, hm, Machine.after_concat]; exact hreleased p

/-- A step that leaves the pools. -/
theorem Refines.idle (href : Refines h) (hm : signerMove ((signerMachine O left).event h e) = .idle)
    (hpools : ((signerMachine O left).next ((signerMachine O left).after h) e).pools =
      ((signerMachine O left).after h).pools)
    (hconnection : ((signerMachine O left).next ((signerMachine O left).after h) e).connection =
      ((signerMachine O left).after h).connection)
    (hdestroyed : ((signerMachine O left).next ((signerMachine O left).after h) e).destroyed =
      ((signerMachine O left).after h).destroyed) : Refines (h ++ [e]) := by
  refine href.concat hm .idle ?_ ?_ ?_
  · rw [hpools]
    exact href.unborn
  · rw [hconnection]
    exact href.shared
  · rw [hdestroyed]
    exact href.released

/-- A step that makes a pool, and keeps it or drops it. -/
theorem Refines.made (href : Refines h) (hempty : hand ((signerMachine O left).own e.tid h) = none)
    (hm : signerMove ((signerMachine O left).event h e) =
        movePool .acquire (poolFor O ((signerMachine O left).after h)).1 ∨
      signerMove ((signerMachine O left).event h e) =
        movePool .waste (poolFor O ((signerMachine O left).after h)).1)
    (hpools : ((signerMachine O left).next ((signerMachine O left).after h) e).pools =
      (poolFor O ((signerMachine O left).after h)).2.pools)
    (hconnection : ((signerMachine O left).next ((signerMachine O left).after h) e).connection =
      ((signerMachine O left).after h).connection)
    (hdestroyed : ((signerMachine O left).next ((signerMachine O left).after h) e).destroyed =
      ((signerMachine O left).after h).destroyed) : Refines (h ++ [e]) := by
  unfold poolFor at hm hpools
  by_cases hpool : O.hasPool = true
  · simp only [hpool, if_true] at hm hpools
    exact href.idle (hm.elim id id) hpools hconnection hdestroyed
  · simp only [hpool, Bool.false_eq_true, if_false] at hm hpools
    have hnew := (href.unborn ((signerMachine O left).after h).pools).mpr le_rfl
    obtain ⟨m, hmove, hm'⟩ : ∃ m, signerMove ((signerMachine O left).event h e) = m ∧
        (m = .acquire ((signerMachine O left).after h).pools ∨
          m = .waste ((signerMachine O left).after h).pools) := ⟨_, rfl, hm⟩
    have hlegal : m.Legal (ledger signerMove h) (hand ((signerMachine O left).own e.tid h)) := by
      rcases hm' with rfl | rfl
      · exact .acquire hnew hempty
      · exact .wasteNew hnew hempty
    refine href.concat hmove hlegal (fun p => ?_) (fun p => ?_) (fun p => ?_)
    · have hp := href.unborn p
      rw [hpools]
      rcases hm' with rfl | rfl <;> simp only [Move.place] <;> grind
    · have hp := href.shared p
      rw [hconnection]
      rcases hm' with rfl | rfl <;> simp only [Move.place] <;> grind
    · have hp := href.released p
      rw [hdestroyed]
      rcases hm' with rfl | rfl <;> simp only [Move.place] <;> grind

/-- A step that parts with a pool, by destroying it or dropping it. -/
theorem Refines.part {f : ℕ → Move} {pool : Option ℕ} (href : Refines h)
    (hhand : hand ((signerMachine O left).own e.tid h) = pool)
    (hm : signerMove ((signerMachine O left).event h e) = movePool f pool)
    (hpools : ((signerMachine O left).next ((signerMachine O left).after h) e).pools =
      ((signerMachine O left).after h).pools)
    (hconnection : ((signerMachine O left).next ((signerMachine O left).after h) e).connection =
      ((signerMachine O left).after h).connection)
    (hdestroyed : (f = .release ∧
        ((signerMachine O left).next ((signerMachine O left).after h) e).destroyed =
          ((signerMachine O left).after h).destroyed ++ pool.toList) ∨
      (f = .waste ∧ ((signerMachine O left).next ((signerMachine O left).after h) e).destroyed =
        ((signerMachine O left).after h).destroyed)) : Refines (h ++ [e]) := by
  cases pool with
  | none =>
    refine href.idle hm hpools hconnection ?_
    rcases hdestroyed with ⟨-, hdestroyed⟩ | ⟨-, hdestroyed⟩
    · rw [hdestroyed, Option.toList_none, List.append_nil]
    · exact hdestroyed
  | some q =>
    have hplace := (href.legal.held_iff e.tid q).mpr hhand
    have hm' : signerMove ((signerMachine O left).event h e) = f q := hm
    have hlegal : (f q).Legal (ledger signerMove h) (hand ((signerMachine O left).own e.tid h)) := by
      rcases hdestroyed with ⟨rfl, -⟩ | ⟨rfl, -⟩
      · exact .release hhand
      · exact .wasteHeld hhand
    refine href.concat hm' hlegal (fun p => ?_) (fun p => ?_) (fun p => ?_)
    · have hp := href.unborn p
      rw [hpools]
      rcases hdestroyed with ⟨rfl, -⟩ | ⟨rfl, -⟩ <;> simp only [Move.place] <;> grind
    · have hp := href.shared p
      rw [hconnection]
      rcases hdestroyed with ⟨rfl, -⟩ | ⟨rfl, -⟩ <;> simp only [Move.place] <;> grind
    · have hp := href.released p
      rcases hdestroyed with ⟨rfl, hdestroyed⟩ | ⟨rfl, hdestroyed⟩ <;> rw [hdestroyed] <;>
        simp only [Move.place, Option.toList_some, List.mem_append, List.mem_singleton] <;> grind

/-- A step keeps the ledger in line with the state. -/
theorem Refines.step (href : Refines h)
    (hwarrant : SignerWarrant O ((signerMachine O left).own e.tid h) e.op) : Refines (h ++ [e]) := by
  have hheld := href.legal.held_iff e.tid
  obtain ⟨tid, op, env⟩ := e
  cases op with
  | openConnection clientSecretKey pointer =>
    refine href.made hwarrant ?_ rfl (poolFor_connection _) (poolFor_destroyed _)
    show signerMove ⟨.openConnection clientSecretKey pointer, if env.bunkerMade then _ else _⟩ = _ ∨
      signerMove ⟨.openConnection clientSecretKey pointer, if env.bunkerMade then _ else _⟩ = _
    split
    · exact Or.inl rfl
    · exact Or.inr rfl
  | pair relays =>
    obtain ⟨hpools, hconnection, hdestroyed, hmove⟩ := pair_spec (O := O) relays env
      ((signerMachine O left).after h)
    exact href.made hwarrant hmove hpools (hconnection.trans (poolFor_connection _))
      (hdestroyed.trans (poolFor_destroyed _))
  | destroy pool => exact href.part hwarrant rfl rfl rfl (Or.inl ⟨rfl, rfl⟩)
  | fromBunker pairing pubkey =>
    cases hmade : env.bunkerMade with
    | true =>
      refine href.idle ?_ rfl rfl rfl
      simp [Machine.event, signerMachine, signerExec, hmade, signerMove]
    | false =>
      refine href.part hwarrant ?_ rfl rfl (Or.inr ⟨rfl, rfl⟩)
      simp [Machine.event, signerMachine, signerExec, hmade, signerMove]
  | setConnection connection =>
    have hplace : ∀ p, connection.pool = some p → ledger signerMove h p = .held tid :=
      fun p hp => (hheld p).mpr (hwarrant.trans hp)
    refine href.concat (m := .put connection.pool) rfl (.put hwarrant) (fun p => ?_) (fun p => ?_)
      (fun p => ?_)
    · have hp := href.unborn p
      have hp' := hplace p
      show _ ↔ ((signerMachine O left).after h).pools ≤ p
      simp only [Move.place]
      grind
    · show _ ↔ connection.pool = some p
      simp only [Move.place]
      grind
    · have hp := href.released p
      have hp' := hplace p
      show _ ↔ p ∈ ((signerMachine O left).after h).destroyed
      simp only [Move.place]
      grind
  | disconnect =>
    have hshared := href.shared
    refine href.concat (m := .take (((signerMachine O left).after h).connection.bind (·.pool))) rfl
      (.take hshared hwarrant) (fun p => ?_) (fun p => ?_)
      (fun p => ?_)
    · have hp := href.unborn p
      have hp' := hshared p
      show _ ↔ ((signerMachine O left).after h).pools ≤ p
      simp only [Move.place]
      grind
    · have hp' := hshared p
      refine iff_of_false ?_ (Option.some_ne_none p).symm
      simp only [Move.place]
      grind
    · have hp := href.released p
      have hp' := hshared p
      show _ ↔ p ∈ ((signerMachine O left).after h).destroyed
      simp only [Move.place]
      grind
  | _ => exact href.idle rfl rfl rfl rfl

/-- The ledger of a run. -/
theorem refines (hv : (nip46Signer O left).Valid h) : Refines h := by
  refine hv.rec_on ⟨fun _ _ ho => absurd ho not_occurs_nil, fun p => ?_, fun p => ?_, fun p => ?_⟩
    fun h e _ hv' ih => ih.step (hv'.of_occurs (signerBody_sat O) Occurs.last)
  · exact iff_of_true rfl (Nat.zero_le p)
  · exact iff_of_false nofun nofun
  · exact iff_of_false nofun List.not_mem_nil

/-! ## Every pool accounted for -/

/-- Every call has settled. -/
def Settled (c : (nip46Signer O left).Config) : Prop :=
  ∀ (tid : ℕ) (th : Thread SignerRes SignerCall SignerOutcome), c.threads[tid]? = some th →
    th.prog = .pure .resolved ∨ th.prog = .pure .rejected

/-- Whether a step drops a pool that the signer owns: something throws right after it has been made,
or a connection is set over the one that has it. -/
def drops (s : Signer) : Event SignerRes → Bool
  | ⟨.openConnection _ _, .thrown pool⟩ => pool.isSome
  | ⟨.pair _, .thrown pool⟩ => pool.isSome
  | ⟨.fromBunker pairing _, false⟩ => pairing.pool.isSome
  | ⟨.setConnection _, _⟩ => (s.connection.bind (·.pool)).isSome
  | _ => false

/-- The steps that drop a pool are those of the ledger. -/
theorem drops_iff {pre : List (Step (signerMachine O left))} (href : Refines pre) :
    Drops signerMove pre e ↔
      drops ((signerMachine O left).after pre) ((signerMachine O left).event pre e) = true := by
  unfold Drops
  have hshared : (∃ p, ledger signerMove pre p = .shared) ↔
      (((signerMachine O left).after pre).connection.bind (·.pool)).isSome = true := by
    rw [Option.isSome_iff_exists]
    exact exists_congr href.shared
  generalize (signerMachine O left).event pre e = ev
  obtain ⟨op, answer⟩ := ev
  cases op with
  | openConnection clientSecretKey pointer =>
    cases answer with
    | thrown pool => cases pool <;> simp [signerMove, drops, movePool]
    | made connection => cases hp : connection.pool <;> simp [signerMove, drops, movePool, hp]
  | pair relays =>
    cases answer with
    | thrown pool => cases pool <;> simp [signerMove, drops, movePool]
    | made pairing => cases hp : pairing.pool <;> simp [signerMove, drops, movePool, hp]
  | fromBunker pairing pubkey =>
    cases answer with
    | false => cases hp : pairing.pool <;> simp [signerMove, drops, movePool, hp]
    | true => simp [signerMove, drops]
  | setConnection connection => simp [signerMove, drops, hshared]
  | destroy pool => cases pool <;> simp [signerMove, drops, movePool]
  | _ => simp [signerMove, drops]

/-- A call that has settled has nothing in its hands, and the others have not begun. -/
theorem hand_of_settled {c : (nip46Signer O left).Config} (hr : (nip46Signer O left).Reachable c)
    (hsettled : Settled c) (tid : ℕ) : hand ((signerMachine O left).own tid c.history) = none := by
  by_cases hlt : tid < c.threads.length
  · have hth := List.getElem?_eq_getElem hlt
    have hsat := signerBody_sat O (c.threads[tid]).call
    rcases hsettled tid _ hth with hprog | hprog
    · exact (hr.sat hth hsat hprog).resolve_left nofun
    · exact (hr.sat hth hsat hprog).resolve_left nofun
  · have hown : (signerMachine O left).own tid c.history = [] :=
      System.own_eq_nil (S := nip46Signer O left)
        fun e he => lt_of_lt_of_le (hr.coherent.tid_lt e he) (Nat.le_of_not_lt hlt)
    rw [hown]
    rfl

/-- When no call has a pool in its hands, each is that of the connection or has been destroyed,
exactly when no step has dropped one. -/
theorem accounted_iff (hv : (nip46Signer O left).Valid h)
    (hempty : ∀ tid, hand ((signerMachine O left).own tid h) = none) :
    (∀ p < ((signerMachine O left).after h).pools,
      ((signerMachine O left).after h).connection.bind (·.pool) = some p ∨
        p ∈ ((signerMachine O left).after h).destroyed) ↔
      ∀ pre e, Occurs h pre e →
        drops ((signerMachine O left).after pre) ((signerMachine O left).event pre e) = false := by
  have href := refines hv
  have hlost : (∃ p, ledger signerMove h p = .lost) ↔ ∃ pre e, Occurs h pre e ∧
      drops ((signerMachine O left).after pre) ((signerMachine O left).event pre e) = true := by
    rw [href.legal.lost_iff]
    exact exists_congr fun pre => exists_congr fun e => and_congr_right fun ho =>
      drops_iff (refines (hv.restrict ho.before))
  constructor
  · intro haccounted pre e ho
    by_contra hdrops
    obtain ⟨p, hp⟩ := hlost.mpr ⟨pre, e, ho, Bool.of_not_eq_false hdrops⟩
    have hborn : p < ((signerMachine O left).after h).pools := by
      by_contra hle
      rw [(href.unborn p).mpr (Nat.le_of_not_lt hle)] at hp
      cases hp
    rcases haccounted p hborn with hcurrent | hdestroyed
    · rw [(href.shared p).mpr hcurrent] at hp
      cases hp
    · rw [(href.released p).mpr hdestroyed] at hp
      cases hp
  · intro hnone p hborn
    cases hplace : ledger signerMove h p with
    | unborn => exact absurd ((href.unborn p).mp hplace) (Nat.not_le_of_lt hborn)
    | held tid =>
      have hhand : hand ((signerMachine O left).own tid h) = some p :=
        (href.legal.held_iff tid p).mp hplace
      rw [hempty tid] at hhand
      cases hhand
    | shared => exact Or.inl ((href.shared p).mp hplace)
    | released => exact Or.inr ((href.released p).mp hplace)
    | lost =>
      obtain ⟨pre, e, ho, hdrops⟩ := hlost.mp ⟨p, hplace⟩
      rw [hnone pre e ho] at hdrops
      cases hdrops

/-- Once every call has settled, each pool that the signer has created is that of its connection or
has been destroyed, exactly when no step has dropped one. -/
theorem pools_accounted_iff {c : (nip46Signer O left).Config}
    (hr : (nip46Signer O left).Reachable c) (hsettled : Settled c) :
    (∀ p < c.state.pools, c.state.connection.bind (·.pool) = some p ∨ p ∈ c.state.destroyed) ↔
      ∀ pre e, Occurs c.history pre e →
        drops ((signerMachine O left).after pre) ((signerMachine O left).event pre e) = false := by
  rw [hr.coherent.state_eq]
  exact accounted_iff (System.Valid.of_reachable hr) (hand_of_settled hr hsettled)

end Runs

/-! ## Two calls at once -/

namespace SignerSample

/-- A pairing by a connection token, with or without a secret store. -/
def options (hasStore : Bool) : Nip46SignerOptions := ⟨some "bunker", [], hasStore, false⟩

/-- The remote signer answers, and everything works. -/
def env : SignerEnv where
  storeWorks := true
  readable := true
  decodable := true
  clientSecretKey := "key"
  secret := "secret"
  bunkerMade := true
  answer := some "ack"
  pointer := some ⟨"bunker", ["relay"], none⟩
  uri := none
  callbackReturns := true
  waited := none

/-- A signer with nothing left from an earlier visit. -/
abbrev system (hasStore : Bool) : System SignerRes SignerCall SignerOutcome :=
  nip46Signer (options hasStore) none

/-- The next operation of a call. -/
def goOn {hasStore : Bool} (tid : ℕ) : (system hasStore).Label := .run tid env

/-- Two calls of `connect` that both find no connection. -/
def overlapping : List (system false).Label :=
  [.start .connect, .start .connect, goOn 0, goOn 1] ++ List.replicate 4 (goOn 0) ++
    List.replicate 4 (goOn 1)

/-- Whether a call has settled. -/
def settled (th : Thread SignerRes SignerCall SignerOutcome) : Bool :=
  match th.prog with
  | .pure .resolved => true
  | .pure .rejected => true
  | _ => false

/-- Both calls have settled, and the pool of the first is neither that of the connection nor
destroyed. -/
def leaked (c : (system false).Config) : Bool :=
  c.threads.all settled && decide (0 < c.state.pools) &&
    decide (c.state.connection.bind (·.pool) ≠ some 0) && decide (0 ∉ c.state.destroyed)

/-- Calls that have settled. -/
theorem settled_of_all {hasStore : Bool} {c : (system hasStore).Config}
    (hall : c.threads.all settled = true) : Settled c := by
  intro tid th hth
  have hsettled := List.all_eq_true.mp hall th (List.mem_of_getElem? hth)
  unfold settled at hsettled
  split at hsettled
  · exact Or.inl ‹_›
  · exact Or.inr ‹_›
  · cases hsettled

/-- Such a run. -/
theorem exists_leaked : ∃ c : (system false).Config, (system false).Reachable c ∧ Settled c ∧
    0 < c.state.pools ∧ c.state.connection.bind (·.pool) ≠ some 0 ∧ 0 ∉ c.state.destroyed := by
  have hrun : (System.replay (system false).body (system false).initial overlapping).any leaked =
      true := by decide
  obtain ⟨c, hr, -, hp⟩ := System.exists_replay (fun _ _ => rfl) hrun
  simp only [leaked, Bool.and_eq_true, decide_eq_true_eq] at hp
  obtain ⟨⟨⟨hall, hborn⟩, hcurrent⟩, hdestroyed⟩ := hp
  exact ⟨c, hr, settled_of_all hall, hborn, hcurrent, hdestroyed⟩

/-- A `connect`, a `disconnect` and another `connect`, one after the other. -/
def reconnecting : List (system false).Label :=
  .start .connect :: List.replicate 5 (goOn 0) ++ .start .disconnect :: List.replicate 2 (goOn 1) ++
    .start .connect :: List.replicate 5 (goOn 2)

/-- Whether a step keeps every pool that the signer owns. -/
def keepsPools (pre : List (Step (signerMachine (options false) none)))
    (e : Step (signerMachine (options false) none)) : Bool :=
  !drops ((signerMachine (options false) none).after pre)
    ((signerMachine (options false) none).event pre e)

/-- The run of these calls. -/
theorem exists_reconnected : ∃ c : (system false).Config, (system false).Reachable c ∧ Settled c ∧
    c.state.pools = 2 ∧ System.checked keepsPools c.history = true := by
  have hrun : (System.replay (system false).body (system false).initial reconnecting).any
      (fun c => c.threads.all settled && decide (c.state.pools = 2) &&
        System.checked keepsPools c.history) = true := by
    decide
  obtain ⟨c, hr, -, hp⟩ := System.exists_replay (fun _ _ => rfl) hrun
  simp only [Bool.and_eq_true, decide_eq_true_eq] at hp
  exact ⟨c, hr, settled_of_all hp.1.1, hp.1.2, hp.2⟩

end SignerSample

/-- The signer is connected, disconnected and connected again: the first pool has been destroyed, and
the second one is that of the connection. -/
theorem pools_accounted_here : ∃ c : (SignerSample.system false).Config,
    (SignerSample.system false).Reachable c ∧ c.state.pools = 2 ∧
    ∀ p < c.state.pools, c.state.connection.bind (·.pool) = some p ∨ p ∈ c.state.destroyed := by
  obtain ⟨c, hr, hsettled, hpools, hchecked⟩ := SignerSample.exists_reconnected
  refine ⟨c, hr, hpools, (pools_accounted_iff hr hsettled).mpr fun pre e ho => ?_⟩
  exact (Bool.not_eq_true' _).mp (System.of_checked hchecked ho)

/-- Two calls of `connect` have settled, and a pool is left that nobody can destroy. -/
theorem pool_leaked : ¬ ∀ c : (SignerSample.system false).Config,
    (SignerSample.system false).Reachable c → Settled c →
    ∀ p < c.state.pools, c.state.connection.bind (·.pool) = some p ∨ p ∈ c.state.destroyed := by
  intro h
  obtain ⟨c, hr, hsettled, hborn, hcurrent, hdestroyed⟩ := SignerSample.exists_leaked
  rcases h c hr hsettled 0 hborn with h | h
  · exact hcurrent h
  · exact hdestroyed h

end NapAuth.Nip46

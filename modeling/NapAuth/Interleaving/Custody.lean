import NapAuth.Interleaving.System

/-!
# Resources in the custody of calls

Calls make resources, hand them to a shared place that holds one, take it from there, and release
them. A resource that is neither released nor within anyone's reach is lost. What an event does to
the resources is a `Move`. The `ledger` of a history says where every resource is, and `holding` what
a call has in its hands, by its own events alone.

When every move is legal for the call that makes it, the two agree (`LegalHistory.held_iff`), and a
resource is lost exactly by a step that drops one (`LegalHistory.lost_iff`). So once no call holds
anything, each resource is in the shared place or released exactly if no step has dropped one.
-/

namespace Interleaving

/-- Where a resource is. -/
inductive Place where
  | unborn
  /-- A call has it in its hands. -/
  | held (tid : ℕ)
  /-- It is in the shared place. -/
  | shared
  | released
  | lost
  deriving DecidableEq

/-- What an event does to the resources. -/
inductive Move where
  | idle
  /-- A new resource, in the hands of the call. -/
  | acquire (p : ℕ)
  /-- A resource that is new, or that the call has had, is dropped. -/
  | waste (p : ℕ)
  | release (p : ℕ)
  /-- The call puts what it has into the shared place, over what is there. -/
  | put (p : Option ℕ)
  /-- The call takes what is in the shared place. -/
  | take (p : Option ℕ)
  deriving DecidableEq

/-- Where the resource `p` is after a move of the call `tid`. -/
def Move.place (m : Move) (tid p : ℕ) (place : Place) : Place :=
  match m with
  | .idle => place
  | .acquire q => if q = p then .held tid else place
  | .waste q => if q = p then .lost else place
  | .release q => if q = p then .released else place
  | .put q => if q = some p then .shared else if place = .shared then .lost else place
  | .take q => if q = some p then .held tid else place

/-- What a call has in its hands after a move of its own. -/
def Move.holding (m : Move) (held : Option ℕ) : Option ℕ :=
  match m with
  | .idle => held
  | .acquire q => some q
  | .take q => q
  | _ => none

/-- A move is legal for a call: it makes new resources with empty hands, and parts with what it
has. -/
inductive Move.Legal (places : ℕ → Place) (held : Option ℕ) : Move → Prop where
  | idle : Move.Legal places held .idle
  | acquire {q : ℕ} (hnew : places q = .unborn) (hempty : held = none) :
    Move.Legal places held (.acquire q)
  | wasteNew {q : ℕ} (hnew : places q = .unborn) (hempty : held = none) :
    Move.Legal places held (.waste q)
  | wasteHeld {q : ℕ} (hheld : held = some q) : Move.Legal places held (.waste q)
  | release {q : ℕ} (hheld : held = some q) : Move.Legal places held (.release q)
  | put {q : Option ℕ} (hheld : held = q) : Move.Legal places held (.put q)
  | take {q : Option ℕ} (hshared : ∀ p, places p = .shared ↔ q = some p) (hempty : held = none) :
    Move.Legal places held (.take q)

section Ledger

variable {Op : Type} {Res : Op → Type} {M : Machine Res} (move : Event Res → Move)

/-- What a call has in its hands after its events. -/
def holding (xs : List (Event Res)) : Option ℕ := xs.foldl (fun held ev => (move ev).holding held) none

@[simp] theorem holding_nil : holding move [] = none := rfl

theorem holding_concat (xs : List (Event Res)) (ev : Event Res) :
    holding move (xs ++ [ev]) = (move ev).holding (holding move xs) := by
  simp [holding]

/-- Where every resource is after a history that starts in the state `s`. -/
def ledgerFrom : M.State → (ℕ → Place) → List (Step M) → ℕ → Place
  | _, places, [] => places
  | s, places, e :: h =>
    ledgerFrom (M.next s e)
      (fun p => (move ⟨e.op, (M.exec e.op e.env s).1⟩).place e.tid p (places p)) h

/-- Where every resource is after a history. -/
def ledger (h : List (Step M)) : ℕ → Place := ledgerFrom move M.init (fun _ => .unborn) h

@[simp] theorem ledger_nil (p : ℕ) : ledger (M := M) move [] p = .unborn := rfl

theorem ledgerFrom_concat (s : M.State) (places : ℕ → Place) (h : List (Step M)) (e : Step M)
    (p : ℕ) : ledgerFrom move s places (h ++ [e]) p =
      (move ⟨e.op, (M.exec e.op e.env (h.foldl M.next s)).1⟩).place e.tid p
        (ledgerFrom move s places h p) := by
  induction h generalizing s places with
  | nil => rfl
  | cons a h ih => simp only [List.cons_append, ledgerFrom, List.foldl_cons, ih]

/-- One step moves what its event moves. -/
theorem ledger_concat (h : List (Step M)) (e : Step M) (p : ℕ) :
    ledger move (h ++ [e]) p = (move (M.event h e)).place e.tid p (ledger move h p) :=
  ledgerFrom_concat move M.init _ h e p

/-- A history of legal moves. -/
def LegalHistory (h : List (Step M)) : Prop :=
  ∀ pre e, Occurs h pre e →
    (move (M.event pre e)).Legal (ledger move pre) (holding move (M.own e.tid pre))

/-- A step drops a resource: it wastes one, or puts something over it. -/
def Drops (pre : List (Step M)) (e : Step M) : Prop :=
  (∃ q, move (M.event pre e) = .waste q) ∨
    ∃ q p, move (M.event pre e) = .put q ∧ ledger move pre p = .shared

variable {move} {h : List (Step M)} {e : Step M}

/-- The moves before a step are legal. -/
theorem LegalHistory.init (hlegal : LegalHistory move (h ++ [e])) : LegalHistory move h :=
  fun pre e' ho => hlegal pre e' (ho.mono (List.prefix_append _ _))

/-- A resource is in the hands of a call by the ledger exactly when it is by the call's events. -/
theorem LegalHistory.held_iff (hlegal : LegalHistory move h) (tid p : ℕ) :
    ledger move h p = .held tid ↔ holding move (M.own tid h) = some p := by
  induction h using List.reverseRecOn generalizing tid p with
  | nil => simp
  | append_singleton h e ih =>
    have hold := ih hlegal.init
    have hstep := hlegal h e Occurs.last
    rw [ledger_concat]
    generalize hmove : move (M.event h e) = m at hstep
    by_cases htid : e.tid = tid
    · subst htid
      rw [M.own_concat_self, holding_concat, hmove]
      have hiff := hold e.tid p
      cases hstep <;> simp only [Move.place, Move.holding] <;> grind
    · rw [M.own_concat_ne h htid]
      have hiff := hold tid p
      have hother := hold e.tid p
      cases hstep <;> simp only [Move.place] <;> grind

/-- A legal move loses the resources that it drops, and keeps those that are lost. -/
theorem lost_step (hlegal : LegalHistory move (h ++ [e])) (p : ℕ) :
    ledger move (h ++ [e]) p = .lost ↔ ledger move h p = .lost ∨
      move (M.event h e) = .waste p ∨
      ∃ q, move (M.event h e) = .put q ∧ ledger move h p = .shared := by
  have hstep := hlegal h e Occurs.last
  have hheld := hlegal.init.held_iff e.tid
  rw [ledger_concat]
  generalize hmove : move (M.event h e) = m at hstep
  cases hstep with
  | idle => simp [Move.place]
  | acquire hnew hempty =>
    simp only [Move.place]
    grind
  | wasteNew hnew hempty =>
    simp only [Move.place]
    grind
  | wasteHeld hq =>
    simp only [Move.place]
    grind
  | release hq =>
    have hplace := (hheld _).mpr hq
    simp only [Move.place]
    grind
  | @put q hq =>
    -- what the call has in its hands is not what lies in the shared place
    have hplace : ∀ p, q = some p → ledger move h p = .held e.tid :=
      fun p hp => (hheld p).mpr (hq.trans hp)
    simp only [Move.place]
    grind
  | take hshared hempty =>
    have hplace := hshared p
    simp only [Move.place]
    grind

/-- Some resource is lost exactly when some step has dropped one. -/
theorem LegalHistory.lost_iff (hlegal : LegalHistory move h) :
    (∃ p, ledger move h p = .lost) ↔ ∃ pre e, Occurs h pre e ∧ Drops move pre e := by
  induction h using List.reverseRecOn with
  | nil => simp [not_occurs_nil]
  | append_singleton h e ih =>
    have hold := ih hlegal.init
    have hstep := lost_step hlegal
    constructor
    · rintro ⟨p, hp⟩
      rcases (hstep p).mp hp with hlost | hwaste | ⟨q, hput, hshared⟩
      · obtain ⟨pre, e', ho, hdrops⟩ := hold.mp ⟨p, hlost⟩
        exact ⟨pre, e', ho.mono (List.prefix_append _ _), hdrops⟩
      · exact ⟨h, e, Occurs.last, Or.inl ⟨p, hwaste⟩⟩
      · exact ⟨h, e, Occurs.last, Or.inr ⟨q, p, hput, hshared⟩⟩
    · rintro ⟨pre, e', ho, hdrops⟩
      rcases occurs_concat.mp ho with ⟨rfl, rfl⟩ | ho
      · rcases hdrops with ⟨q, hwaste⟩ | ⟨q, p, hput, hshared⟩
        · exact ⟨q, (hstep q).mpr (Or.inr (Or.inl hwaste))⟩
        · exact ⟨p, (hstep p).mpr (Or.inr (Or.inr ⟨q, hput, hshared⟩))⟩
      · obtain ⟨p, hp⟩ := hold.mpr ⟨pre, e', ho, hdrops⟩
        exact ⟨p, (hstep p).mpr (Or.inl hp)⟩

end Ledger

end Interleaving

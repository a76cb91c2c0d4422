import NapAuth.JsValue

/-!
# Waiting for a remote signer

`waitForNostrConnect` of `packages/nap-client-nip46/src/connection.ts`, as what its event handler and
its timer do to the variables that they share. Events may be delivered from inside `subscribe`,
before there is a handle to close or a timer, and after that in any order with the timeout.

Anyone can send an event that decrypts, so the handler believes nothing but the secret. The wait ends
with the signer of the first event that holds it, and else with a rejection at the timeout
(`Awaits`). It does so unless the reason that was recorded for the rejection cannot be made a text:
then the timer throws, after the subscription has been closed, and the promise stays pending for good
(`awaits_iff`).
-/

namespace Json

mutual

/-- Whether `String(v)` returns. A property `toString` of an object from a JSON text hides the method
and is no function, and `valueOf` gives the object back. An array is the texts of its entries, however
deep they are: the stack of the model has no end, and that of an engine has one. -/
def printable : Json → Bool
  | arr l => allPrintable l
  | obj fields => !(fields.any fun field => field.1 == "toString")
  | _ => true

/-- The same for every entry. -/
def allPrintable : List Json → Bool
  | [] => true
  | v :: l => printable v && allPrintable l

end

/-- Whether a value is truthy. -/
def truthy : Json → Bool
  | null => false
  | bool b => b
  | num n => n.val != .fin 0
  | str s => s != ""
  | _ => true

/-- A value that is not `null`. -/
def nonNull : Json → Option Json
  | null => none
  | v => some v

end Json

namespace NapAuth

/-- `Nip46ErrorCode`. -/
inductive Nip46ErrorCode where
  | invalidToken
  | unreachable
  | timeout
  | declined
  | secretMismatch
  | providerError
  deriving DecidableEq

/-- `Nip46Error`. -/
structure Nip46Error where
  code : Nip46ErrorCode
  /-- The value whose text is the message. -/
  message : Json

/-- `new Nip46Error(code, message)`. `none`: the message is no text, and it throws. -/
def newNip46Error (code : Nip46ErrorCode) (message : Json) : Option Nip46Error :=
  if message.printable then some ⟨code, message⟩ else none

/-! ## The wait -/

namespace NostrConnect

/-- `Event`, as far as the handler reads it. -/
structure RelayEvent where
  pubkey : String
  content : String
  deriving DecidableEq

/-- A call of `resolve` or `reject`. -/
inductive Settlement where
  | resolved (pubkey : String)
  | rejected (error : Nip46Error)

/-- The variables of `waitForNostrConnect`, and what it has done. -/
structure Waiting where
  sawWrongSecret : Bool
  /-- `none` is `null`. -/
  declineReason : Option Json
  settled : Bool
  /-- Whether the timer is armed. -/
  timer : Bool
  /-- Whether `subscription` is set. -/
  subscription : Bool
  /-- Whether the subscription has been closed. -/
  closed : Bool
  /-- The calls of `resolve` and `reject`. -/
  settlements : List Settlement
  /-- The URLs that `onAuthUrl` was called with. -/
  authUrls : List Json

/-- Before `subscribe`. -/
def Waiting.initial : Waiting := ⟨false, none, false, false, false, false, [], []⟩

/-- The timer is cleared, and a subscription that is known is closed. -/
def Waiting.close (w : Waiting) : Waiting :=
  { w with settled := true, timer := false, closed := w.closed || w.subscription }

/-- `settle`. -/
def settle (action : Waiting → Waiting) (w : Waiting) : Waiting :=
  if w.settled then w else action w.close

/-- `resolve(pubkey)`. -/
def resolve (pubkey : String) (w : Waiting) : Waiting :=
  { w with settlements := w.settlements ++ [.resolved pubkey] }

/-- The error of a pairing that has failed, by what was heard. -/
def timeoutError (w : Waiting) : Option Nip46Error :=
  match w.declineReason with
  | some reason => newNip46Error .declined reason
  | none =>
    if w.sawWrongSecret then newNip46Error .secretMismatch
      (.str "a signer answered the connection URI without the matching secret")
    else newNip46Error .timeout (.str "no signer answered the connection URI in time")

/-- `reject(..)`. When the error cannot be made, the timer throws. -/
def reject (w : Waiting) : Waiting :=
  match timeoutError w with
  | some error => { w with settlements := w.settlements ++ [.rejected error] }
  | none => w

section Handler

/- What `nip44` decrypts and `JSON.parse` reads, if neither throws. -/
variable (opened : RelayEvent → Option Json) (secret : String)

/-- `onevent`. What it throws is swallowed. -/
def onevent (w : Waiting) (event : RelayEvent) : Waiting :=
  match opened event with
  | none => w
  -- Reading a property of `null` throws.
  | some .null => w
  | some payload =>
    let result := payload.get? "result"
    let error := payload.get? "error"
    if result.bind Json.str? = some secret then settle (resolve event.pubkey) w
    else if result.bind Json.str? = some "auth_url" then
      { w with authUrls := w.authUrls ++ error.toList.filter Json.truthy }
    else if result.isNone && error.isSome then
      -- A reason that is `null` leaves the variable as it is.
      { w with declineReason := w.declineReason.or (error.bind Json.nonNull) }
    else { w with sawWrongSecret := true }

/-- `pool.subscribe(..)`, with the events that it delivers before it returns, and what follows it. -/
def subscribe (delivered : List RelayEvent) : Waiting :=
  let w := { delivered.foldl (onevent opened secret) Waiting.initial with subscription := true }
  if w.settled then { w with closed := true } else { w with timer := true }

/-- What happens later. -/
inductive Input where
  | event (event : RelayEvent)
  | timeout
  deriving DecidableEq

/-- One of them. A timer that is not armed does not fire. -/
def step (w : Waiting) : Input → Waiting
  | .event event => onevent opened secret w event
  | .timeout => if w.timer then settle reject { w with timer := false } else w

/-- A wait. -/
def run (delivered : List RelayEvent) (inputs : List Input) : Waiting :=
  inputs.foldl (step opened secret) (subscribe opened secret delivered)

/-! ## What it is for -/

/-- The signer that an event authenticates: the one that knows the secret. -/
def authenticates (event : RelayEvent) : Option String :=
  if ((opened event).bind (·.get? "result")).bind Json.str? = some secret then some event.pubkey
  else none

/-- The reason that an event gives for a refusal. -/
def declines (event : RelayEvent) : Option Json :=
  match opened event with
  | none => none
  | some payload =>
    if (payload.get? "result").isNone then (payload.get? "error").bind Json.nonNull else none

end Handler

/-- The event of an input. -/
def Input.event? : Input → Option RelayEvent
  | .event e => some e
  | .timeout => none

/-- The events before the timeout. -/
def arrivals (delivered : List RelayEvent) (inputs : List Input) : List RelayEvent :=
  delivered ++ (inputs.takeWhile (· ≠ .timeout)).filterMap Input.event?

/-- A wait ends with the signer of the first event that authenticates one, and else with a rejection
at the timeout. It ends once, and with the subscription closed. -/
structure Awaits (w : Waiting) (signer : Option String) (timedOut : Prop) : Prop where
  paired : ∀ pubkey, signer = some pubkey →
    w.settlements = [.resolved pubkey] ∧ w.closed = true
  failed : signer = none → timedOut → ∃ error, w.settlements = [.rejected error] ∧ w.closed = true
  waiting : signer = none → ¬ timedOut → w.settlements = [] ∧ w.closed = false

section Runs

variable {opened : RelayEvent → Option Json} {secret : String} {w : Waiting} {e : RelayEvent}

/-! ## One event -/

/-- What a wait has come to, apart from what it has heard. -/
structure Progress where
  settled : Bool
  timer : Bool
  subscription : Bool
  closed : Bool
  settlements : List Settlement

/-- The progress of a wait. -/
def Waiting.progress (w : Waiting) : Progress :=
  ⟨w.settled, w.timer, w.subscription, w.closed, w.settlements⟩

/-- The progress when the wait settles. -/
def Progress.settle (p : Progress) (settlements : List Settlement) : Progress :=
  ⟨true, false, p.subscription, p.closed || p.subscription, p.settlements ++ settlements⟩

/-- A wait that has settled goes no further. -/
theorem onevent_of_settled (h : w.settled = true) :
    (onevent opened secret w e).progress = w.progress := by
  unfold onevent
  split
  · rfl
  · rfl
  · dsimp only
    split_ifs
    · rw [settle, if_pos h]
    · rfl
    · rfl
    · rfl

/-- An event that authenticates a signer settles the wait. -/
theorem onevent_of_authenticates (h : w.settled = false) {pubkey : String}
    (hauth : authenticates opened secret e = some pubkey) :
    (onevent opened secret w e).progress = w.progress.settle [.resolved pubkey] := by
  unfold authenticates at hauth
  split_ifs at hauth with hresult
  obtain rfl := Option.some.inj hauth
  unfold onevent
  cases hopened : opened e with
  | none => simp [hopened] at hresult
  | some payload =>
    rw [hopened, Option.bind_some] at hresult
    cases payload with
    | null => simp [Json.get?] at hresult
    | _ =>
      dsimp only
      rw [if_pos hresult, settle, if_neg (by simp [h])]
      rfl

/-- Any other event at most leaves a reason. -/
theorem onevent_of_not_authenticates (hauth : authenticates opened secret e = none) :
    (onevent opened secret w e).progress = w.progress ∧
      (onevent opened secret w e).declineReason = w.declineReason.or (declines opened e) := by
  unfold authenticates at hauth
  split_ifs at hauth with hresult
  unfold onevent declines
  cases hopened : opened e with
  | none => simp
  | some payload =>
    rw [hopened, Option.bind_some] at hresult
    cases payload with
    | obj fields =>
      dsimp only
      rw [if_neg hresult]
      split_ifs with hurl hdecline hnone hnone <;> simp_all [Waiting.progress]
    | _ => simp [Json.get?, Waiting.progress]

/-! ## Several events -/

/-- Events before a signer is authenticated. -/
theorem foldl_waiting (events : List RelayEvent)
    (hauth : events.findSome? (authenticates opened secret) = none) :
    (events.foldl (onevent opened secret) w).progress = w.progress ∧
      (events.foldl (onevent opened secret) w).declineReason =
        w.declineReason.or (events.findSome? (declines opened)) := by
  induction events generalizing w with
  | nil => simp
  | cons e events ih =>
    rw [List.findSome?_eq_none_iff] at hauth
    obtain ⟨hprogress, hreason⟩ :=
      onevent_of_not_authenticates (w := w) (hauth e List.mem_cons_self)
    have hrest : events.findSome? (authenticates opened secret) = none :=
      List.findSome?_eq_none_iff.mpr fun e' he' => hauth e' (List.mem_cons_of_mem _ he')
    obtain ⟨hprogress', hreason'⟩ := ih (w := onevent opened secret w e) hrest
    refine ⟨hprogress'.trans hprogress, hreason'.trans ?_⟩
    rw [hreason, Option.or_assoc, List.findSome?_cons]
    cases declines opened e <;> rfl

/-- Events after the wait has settled. -/
theorem foldl_settled (events : List RelayEvent) (h : w.settled = true) :
    (events.foldl (onevent opened secret) w).progress = w.progress := by
  induction events generalizing w with
  | nil => rfl
  | cons e events ih =>
    have hstep : (onevent opened secret w e).progress = w.progress := onevent_of_settled h
    have hsettled : (onevent opened secret w e).settled = true :=
      (congrArg Progress.settled hstep).trans h
    exact (ih hsettled).trans hstep

/-- Events of which one authenticates a signer: the first that does settles the wait. -/
theorem foldl_paired (events : List RelayEvent) (h : w.settled = false) {pubkey : String}
    (hauth : events.findSome? (authenticates opened secret) = some pubkey) :
    (events.foldl (onevent opened secret) w).progress = w.progress.settle [.resolved pubkey] := by
  induction events generalizing w with
  | nil => simp at hauth
  | cons e events ih =>
    rw [List.findSome?_cons] at hauth
    cases he : authenticates opened secret e with
    | none =>
      rw [he] at hauth
      obtain ⟨hprogress, -⟩ := onevent_of_not_authenticates (w := w) he
      have hstill : (onevent opened secret w e).settled = false :=
        (congrArg Progress.settled hprogress).trans h
      rw [List.foldl_cons, ih hstill hauth, hprogress]
    | some pubkey' =>
      rw [he] at hauth
      obtain rfl := Option.some.inj hauth
      have hstep := onevent_of_authenticates h he
      have hsettled : (onevent opened secret w e).settled = true := congrArg Progress.settled hstep
      rw [List.foldl_cons, foldl_settled events hsettled, hstep]

/-! ## A whole wait -/

/-- The progress of a wait that has subscribed. -/
def Progress.waiting : Progress := ⟨false, true, true, false, []⟩

/-- The progress of a wait that has settled. -/
def Progress.ended (settlements : List Settlement) : Progress := ⟨true, false, true, true, settlements⟩

/-- What the events from inside `subscribe` lead to. -/
theorem subscribe_cases (delivered : List RelayEvent) :
    (∀ pubkey, delivered.findSome? (authenticates opened secret) = some pubkey →
      (subscribe opened secret delivered).progress = .ended [.resolved pubkey]) ∧
    (delivered.findSome? (authenticates opened secret) = none →
      (subscribe opened secret delivered).progress = .waiting ∧
        (subscribe opened secret delivered).declineReason =
          delivered.findSome? (declines opened)) := by
  constructor
  · intro pubkey hauth
    have hfold := foldl_paired (w := .initial) delivered rfl hauth
    generalize hw : delivered.foldl (onevent opened secret) .initial = w at hfold
    obtain ⟨hsettled, htimer, -, -, hsettlements⟩ := Progress.mk.inj hfold
    unfold subscribe
    rw [hw]
    dsimp only
    rw [if_pos hsettled]
    simp [Waiting.progress, Progress.ended, hsettled, htimer, hsettlements, Waiting.initial]
  · intro hauth
    obtain ⟨hfold, hreason⟩ := foldl_waiting (w := .initial) delivered hauth
    generalize hw : delivered.foldl (onevent opened secret) .initial = w at hfold hreason
    obtain ⟨hsettled, -, -, hclosed, hsettlements⟩ := Progress.mk.inj hfold
    have hpending : ¬ w.settled = true := by rw [hsettled]; exact Bool.false_ne_true
    unfold subscribe
    rw [hw]
    dsimp only
    rw [if_neg hpending]
    simp [Waiting.progress, Progress.waiting, hsettled, hclosed, hsettlements, hreason,
      Waiting.initial]

/-- After a wait has settled nothing more comes of it. -/
theorem foldl_step_ended (inputs : List Input) (h : w.settled = true) (htimer : w.timer = false) :
    (inputs.foldl (step opened secret) w).progress = w.progress := by
  induction inputs generalizing w with
  | nil => rfl
  | cons input inputs ih =>
    have hstep : (step opened secret w input).progress = w.progress := by
      cases input with
      | event e => exact onevent_of_settled h
      | timeout => rw [step, if_neg (by simp [htimer])]
    have hsettled := (congrArg Progress.settled hstep).trans h
    have htimer' := (congrArg Progress.timer hstep).trans htimer
    exact (ih hsettled htimer').trans hstep

/-- The error cannot be made exactly when the recorded reason is no text. -/
theorem timeoutError_eq_none_iff :
    timeoutError w = none ↔ ∃ reason, w.declineReason = some reason ∧ reason.printable = false := by
  unfold timeoutError newNip46Error
  cases w.declineReason with
  | none => cases w.sawWrongSecret <;> simp [Json.printable]
  | some reason => simp

/-- A rejection calls `reject` if it can make the error. -/
theorem reject_progress (w : Waiting) : (reject w).progress = ⟨w.settled, w.timer, w.subscription,
    w.closed, w.settlements ++ ((timeoutError w).map Settlement.rejected).toList⟩ := by
  unfold reject
  split
  · next error herror => simp [Waiting.progress, herror]
  · next herror => simp [Waiting.progress, herror]

/-- The timeout of a wait that has not settled. -/
theorem step_timeout (h : w.progress = .waiting) :
    (step opened secret w .timeout).progress =
      .ended ((timeoutError w).map Settlement.rejected).toList := by
  obtain ⟨hsettled, htimer, hsubscription, hclosed, hsettlements⟩ := Progress.mk.inj h
  have hpending : ¬ w.settled = true := by rw [hsettled]; exact Bool.false_ne_true
  have herror : timeoutError w.close = timeoutError w := rfl
  rw [step, if_pos htimer, settle, if_neg hpending]
  show (reject w.close).progress = _
  rw [reject_progress, herror]
  simp [Waiting.close, Progress.ended, hsubscription, hclosed, hsettlements]

/-- What the inputs after `subscribe` lead to. -/
theorem foldl_step_cases (inputs : List Input) (h : w.progress = .waiting) :
    let later := (inputs.takeWhile (· ≠ .timeout)).filterMap Input.event?
    let ends := inputs.foldl (step opened secret) w
    (∀ pubkey, later.findSome? (authenticates opened secret) = some pubkey →
      ends.progress = .ended [.resolved pubkey]) ∧
    (later.findSome? (authenticates opened secret) = none →
      (.timeout ∉ inputs → ends.progress = .waiting) ∧
      (.timeout ∈ inputs → ∃ w' : Waiting,
        w'.declineReason = w.declineReason.or (later.findSome? (declines opened)) ∧
        ends.progress = .ended ((timeoutError w').map Settlement.rejected).toList)) := by
  induction inputs generalizing w with
  | nil => simp [h]
  | cons input inputs ih =>
    cases input with
    | timeout =>
      refine ⟨by simp, fun _ => ⟨by simp, fun _ => ⟨w, by simp, ?_⟩⟩⟩
      have hstep : (step opened secret w .timeout).progress =
          .ended ((timeoutError w).map Settlement.rejected).toList := step_timeout h
      obtain ⟨hsettled, htimer, -, -, -⟩ := Progress.mk.inj hstep
      exact (foldl_step_ended inputs hsettled htimer).trans hstep
    | event e =>
      have hlater : ((Input.event e :: inputs).takeWhile (· ≠ .timeout)).filterMap Input.event? =
          e :: (inputs.takeWhile (· ≠ .timeout)).filterMap Input.event? := by
        rw [List.takeWhile_cons_of_pos (by simp)]
        rfl
      dsimp only
      rw [hlater, List.foldl_cons, List.findSome?_cons, List.findSome?_cons]
      cases he : authenticates opened secret e with
      | some pubkey =>
        refine ⟨?_, nofun⟩
        rintro _ ⟨⟩
        have hstep := onevent_of_authenticates (congrArg Progress.settled h) he
        obtain ⟨hsettled, htimer, -, -, -⟩ := Progress.mk.inj hstep
        exact (foldl_step_ended inputs hsettled htimer).trans (hstep.trans (by rw [h]; rfl))
      | none =>
        obtain ⟨hprogress, hreason⟩ := onevent_of_not_authenticates (w := w) he
        obtain ⟨hpaired, hunpaired⟩ := ih (w := onevent opened secret w e) (hprogress.trans h)
        refine ⟨hpaired, fun hnone => ?_⟩
        obtain ⟨hwaiting, hended⟩ := hunpaired hnone
        refine ⟨fun hmem => hwaiting (by simpa using hmem), fun hmem => ?_⟩
        obtain ⟨w', hw', hends⟩ := hended (by simpa using hmem)
        refine ⟨w', ?_, hends⟩
        rw [hw', hreason, Option.or_assoc]
        cases declines opened e <;> rfl

/-- A wait that is over before a signer is authenticated has settled once when the error of its
timeout can be made, and never else. -/
theorem ended_iff {error : Option Nip46Error} (h : w.progress = .ended (error.map .rejected).toList) :
    (∃ error, w.settlements = [.rejected error] ∧ w.closed = true) ↔ error ≠ none := by
  obtain ⟨-, -, -, hclosed, hsettlements⟩ := Progress.mk.inj h
  rw [hsettlements]
  cases error <;> simp [hclosed]

/-- A wait does what it is for exactly when some event authenticates a signer before the timeout, or
there is no timeout, or the first reason that was given for a refusal is a text. -/
theorem awaits_iff (opened : RelayEvent → Option Json) (secret : String)
    (delivered : List RelayEvent) (inputs : List Input) :
    let events := arrivals delivered inputs
    Awaits (run opened secret delivered inputs) (events.findSome? (authenticates opened secret))
        (.timeout ∈ inputs) ↔
      (events.findSome? (authenticates opened secret)).isSome = true ∨ .timeout ∉ inputs ∨
        ∀ reason, events.findSome? (declines opened) = some reason → reason.printable = true := by
  dsimp only
  obtain ⟨hearly, hopen⟩ := @subscribe_cases opened secret delivered
  rw [arrivals, List.findSome?_append, List.findSome?_append, run]
  cases hdelivered : delivered.findSome? (authenticates opened secret) with
  | some pubkey =>
    -- the wait has settled before `subscribe` returned
    obtain ⟨hsettled, htimer, -, -, -⟩ := Progress.mk.inj (hearly pubkey hdelivered)
    have hends : (inputs.foldl (step opened secret) (subscribe opened secret delivered)).progress =
        .ended [.resolved pubkey] :=
      (foldl_step_ended inputs hsettled htimer).trans (hearly pubkey hdelivered)
    obtain ⟨-, -, -, hclosed, hsettlements⟩ := Progress.mk.inj hends
    refine iff_of_true ⟨?_, nofun, nofun⟩ (Or.inl rfl)
    rintro _ ⟨⟩
    exact ⟨hsettlements, hclosed⟩
  | none =>
    obtain ⟨hwaiting, hreason⟩ := hopen hdelivered
    obtain ⟨hpaired, hunpaired⟩ := @foldl_step_cases opened secret _ inputs hwaiting
    rw [Option.none_or]
    cases hlater : ((inputs.takeWhile (· ≠ .timeout)).filterMap Input.event?).findSome?
      (authenticates opened secret) with
    | some pubkey =>
      obtain ⟨-, -, -, hclosed, hsettlements⟩ := Progress.mk.inj (hpaired pubkey hlater)
      refine iff_of_true ⟨?_, nofun, nofun⟩ (Or.inl rfl)
      rintro _ ⟨⟩
      exact ⟨hsettlements, hclosed⟩
    | none =>
      obtain ⟨hpending, hended⟩ := hunpaired hlater
      by_cases htimeout : Input.timeout ∈ inputs
      · -- the timer has fired, and the recorded reason decides
        obtain ⟨w', hw', hends⟩ := hended htimeout
        have herror := (ended_iff hends).trans (not_congr timeoutError_eq_none_iff)
        rw [hw', hreason] at herror
        constructor
        · intro hawaits
          refine Or.inr (Or.inr fun reason hdeclined => ?_)
          have hprints := herror.mp (hawaits.failed rfl htimeout)
          exact Bool.not_eq_false _ ▸ fun hnot => hprints ⟨reason, hdeclined, hnot⟩
        · intro hcondition
          refine ⟨nofun, fun _ _ => herror.mpr ?_, fun _ h => absurd htimeout h⟩
          rintro ⟨reason, hdeclined, hnot⟩
          obtain h | h | h := hcondition
          · exact absurd h Bool.false_ne_true
          · exact h htimeout
          · exact absurd (h reason hdeclined) (by rw [hnot]; exact Bool.false_ne_true)
      · obtain ⟨-, -, -, hclosed, hsettlements⟩ := Progress.mk.inj (hpending htimeout)
        refine iff_of_true ⟨nofun, fun _ h => absurd h htimeout, fun _ _ => ?_⟩
          (Or.inr (Or.inl htimeout))
        exact ⟨hsettlements, hclosed⟩

end Runs

namespace Sample

/-- An object that is no text, in the place of a reason. -/
def opened (e : RelayEvent) : Option Json :=
  if e.content = "stranger" then
    some (.obj [("error", .obj [("toString", .num (.ofInt 1))])])
  else none

/-- The only event is a stranger's. -/
def inputs : List Input := [.event ⟨"p", "stranger"⟩, .timeout]

end Sample

/-- A stranger's event keeps the promise pending after the timeout, with the subscription closed. -/
theorem stranger_hangs : ∃ opened secret delivered inputs,
    (arrivals delivered inputs).findSome? (authenticates opened secret) = none ∧
      .timeout ∈ inputs ∧ (run opened secret delivered inputs).settlements = [] ∧
      (run opened secret delivered inputs).closed = true ∧
      ¬ Awaits (run opened secret delivered inputs) none (.timeout ∈ inputs) := by
  refine ⟨Sample.opened, "s", [], Sample.inputs, rfl, by decide, rfl, rfl, fun hawaits => ?_⟩
  obtain ⟨error, hsettlements, -⟩ := hawaits.failed rfl (by decide)
  exact absurd hsettlements (List.cons_ne_nil _ _).symm

end NostrConnect

end NapAuth

import Mathlib.Data.List.ReduceOption
import NapAuth.JsMap
import NapAuth.Separated
import NapAuth.Sweep
import NapAuth.Types

/-!
# The in-memory rate limiter

`createInMemoryRateLimiter` of `packages/nap-server/src/rateLimit.ts`: a fixed window for each
identifier, where a principal is counted at the address it comes from when there is one. Expired
windows are pruned, at most once for each reading of the clock.

A check depends on the windows only through those that are live when it is made (`hit_eq`), and so
pruning has no effect on it.
-/

namespace NapAuth

/-- `InMemoryRateLimiterOptions`, as far as they are numbers. -/
structure InMemoryRateLimiterOptions where
  windowSeconds : Option ℤ
  maxPerWindow : Option ℤ

/-- `Window`. -/
structure Window where
  startedAt : ℤ
  count : ℤ
  deriving DecidableEq

/-- The state of the limiter. -/
structure MemoryRateLimiter where
  windows : JsMap Window
  lastPrunedAt : Option ℤ

/-- A scope, as it is written in an identifier. -/
def RateLimitScope.text : RateLimitScope → String
  | init => "init"
  | complete => "complete"
  | refresh => "refresh"

/-- The identifiers that a key is counted under. -/
def RateLimitKey.identifiers (key : RateLimitKey) : List String :=
  [ if truthyString key.npub then
      if truthyString key.clientIp then
        some (key.scope.text ++ ":npub:" ++ key.npub.getD "" ++ "@" ++ key.clientIp.getD "")
      else some (key.scope.text ++ ":npub:" ++ key.npub.getD "")
    else none,
    if truthyString key.pubkey then some (key.scope.text ++ ":pubkey:" ++ key.pubkey.getD "")
    else none,
    if truthyString key.clientIp then some (key.scope.text ++ ":ip:" ++ key.clientIp.getD "")
    else none ].reduceOption

/-! ## Identifiers -/

/-- The identifiers of a principal at an address. -/
theorem mem_identifiers {scope : RateLimitScope} {npub : Option String} {ip k : String}
    (hip : ip ≠ "") (hk : k ∈ (⟨scope, npub, none, some ip⟩ : RateLimitKey).identifiers) :
    (∃ n, k = scope.text ++ ":npub:" ++ n ++ "@" ++ ip) ∨ k = scope.text ++ ":ip:" ++ ip := by
  have htruthy : truthyString (some ip) = true := bne_iff_ne.mpr hip
  have hmem := List.reduceOption_mem_iff.mp hk
  rw [htruthy] at hmem
  rcases List.mem_cons.mp hmem with h | hmem
  · split at h
    · exact Or.inl ⟨_, Option.some.inj h⟩
    · cases h
  · rcases List.mem_cons.mp hmem with h | hmem
    · cases h
    · exact Or.inr (Option.some.inj (List.mem_singleton.mp hmem))

/-- No identifier is of two addresses, if there is no `@` in either. -/
theorem identifiers_disjoint {scope : RateLimitScope} {npub npub' : Option String} {ip ip' k : String}
    (hip : ip ≠ "") (hip' : ip' ≠ "") (hat : '@' ∉ ip.toList) (hat' : '@' ∉ ip'.toList)
    (hk : k ∈ (⟨scope, npub, none, some ip⟩ : RateLimitKey).identifiers)
    (hk' : k ∈ (⟨scope, npub', none, some ip'⟩ : RateLimitKey).identifiers) : ip = ip' := by
  -- What comes after the scope tells a principal's identifier from an address's.
  have htag : ∀ n s s' : String,
      scope.text ++ ":npub:" ++ n ++ "@" ++ s ≠ scope.text ++ ":ip:" ++ s' := by
    intro n s s' h
    have hchars := congrArg String.toList h
    simp only [String.toList_append, List.append_assoc, List.append_cancel_left_eq] at hchars
    simp at hchars
  rcases mem_identifiers hip hk with ⟨n, rfl⟩ | rfl
  · rcases mem_identifiers hip' hk' with ⟨n', h⟩ | h
    · have hchars := congrArg String.toList h
      simp only [String.toList_append, List.append_assoc, List.append_cancel_left_eq] at hchars
      exact String.toList_inj.mp (Separated.right_eq_of_separator hat hat' hchars)
    · exact absurd h (htag n ip ip')
  · rcases mem_identifiers hip' hk' with ⟨n', h⟩ | h
    · exact absurd h.symm (htag n' ip' ip)
    · have hchars := congrArg String.toList h
      simp only [String.toList_append, List.append_assoc, List.append_cancel_left_eq] at hchars
      exact String.toList_inj.mp hchars

namespace InMemoryRateLimiterOptions

variable (L : InMemoryRateLimiterOptions)

/-- The length of a window. -/
def window : ℤ := L.windowSeconds.getD 60

/-- The requests allowed for an identifier in a window. -/
def limit : ℤ := L.maxPerWindow.getD 30

/-- Whether a window has ended. -/
def ended (now : ℤ) (w : Window) : Bool := decide (now - w.startedAt ≥ L.window)

end InMemoryRateLimiterOptions

namespace MemoryRateLimiter

variable (L : InMemoryRateLimiterOptions)

/-- The limiter at first. -/
def init : MemoryRateLimiter := ⟨∅, none⟩

/-- `hit`. -/
def hit (identifier : String) (now : ℤ) (s : MemoryRateLimiter) :
    RateLimitDecision × MemoryRateLimiter :=
  let fresh := (⟨true, none⟩, { s with windows := s.windows.insert identifier ⟨now, 1⟩ })
  match s.windows.lookup identifier with
  | none => fresh
  | some existing =>
    if L.ended now existing then fresh
    else
      let counted : Window := { existing with count := existing.count + 1 }
      let s := { s with windows := s.windows.insert identifier counted }
      if counted.count > L.limit then
        (⟨false, some (max 1 (counted.startedAt + L.window - now))⟩, s)
      else (⟨true, none⟩, s)

/-- `prune`. -/
def prune (now : ℤ) (s : MemoryRateLimiter) : MemoryRateLimiter :=
  if s.lastPrunedAt.any (now ≤ ·) then s
  else { windows := s.windows.keep fun w => !L.ended now w, lastPrunedAt := some now }

/-- Every identifier is hit, and the last refusal is the decision. -/
def hitAll (now : ℤ) : List String → RateLimitDecision → MemoryRateLimiter →
    RateLimitDecision × MemoryRateLimiter
  | [], worst, s => (worst, s)
  | identifier :: identifiers, worst, s =>
    let (decision, s) := s.hit L identifier now
    hitAll now identifiers (if decision.allowed then worst else decision) s

/-- `check`. -/
def check (now : ℤ) (key : RateLimitKey) (s : MemoryRateLimiter) :
    RateLimitDecision × MemoryRateLimiter :=
  (s.prune L now).hitAll L now key.identifiers ⟨true, none⟩

/-! ## What a check depends on -/

/-- The window, if it is live. -/
def live (now : ℤ) (window : Option Window) : Option Window :=
  window.filter fun w => !L.ended now w

/-- The window after a hit. -/
def counted (now : ℤ) : Option Window → Window
  | none => ⟨now, 1⟩
  | some w => { w with count := w.count + 1 }

/-- The decision on a hit. -/
def verdict (now : ℤ) : Option Window → RateLimitDecision
  | none => ⟨true, none⟩
  | some w =>
    if w.count + 1 > L.limit then ⟨false, some (max 1 (w.startedAt + L.window - now))⟩
    else ⟨true, none⟩

variable {L}

/-- A hit depends on the window of its identifier, if that is live. -/
theorem hit_eq (identifier : String) (now : ℤ) (s : MemoryRateLimiter) :
    s.hit L identifier now = (verdict L now (live L now (s.windows.lookup identifier)),
      ⟨s.windows.insert identifier (counted now (live L now (s.windows.lookup identifier))),
        s.lastPrunedAt⟩) := by
  unfold hit
  cases hw : s.windows.lookup identifier with
  | none => rfl
  | some w =>
    cases hended : L.ended now w with
    | true =>
      have hlive : live L now (some w) = none := by simp [live, hended]
      rw [hlive]
      simp only [hended, if_true]
      rfl
    | false =>
      have hlive : live L now (some w) = some w := by simp [live, hended]
      rw [hlive]
      simp only [hended, Bool.false_eq_true, if_false, verdict, counted]
      split <;> rfl

/-- A window that has ended stays so. -/
theorem ended_mono {now later : ℤ} {w : Window} (hle : now ≤ later) (h : L.ended now w = true) :
    L.ended later w = true := by
  unfold InMemoryRateLimiterOptions.ended at h ⊢
  rw [decide_eq_true_eq] at h ⊢
  omega

/-- Dropping the windows that have ended makes no difference to what is live later. -/
theorem drops (k : String) : Sweep.Drops
    (fun now (windows : JsMap Window) => windows.keep fun w => !L.ended now w)
    (fun now windows => live L now (windows.lookup k)) where
  later windows hle := by
    unfold live
    rw [JsMap.lookup_keep, Option.filter_filter]
    congr 1
    funext w
    cases hended : L.ended _ w with
    | true => simp [ended_mono hle hended]
    | false => simp
  congr t' windows windows' h := by
    rw [JsMap.lookup_keep, JsMap.lookup_keep]
    exact congrArg (live L t') h

/-- Pruning is a sweep of the windows. -/
theorem prune_eq (now : ℤ) (s : MemoryRateLimiter) : s.prune L now =
    ⟨Sweep.sweep (fun now windows => windows.keep fun w => !L.ended now w) s.lastPrunedAt now s.windows,
      Sweep.attempt s.lastPrunedAt now⟩ := by
  unfold prune Sweep.sweep Sweep.attempt
  split <;> rfl

/-! ## Two limiters -/

/-- Two limiters agree on some identifiers, of which `alone` has not seen the checks of the others:
at any time after those, the same windows are live in both. -/
structure Agree (L : InMemoryRateLimiterOptions) (mine : String → Prop) (others : Set ℤ)
    (full alone : MemoryRateLimiter) : Prop where
  /-- The same windows are live. -/
  windows : ∀ t, Sweep.After others t → ∀ k, mine k →
    live L t (full.windows.lookup k) = live L t (alone.windows.lookup k)
  /-- Only the checks of the others have made a difference to when windows were pruned. -/
  behind : Sweep.Behind others full.lastPrunedAt alone.lastPrunedAt

variable {mine : String → Prop} {others : Set ℤ} {full alone : MemoryRateLimiter} {now : ℤ}

/-- They agree at first. -/
theorem Agree.start : Agree L mine ∅ init init := ⟨fun _ _ _ _ => rfl, Sweep.Behind.start⟩

/-- Pruning both keeps them in agreement. -/
theorem Agree.prune (h : Agree L mine others full alone) (now : ℤ) :
    Agree L mine others (full.prune L now) (alone.prune L now) := by
  rw [prune_eq, prune_eq]
  exact ⟨fun t ht k hk => (drops k).sweep h.behind (fun t ht => h.windows t ht k hk) now ht,
    h.behind.both now⟩

/-- So does a hit of one of the identifiers, and the decisions are the same. -/
theorem Agree.hit (h : Agree L mine others full alone) (hnow : Sweep.After others now) {k : String}
    (hk : mine k) : (full.hit L k now).1 = (alone.hit L k now).1 ∧
      Agree L mine others (full.hit L k now).2 (alone.hit L k now).2 := by
  have hlive := h.windows now hnow k hk
  rw [hit_eq, hit_eq, hlive]
  refine ⟨rfl, fun t ht k' hk' => ?_, h.behind⟩
  dsimp only
  rw [JsMap.lookup_insert_eq, JsMap.lookup_insert_eq]
  split
  · rfl
  · exact h.windows t ht k' hk'

/-- Hits, one after the other. -/
theorem hitAll_cons (identifier : String) (identifiers : List String) (worst : RateLimitDecision)
    (s : MemoryRateLimiter) : hitAll L now (identifier :: identifiers) worst s =
      hitAll L now identifiers (if (s.hit L identifier now).1.allowed then worst
        else (s.hit L identifier now).1) (s.hit L identifier now).2 := rfl

/-- So do hits of several. -/
theorem Agree.hitAll (h : Agree L mine others full alone) (hnow : Sweep.After others now)
    {identifiers : List String} (hmine : ∀ k ∈ identifiers, mine k) (worst : RateLimitDecision) :
    (hitAll L now identifiers worst full).1 = (hitAll L now identifiers worst alone).1 ∧
      Agree L mine others (hitAll L now identifiers worst full).2
        (hitAll L now identifiers worst alone).2 := by
  induction identifiers generalizing worst full alone with
  | nil => exact ⟨rfl, h⟩
  | cons k identifiers ih =>
    obtain ⟨hdecision, hagree⟩ := h.hit hnow (hmine k List.mem_cons_self)
    have hrest := ih hagree (fun k' hk' => hmine k' (List.mem_cons_of_mem k hk'))
      (if (full.hit L k now).1.allowed then worst else (full.hit L k now).1)
    rw [hitAll_cons, hitAll_cons, ← hdecision]
    exact hrest

/-- Hits leave alone what is remembered of pruning. -/
theorem hitAll_lastPrunedAt (identifiers : List String) (worst : RateLimitDecision)
    (s : MemoryRateLimiter) : (hitAll L now identifiers worst s).2.lastPrunedAt = s.lastPrunedAt := by
  induction identifiers generalizing worst s with
  | nil => rfl
  | cons k identifiers ih => rw [hitAll_cons, ih, hit_eq]

/-- Hits of other identifiers leave a window alone. -/
theorem hitAll_other {identifiers : List String} {k : String} (hother : k ∉ identifiers)
    (worst : RateLimitDecision) (s : MemoryRateLimiter) :
    (hitAll L now identifiers worst s).2.windows.lookup k = s.windows.lookup k := by
  induction identifiers generalizing worst s with
  | nil => rfl
  | cons k' identifiers ih =>
    rw [List.mem_cons, not_or] at hother
    rw [hitAll_cons, ih hother.2, hit_eq]
    dsimp only
    rw [JsMap.lookup_insert_eq, if_neg hother.1]

/-- A check of one of the identifiers is decided alike, after every check of the others. -/
theorem Agree.check (h : Agree L mine others full alone) (hnow : Sweep.After others now)
    {key : RateLimitKey} (hmine : ∀ k ∈ key.identifiers, mine k) :
    (full.check L now key).1 = (alone.check L now key).1 ∧
      Agree L mine others (full.check L now key).2 (alone.check L now key).2 :=
  (h.prune now).hitAll hnow hmine _

/-- A check of the others makes no difference but to the time. -/
theorem Agree.check_other (h : Agree L mine others full alone) {key : RateLimitKey}
    (hother : ∀ k ∈ key.identifiers, ¬ mine k) :
    Agree L mine (insert now others) (full.check L now key).2 alone := by
  refine ⟨fun t ht k hk => ?_, ?_⟩
  · obtain ⟨hafter, hle⟩ := ht.of_insert
    unfold MemoryRateLimiter.check
    rw [hitAll_other fun hmem => hother k hmem hk, prune_eq]
    exact ((drops k).sweep_later _ hle _).trans (h.windows t hafter k hk)
  · -- Every hit leaves what is remembered of pruning alone.
    have hlast : (full.check L now key).2.lastPrunedAt = Sweep.attempt full.lastPrunedAt now := by
      unfold MemoryRateLimiter.check
      rw [hitAll_lastPrunedAt, prune_eq]
    rw [hlast]
    exact h.behind.other now

end MemoryRateLimiter

end NapAuth

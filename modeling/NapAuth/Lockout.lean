import NapAuth.Client
import NapAuth.Interleaving.Separation
import NapAuth.Server.RateLimiter
import NapAuth.Store.Outstanding

/-!
# Addresses do not lock each other out

`issueChallenge` behind the in-memory rate limiter and over the in-memory challenge store. The
limiter's windows and the outstanding challenges are counted by address, so what one address gets
answered depends on its own calls alone: they determine the answers to its operations
(`determined`), and two runs with the same calls of it are alike for it (`init_separated`), whatever
the other addresses do.

This needs the clocks to be read in order. A check of another address prunes windows at its time, and
a challenge of another address sweeps challenges at its time. A window that has been pruned is missed
by a check that reads an earlier time (`init_interferes`).
-/

namespace NapAuth

open Interleaving

variable {P : Platform} {O : NapServerOptions} {L : InMemoryRateLimiterOptions} {sb : Backend}
  {address : String}

/-! ## Calls from an address -/

/-- A call of `issueChallenge` that carries a client IP without `@`. -/
def Addressed (call : Call) : Prop :=
  ∃ input ip, call = .issueChallenge input ∧ input.clientIp = some ip ∧ ip ≠ "" ∧ '@' ∉ ip.toList

/-- Whether a call comes from an address. -/
def fromAddress (address : String) : Call → Bool
  | .issueChallenge input => decide (input.clientIp = some address)
  | _ => false

/-- What `issueChallenge` does for a caller at an address, after what it has seen. -/
inductive IssueOp (ip : String) (xs : List (Event Res)) : Op → Prop
  | count (counter : NapCounter) : IssueOp ip xs (.count counter)
  | log (event : AuditEvent) : IssueOp ip xs (.log event)
  | check (npub : Option String) : IssueOp ip xs (.checkRateLimit ⟨.init, npub, none, some ip⟩)
  | countOutstanding (npub : Option String) (now : ℤ) (read : HasRead xs now) :
      IssueOp ip xs (.countOutstanding ⟨npub, some ip, now⟩)
  | create (draft : ChallengeDraft) (clientIp : draft.clientIp = some ip) :
      IssueOp ip xs (.challengeCreate draft)

/-- A refusal is logged. -/
theorem refuse_issueOp {ip : String} (code : NapErrorCode) (pubkey : Option String)
    (details : AuditDetails) (retryAfterSeconds : Option ℤ) (xs : List (Event Res)) :
    (refuse code pubkey details retryAfterSeconds).Sat (IssueOp ip)
      (fun _ _ => True) xs :=
  ⟨.log _, fun _ => trivial⟩

/-- So is a failure. -/
theorem fail_issueOp {ip : String} (code : NapErrorCode) (details : AuditDetails)
    (xs : List (Event Res)) :
    (fail code details).Sat (IssueOp ip) (fun _ _ => True) xs :=
  ⟨.log _, fun _ => trivial⟩

/-- A count is of the caller's address, at a time that has been read. -/
theorem countUnderCap_issueOp {ip : String} (applies : Bool) (npub : Option String) {now : ℤ}
    {xs : List (Event Res)} (hread : HasRead xs now) {Ψ : List (Event Res) → ℕ → Prop}
    (h : ∀ ys n, xs <+: ys → Ψ ys n) :
    (countUnderCap applies ⟨npub, some ip, now⟩).Sat (IssueOp ip) Ψ xs := by
  unfold countUnderCap
  split
  · exact ⟨.countOutstanding npub now hread, fun n => h _ n (List.prefix_append _ _)⟩
  · exact h _ _ List.prefix_rfl

/-- So are the counts under both caps. -/
theorem findExceededOutstandingCap_issueOp {ip : String} (hne : ip ≠ "") (npub : String) {now : ℤ}
    {xs : List (Event Res)} (hread : HasRead xs now) {Ψ : List (Event Res) → Option String → Prop}
    (h : ∀ ys cap, Ψ ys cap) :
    (findExceededOutstandingCap O npub (some ip) now).Sat (IssueOp ip) Ψ xs := by
  have htruthy : truthyString (some ip) = true := bne_iff_ne.mpr hne
  unfold findExceededOutstandingCap
  rw [if_pos htruthy]
  refine Prog.Sat.bind (countUnderCap_issueOp _ _ hread fun ys npubCount hp => ?_)
  have hread' : HasRead ys now := hread.imp fun ev h => ⟨hp.mem h.1, h.2⟩
  refine Prog.Sat.bind (countUnderCap_issueOp _ _ hread' fun zs ipCount _ => ?_)
  split_ifs <;> exact h _ _

/-- Everything that `issueChallenge` does is for the address of its caller. -/
theorem issueChallenge_issueOp {input : IssueChallengeInput} {ip : String}
    (hip : input.clientIp = some ip) (hne : ip ≠ "") :
    (issueChallenge P O input).Sat (IssueOp ip) (fun _ _ => True) [] := by
  unfold issueChallenge createChallenge
  rw [hip]
  cases resolveChallengeTtl O with
  | none => exact trivial
  | some ttl =>
  refine Prog.sat_op_bind.mpr ⟨.count _, fun _ => ?_⟩
  refine Prog.sat_op_bind.mpr ⟨.check _, fun (rateLimit, now) => ?_⟩
  dsimp only
  split
  · exact refuse_issueOp _ _ _ _ _
  cases decodeNpub P input.npub with
  | none => exact fail_issueOp _ _ _
  | some pubkey =>
  dsimp only
  split
  · exact fail_issueOp _ _ _
  have hread : HasRead (([] ++ [⟨.count .authInitTotal, ()⟩]) ++ [⟨.checkRateLimit ⟨.init,
      boundedNpub input.npub, none, some ip⟩, (rateLimit, now)⟩]) now :=
    ⟨_, List.mem_append_right _ List.mem_cons_self, rfl⟩
  refine Prog.Sat.bind (findExceededOutstandingCap_issueOp hne _ hread fun ys exceeded => ?_)
  cases exceeded with
  | some cap => exact refuse_issueOp _ _ _ _ _
  | none =>
    refine Prog.sat_op_bind.mpr ⟨.create _ rfl, fun created => ?_⟩
    cases created with
    | none => exact fail_issueOp _ _ _
    | some record => exact trivial

/-- What a step of a call does is for the address of the call. -/
theorem exists_issueOp (address : String) {c : (server P O .memory sb).Config}
    (hc : (server P O .memory sb).Reachable c) (haddressed : ∀ call ∈ c.calls, Addressed call)
    {pre : History .memory sb} {e : Step (machine .memory sb)} (ho : Occurs c.history pre e) :
    ∃ ip, IssueOp ip ((machine .memory sb).own e.tid pre) e.op ∧ ip ≠ "" ∧ '@' ∉ ip.toList ∧
      (c.member (fromAddress address) e.tid = true ↔ ip = address) := by
  obtain ⟨-, th, hth, -, k, hfol⟩ := hc.coherent.occurs pre e ho
  obtain ⟨input, ip, hcall, hip, hne, hat⟩ :=
    haddressed th.call (List.mem_map_of_mem (List.mem_of_getElem? hth))
  have hop : IssueOp ip ((machine .memory sb).own e.tid pre) e.op := by
    refine hc.sat_of_occurs (Φ := IssueOp ip) (Ψ := fun _ _ => True) ho hth ?_
    rw [hcall]
    exact issueChallenge_issueOp hip hne
  refine ⟨ip, hop, hne, hat, ?_⟩
  unfold System.Config.member
  rw [hth, Option.any_some, hcall]
  show decide (input.clientIp = some address) = true ↔ _
  rw [hip, decide_eq_true_eq, Option.some.injEq]

/-! ## Limiter, store and clocks -/

/-- What the clocks read in a step: the server's, and the one that the limiter or the store reads. -/
def Env.clocks (e : Env) : ℤ × ℤ := (e.now, e.storeNow)

/-- The operations of a history, with the clocks. -/
def operations (h : History .memory sb) : List (Op × ℤ × ℤ) := h.map fun e => (e.op, e.env.clocks)

/-- The limiter after one more operation. -/
def limiterStep (L : InMemoryRateLimiterOptions) (s : MemoryRateLimiter) :
    Op × ℤ × ℤ → MemoryRateLimiter
  | (.checkRateLimit key, _, storeNow) => (s.check L storeNow key).2
  | _ => s

/-- The limiter after some operations. -/
def limiterAfter (L : InMemoryRateLimiterOptions) (ops : List (Op × ℤ × ℤ)) : MemoryRateLimiter :=
  ops.foldl (limiterStep L) .init

/-- The challenges of an address after one more operation of it. -/
def challengesStep (s : AddressChallenges) : Op × ℤ × ℤ → AddressChallenges
  | (.challengeCreate draft, _, storeNow) => s.create storeNow draft
  | _ => s

/-- The challenges of an address after its operations. -/
def challengesAfter (ops : List (Op × ℤ × ℤ)) : AddressChallenges :=
  ops.foldl challengesStep .init

/-- The rate limiter of a history is the in-memory one. -/
def LimitedInMemory (L : InMemoryRateLimiterOptions) (h : History .memory sb) : Prop :=
  ∀ pre e key, Occurs h pre e → e.op = .checkRateLimit key →
    e.env.rateLimit = ((limiterAfter L (operations pre)).check L e.env.storeNow key).1

/-- Whether an operation is a check of the rate limiter. -/
def isCheck : Op → Bool
  | .checkRateLimit _ => true
  | _ => false

/-- Whether an operation creates a challenge. -/
def isCreate : Op → Bool
  | .challengeCreate _ => true
  | _ => false

/-- The times that the limiter or the store has read for operations of other addresses. -/
def othersRead (c : (server P O .memory sb).Config) (address : String) (p : Op → Bool)
    (h : History .memory sb) : Set ℤ :=
  {t | ∃ e ∈ h, c.member (fromAddress address) e.tid = false ∧ p e.op = true ∧ e.env.storeNow = t}

/-- The clocks are read in order, as far as it matters to an address: no other address has been
checked at a later time when it is checked, and none has created a challenge at a later time when its
challenges are counted. -/
structure InOrder (c : (server P O .memory sb).Config) (address : String) : Prop where
  /-- When the address is checked. -/
  check : ∀ pre e, Occurs c.history pre e → c.member (fromAddress address) e.tid = true →
    isCheck e.op = true → Sweep.After (othersRead c address isCheck pre) e.env.storeNow
  /-- When its challenges are counted. -/
  count : ∀ pre e filter, Occurs c.history pre e → c.member (fromAddress address) e.tid = true →
    e.op = .countOutstanding filter → Sweep.After (othersRead c address isCreate pre) filter.now

/-- The times that have been read after one more step. -/
theorem othersRead_concat {c : (server P O .memory sb).Config} {p : Op → Bool}
    {h : History .memory sb} {e : Step (machine .memory sb)} : othersRead c address p (h ++ [e]) =
      if c.member (fromAddress address) e.tid = false ∧ p e.op = true then
        insert e.env.storeNow (othersRead c address p h)
      else othersRead c address p h := by
  ext t
  unfold othersRead
  split
  · rename_i hother
    rw [Set.mem_insert_iff]
    constructor
    · rintro ⟨e', he', hrest⟩
      rcases List.mem_append.mp he' with he' | he'
      · exact Or.inr ⟨e', he', hrest⟩
      · obtain rfl := List.mem_singleton.mp he'
        exact Or.inl hrest.2.2.symm
    · rintro (rfl | ⟨e', he', hrest⟩)
      · exact ⟨e, by simp, hother.1, hother.2, rfl⟩
      · exact ⟨e', List.mem_append_left _ he', hrest⟩
  · rename_i hother
    constructor
    · rintro ⟨e', he', hrest⟩
      rcases List.mem_append.mp he' with he' | he'
      · exact ⟨e', he', hrest⟩
      · obtain rfl := List.mem_singleton.mp he'
        exact absurd ⟨hrest.1, hrest.2.1⟩ hother
    · rintro ⟨e', he', hrest⟩
      exact ⟨e', List.mem_append_left _ he', hrest⟩

/-- The clocks are read in order when there is one, which does not go back, and the calls run one
after the other. -/
theorem inOrder_of_sequential {c : (server P O .memory sb).Config}
    (hc : (server P O .memory sb).Reachable c) (haddressed : ∀ call ∈ c.calls, Addressed call)
    (hone : OneClock c.history) (hseq : c.history.Pairwise fun e e' => e.tid ≤ e'.tid) :
    InOrder c address := by
  have htid : ∀ {pre : History .memory sb} {e e' : Step (machine .memory sb)},
      Occurs c.history pre e → e' ∈ pre → e'.tid ≤ e.tid := fun ho he' =>
    (List.pairwise_append.mp (hseq.sublist ho.sublist)).2.2 _ he' _ (List.mem_singleton_self _)
  constructor
  · rintro pre e ho - - t ⟨e', he', -, -, rfl⟩
    rw [hone.same e' (ho.before.mem he'), hone.same e (ho.mem (by simp))]
    exact hone.le ho he'
  · rintro pre e filter ho hmem hop t ⟨e', he', hother, -, rfl⟩
    obtain ⟨ip, hissue, -⟩ := exists_issueOp address hc haddressed ho
    rw [hop] at hissue
    cases hissue with
    | countOutstanding npub now hread =>
      -- The time has been read in an earlier step of the same call, and `e'` is not after that.
      obtain ⟨pre₀, e₀, ho₀, htid₀, rfl⟩ := exists_occurs_of_hasRead hread
      obtain ⟨pre₁, ho₁⟩ := exists_occurs_of_mem he'
      rw [hone.same e' (ho.before.mem he')]
      have hne : e'.tid ≠ e.tid := fun heq => by rw [heq, hmem] at hother; cases hother
      rcases ho₀.trichotomy ho₁ with ⟨-, rfl⟩ | hlt | hlt
      · exact le_rfl
      · exact hone.le (ho₀.mono ho.before) (hlt.mem (by simp))
      · have hle := htid (ho₁.mono ho.before) (hlt.mem (by simp) : e₀ ∈ pre₁)
        have hle' := htid ho he'
        omega

/-! ## What an address's own operations determine -/

/-- The identifiers that an address is counted under. -/
def IdentifierOf (address k : String) : Prop :=
  ∃ npub, k ∈ (⟨.init, npub, none, some address⟩ : RateLimitKey).identifiers

/-- The operations of an address in a history. -/
def ownOperations (c : (server P O .memory sb).Config) (address : String) (h : History .memory sb) :
    List (Op × ℤ × ℤ) :=
  opsOf (c.trace (fromAddress address) Env.clocks h)

/-- The limiter and the store agree with what the operations of an address alone would make of
them. -/
structure Separated (L : InMemoryRateLimiterOptions) (c : (server P O .memory sb).Config)
    (address : String) (h : History .memory sb) : Prop where
  /-- The limiter. -/
  limiter : MemoryRateLimiter.Agree L (IdentifierOf address) (othersRead c address isCheck h)
    (limiterAfter L (operations h)) (limiterAfter L (ownOperations c address h))
  /-- The challenge store. -/
  challenges : MemoryChallenges.Agree address (othersRead c address isCreate h)
    ((machine .memory sb).after h).challenges (challengesAfter (ownOperations c address h))

section Steps

variable {c : (server P O .memory sb).Config} {h pre : History .memory sb}
  {e : Step (machine .memory sb)}

theorem operations_concat : operations (h ++ [e]) = operations h ++ [(e.op, e.env.clocks)] := by
  unfold operations
  rw [List.map_append]
  rfl

theorem limiterAfter_concat {ops : List (Op × ℤ × ℤ)} {o : Op × ℤ × ℤ} :
    limiterAfter L (ops ++ [o]) = limiterStep L (limiterAfter L ops) o := by
  unfold limiterAfter
  rw [List.foldl_append]
  rfl

theorem challengesAfter_concat {ops : List (Op × ℤ × ℤ)} {o : Op × ℤ × ℤ} :
    challengesAfter (ops ++ [o]) = challengesStep (challengesAfter ops) o := by
  unfold challengesAfter
  rw [List.foldl_append]
  rfl

theorem ownOperations_concat : ownOperations c address (h ++ [e]) = ownOperations c address h ++
    if c.member (fromAddress address) e.tid then [(e.op, e.env.clocks)] else [] := by
  unfold ownOperations
  rw [System.Config.trace_concat]
  unfold opsOf
  rw [List.map_append]
  congr 1
  split <;> rfl

/-- At first they agree. -/
theorem separated_nil : Separated L c address [] := by
  have hnone : ∀ p, othersRead c address p [] = ∅ := by
    intro p
    unfold othersRead
    simp
  constructor
  · rw [hnone]
    exact MemoryRateLimiter.Agree.start
  · rw [hnone]
    exact MemoryChallenges.Agree.start

/-- A step keeps the limiter in agreement. -/
theorem Separated.limiter_step (hs : Separated L c address h)
    (hc : (server P O .memory sb).Reachable c)
    (haddressed : ∀ call ∈ c.calls, Addressed call) (horder : InOrder c address)
    (haddress : address ≠ "" ∧ '@' ∉ address.toList) (ho : Occurs c.history h e) :
    MemoryRateLimiter.Agree L (IdentifierOf address)
      (othersRead c address isCheck (h ++ [e])) (limiterAfter L (operations (h ++ [e])))
      (limiterAfter L (ownOperations c address (h ++ [e]))) := by
  obtain ⟨ip, hop, hne, hat, hmember⟩ := exists_issueOp address hc haddressed ho
  have hcheck := horder.check h e ho
  rw [othersRead_concat, operations_concat, limiterAfter_concat, ownOperations_concat]
  obtain ⟨tid, op, env⟩ := e
  by_cases hmem : c.member (fromAddress address) tid = true
  · rw [if_pos hmem, limiterAfter_concat, if_neg fun h => by simp [hmem] at h]
    obtain rfl := hmember.mp hmem
    cases hop with
    | check npub =>
      exact (hs.limiter.check (hcheck hmem rfl) fun k hk => ⟨npub, hk⟩).2
    | _ => exact hs.limiter
  · rw [if_neg hmem, List.append_nil]
    cases hop with
    | check npub =>
      rw [if_pos ⟨Bool.eq_false_iff.mpr hmem, rfl⟩]
      refine hs.limiter.check_other fun k hk ⟨npub', hk'⟩ => ?_
      -- The identifiers of another address are not this one's.
      exact hmem (hmember.mpr
        (identifiers_disjoint hne haddress.1 hat haddress.2 hk hk'))
    | _ =>
      rw [if_neg fun h => by cases h.2]
      exact hs.limiter

/-- The challenge store after a challenge is created. -/
theorem challenges_create (s : (machine .memory sb).State) (tid : ℕ) (draft : ChallengeDraft)
    (env : Env) : ((machine .memory sb).next s ⟨tid, .challengeCreate draft, env⟩).challenges =
      (MemoryChallenges.create env.storeNow (challengeRecord draft env.draws) s.challenges).2 := rfl

/-- The challenge store after anything else that `issueChallenge` does. -/
theorem challenges_idle {ip : String} {xs : List (Event Res)} (s : (machine .memory sb).State)
    (hop : IssueOp ip xs e.op) (hcreate : isCreate e.op = false) :
    ((machine .memory sb).next s e).challenges = s.challenges := by
  obtain ⟨tid, op, env⟩ := e
  cases hop with
  | create => cases hcreate
  | _ => rfl

/-- A step keeps the store in agreement. -/
theorem Separated.challenges_step (hs : Separated L c address h)
    (hc : (server P O .memory sb).Reachable c) (haddressed : ∀ call ∈ c.calls, Addressed call)
    (ho : Occurs c.history h e) : MemoryChallenges.Agree address
      (othersRead c address isCreate (h ++ [e])) ((machine .memory sb).after (h ++ [e])).challenges
      (challengesAfter (ownOperations c address (h ++ [e]))) := by
  obtain ⟨ip, hop, hne, -, hmember⟩ := exists_issueOp address hc haddressed ho
  have hv : (server P O .memory sb).Valid (h ++ [e]) := System.Valid.restrict ⟨c, hc, rfl⟩ ho
  have hsound := sound_of_valid (hv.restrict (List.prefix_append h [e]))
  have hadm : admissible h e = true := hv.admissible Occurs.last
  rw [othersRead_concat, Machine.after_concat, ownOperations_concat]
  by_cases hcreate : isCreate e.op = true
  · obtain ⟨tid, op, env⟩ := e
    cases hop with
    | create draft hip =>
      have hunused : challengeAt h (challengeRecord draft env.draws).challengeId = none :=
        hsound.challenge_unused (e := ⟨tid, .challengeCreate draft, env⟩) rfl hadm
      rw [challenges_create]
      by_cases hmem : c.member (fromAddress address) tid = true
      · rw [if_pos hmem, challengesAfter_concat, if_neg fun h => by simp [hmem] at h]
        obtain rfl := hmember.mp hmem
        exact hs.challenges.create hunused hip hne
      · rw [if_neg hmem, List.append_nil, if_pos ⟨Bool.eq_false_iff.mpr hmem, rfl⟩]
        refine hs.challenges.create_other hunused ?_
        rw [hip]
        exact fun heq => hmem (hmember.mpr (Option.some.inj heq))
    | _ => cases hcreate
  · have hidle := challenges_idle ((machine .memory sb).after h) hop (Bool.eq_false_iff.mpr hcreate)
    rw [if_neg fun h => hcreate h.2, hidle]
    split
    · rw [challengesAfter_concat]
      obtain ⟨tid, op, env⟩ := e
      cases hop with
      | create => exact absurd rfl hcreate
      | _ => exact hs.challenges
    · rw [List.append_nil]
      exact hs.challenges

/-- They agree after every history of a run. -/
theorem separated (hc : (server P O .memory sb).Reachable c)
    (haddressed : ∀ call ∈ c.calls, Addressed call) (horder : InOrder c address)
    (haddress : address ≠ "" ∧ '@' ∉ address.toList) (hp : h <+: c.history) : Separated L c address h := by
  induction h using List.reverseRecOn with
  | nil => exact separated_nil
  | append_singleton h e ih =>
    have hs : Separated L c address h := ih ((List.prefix_append h [e]).trans hp)
    exact ⟨hs.limiter_step hc haddressed horder haddress hp,
       hs.challenges_step hc haddressed hp⟩

/-- The answer to an operation of an address is as its earlier operations determine it. What is
created is determined but for the draws. -/
def Answers (L : InMemoryRateLimiterOptions) (past : List (Op × ℤ × ℤ)) :
    (op : Op) → ℤ × ℤ → Res op → Prop
  | .checkRateLimit key, (now, storeNow), r =>
    r = (((limiterAfter L past).check L storeNow key).1, now)
  | .countOutstanding filter, _, r => r = (challengesAfter past).countOutstanding filter
  | .challengeCreate draft, _, r => ∃ random, r = some (challengeRecord draft random)
  | _, _, _ => True

/-- The operations of an address determine its answers. -/
theorem determined (hc : (server P O .memory sb).Reachable c)
    (haddressed : ∀ call ∈ c.calls, Addressed call) (hlimiter : LimitedInMemory L c.history)
    (horder : InOrder c address) (haddress : address ≠ "" ∧ '@' ∉ address.toList) :
    Determined (Answers L) (c.trace (fromAddress address) Env.clocks c.history) := by
  intro pre s hs
  obtain ⟨pre', e, ho, hmem, rfl, rfl⟩ := System.Config.occurs_of_trace hs
  obtain ⟨ip, hop, -, -, hmember⟩ := exists_issueOp address hc haddressed ho
  obtain rfl := hmember.mp hmem
  have hsep : Separated L c ip pre' := separated hc haddressed horder haddress ho.before
  have hlimited := hlimiter pre' e
  have hcheck := horder.check pre' e ho hmem
  have hcount := horder.count pre' e
  obtain ⟨tid, op, env⟩ := e
  cases hop with
  | check npub =>
    show (env.rateLimit, env.now) = _
    rw [hlimited _ ho rfl]
    have hkeyed : ∀ k ∈ (⟨.init, npub, none, some ip⟩ : RateLimitKey).identifiers,
        IdentifierOf ip k := fun k hk => ⟨npub, hk⟩
    have hsame := (hsep.limiter.check (hcheck rfl) hkeyed).1
    exact congrArg (·, env.now) hsame
  | countOutstanding npub now _ =>
    exact hsep.challenges.countOutstanding rfl (hcount _ ho hmem rfl)
  | create draft hip => exact ⟨env.draws, rfl⟩
  | count counter => exact trivial
  | log event => exact trivial

end Steps

/-! ## Calls that are alike -/

/-- Answers that `issueChallenge` does not tell apart, but for what has been drawn. -/
def SameAnswer : (op : Op) → Res op → Res op → Prop
  | .challengeCreate draft, r, r' => ∃ random random',
      r = some (challengeRecord draft random) ∧ r' = some (challengeRecord draft random')
  | .checkRateLimit _, r, r' => r = r'
  | .countOutstanding _, r, r' => r = r'
  | _, _, _ => True

/-- What is determined is the same, but for what has been drawn. -/
theorem sameAnswer_of_answers (past : List (Op × ℤ × ℤ)) (op : Op) (t : ℤ × ℤ) (r r' : Res op)
    (h : Answers L past op t r) (h' : Answers L past op t r') : SameAnswer op r r' := by
  cases op with
  | checkRateLimit key => exact h.trans h'.symm
  | countOutstanding filter => exact h.trans h'.symm
  | challengeCreate draft =>
    obtain ⟨random, hr⟩ := h
    obtain ⟨random', hr'⟩ := h'
    exact ⟨random, random', hr, hr'⟩
  | _ => exact trivial

/-- An outcome without what has been drawn. -/
def Outcome.undrawn : Outcome → Outcome
  | .issued response => .issued { response with challengeId := "", challenge := "" }
  | outcome => outcome

/-- Challenges of one draft are answered with alike. -/
theorem undrawn_issued (draft : ChallengeDraft) (random random' : Draws) :
    (Outcome.issued (authInitResponse O (challengeRecord draft random))).undrawn =
      (Outcome.issued (authInitResponse O (challengeRecord draft random'))).undrawn := by
  unfold Outcome.undrawn authInitResponse challengeRecord
  dsimp only

/-- Programs of outcomes that are the same but for what has been drawn. -/
abbrev OutcomeAlike : Program Outcome → Program Outcome → Prop :=
  Prog.Alike SameAnswer fun o o' => o.undrawn = o'.undrawn

/-- A program that logs and returns is like itself. -/
theorem log_alike (event : AuditEvent) (outcome : Outcome) :
    OutcomeAlike (perform (.log event) >>= fun _ => return outcome)
      (perform (.log event) >>= fun _ => return outcome) :=
  Prog.Alike.op_bind fun _ _ _ => .pure rfl

/-- So is a count. -/
theorem countUnderCap_alike (applies : Bool) (filter : OutstandingChallengeFilter) :
    (countUnderCap applies filter).Alike SameAnswer Eq (countUnderCap applies filter) := by
  unfold countUnderCap
  split
  · exact .call fun r r' h => .pure h
  · exact .pure rfl

/-- So are the counts under both caps. -/
theorem findExceededOutstandingCap_alike (npub : String) (clientIp : Option String) (now : ℤ) :
    (findExceededOutstandingCap O npub clientIp now).Alike SameAnswer Eq
      (findExceededOutstandingCap O npub clientIp now) := by
  unfold findExceededOutstandingCap
  refine (countUnderCap_alike _ _).bind fun npubCount _ h => ?_
  subst h
  refine (countUnderCap_alike _ _).bind fun ipCount _ h => ?_
  subst h
  split_ifs <;> exact .pure rfl

/-- So is `issueChallenge`. -/
theorem issueChallenge_alike (input : IssueChallengeInput) :
    OutcomeAlike (issueChallenge P O input) (issueChallenge P O input) := by
  unfold issueChallenge createChallenge
  cases resolveChallengeTtl O with
  | none => exact .pure rfl
  | some ttl =>
  refine Prog.Alike.op_bind fun _ _ _ => ?_
  refine Prog.Alike.op_bind fun (rateLimit, now) _ h => ?_
  obtain rfl := h
  dsimp only
  split
  · exact log_alike _ _
  cases decodeNpub P input.npub with
  | none => exact log_alike _ _
  | some pubkey =>
  dsimp only
  split
  · exact log_alike _ _
  refine (findExceededOutstandingCap_alike _ _ _).bind fun exceeded _ h => ?_
  subst h
  cases exceeded with
  | some cap => exact log_alike _ _
  | none =>
    refine Prog.Alike.op_bind fun created created' h => ?_
    obtain ⟨random, random', rfl, rfl⟩ := h
    exact .pure (undrawn_issued _ random random')

/-- A program that is like one that has returned has returned as well. -/
theorem outcome_of_alike {outcome : Outcome} {p : Program Outcome}
    (h : OutcomeAlike (.pure outcome) p) :
    ∃ outcome', p = .pure outcome' ∧ outcome.undrawn = outcome'.undrawn := by
  cases h with
  | pure h => exact ⟨_, rfl, h⟩

/-- The calls of an address are calls of `issueChallenge`. -/
theorem body_alike {call : Call} (h : fromAddress address call = true) :
    OutcomeAlike (body P O call) (body P O call) := by
  cases call with
  | issueChallenge input => exact issueChallenge_alike input
  | _ => cases h

/-- An address that makes a call has no `@`. -/
theorem address_of_mem {c : (server P O .memory sb).Config}
    (haddressed : ∀ call ∈ c.calls, Addressed call) {th : Thread Res Call Outcome}
    (hth : th ∈ c.group (fromAddress address)) : address ≠ "" ∧ '@' ∉ address.toList := by
  obtain ⟨hmem, hmine⟩ := List.mem_filter.mp hth
  obtain ⟨input, ip, hcall, hip, hne, hat⟩ := haddressed th.call (List.mem_map_of_mem hmem)
  rw [hcall] at hmine
  have heq : input.clientIp = some address := of_decide_eq_true hmine
  obtain rfl : ip = address := Option.some.inj (hip.symm.trans heq)
  exact ⟨hne, hat⟩

/-! ## No lockout -/

/-- Two runs of `issueChallenge` calls, each from an address, behind the in-memory rate limiter and
over the in-memory store. If one address makes the same calls in both, which get the same turns at
the same times, and the clocks are read in order as far as it matters to the address, then each of
its calls has the same outcome in both, but for what has been drawn. -/
theorem init_separated {c c' : (server P O .memory sb).Config}
    (hc : (server P O .memory sb).Reachable c) (hc' : (server P O .memory sb).Reachable c')
    (haddressed : ∀ call ∈ c.calls, Addressed call) (haddressed' : ∀ call ∈ c'.calls, Addressed call)
    (hlimiter : LimitedInMemory L c.history) (hlimiter' : LimitedInMemory L c'.history)
    (horder : InOrder c address) (horder' : InOrder c' address)
    (halive : ∀ th ∈ c.group (fromAddress address), th.prog ≠ .pure .aborted)
    (halive' : ∀ th ∈ c'.group (fromAddress address), th.prog ≠ .pure .aborted)
    (hcalls : (c.group (fromAddress address)).map Thread.call =
      (c'.group (fromAddress address)).map Thread.call)
    {turns : List (ℕ × ℤ × ℤ)} (hturns : c.Turns (fromAddress address) Env.clocks turns)
    (hturns' : c'.Turns (fromAddress address) Env.clocks turns) :
    List.Forall₂ (fun th th' => th.call = th'.call ∧ ∀ outcome, th.prog = .pure outcome →
        ∃ outcome', th'.prog = .pure outcome' ∧ outcome.undrawn = outcome'.undrawn)
      (c.group (fromAddress address)) (c'.group (fromAddress address)) := by
  rcases List.eq_nil_or_concat (c.group (fromAddress address)) with hnil | ⟨ths, th, hlast⟩
  · rw [hnil, List.map_nil] at hcalls
    rw [hnil, List.map_eq_nil_iff.mp hcalls.symm]
    exact List.Forall₂.nil
  · have hth : th ∈ c.group (fromAddress address) := by rw [hlast]; simp
    have haddress : address ≠ "" ∧ '@' ∉ address.toList := address_of_mem haddressed hth
    have halike := System.group_alike hc hc'
      (fun call hcall => body_alike hcall) sameAnswer_of_answers
      (determined hc haddressed hlimiter horder haddress)
      (determined hc' haddressed' hlimiter' horder' haddress) halive halive' hcalls hturns hturns'
    exact halike.imp fun th th' ⟨hcall, hprog⟩ => ⟨hcall, fun outcome hout =>
      outcome_of_alike (hout ▸ hprog)⟩

/-- Whether every check of a history was answered as the in-memory rate limiter answers it. -/
def limitedInMemory (L : InMemoryRateLimiterOptions) (h : History .memory sb) : Bool :=
  (List.range h.length).all fun i => h[i]?.all fun e =>
    match e.op with
    | .checkRateLimit key => decide
        (e.env.rateLimit = ((limiterAfter L (operations (h.take i))).check L e.env.storeNow key).1)
    | _ => true

/-- What has been computed of a history's limiter. -/
theorem LimitedInMemory.of_computed {h : History .memory sb} (hcheck : limitedInMemory L h = true) :
    LimitedInMemory L h := by
  intro pre e key ho hop
  have hget := ho.getElem?
  have hlt : pre.length < h.length := (List.getElem?_eq_some_iff.mp hget).1
  have hstep := List.all_eq_true.mp hcheck pre.length (List.mem_range.mpr hlt)
  have htake : h.take pre.length = pre := (List.prefix_iff_eq_take.mp ho.before).symm
  rw [hget, htake, Option.all_some, hop] at hstep
  exact of_decide_eq_true hstep

/-- What a call has returned. -/
def outcomeOf (th : Thread Res Call Outcome) : Option Outcome :=
  match th.prog with
  | .pure outcome => some outcome
  | .call _ _ => none

/-- A call that has returned. -/
theorem prog_of_outcomeOf {th : Thread Res Call Outcome} {outcome : Outcome}
    (h : outcomeOf th = some outcome) : th.prog = .pure outcome := by
  unfold outcomeOf at h
  split at h
  · rename_i outcome' hprog
    rw [hprog, Option.some.inj h]
  · cases h

namespace Sample

/-- A limiter that allows one request in a minute. -/
def oneRequest : InMemoryRateLimiterOptions := ⟨none, some 1⟩

/-- The address of a caller. -/
def home : String := "192.0.2.1"

/-- The address of a stranger. -/
def abroad : String := "198.51.100.7"

/-- The requests of one principal for a challenge. -/
abbrev initServer : System Res Call Outcome := server platform options .memory .memory

/-- A request that gets a challenge. -/
def granted (ip : String) (tid : ℕ) (now : ℤ) : List initServer.Label :=
  turn (issue (some ip)) tid 5 (env now tid)

/-- A request that is refused. -/
def refused (ip : String) (tid : ℕ) (now retryAfterSeconds : ℤ) : List initServer.Label :=
  turn (issue (some ip)) tid 3 { env now tid with rateLimit := ⟨false, some retryAfterSeconds⟩ }

/-- A refusal that says when to try again. -/
def refusal (retryAfterSeconds : ℤ) : Outcome :=
  .failed { failure .initRateLimited with retryAfterSeconds := some retryAfterSeconds }

/-- The turns of two requests from home, the first at one time and the second at another. -/
def turns (n : ℕ) : List (ℕ × ℤ × ℤ) :=
  List.replicate 5 (0, 1000, 1000) ++ List.replicate n (1, 1010, 1010)

/-- What is computed of a run: its limiter, the turns of the requests from home, and what the second
of them has returned. -/
def initRun (n : ℕ) (second : Option Outcome → Bool) (c : initServer.Config) : Bool :=
  limitedInMemory oneRequest c.history &&
    decide (scheduleOf (c.trace (fromAddress home) Env.clocks c.history) = turns n) &&
    (c.group (fromAddress home)).all (fun th => decide (outcomeOf th ≠ some .aborted)) &&
    second ((c.group (fromAddress home))[1]?.bind outcomeOf)

/-- Whether a challenge was issued. -/
def gotChallenge : Option Outcome → Bool
  | some (.issued _) => true
  | _ => false

/-- A run with the requests that it starts. -/
structure InitRun (n : ℕ) (second : Option Outcome → Bool) (ips : List String)
    (c : initServer.Config) : Prop where
  reachable : initServer.Reachable c
  calls : c.calls = ips.map fun ip => issue (some ip)
  limited : LimitedInMemory oneRequest c.history
  turns : c.Turns (fromAddress home) Env.clocks (turns n)
  alive : ∀ th ∈ c.group (fromAddress home), th.prog ≠ .pure .aborted
  second : second ((c.group (fromAddress home))[1]?.bind outcomeOf) = true

/-- A run that has been computed. -/
theorem exists_initRun (n : ℕ) (second : Option Outcome → Bool) (ips : List String)
    (ls : List initServer.Label) (q : initServer.Config → Bool)
    (hstarts : System.starts ls = ips.map fun ip => issue (some ip))
    (h : (System.replay (program options) initServer.initial ls).any
      (fun c => initRun n second c && q c) = true) :
    ∃ c, InitRun n second ips c ∧ q c = true := by
  have hcomputed : ∀ call ∈ ips.map fun ip => issue (some ip), Computed options call := by
    intro call hcall
    obtain ⟨ip, -, rfl⟩ := List.mem_map.mp hcall
    rfl
  obtain ⟨c, hc, hcalls, hp⟩ := exists_run ls _ _ hstarts hcomputed h
  simp only [initRun, Bool.and_eq_true, decide_eq_true_eq] at hp
  obtain ⟨⟨⟨⟨hlimited, hschedule⟩, halive⟩, hsecond⟩, hq⟩ := hp
  refine ⟨c, ⟨hc, hcalls, .of_computed hlimited, ?_, fun th hth hdead => ?_, hsecond⟩, hq⟩
  · rw [← hschedule]
    exact Turns.of_schedule _
  · have hnot := of_decide_eq_true (List.all_eq_true.mp halive th hth)
    rw [outcomeOf, hdead] at hnot
    exact hnot rfl

/-- Requests from addresses are addressed. -/
theorem addressed_issue {ips : List String} (hips : ∀ ip ∈ ips, ip = home ∨ ip = abroad) :
    ∀ call ∈ ips.map fun ip => issue (some ip), Addressed call := by
  intro call hcall
  obtain ⟨ip, hip, rfl⟩ := List.mem_map.mp hcall
  refine ⟨_, ip, rfl, rfl, ?_⟩
  rcases hips ip hip with rfl | rfl
  · exact ⟨by decide, by decide⟩
  · exact ⟨by decide, by decide⟩

/-- The requests from home among those of a run. -/
theorem InitRun.group_calls {n : ℕ} {second : Option Outcome → Bool} {ips : List String}
    {c : initServer.Config} (h : InitRun n second ips c) :
    (c.group (fromAddress home)).map Thread.call =
      (ips.filter fun ip => ip = home).map fun ip => issue (some ip) := by
  rw [System.Config.group_calls, h.calls, List.filter_map]
  congr 2
  funext ip
  exact decide_eq_decide.mpr Option.some_inj

/-- Whether there is one clock, which does not go back, and the requests run one after the other. -/
def sequential (c : initServer.Config) : Bool :=
  decide (∀ e ∈ c.history, e.env.storeNow = e.env.now) &&
    decide (c.history.Pairwise fun e e' => e.env.now ≤ e'.env.now) &&
    decide (c.history.Pairwise fun e e' => e.tid ≤ e'.tid)

/-- Then the clocks are read in order. -/
theorem InitRun.inOrder {n : ℕ} {second : Option Outcome → Bool} {ips : List String}
    {c : initServer.Config} (h : InitRun n second ips c)
    (hips : ∀ ip ∈ ips, ip = home ∨ ip = abroad) (hseq : sequential c = true) : InOrder c home := by
  simp only [sequential, Bool.and_eq_true, decide_eq_true_eq] at hseq
  obtain ⟨⟨hsame, hmono⟩, htids⟩ := hseq
  exact inOrder_of_sequential h.reachable (h.calls ▸ addressed_issue hips) ⟨hsame, hmono⟩ htids

end Sample

open Sample in
/-- A stranger asks for a challenge for the same principal between two requests of its own, the second
of which is refused all the same. -/
theorem init_separated_stranger : ∃ c c' : initServer.Config,
    c.calls = [issue (some home), issue (some home)] ∧
    c'.calls = [issue (some home), issue (some abroad), issue (some home)] ∧
    List.Forall₂ (fun th th' => th.call = th'.call ∧ ∀ outcome, th.prog = .pure outcome →
        ∃ outcome', th'.prog = .pure outcome' ∧ outcome.undrawn = outcome'.undrawn)
      (c.group (fromAddress home)) (c'.group (fromAddress home)) := by
  obtain ⟨c, hc, hseq⟩ := exists_initRun 3 (fun o => decide (o = some (refusal 50)))
    [home, home] (granted home 0 1000 ++ refused home 1 1010 50) sequential rfl (by decide)
  obtain ⟨c', hc', hseq'⟩ := exists_initRun 3
    (fun o => decide (o = some (refusal 50))) [home, abroad, home]
    (granted home 0 1000 ++ granted abroad 1 1005 ++ refused home 2 1010 50) sequential rfl
    (by decide)
  have hips : ∀ ip ∈ [home, home], ip = home ∨ ip = abroad := by simp
  have hips' : ∀ ip ∈ [home, abroad, home], ip = home ∨ ip = abroad := by simp
  refine ⟨c, c', hc.calls, hc'.calls, ?_⟩
  refine init_separated hc.reachable hc'.reachable (hc.calls ▸ addressed_issue hips)
    (hc'.calls ▸ addressed_issue hips') hc.limited hc'.limited (hc.inOrder hips hseq)
    (hc'.inOrder hips' hseq') hc.alive hc'.alive ?_ hc.turns hc'.turns
  rw [hc.group_calls, hc'.group_calls]
  rfl

open Sample in
/-- A stranger's check at a later time prunes the window of an address, and a request of the address
at an earlier time is let through that would have been refused. -/
theorem init_interferes : ∃ c c' : initServer.Config, ∃ turns,
    initServer.Reachable c ∧ initServer.Reachable c' ∧
    (∀ call ∈ c.calls, Addressed call) ∧ (∀ call ∈ c'.calls, Addressed call) ∧
    LimitedInMemory oneRequest c.history ∧ LimitedInMemory oneRequest c'.history ∧
    (∀ th ∈ c.group (fromAddress home), th.prog ≠ .pure .aborted) ∧
    (∀ th ∈ c'.group (fromAddress home), th.prog ≠ .pure .aborted) ∧
    (c.group (fromAddress home)).map Thread.call = (c'.group (fromAddress home)).map Thread.call ∧
    c.Turns (fromAddress home) Env.clocks turns ∧ c'.Turns (fromAddress home) Env.clocks turns ∧
    (∃ th, (c.group (fromAddress home))[1]? = some th ∧ th.prog = .pure (refusal 50)) ∧
    ∃ th' response, (c'.group (fromAddress home))[1]? = some th' ∧
      th'.prog = .pure (.issued response) := by
  obtain ⟨c, hc, -⟩ := exists_initRun 3 (fun o => decide (o = some (refusal 50)))
    [home, home] (granted home 0 1000 ++ refused home 1 1010 50) (fun _ => true) rfl
    (by decide)
  obtain ⟨c', hc', -⟩ := exists_initRun 5 gotChallenge [home, abroad, home]
    (granted home 0 1000 ++ granted abroad 1 1060 ++ granted home 2 1010) (fun _ => true) rfl
    (by decide)
  have hips : ∀ ip ∈ [home, home], ip = home ∨ ip = abroad := by simp
  have hips' : ∀ ip ∈ [home, abroad, home], ip = home ∨ ip = abroad := by simp
  obtain ⟨th, hth, hout⟩ := Option.bind_eq_some_iff.mp (of_decide_eq_true hc.second)
  have hprog := prog_of_outcomeOf hout
  obtain ⟨th', response, hth', hprog'⟩ : ∃ th' response,
      (c'.group (fromAddress home))[1]? = some th' ∧ th'.prog = .pure (.issued response) := by
    have hsecond := hc'.second
    unfold gotChallenge at hsecond
    split at hsecond
    · rename_i response hout
      obtain ⟨th', hth', hout⟩ := Option.bind_eq_some_iff.mp hout
      exact ⟨th', response, hth', prog_of_outcomeOf hout⟩
    · cases hsecond
  refine ⟨c, c', turns 5, hc.reachable, hc'.reachable, hc.calls ▸ addressed_issue hips,
    hc'.calls ▸ addressed_issue hips', hc.limited, hc'.limited, hc.alive, hc'.alive, ?_, ?_,
    hc'.turns, ⟨th, hth, hprog⟩, th', response, hth', hprog'⟩
  · rw [hc.group_calls, hc'.group_calls]
    rfl
  · -- The request that was refused skips the turns that the other takes.
    exact hc.turns.skips hc.reachable hth hprog nofun 2 (1010, 1010)

end NapAuth

import NapAuth.Client
import NapAuth.Server.RateLimiter

/-!
# Who is counted

An identifier of the rate limiter is the text of a budget (`identifiers_eq`), which belongs to a
caller in a scope: a principal, a principal at an address, a proven key or an address.

`text_eq_iff` says when two callers are written alike. A principal at an address is written with an
`@` between the two, and the name of a principal is anything that a client sends. So a name that
holds an `@` is written, where the address of the request is not known, like a shorter name at an
address, and the two share one budget. `budgets_distinct_iff` says that nothing else does.
-/

namespace NapAuth

open Interleaving

/-! ## Budgets -/

/-- Whose requests are counted, in one dimension. -/
inductive Caller where
  /-- A principal, where the address of the request is not known. -/
  | npub (name : String)
  /-- A principal at an address. -/
  | npubAt (name clientIp : String)
  /-- A key that has signed a proof. -/
  | pubkey (key : String)
  /-- An address. -/
  | address (clientIp : String)
  deriving DecidableEq

/-- A caller, as it is written in an identifier. -/
def Caller.text : Caller → String
  | npub name => "npub:" ++ name
  | npubAt name clientIp => "npub:" ++ name ++ "@" ++ clientIp
  | pubkey key => "pubkey:" ++ key
  | address clientIp => "ip:" ++ clientIp

/-- What has a budget: a caller in a scope. -/
structure Budget where
  scope : RateLimitScope
  caller : Caller
  deriving DecidableEq

/-- A budget, as it is written in an identifier. -/
def Budget.text (budget : Budget) : String := budget.scope.text ++ ":" ++ budget.caller.text

/-- The budgets that a key is counted against. -/
def RateLimitKey.budgets (key : RateLimitKey) : List Budget :=
  [ if truthyString key.npub then
      if truthyString key.clientIp then
        some ⟨key.scope, .npubAt (key.npub.getD "") (key.clientIp.getD "")⟩
      else some ⟨key.scope, .npub (key.npub.getD "")⟩
    else none,
    if truthyString key.pubkey then some ⟨key.scope, .pubkey (key.pubkey.getD "")⟩ else none,
    if truthyString key.clientIp then some ⟨key.scope, .address (key.clientIp.getD "")⟩
    else none ].reduceOption

/-- The identifiers of a key are the texts of its budgets. -/
theorem identifiers_eq (key : RateLimitKey) : key.identifiers = key.budgets.map Budget.text := by
  have hnpubAt : ∀ name ip, key.scope.text ++ ":npub:" ++ name ++ "@" ++ ip =
      (⟨key.scope, .npubAt name ip⟩ : Budget).text := fun name ip =>
    String.toList_inj.mp (by simp [Budget.text, Caller.text])
  have hnpub : ∀ name, key.scope.text ++ ":npub:" ++ name =
      (⟨key.scope, .npub name⟩ : Budget).text := fun name =>
    String.toList_inj.mp (by simp [Budget.text, Caller.text])
  have hpubkey : ∀ pubkey, key.scope.text ++ ":pubkey:" ++ pubkey =
      (⟨key.scope, .pubkey pubkey⟩ : Budget).text := fun pubkey =>
    String.toList_inj.mp (by simp [Budget.text, Caller.text])
  have hip : ∀ ip, key.scope.text ++ ":ip:" ++ ip = (⟨key.scope, .address ip⟩ : Budget).text := fun ip =>
    String.toList_inj.mp (by simp [Budget.text, Caller.text])
  unfold RateLimitKey.identifiers RateLimitKey.budgets
  rw [hnpubAt, hnpub, hpubkey, hip, ← List.reduceOption_map]
  simp only [List.map_cons, List.map_nil, apply_ite (Option.map Budget.text), Option.map_some,
    Option.map_none]

/-- The identifiers of a key are of different dimensions. -/
theorem identifiers_nodup (key : RateLimitKey) : key.identifiers.Nodup := by
  -- The first character after the scope is the dimension's own.
  refine List.Nodup.of_map (fun k => (k.toList.drop (key.scope.text.toList.length + 1)).head?) ?_
  rw [identifiers_eq, List.map_map]
  unfold RateLimitKey.budgets
  cases truthyString key.npub <;> cases truthyString key.pubkey <;>
    cases truthyString key.clientIp <;>
    simp [List.reduceOption, Budget.text, Caller.text]

/-- The caller of a budget of a key. -/
def RateLimitKey.Counts (key : RateLimitKey) : Caller → Prop
  | .npub name => key.npub = some name ∧ name ≠ "" ∧ truthyString key.clientIp = false
  | .npubAt name ip => key.npub = some name ∧ name ≠ "" ∧ key.clientIp = some ip ∧ ip ≠ ""
  | .pubkey pubkey => key.pubkey = some pubkey ∧ pubkey ≠ ""
  | .address ip => key.clientIp = some ip ∧ ip ≠ ""

/-- What the budgets of a key are. -/
theorem mem_budgets {key : RateLimitKey} {budget : Budget} :
    budget ∈ key.budgets ↔ budget.scope = key.scope ∧ key.Counts budget.caller := by
  obtain ⟨scope, caller⟩ := budget
  unfold RateLimitKey.budgets
  rw [List.reduceOption_mem_iff]
  simp only [List.mem_cons, List.not_mem_nil, or_false]
  cases caller <;> simp [RateLimitKey.Counts, truthyString] <;> grind

/-! ## Texts -/

/-- The address of a caller. -/
def Caller.clientIp? : Caller → Option String
  | npubAt _ ip => some ip
  | address ip => some ip
  | _ => none

/-- A principal whose name ends in an address, and the principal at that address. -/
def Caller.Blurs : Caller → Caller → Prop
  | npub name, npubAt name' ip => name = name' ++ "@" ++ ip
  | _, _ => False

/-- Callers that blur are written alike. -/
theorem Caller.Blurs.text_eq {c c' : Caller} (h : c.Blurs c') : c.text = c'.text := by
  cases c with
  | npub name =>
    cases c' with
    | npubAt name' ip =>
      obtain rfl : name = name' ++ "@" ++ ip := h
      exact String.toList_inj.mp (by simp [Caller.text])
    | npub _ => exact h.elim
    | pubkey _ => exact h.elim
    | address _ => exact h.elim
  | npubAt _ _ => exact h.elim
  | pubkey _ => exact h.elim
  | address _ => exact h.elim

/-- Two callers are written alike if they are the same, or if the name of a principal ends in the
other's address. -/
theorem text_eq_iff {c c' : Caller} (hat : ∀ ip, c.clientIp? = some ip → '@' ∉ ip.toList)
    (hat' : ∀ ip, c'.clientIp? = some ip → '@' ∉ ip.toList) :
    c.text = c'.text ↔ c = c' ∨ c.Blurs c' ∨ c'.Blurs c := by
  constructor
  · intro h
    have hchars := congrArg String.toList h
    cases c with
    | npub name =>
      cases c' with
      | npub name' =>
        have hname : name = name' := by simpa [Caller.text, String.toList_inj] using hchars
        exact Or.inl (congrArg Caller.npub hname)
      | npubAt name' ip' =>
        have hname : name = name' ++ "@" ++ ip' :=
          String.toList_inj.mp (by simpa [Caller.text] using hchars)
        exact Or.inr (Or.inl hname)
      | pubkey _ => simp [Caller.text] at hchars
      | address _ => simp [Caller.text] at hchars
    | npubAt name ip =>
      cases c' with
      | npub name' =>
        have hname : name' = name ++ "@" ++ ip :=
          String.toList_inj.mp (by simpa [Caller.text] using hchars.symm)
        exact Or.inr (Or.inr hname)
      | npubAt name' ip' =>
        have heq : name.toList ++ '@' :: ip.toList = name'.toList ++ '@' :: ip'.toList := by
          simpa [Caller.text] using hchars
        obtain rfl : ip = ip' :=
          String.toList_inj.mp (Separated.right_eq_of_separator (hat ip rfl) (hat' ip' rfl) heq)
        obtain rfl : name = name' := String.toList_inj.mp (List.append_cancel_right heq)
        exact Or.inl rfl
      | pubkey _ => simp [Caller.text] at hchars
      | address _ => simp [Caller.text] at hchars
    | pubkey key =>
      cases c' with
      | pubkey key' =>
        have hkey : key = key' := by simpa [Caller.text, String.toList_inj] using hchars
        exact Or.inl (congrArg Caller.pubkey hkey)
      | npub _ => simp [Caller.text] at hchars
      | npubAt _ _ => simp [Caller.text] at hchars
      | address _ => simp [Caller.text] at hchars
    | address ip =>
      cases c' with
      | address ip' =>
        have hip : ip = ip' := by simpa [Caller.text, String.toList_inj] using hchars
        exact Or.inl (congrArg Caller.address hip)
      | npub _ => simp [Caller.text] at hchars
      | npubAt _ _ => simp [Caller.text] at hchars
      | pubkey _ => simp [Caller.text] at hchars
  · rintro (rfl | h | h)
    · rfl
    · exact h.text_eq
    · exact h.text_eq.symm

/-- No scope is the beginning of another's identifier. -/
theorem budget_text_inj {b b' : Budget} : b.text = b'.text ↔
    b.scope = b'.scope ∧ b.caller.text = b'.caller.text := by
  constructor
  · intro h
    have hchars := congrArg String.toList h
    unfold Budget.text at hchars
    cases hs : b.scope <;> cases hs' : b'.scope <;>
      simp [RateLimitScope.text, String.toList_inj, hs, hs'] at hchars <;> exact ⟨rfl, hchars⟩
  · rintro ⟨hscope, htext⟩
    unfold Budget.text
    rw [hscope, htext]

/-! ## The keys of the server -/

/-- A call asks the limiter about a key. -/
def Asks (program : Program Outcome) (key : RateLimitKey) : Prop :=
  ∃ xs k, program.Follows xs (.call (.checkRateLimit key) k)

/-- What a call asks the limiter about meets a condition. -/
def AsksOnly (p : RateLimitKey → Prop) (_ : List (Event Res)) : Op → Prop
  | .checkRateLimit key => p key
  | _ => True

section

variable {P : Platform} {O : NapServerOptions} {p : RateLimitKey → Prop} {xs : List (Event Res)}

/-- A condition on what a call may ask about. -/
theorem Asks.of_sat {program : Program Outcome} {key : RateLimitKey}
    (h : program.Sat (AsksOnly p) (fun _ _ => True) []) (hasks : Asks program key) : p key := by
  obtain ⟨xs, k, hfollows⟩ := hasks
  exact (h.follows hfollows).1

theorem fail_asksOnly {code : NapErrorCode} {details : AuditDetails} :
    (fail code details).Sat (AsksOnly p) (fun _ _ => True) xs := ⟨trivial, fun _ => trivial⟩

theorem refuse_asksOnly {code : NapErrorCode} {pubkey : Option String} {details : AuditDetails}
    {retryAfterSeconds : Option ℤ} :
    (refuse code pubkey details retryAfterSeconds).Sat (AsksOnly p) (fun _ _ => True) xs :=
  ⟨trivial, fun _ => trivial⟩

theorem countUnderCap_asksOnly {applies : Bool} {filter : OutstandingChallengeFilter}
    {Ψ : List (Event Res) → ℕ → Prop} (h : ∀ ys n, Ψ ys n) :
    (countUnderCap applies filter).Sat (AsksOnly p) Ψ xs := by
  unfold countUnderCap
  split
  · exact ⟨trivial, fun n => h _ n⟩
  · exact h _ _

/-- The counts of outstanding challenges ask nothing. -/
theorem findExceededOutstandingCap_asksOnly {npub : String} {clientIp : Option String} {now : ℤ}
    {Ψ : List (Event Res) → Option String → Prop} (h : ∀ ys cap, Ψ ys cap) :
    (findExceededOutstandingCap O npub clientIp now).Sat (AsksOnly p) Ψ xs := by
  refine Prog.Sat.bind (countUnderCap_asksOnly fun ys npubCount => ?_)
  refine Prog.Sat.bind (countUnderCap_asksOnly fun zs ipCount => ?_)
  split_ifs <;> exact h _ _

/-- `issueChallenge` asks about the name that it was sent, if that is not too long, and the
address. -/
theorem issueChallenge_asksOnly {input : IssueChallengeInput} :
    (issueChallenge P O input).Sat
      (AsksOnly (· = ⟨.init, boundedNpub input.npub, none, input.clientIp⟩)) (fun _ _ => True) [] := by
  unfold issueChallenge createChallenge
  cases resolveChallengeTtl O with
  | none => exact trivial
  | some ttl =>
  refine Prog.sat_op_bind.mpr ⟨trivial, fun _ => ?_⟩
  refine Prog.sat_op_bind.mpr ⟨rfl, fun (rateLimit, now) => ?_⟩
  dsimp only
  split
  · exact refuse_asksOnly
  cases decodeNpub P input.npub with
  | none => exact fail_asksOnly
  | some pubkey =>
  dsimp only
  split
  · exact fail_asksOnly
  refine Prog.Sat.bind (findExceededOutstandingCap_asksOnly fun ys exceeded => ?_)
  cases exceeded with
  | some cap => exact refuse_asksOnly
  | none =>
    refine Prog.sat_op_bind.mpr ⟨trivial, fun created => ?_⟩
    cases created with
    | none => exact fail_asksOnly
    | some record => exact trivial

/-- A failure that is counted on a challenge asks nothing. -/
theorem failCounted_asksOnly {challenge : ChallengeRecord} {now : ℤ} {code : NapErrorCode} :
    (failCounted O challenge now code).Sat (AsksOnly p) (fun _ _ => True) xs := by
  refine Prog.Sat.bind ?_
  unfold recordChallengeFailure
  dsimp only
  split
  · exact fail_asksOnly
  · refine Prog.sat_op_bind.mpr ⟨trivial, fun result => ?_⟩
    cases result with
    | none => exact fail_asksOnly
    | some result =>
      dsimp only
      split
      · exact Prog.sat_op_bind.mpr ⟨trivial, fun _ => fail_asksOnly⟩
      · exact fail_asksOnly

/-- Nor does a completion from the redemption on. -/
theorem redeemSession_asksOnly {proof : VerifiedNip98Completion} {now : ℤ}
    {challenge : ChallengeRecord} {session : SessionRecord} :
    (redeemSession O proof now challenge session).Sat (AsksOnly p) (fun _ _ => True) xs := by
  refine Prog.sat_op_bind.mpr ⟨trivial, fun status => ?_⟩
  cases status with
  | redeemed => exact Prog.sat_op_bind.mpr ⟨trivial, fun _ => trivial⟩
  | expired => exact fail_asksOnly
  | notFound => exact fail_asksOnly
  | alreadyRedeemed =>
    refine Prog.sat_op_bind.mpr ⟨trivial, fun record => ?_⟩
    cases record with
    | none => exact fail_asksOnly
    | some record =>
      dsimp only
      split
      · refine Prog.sat_op_bind.mpr ⟨trivial, fun existing => ?_⟩
        cases existing with
        | none => exact fail_asksOnly
        | some existing => exact Prog.sat_op_bind.mpr ⟨trivial, fun _ => trivial⟩
      · exact fail_asksOnly

/-- `verifyCompletion` asks about the address, and then about the key that has signed the proof. -/
theorem verifyCompletion_asksOnly {input : VerifyCompletionInput} :
    (verifyCompletion P O input).Sat
      (AsksOnly fun key => key = ⟨.complete, none, none, input.clientIp⟩ ∨
        ∃ pubkey, key = ⟨.complete, none, some pubkey, none⟩) (fun _ _ => True) [] := by
  refine Prog.sat_op_bind.mpr ⟨trivial, fun _ => ?_⟩
  cases parseAuthCompleteRequest P input.rawBody with
  | none => exact trivial
  | some body =>
  refine Prog.sat_op_bind.mpr ⟨Or.inl rfl, fun (rateLimit, now) => ?_⟩
  dsimp only
  split
  · exact refuse_asksOnly
  cases verifyNip98Completion P (proofInput O input body now) with
  | error e => exact Prog.sat_op_bind.mpr ⟨trivial, fun _ => trivial⟩
  | ok proof =>
  refine Prog.sat_op_bind.mpr ⟨Or.inr ⟨_, rfl⟩, fun provenRateLimit => ?_⟩
  split
  · exact refuse_asksOnly
  refine Prog.sat_op_bind.mpr ⟨trivial, fun challenge => ?_⟩
  cases challenge with
  | none => exact fail_asksOnly
  | some challenge =>
  -- Nothing is asked once the challenge is loaded.
  dsimp only [completeChallenge]
  split
  · exact fail_asksOnly
  split
  · exact fail_asksOnly
  split
  · exact fail_asksOnly
  split
  · exact failCounted_asksOnly
  split
  · exact failCounted_asksOnly
  refine Prog.sat_op_bind.mpr ⟨trivial, fun (decision, resolvedAt) => ?_⟩
  dsimp only
  split
  · exact fail_asksOnly
  refine Prog.sat_op_bind.mpr ⟨trivial, fun session => ?_⟩
  cases session with
  | none => exact trivial
  | some session => exact redeemSession_asksOnly

/-- `refreshSession` asks about the address. -/
theorem refreshSession_asksOnly {input : RefreshSessionInput} :
    (refreshSession O input).Sat (AsksOnly (· = ⟨.refresh, none, none, input.clientIp⟩))
      (fun _ _ => True) [] := by
  unfold refreshSession
  dsimp only
  split
  · exact fail_asksOnly
  refine Prog.sat_op_bind.mpr ⟨rfl, fun verdict => ?_⟩
  split
  · exact refuse_asksOnly
  split
  · exact fail_asksOnly
  refine Prog.sat_op_bind.mpr ⟨trivial, fun (found, now) => ?_⟩
  cases found with
  | none => exact fail_asksOnly
  | some session =>
  -- Nothing is asked once the session is loaded.
  dsimp only [refreshLoaded]
  split
  · refine Prog.sat_op_bind.mpr ⟨trivial, fun _ => ?_⟩
    exact Prog.sat_op_bind.mpr ⟨trivial, fun _ => trivial⟩
  split
  · exact fail_asksOnly
  split
  · exact fail_asksOnly
  split
  · exact fail_asksOnly
  split
  · exact fail_asksOnly
  refine Prog.sat_op_bind.mpr ⟨trivial, fun (decision, resolvedAt) => ?_⟩
  dsimp only
  split
  · split
    · exact Prog.sat_op_bind.mpr ⟨trivial, fun _ => fail_asksOnly⟩
    · exact fail_asksOnly
  refine Prog.sat_op_bind.mpr ⟨trivial, fun rotated => ?_⟩
  cases rotated with
  | none => exact fail_asksOnly
  | some rotated => exact Prog.sat_op_bind.mpr ⟨trivial, fun _ => trivial⟩

end

/-! ## Which budgets are shared -/

/-- There is no `@` in an address. -/
def PlainAddress (clientIp : Option String) : Prop := ∀ ip, clientIp = some ip → '@' ∉ ip.toList

/-- The keys that the server builds, where no address holds an `@`. -/
inductive Built (key : RateLimitKey) : Prop
  /-- `issueChallenge` asks about it. -/
  | issueChallenge {P : Platform} {O : NapServerOptions} {input : IssueChallengeInput}
      (plain : PlainAddress input.clientIp) (asks : Asks (issueChallenge P O input) key)
  /-- `verifyCompletion` asks about it. -/
  | verifyCompletion {P : Platform} {O : NapServerOptions} {input : VerifyCompletionInput}
      (plain : PlainAddress input.clientIp) (asks : Asks (verifyCompletion P O input) key)
  /-- `refreshSession` asks about it. -/
  | refreshSession {O : NapServerOptions} {input : RefreshSessionInput}
      (plain : PlainAddress input.clientIp) (asks : Asks (refreshSession O input) key)

variable {key key' : RateLimitKey}

/-- A key is built with the address of the call, or without one. -/
theorem Built.plainAddress (h : Built key) : PlainAddress key.clientIp := by
  cases h with
  | issueChallenge plain asks =>
    rw [Asks.of_sat issueChallenge_asksOnly asks]
    exact plain
  | verifyCompletion plain asks =>
    rcases Asks.of_sat verifyCompletion_asksOnly asks with rfl | ⟨pubkey, rfl⟩
    · exact plain
    · exact fun _ h => nomatch h
  | refreshSession plain asks =>
    rw [Asks.of_sat refreshSession_asksOnly asks]
    exact plain

/-- The address of a counted caller is that of the key. -/
theorem RateLimitKey.Counts.clientIp {c : Caller} {ip : String} (h : key.Counts c)
    (hip : c.clientIp? = some ip) : key.clientIp = some ip := by
  cases c with
  | npubAt name ip' => exact h.2.2.1.trans hip
  | address ip' => exact h.1.trans hip
  | npub name => cases hip
  | pubkey key => cases hip

/-- The one call has no address, and its name is the other's name, an `@` and the other's
address. -/
def Confusable (key key' : RateLimitKey) : Prop :=
  key.scope = key'.scope ∧ truthyString key.clientIp = false ∧
  ∃ name ip, key.npub = some (name ++ "@" ++ ip) ∧ key'.npub = some name ∧ name ≠ "" ∧
    key'.clientIp = some ip ∧ ip ≠ ""

/-- Callers that blur are not the same. -/
theorem Caller.Blurs.ne {c c' : Caller} (h : c.Blurs c') : c ≠ c' := by
  rintro rfl
  cases c <;> exact h.elim

/-- Two keys are confusable if callers of theirs blur. -/
theorem confusable_iff : Confusable key key' ↔ key.scope = key'.scope ∧
    ∃ c c', key.Counts c ∧ key'.Counts c' ∧ c.Blurs c' := by
  constructor
  · rintro ⟨hscope, hip, name, ip, hnpub, hnpub', hne, hip', hne'⟩
    have hnonempty : name ++ "@" ++ ip ≠ "" := fun h => by
      simpa using congrArg String.toList h
    exact ⟨hscope, .npub _, .npubAt name ip, ⟨hnpub, hnonempty, hip⟩, ⟨hnpub', hne, hip', hne'⟩, rfl⟩
  · rintro ⟨hscope, c, c', hc, hc', hblurs⟩
    cases c with
    | npub name =>
      cases c' with
      | npubAt name' ip =>
        obtain rfl : name = name' ++ "@" ++ ip := hblurs
        obtain ⟨hnpub, -, hip⟩ := hc
        obtain ⟨hnpub', hne, hip', hne'⟩ := hc'
        exact ⟨hscope, hip, name', ip, hnpub, hnpub', hne, hip', hne'⟩
      | npub _ => exact hblurs.elim
      | pubkey _ => exact hblurs.elim
      | address _ => exact hblurs.elim
    | npubAt _ _ => exact hblurs.elim
    | pubkey _ => exact hblurs.elim
    | address _ => exact hblurs.elim

/-- Budgets that are written alike are the same, for two keys of which neither is confusable with
the other, and only for those. -/
theorem budgets_distinct_iff (h : Built key) (h' : Built key') :
    (∀ b ∈ key.budgets, ∀ b' ∈ key'.budgets, b.text = b'.text → b = b') ↔
      ¬ Confusable key key' ∧ ¬ Confusable key' key := by
  constructor
  · intro hdistinct
    constructor
    · intro hconfusable
      obtain ⟨hscope, c, c', hc, hc', hblurs⟩ := confusable_iff.mp hconfusable
      have heq := hdistinct ⟨key.scope, c⟩ (mem_budgets.mpr ⟨rfl, hc⟩) ⟨key'.scope, c'⟩
        (mem_budgets.mpr ⟨rfl, hc'⟩) (budget_text_inj.mpr ⟨hscope, hblurs.text_eq⟩)
      exact hblurs.ne (congrArg Budget.caller heq)
    · intro hconfusable
      obtain ⟨hscope, c', c, hc', hc, hblurs⟩ := confusable_iff.mp hconfusable
      have heq := hdistinct ⟨key.scope, c⟩ (mem_budgets.mpr ⟨rfl, hc⟩) ⟨key'.scope, c'⟩
        (mem_budgets.mpr ⟨rfl, hc'⟩) (budget_text_inj.mpr ⟨hscope.symm, hblurs.text_eq.symm⟩)
      exact hblurs.ne (congrArg Budget.caller heq).symm
  · rintro ⟨hnot, hnot'⟩ b hb b' hb' htext
    rw [mem_budgets] at hb hb'
    obtain ⟨hscope, hcaller⟩ := budget_text_inj.mp htext
    have hkeys : key.scope = key'.scope := hb.1.symm.trans (hscope.trans hb'.1)
    -- An address of a caller is that of the key, and holds no separator.
    rcases (text_eq_iff (fun ip hip => h.plainAddress ip (hb.2.clientIp hip))
      (fun ip hip => h'.plainAddress ip (hb'.2.clientIp hip))).mp hcaller with heq | hblurs | hblurs
    · obtain ⟨scope, caller⟩ := b
      obtain rfl : scope = b'.scope := hscope
      obtain rfl : caller = b'.caller := heq
      rfl
    · exact absurd (confusable_iff.mpr ⟨hkeys, _, _, hb.2, hb'.2, hblurs⟩) hnot
    · exact absurd (confusable_iff.mpr ⟨hkeys.symm, _, _, hb'.2, hb.2, hblurs⟩) hnot'

namespace Sample

/-- The key of a challenge for a name, from an address. -/
def issueKey (npub : String) (clientIp : Option String) : RateLimitKey :=
  ⟨.init, boundedNpub npub, none, clientIp⟩

/-- It is built by `issueChallenge`. -/
theorem built_issueKey (npub : String) (clientIp : Option String) (plain : PlainAddress clientIp) :
    Built (issueKey npub clientIp) :=
  @Built.issueChallenge _ platform options ⟨npub, url, none, clientIp⟩ plain
    ⟨_, _, .answer .start ()⟩

/-- There is no `@` in an IPv4 address. -/
theorem plain_address : PlainAddress (some "10.0.0.1") := fun ip h => by
  rw [← Option.some.inj h]
  decide

end Sample

open Sample in
/-- Two principals at an address cannot be confused, and have budgets of their own. -/
theorem budgets_distinct_names :
    ¬ Confusable (issueKey "npub1alice" (some "10.0.0.1")) (issueKey "npub1bob" (some "10.0.0.1")) ∧
    ∀ b ∈ (issueKey "npub1alice" (some "10.0.0.1")).budgets,
      ∀ b' ∈ (issueKey "npub1bob" (some "10.0.0.1")).budgets, b.text = b'.text → b = b' := by
  have hnot : ¬ Confusable (issueKey "npub1alice" (some "10.0.0.1"))
      (issueKey "npub1bob" (some "10.0.0.1")) := fun h => absurd h.2.1 (by decide)
  have hnot' : ¬ Confusable (issueKey "npub1bob" (some "10.0.0.1"))
      (issueKey "npub1alice" (some "10.0.0.1")) := fun h => absurd h.2.1 (by decide)
  exact ⟨hnot, (budgets_distinct_iff (built_issueKey _ _ plain_address)
    (built_issueKey _ _ plain_address)).mpr ⟨hnot, hnot'⟩⟩

open Sample in
/-- A name without an address spends the budget of another name at an address. -/
theorem budgets_shared : ¬ ∀ key key' : RateLimitKey, Built key → Built key' →
    ∀ b ∈ key.budgets, ∀ b' ∈ key'.budgets, b.text = b'.text → b = b' := by
  intro h
  have heq := h _ _ (built_issueKey "npub1alice@10.0.0.1" none fun _ h => nomatch h)
    (built_issueKey "npub1alice" _ plain_address)
    ⟨.init, .npub "npub1alice@10.0.0.1"⟩ (by decide)
    ⟨.init, .npubAt "npub1alice" "10.0.0.1"⟩ (by decide) (by decide)
  exact Caller.noConfusion (congrArg Budget.caller heq)

end NapAuth

import NapAuth.Voucher.Decisions

/-!
# Requests for keysets

How many requests for its keysets a mint is sent while what the first of them fetched would still be
cached. An entry of the cache is refreshed at most once, so two requests suffice where no request is
started while another is in flight (`requests_le_two`). Otherwise there is no bound: the cache is
empty until the first answer is stored, and each call that finds it empty sends a request of its own
(`requests_unbounded`).
-/

namespace NapAuth.Voucher

open Interleaving

variable {P : VoucherPlatform} {O : VoucherAclResolverOptions}

/-! ## Order within a call -/

/-- What an event has fetched: the mint, its keysets, and whether they were asked for because of a
miss. -/
def fetchedKeys (P : VoucherPlatform) : Event Res → Option (String × Keysets × Bool)
  | ⟨.load origin, .fetched result⟩ =>
    (readKeysets P origin result).toOption.map fun keysets => (origin, keysets, false)
  | ⟨.refetch origin, some result⟩ =>
    (readKeysets P origin result).toOption.map fun keysets => (origin, keysets, true)
  | _ => none

/-- A call has nothing fetched that it has not cached. -/
def Settled (P : VoucherPlatform) (xs : List (Event Res)) : Prop :=
  ∀ ev, xs.getLast? = some ev → fetchedKeys P ev = none

/-- A call caches what it has fetched, in its next operation, and caches nothing else. -/
def Caches (P : VoucherPlatform) (xs : List (Event Res)) (op : Op) : Prop :=
  ∀ origin keysets refreshed, op = .store origin keysets refreshed ↔
    ∃ ev, xs.getLast? = some ev ∧ fetchedKeys P ev = some (origin, keysets, refreshed)

theorem settled_nil : Settled P [] := fun ev h => by simp at h

theorem settled_concat {xs : List (Event Res)} {ev : Event Res} (h : fetchedKeys P ev = none) :
    Settled P (xs ++ [ev]) := by
  intro ev' hlast
  rw [List.getLast?_concat] at hlast
  exact Option.some.inj hlast ▸ h

/-- Where nothing is fetched, nothing is cached. -/
theorem Settled.caches {xs : List (Event Res)} {op : Op} (hxs : Settled P xs)
    (hop : ∀ origin keysets refreshed, op ≠ .store origin keysets refreshed) : Caches P xs op := by
  intro origin keysets refreshed
  constructor
  · exact fun h => absurd h (hop origin keysets refreshed)
  · rintro ⟨ev, hlast, hfetched⟩
    rw [hxs ev hlast] at hfetched
    cases hfetched

/-- What an event that is not about keysets has fetched: nothing. -/
theorem fetchedKeys_eq_none {ev : Event Res} (h : ¬ IsKeysOp ev.1) : fetchedKeys P ev = none := by
  obtain ⟨op, answer⟩ := ev
  cases op with
  | load _ | refetch _ | store _ _ _ => exact absurd trivial h
  | fetch _ | clearCache | log _ | fallback _ _ _ | grant _ => rfl

/-- A program that does nothing about keysets caches nothing. -/
theorem caches_of_quiet {β : Type} {p : Program β} {xs : List (Event Res)}
    (hp : p.Sat (fun _ op => ¬ IsKeysOp op) (fun _ _ => True) xs) (hxs : Settled P xs) :
    p.Sat (Caches P) (fun _ _ => True) xs := by
  induction p generalizing xs with
  | pure b => trivial
  | call op k ih =>
    refine ⟨hxs.caches ?_, fun r => ih r (hp.2 r) (settled_concat (fetchedKeys_eq_none hp.1))⟩
    rintro origin keysets refreshed rfl
    exact hp.1 trivial

/-- Keysets that were fetched are cached. -/
theorem cacheKeysets_caches {xs : List (Event Res)} {ev : Event Res} {origin : String}
    {result : FetchResult} {refreshed : Bool}
    (hev : fetchedKeys P ev =
      (readKeysets P origin result).toOption.map fun keysets => (origin, keysets, refreshed)) :
    (cacheKeysets P origin result refreshed).Sat (Caches P) (fun ys _ => Settled P ys)
      (xs ++ [ev]) := by
  unfold cacheKeysets
  cases hread : readKeysets P origin result with
  | error error =>
    rw [hread] at hev
    exact settled_concat hev
  | ok keysets =>
    rw [hread] at hev
    refine Prog.sat_op_bind.mpr ⟨?_, fun _ => settled_concat rfl⟩
    intro origin' keysets' refreshed'
    rw [List.getLast?_concat]
    constructor
    · intro h
      injection h with horigin hkeysets hrefreshed
      exact ⟨ev, rfl, by rw [hev, ← horigin, ← hkeysets, ← hrefreshed]; rfl⟩
    · rintro ⟨ev', hlast, hfetched⟩
      rw [← Option.some.inj hlast, hev] at hfetched
      cases hfetched
      rfl

/-- `getKey` caches what it fetches. -/
theorem getKey_caches {M : MintClientOptions} {mintUrl keysetId : String} {amount : JsNumber} :
    (getKey P M mintUrl keysetId amount).Sat (Caches P) (fun ys _ => Settled P ys) [] := by
  unfold getKey
  cases requireAllowedOrigin P M mintUrl with
  | error error => exact settled_nil
  | ok origin =>
    have hload : (loadKeysets P origin).Sat (Caches P) (fun ys _ => Settled P ys) [] := by
      refine Prog.sat_op_bind.mpr ⟨settled_nil.caches (by simp), fun loaded => ?_⟩
      cases loaded with
      | cached keysets => exact settled_concat rfl
      | fetched result => exact cacheKeysets_caches rfl
    refine Prog.Sat.bind (hload.mono (fun _ _ h => h) fun ys r hys => ?_)
    cases r with
    | error error => exact hys
    | ok keysets =>
      dsimp only
      cases keysets.lookup keysetId with
      | some keyset => exact hys
      | none =>
        refine Prog.sat_op_bind.mpr ⟨hys.caches (by simp), fun refetched => ?_⟩
        cases refetched with
        | none => exact settled_concat rfl
        | some result =>
          refine Prog.Sat.bind ((cacheKeysets_caches rfl).mono (fun _ _ h => h) fun zs r hzs => ?_)
          cases r with
          | error error => exact hzs
          | ok keysets => exact hzs

section Quiet

variable {xs : List (Event Res)} {npub pubkey : String}

/-- What a call does besides, as far as keysets are concerned. -/
abbrev Quiet (_ : List (Event Res)) (op : Op) : Prop := ¬ IsKeysOp op

theorem deny_quiet {code : VoucherDenialCode} {details : VoucherAuditDetails} :
    (deny npub pubkey code details).Sat Quiet (fun _ _ => True) xs :=
  Prog.sat_op_bind.mpr ⟨id, fun _ => trivial⟩

theorem mintFailed_quiet {secret : ParsedVoucherSecret} {error : MintUnavailableError} :
    (mintFailed P O npub pubkey secret error).Sat Quiet (fun _ _ => True) xs := by
  unfold mintFailed
  split
  · exact deny_quiet
  · dsimp only
    split_ifs
    · exact deny_quiet
    · exact Prog.sat_op_bind.mpr ⟨id, fun _ => trivial⟩

theorem accept_quiet {checked : CheckedVoucher} :
    (accept P O npub pubkey checked).Sat Quiet (fun _ _ => True) xs := by
  refine Prog.sat_op_bind.mpr ⟨id, fun granted => ?_⟩
  dsimp only
  split_ifs
  · exact deny_quiet
  · exact Prog.sat_op_bind.mpr ⟨id, fun _ => trivial⟩

theorem decideState_quiet {checked : CheckedVoucher} (r : Except Thrown ProofState) :
    (decideState P O npub pubkey checked r).Sat Quiet (fun _ _ => True) xs := by
  cases r with
  | error thrown =>
    cases thrown with
    | mint error => exact mintFailed_quiet
    | other => trivial
  | ok state =>
    show (if state ≠ ProofState.unspent then _ else _ : Program Outcome).Sat _ _ _
    split_ifs
    · exact deny_quiet
    · exact accept_quiet

theorem checkState_quiet {M : MintClientOptions} {mintUrl secret : String} :
    (checkState P M mintUrl secret).Sat Quiet (fun _ _ => True) xs := by
  unfold checkState
  split
  · trivial
  · split
    · trivial
    · exact Prog.sat_op_bind.mpr ⟨id, fun _ => trivial⟩

theorem resolveAbsent_quiet {context : Option VoucherContext} :
    (resolveAbsent O npub pubkey context).Sat Quiet (fun _ _ => True) xs := by
  unfold resolveAbsent
  split
  · exact Prog.sat_op_bind.mpr ⟨id, fun _ => trivial⟩
  · split
    · exact deny_quiet
    · split
      · trivial
      · exact deny_quiet

end Quiet

section Calls

-- From here on these are known by their rules.
attribute [local irreducible] getKey checkState

/-- What follows the key asks for no keysets. -/
theorem afterKey_quiet {xs : List (Event Res)} {npub pubkey : String} {credential : Json}
    {checked : CheckedVoucher} {key : String} :
    (match readDleq credential with
      | none => deny npub pubkey .malformed none
      | some dleq =>
        if !verifyProofDleq P key checked.text checked.signature dleq then
          deny npub pubkey .dleqInvalid none
        else checkState P O.mintClient checked.mintUrl checked.text >>=
          decideState P O npub pubkey checked).Sat Quiet (fun _ _ => True) xs := by
  split
  · exact deny_quiet
  · split_ifs
    · exact deny_quiet
    · refine Prog.Sat.bind (Prog.Sat.mono checkState_quiet (fun _ _ h => h) ?_)
      exact fun _ r _ => decideState_quiet r

/-- A resolution caches what it fetches. -/
theorem resolve_caches {npub pubkey : String} {context : Option VoucherContext} :
    (resolve P O npub pubkey context).Sat (Caches P) (fun _ _ => True) [] := by
  unfold resolve
  split
  · exact caches_of_quiet resolveAbsent_quiet settled_nil
  · split
    · exact caches_of_quiet deny_quiet settled_nil
    · unfold resolveAtMint
      refine Prog.Sat.bind (Prog.Sat.mono getKey_caches (fun _ _ h => h) ?_)
      intro ys r hys
      cases r with
      | error error => exact caches_of_quiet mintFailed_quiet hys
      | ok key => exact caches_of_quiet afterKey_quiet hys

/-- Every call caches what it fetches. -/
theorem body_caches (call : Call) : (body P O call).Sat (Caches P) (fun _ _ => True) [] := by
  cases call with
  | resolve npub pubkey context => exact resolve_caches
  | getKey mintUrl keysetId amount =>
    unfold body
    exact Prog.Sat.bind (Prog.Sat.mono getKey_caches (fun _ _ h => h) fun _ _ _ => trivial)
  | checkState mintUrl secret =>
    refine caches_of_quiet ?_ settled_nil
    unfold body
    exact Prog.Sat.bind (Prog.Sat.mono checkState_quiet (fun _ _ h => h) fun _ _ _ => trivial)
  | clearCache => exact Prog.sat_op_bind.mpr ⟨settled_nil.caches (by simp), fun _ => trivial⟩

end Calls

/-! ## Requests in flight -/

section Flight

variable {h pre later : History O.mintClient} {e x : Step (machine O.mintClient)} {origin : String}

/-- An event has started a request for the keysets of a mint. -/
def keysSent (origin : String) (ev : Event Res) : Bool :=
  (keysResult ev).any fun sent => sent.1 == origin

/-- How many requests for the keysets of a mint were started. -/
def requests (origin : String) (h : History O.mintClient) : ℕ :=
  ((machine O.mintClient).events h).countP (keysSent origin)

/-- A call has a request for the keysets of a mint in flight: it has started one, and done nothing
since. -/
def InFlight (origin : String) (h : History O.mintClient) (tid : ℕ) : Prop :=
  ∃ ev, ((machine O.mintClient).own tid h).getLast? = some ev ∧ keysSent origin ev = true

/-- No request for the keysets of a mint is started while another is in flight. -/
def Apart (origin : String) (h : History O.mintClient) : Prop :=
  ∀ pre e, Occurs h pre e → keysSent origin ((machine O.mintClient).event pre e) = true →
    ∀ tid, ¬ InFlight origin pre tid

/-- The mint answers every request for its keysets, and validly. -/
def AnswersValidly (P : VoucherPlatform) (origin : String) (h : History O.mintClient) : Prop :=
  ∀ pre e result, Occurs h pre e →
    keysResult ((machine O.mintClient).event pre e) = some (origin, result) →
    ∃ keysets, readKeysets P origin result = .ok keysets

/-- What the call of a step has fetched in it would still be cached after some later steps: the call
has not stored it yet, or the clock has not reached its expiry since. -/
def StillCached (e : Step (machine O.mintClient)) (later : History O.mintClient) : Prop :=
  ∀ before s after, later = before ++ s :: after → (∀ y ∈ before, y.tid ≠ e.tid) → s.tid = e.tid →
    ∀ y ∈ after, (y.env.now : ℚ) < s.env.now + O.mintClient.ttl

/-- The clock of the mint client does not go back. -/
def Forward (h : History O.mintClient) : Prop := h.Pairwise fun e e' => e.env.now ≤ e'.env.now

theorem requests_concat (origin : String) (h : History O.mintClient)
    (x : Step (machine O.mintClient)) : requests origin (h ++ [x]) =
      requests origin h + if keysSent origin ((machine O.mintClient).event h x) then 1 else 0 := by
  unfold requests
  rw [Machine.events_concat, List.countP_append, List.countP_singleton]

/-- One more step: its own call has a request in flight if it starts one, and no other changes. -/
theorem inFlight_concat {tid : ℕ} : InFlight origin (h ++ [x]) tid ↔
    if tid = x.tid then keysSent origin ((machine O.mintClient).event h x) = true
    else InFlight origin h tid := by
  unfold InFlight
  split_ifs with htid
  · rw [htid, Machine.own_concat_self, List.getLast?_concat]
    simp
  · rw [Machine.own_concat_ne _ _ (Ne.symm htid)]

/-- Each operation of a run caches what its call has just fetched, if it has, and nothing else. -/
theorem caches (hv : (resolver P O).Valid h) (ho : Occurs h pre e) :
    Caches P ((machine O.mintClient).own e.tid pre) e.op :=
  hv.of_occurs (fun call => (body_caches call).mono (fun _ _ h => h) fun _ _ _ => trivial) ho

/-- What a valid answer to a request for keysets is. -/
theorem fetchedKeys_of_sent {ev : Event Res} (hsent : keysSent origin ev = true)
    (hvalid : ∀ result, keysResult ev = some (origin, result) →
      ∃ keysets, readKeysets P origin result = .ok keysets) :
    ∃ keysets refreshed, fetchedKeys P ev = some (origin, keysets, refreshed) := by
  unfold keysSent at hsent
  obtain ⟨⟨origin', result⟩, hresult, heq⟩ := (Option.any_eq_true _ _).mp hsent
  obtain rfl : origin' = origin := by simpa using heq
  obtain ⟨keysets, hread⟩ := hvalid result hresult
  obtain ⟨op, answer⟩ := ev
  cases op with
  | load origin =>
    cases answer with
    | cached _ => cases hresult
    | fetched result' =>
      obtain ⟨rfl, rfl⟩ := Prod.mk.inj (Option.some.inj hresult)
      refine ⟨keysets, false, ?_⟩
      show (readKeysets P origin result').toOption.map _ = _
      rw [hread]
      rfl
  | refetch origin =>
    cases answer with
    | none => cases hresult
    | some result' =>
      obtain ⟨rfl, rfl⟩ := Prod.mk.inj (Option.some.inj hresult)
      refine ⟨keysets, true, ?_⟩
      show (readKeysets P origin result').toOption.map _ = _
      rw [hread]
      rfl
  | store _ _ _ | fetch _ | clearCache | log _ | fallback _ _ _ | grant _ => cases hresult

/-- What has been fetched was asked for. -/
theorem keysSent_of_fetchedKeys {ev : Event Res} {keysets : Keysets} {refreshed : Bool}
    (h : fetchedKeys P ev = some (origin, keysets, refreshed)) : keysSent origin ev = true := by
  obtain ⟨op, answer⟩ := ev
  cases op with
  | load origin' =>
    cases answer with
    | cached _ => cases h
    | fetched result =>
      obtain ⟨keysets', -, heq⟩ := Option.map_eq_some_iff.mp h
      obtain ⟨rfl, -⟩ := Prod.mk.inj heq
      exact beq_self_eq_true origin'
  | refetch origin' =>
    cases answer with
    | none => cases h
    | some result =>
      obtain ⟨keysets', -, heq⟩ := Option.map_eq_some_iff.mp h
      obtain ⟨rfl, -⟩ := Prod.mk.inj heq
      exact beq_self_eq_true origin'
  | store _ _ _ | fetch _ | clearCache | log _ | fallback _ _ _ | grant _ => cases h

/-- The result of a request is what the environment of its step has. -/
theorem result_eq {result : FetchResult}
    (h : keysResult ((machine O.mintClient).event pre e) = some (origin, result)) :
    result = e.env.result := by
  obtain ⟨tid, op, env⟩ := e
  unfold Machine.event at h
  cases op with
  | load origin' =>
    simp only [exec] at h
    split at h
    · split_ifs at h
      · cases h
      · exact (Prod.mk.inj (Option.some.inj h)).2.symm
    · exact (Prod.mk.inj (Option.some.inj h)).2.symm
  | refetch origin' =>
    simp only [exec] at h
    split at h
    · split_ifs at h
      · cases h
      · exact (Prod.mk.inj (Option.some.inj h)).2.symm
    · cases h
  | store _ _ _ | fetch _ | clearCache | log _ | fallback _ _ _ | grant _ => cases h

/-! ## One step -/

/-- What is in the cache of a mint. -/
def cachedAt (origin : String) (h : History O.mintClient) : Option CacheEntry :=
  ((machine O.mintClient).after h).lookup origin

/-- A step that starts no request for a mint's keysets and stores none leaves its cache alone. -/
theorem cachedAt_concat (hsent : keysSent origin ((machine O.mintClient).event h x) = false)
    (hstore : ∀ keysets refreshed, x.op ≠ .store origin keysets refreshed)
    (hclear : x.op ≠ .clearCache) : cachedAt origin (h ++ [x]) = cachedAt origin h := by
  unfold cachedAt
  rw [Machine.after_concat]
  obtain ⟨tid, op, env⟩ := x
  unfold Machine.next
  dsimp only
  cases op with
  | load origin' =>
    simp only [exec]
    split <;> rfl
  | refetch origin' =>
    simp only [exec]
    split
    · rename_i entry hentry
      split
      · rfl
      · rename_i hrefreshed
        -- The cache of another mint is deleted.
        have hne : origin ≠ origin' := by
          rintro rfl
          simp [keysSent, keysResult, Machine.event, exec, hentry, hrefreshed] at hsent
        exact AList.lookup_erase_ne hne
    · rfl
  | store origin' keysets refreshed =>
    have hne : origin ≠ origin' := by
      rintro rfl
      exact hstore keysets refreshed rfl
    exact AList.lookup_insert_ne hne
  | clearCache => exact absurd rfl hclear
  | fetch _ | log _ | fallback _ _ _ | grant _ => rfl

/-- A step that stores a mint's keysets. -/
theorem cachedAt_store {keysets : Keysets} {refreshed : Bool}
    (hop : x.op = .store origin keysets refreshed) : cachedAt origin (h ++ [x]) =
      some ⟨keysets, x.env.now + O.mintClient.ttl, refreshed⟩ := by
  unfold cachedAt
  rw [Machine.after_concat, Machine.next, hop]
  exact AList.lookup_insert _

/-- A step that starts a request for the keysets of a mint whose entry has not expired: the entry is
not the result of such a request itself, and the step's is. -/
theorem refetch_of_keysSent {entry : CacheEntry}
    (hsent : keysSent origin ((machine O.mintClient).event h x) = true)
    (hentry : cachedAt origin h = some entry) (hnow : (x.env.now : ℚ) < entry.expiresAt) :
    entry.refreshed = false ∧ ∃ result,
      (machine O.mintClient).event h x = ⟨.refetch origin, some result⟩ := by
  unfold cachedAt at hentry
  obtain ⟨tid, op, env⟩ := x
  cases op with
  | load origin' =>
    have horigin : origin' = origin ∨ keysSent origin ((machine O.mintClient).event h
        ⟨tid, .load origin', env⟩) = false := by
      by_cases heq : origin' = origin
      · exact Or.inl heq
      · right
        unfold Machine.event keysSent
        simp only [exec]
        split
        · split_ifs
          · rfl
          · simpa [keysResult] using heq
        · simpa [keysResult] using heq
    rcases horigin with rfl | hnot
    · -- The entry is found.
      simp [Machine.event, exec, keysSent, keysResult, hentry, hnow] at hsent
    · rw [hnot] at hsent
      cases hsent
  | refetch origin' =>
    unfold Machine.event at hsent ⊢
    simp only [exec] at hsent ⊢
    cases hlookup : ((machine O.mintClient).after h).lookup origin' with
    | none => simp [hlookup, keysSent, keysResult] at hsent
    | some entry' =>
      cases hrefreshed : entry'.refreshed with
      | true => simp [hlookup, hrefreshed, keysSent, keysResult] at hsent
      | false =>
        obtain rfl : origin' = origin := by
          simpa [hlookup, hrefreshed, keysSent, keysResult] using hsent
        obtain rfl := Option.some.inj (hlookup.symm.trans hentry)
        exact ⟨hrefreshed, env.result, by simp [hrefreshed]⟩
  | store _ _ _ | fetch _ | clearCache | log _ | fallback _ _ _ | grant _ => cases hsent

/-! ## The bound -/

/-- How far the keysets of a mint have come since the step `e` started a request for them, before the
steps `later`. -/
inductive Stage (P : VoucherPlatform) (origin : String) (pre : History O.mintClient)
    (e : Step (machine O.mintClient)) (later : History O.mintClient) : Prop where
  /-- The answer has not been stored. -/
  | filling (hself : ∀ y ∈ later, y.tid ≠ e.tid)
    (hflight : ∀ tid, InFlight origin (pre ++ e :: later) tid ↔ tid = e.tid)
    (hcount : requests origin (pre ++ e :: later) = requests origin pre + 1)
  /-- It has, by the step `s`, and the entry may have been refreshed since. -/
  | filled (before after : History O.mintClient) (s : Step (machine O.mintClient))
    (entry : CacheEntry) (hsplit : later = before ++ s :: after)
    (hself : ∀ y ∈ before, y.tid ≠ e.tid) (htid : s.tid = e.tid)
    (hflight : ∀ tid, ¬ InFlight origin (pre ++ e :: later) tid)
    (hentry : cachedAt origin (pre ++ e :: later) = some entry)
    (hexpires : s.env.now + O.mintClient.ttl ≤ entry.expiresAt)
    (hcount : requests origin (pre ++ e :: later) = requests origin pre + 1 ∨
      entry.refreshed = true ∧ requests origin (pre ++ e :: later) = requests origin pre + 2)
  /-- A miss has started a second request, and its call `r` has not stored the answer. -/
  | refetching (before after : History O.mintClient) (s : Step (machine O.mintClient)) (r : ℕ)
    (hsplit : later = before ++ s :: after) (hself : ∀ y ∈ before, y.tid ≠ e.tid)
    (htid : s.tid = e.tid) (hflight : ∀ tid, InFlight origin (pre ++ e :: later) tid ↔ tid = r)
    (hfetched : ∃ ev keysets,
      ((machine O.mintClient).own r (pre ++ e :: later)).getLast? = some ev ∧
        fetchedKeys P ev = some (origin, keysets, true))
    (hcount : requests origin (pre ++ e :: later) = requests origin pre + 2)

/-- At most two requests have been started. -/
theorem Stage.requests_le (hs : Stage P origin pre e later) :
    requests origin (pre ++ e :: later) ≤ requests origin pre + 2 := by
  cases hs with
  | filling _ _ hcount => omega
  | filled _ _ _ _ _ _ _ _ _ _ hcount => omega
  | refetching _ _ _ _ _ _ _ _ _ hcount => omega

/-- The first request. -/
theorem Stage.start (hapart : Apart origin (pre ++ [e]))
    (hsent : keysSent origin ((machine O.mintClient).event pre e) = true) :
    Stage P origin pre e [] := by
  refine .filling (by simp) (fun tid => ?_) ?_
  · rw [inFlight_concat]
    split_ifs with htid
    · exact iff_of_true hsent htid
    · exact iff_of_false (hapart pre e Occurs.last hsent tid) htid
  · rw [requests_concat, if_pos hsent]

/-- A call whose request is in flight stores the answer in its next operation. -/
theorem store_of_inFlight (hv : (resolver P O).Valid (h ++ [x]))
    (hvalid : AnswersValidly P origin (h ++ [x])) (hx : InFlight origin h x.tid) :
    ∃ keysets refreshed, x.op = .store origin keysets refreshed := by
  obtain ⟨ev, hlast, hsent⟩ := hx
  obtain ⟨pre, e, ho, -, hev⟩ := mem_own.mp (List.mem_of_getLast? hlast)
  obtain ⟨keysets, refreshed, hfetched⟩ := fetchedKeys_of_sent (P := P) hsent fun result hresult =>
    hvalid pre e result (ho.mono (List.prefix_append _ _)) (hev ▸ hresult)
  exact ⟨keysets, refreshed, (caches hv Occurs.last _ _ _).mpr ⟨ev, hlast, hfetched⟩⟩

/-- A step that stores an answer: no request is in flight any more, where its own was the only one. -/
theorem not_inFlight_of_store {keysets : Keysets} {refreshed : Bool}
    (hop : x.op = .store origin keysets refreshed)
    (hflight : ∀ tid, InFlight origin h tid → tid = x.tid) (tid : ℕ) :
    ¬ InFlight origin (h ++ [x]) tid := by
  rw [inFlight_concat]
  split_ifs with htid
  · obtain ⟨n, op, env⟩ := x
    obtain rfl : op = .store origin keysets refreshed := hop
    simp [Machine.event, keysSent, keysResult]
  · exact fun hin => htid (hflight tid hin)

/-- A step that stores an answer starts no request. -/
theorem requests_store {keysets : Keysets} {refreshed : Bool}
    (hop : x.op = .store origin keysets refreshed) : requests origin (h ++ [x]) = requests origin h := by
  obtain ⟨n, op, env⟩ := x
  obtain rfl : op = .store origin keysets refreshed := hop
  rw [requests_concat]
  simp [Machine.event, keysSent, keysResult]

/-- Each step takes the keysets from one stage to the next. -/
theorem Stage.step (hs : Stage P origin pre e later)
    (hv : (resolver P O).Valid (pre ++ e :: later ++ [x]))
    (hapart : Apart origin (pre ++ e :: later ++ [x]))
    (hvalid : AnswersValidly P origin (pre ++ e :: later ++ [x]))
    (hforward : Forward (pre ++ e :: later ++ [x])) (hclear : x.op ≠ .clearCache)
    (hcached : StillCached e (later ++ [x])) : Stage P origin pre e (later ++ [x]) := by
  have hassoc : pre ++ e :: (later ++ [x]) = pre ++ e :: later ++ [x] := by simp
  by_cases hstore : ∃ keysets refreshed, x.op = .store origin keysets refreshed
  · -- The step stores what its call has fetched.
    obtain ⟨keysets, refreshed, hop⟩ := hstore
    obtain ⟨ev, hlast, hfetched⟩ := (caches hv Occurs.last origin keysets refreshed).mp hop
    have hin : InFlight origin (pre ++ e :: later) x.tid :=
      ⟨ev, hlast, keysSent_of_fetchedKeys hfetched⟩
    cases hs with
    | filling hself hflight hcount =>
      have hx : x.tid = e.tid := (hflight x.tid).mp hin
      refine .filled later [] x ⟨keysets, x.env.now + O.mintClient.ttl, refreshed⟩ rfl hself hx ?_ ?_
        (le_refl _) (Or.inl ?_)
      · rw [hassoc]
        exact not_inFlight_of_store hop fun tid htid => ((hflight tid).mp htid).trans hx.symm
      · rw [hassoc, cachedAt_store hop]
      · rw [hassoc, requests_store hop, hcount]
    | filled _ _ _ _ _ _ _ hflight => exact absurd hin (hflight x.tid)
    | refetching before after s r hsplit hself htid hflight hrefetch hcount =>
      have hx : x.tid = r := (hflight x.tid).mp hin
      -- What it stores is the result of the second request.
      obtain rfl : refreshed = true := by
        obtain ⟨ev', keysets', hlast', hfetched'⟩ := hrefetch
        rw [← hx, hlast] at hlast'
        rw [← Option.some.inj hlast', hfetched] at hfetched'
        have hpair := (Prod.mk.inj (Option.some.inj hfetched')).2
        exact (Prod.mk.inj hpair).2
      have hclock : s.env.now ≤ x.env.now := by
        refine (List.pairwise_append.mp hforward).2.2 s ?_ x (by simp)
        rw [hsplit]
        simp
      refine .filled before (after ++ [x]) s _ (by simp [hsplit]) hself htid ?_
        (hassoc ▸ cachedAt_store hop) ?_ (Or.inr ⟨rfl, ?_⟩)
      · rw [hassoc]
        exact not_inFlight_of_store hop fun tid htid => ((hflight tid).mp htid).trans hx.symm
      · have hcast : (s.env.now : ℚ) ≤ x.env.now := by exact_mod_cast hclock
        show (s.env.now : ℚ) + O.mintClient.ttl ≤ x.env.now + O.mintClient.ttl
        linarith
      · rw [hassoc, requests_store hop, hcount]
  · have hnot : ¬ InFlight origin (pre ++ e :: later) x.tid :=
      fun hin => hstore (store_of_inFlight hv hvalid hin)
    by_cases hsent : keysSent origin ((machine O.mintClient).event (pre ++ e :: later) x) = true
    · -- It starts a request, so none is in flight.
      have hnone := hapart _ x Occurs.last hsent
      cases hs with
      | filling _ hflight _ => exact absurd ((hflight e.tid).mpr rfl) (hnone e.tid)
      | filled before after s entry hsplit hself htid hflight hentry hexpires hcount =>
        have hnow : (x.env.now : ℚ) < entry.expiresAt := by
          have hlt := hcached before s (after ++ [x]) (by simp [hsplit]) hself htid x (by simp)
          linarith
        obtain ⟨hrefreshed, result, hevent⟩ := refetch_of_keysSent hsent hentry hnow
        obtain ⟨keysets, hread⟩ := hvalid _ x result Occurs.last (by rw [hevent]; rfl)
        refine .refetching before (after ++ [x]) s x.tid (by simp [hsplit]) hself htid
          (fun tid => ?_) ⟨(machine O.mintClient).event (pre ++ e :: later) x, keysets, ?_, ?_⟩ ?_
        · rw [hassoc, inFlight_concat]
          split_ifs with hx
          · exact iff_of_true hsent hx
          · exact iff_of_false (hflight tid) hx
        · rw [hassoc, Machine.own_concat_self, List.getLast?_concat]
        · rw [hevent]
          show (readKeysets P origin result).toOption.map _ = _
          rw [hread]
          rfl
        · rw [hassoc, requests_concat, if_pos hsent]
          rcases hcount with hcount | ⟨htrue, -⟩
          · omega
          · rw [hrefreshed] at htrue
            cases htrue
      | refetching _ _ _ r _ _ _ hflight => exact absurd ((hflight r).mpr rfl) (hnone r)
    · -- It does nothing about the keysets of this mint.
      have hidle : cachedAt origin (pre ++ e :: later ++ [x]) = cachedAt origin (pre ++ e :: later) :=
        cachedAt_concat (by simpa using hsent) (fun keysets refreshed hop => hstore ⟨_, _, hop⟩) hclear
      have hsame : requests origin (pre ++ e :: later ++ [x]) = requests origin (pre ++ e :: later) := by
        rw [requests_concat, if_neg hsent, Nat.add_zero]
      have hkeeps : ∀ tid, InFlight origin (pre ++ e :: later ++ [x]) tid ↔
          InFlight origin (pre ++ e :: later) tid := by
        intro tid
        rw [inFlight_concat]
        split_ifs with hx
        · exact iff_of_false hsent (hx ▸ hnot)
        · rfl
      cases hs with
      | filling hself hflight hcount =>
        refine .filling ?_ (fun tid => ?_) (by rw [hassoc, hsame, hcount])
        · intro y hy
          rcases List.mem_append.mp hy with hold | hnew
          · exact hself y hold
          · obtain rfl := List.mem_singleton.mp hnew
            exact fun heq => hnot ((hflight y.tid).mpr heq)
        · rw [hassoc, hkeeps, hflight]
      | filled before after s entry hsplit hself htid hflight hentry hexpires hcount =>
        refine .filled before (after ++ [x]) s entry (by simp [hsplit]) hself htid (fun tid => ?_)
          (by rw [hassoc, hidle, hentry]) hexpires (by rw [hassoc, hsame]; exact hcount)
        rw [hassoc, hkeeps]
        exact hflight tid
      | refetching before after s r hsplit hself htid hflight hfetched hcount =>
        have hr : x.tid ≠ r := fun heq => hnot ((hflight x.tid).mpr heq)
        refine .refetching before (after ++ [x]) s r (by simp [hsplit]) hself htid (fun tid => ?_) ?_
          (by rw [hassoc, hsame, hcount])
        · rw [hassoc, hkeeps, hflight]
        · rw [hassoc, Machine.own_concat_ne _ _ hr]
          exact hfetched

/-- What holds of a history holds of its beginnings. -/
theorem Apart.restrict {h' : History O.mintClient} (hapart : Apart origin h') (hp : h <+: h') :
    Apart origin h := fun pre e ho => hapart pre e (ho.mono hp)

theorem AnswersValidly.restrict {h' : History O.mintClient} (hvalid : AnswersValidly P origin h')
    (hp : h <+: h') : AnswersValidly P origin h := fun pre e result ho =>
  hvalid pre e result (ho.mono hp)

theorem StillCached.restrict (hcached : StillCached e (later ++ [x])) : StillCached e later := by
  intro before s after hsplit hself htid y hy
  exact hcached before s (after ++ [x]) (by simp [hsplit]) hself htid y (List.mem_append_left _ hy)

/-- From the first request on, each step takes the keysets from one stage to the next. -/
theorem stage_of_valid (hv : (resolver P O).Valid (pre ++ e :: later))
    (hsent : keysSent origin ((machine O.mintClient).event pre e) = true)
    (hcached : StillCached e later) (hclear : ∀ x ∈ later, x.op ≠ .clearCache)
    (hvalid : AnswersValidly P origin (pre ++ e :: later)) (hforward : Forward (pre ++ e :: later))
    (hapart : Apart origin (pre ++ e :: later)) : Stage P origin pre e later := by
  induction later using List.reverseRecOn with
  | nil => exact Stage.start hapart hsent
  | append_singleton later x ih =>
    have hassoc : pre ++ e :: (later ++ [x]) = pre ++ e :: later ++ [x] := by simp
    have hp : pre ++ e :: later <+: pre ++ e :: (later ++ [x]) := ⟨[x], hassoc.symm⟩
    have hstage : Stage P origin pre e later :=
      ih (hv.restrict hp) hcached.restrict (fun y hy => hclear y (List.mem_append_left _ hy))
        (hvalid.restrict hp) (hforward.sublist hp.sublist) (hapart.restrict hp)
    rw [hassoc] at hv hvalid hforward hapart
    exact hstage.step hv hapart hvalid hforward (hclear x (by simp)) hcached

/-- While what a request for a mint's keysets has fetched would still be cached, at most one other is
started, if no request is started while another is in flight. -/
theorem requests_le_two {c : (resolver P O).Config} (hc : (resolver P O).Reachable c)
    (hsplit : c.history = pre ++ e :: later)
    (hsent : keysSent origin ((machine O.mintClient).event pre e) = true)
    (hcached : StillCached e later) (hclear : ∀ x ∈ c.history, x.op ≠ .clearCache)
    (hvalid : AnswersValidly P origin c.history) (hforward : Forward c.history)
    (hapart : Apart origin c.history) :
    requests origin c.history ≤ requests origin pre + 2 := by
  have hv : (resolver P O).Valid c.history := System.Valid.of_reachable hc
  rw [hsplit] at hv hclear hvalid hforward hapart ⊢
  have hlater : ∀ x ∈ later, x.op ≠ .clearCache := fun x hx => hclear x (by simp [hx])
  exact (stage_of_valid hv hsent hcached hlater hvalid hforward hapart).requests_le

end Flight

namespace Sample

/-- A request for the key of a keyset that the caller has chosen. -/
def keyOf (keysetId : String) : Call := .getKey origin keysetId (.fin 8)

/-- The environment in which the mint answers with its keysets. -/
abbrev answered : Env := env keys

/-- What the mint publishes. -/
def published : Keysets := (readKeysets platform origin keys).toOption.getD ∅

theorem readKeysets_keys : readKeysets platform origin keys = .ok published := rfl

/-- Where the mint always answers with its keysets, it answers validly. -/
theorem answersValidly {h : History (options .deny).mintClient}
    (henv : ∀ e ∈ h, e.env.result = keys) : AnswersValidly platform (O := options .deny) origin h := by
  intro pre e result ho hresult
  rw [result_eq hresult, henv e (ho.mem (by simp))]
  exact ⟨published, readKeysets_keys⟩

/-- The operations of a call that misses, and finds its keyset missing still. -/
def miss : History (options .deny).mintClient :=
  [⟨0, .load origin, answered⟩, ⟨0, .store origin published false, answered⟩,
    ⟨0, .refetch origin, answered⟩, ⟨0, .store origin published true, answered⟩]

/-- Its second request is started once the answer to the first has been stored. -/
theorem apart_miss : Apart (O := options .deny) origin miss := by
  have hnil : ∀ tid, ¬ InFlight (O := options .deny) origin [] tid := fun tid ⟨_, hlast, _⟩ => by
    cases hlast
  rintro pre e ⟨post, hsplit⟩ hsent tid
  rcases pre with _ | ⟨a, _ | ⟨b, _ | ⟨c, _ | ⟨d, pre⟩⟩⟩⟩
  · exact hnil tid
  · obtain ⟨rfl, rfl, -⟩ : a = _ ∧ e = _ ∧ post = _ := by simpa [miss] using hsplit
    cases hsent
  · obtain ⟨rfl, rfl, -, -⟩ : a = _ ∧ b = _ ∧ e = _ ∧ post = _ := by simpa [miss] using hsplit
    -- The answer has been stored, and no other call has done anything.
    have hstored : ¬ InFlight (O := options .deny) origin
        (([] ++ [⟨0, .load origin, answered⟩]) ++ [⟨0, .store origin published false, answered⟩])
        tid := by
      rw [inFlight_concat, inFlight_concat]
      split_ifs
      · exact Bool.false_ne_true
      · exact hnil tid
    exact hstored
  · obtain ⟨rfl, rfl, rfl, rfl, -⟩ : a = _ ∧ b = _ ∧ c = _ ∧ e = _ ∧ post = _ := by
      simpa [miss] using hsplit
    cases hsent
  · have hlength := congrArg List.length hsplit
    simp [miss] at hlength

theorem exists_miss : ∃ c, (resolver platform (options .deny)).Reachable c ∧
    c.calls = [keyOf "00"] ∧ c.history = miss := by
  have hrun : ∃ c, (resolver platform (options .deny)).run (resolver platform (options .deny)).initial
      [.start (keyOf "00"), .run 0 answered, .run 0 answered, .run 0 answered, .run 0 answered] =
        some c ∧ c.calls = [keyOf "00"] ∧ c.history = miss := ⟨_, rfl, rfl, rfl⟩
  obtain ⟨c, hc, hcalls, hhistory⟩ := hrun
  exact ⟨c, System.reaches_of_run hc, hcalls, hhistory⟩

/-- What three calls do at the same time. -/
def flood : History (options .deny).mintClient :=
  [⟨0, .load origin, answered⟩, ⟨1, .load origin, answered⟩, ⟨2, .load origin, answered⟩]

theorem exists_flood : ∃ c, (resolver platform (options .deny)).Reachable c ∧
    c.calls = [keyOf "00", keyOf "01", keyOf "02"] ∧ c.history = flood := by
  have hrun : ∃ c, (resolver platform (options .deny)).run (resolver platform (options .deny)).initial
      [.start (keyOf "00"), .start (keyOf "01"), .start (keyOf "02"),
        .run 0 answered, .run 1 answered, .run 2 answered] = some c ∧
      c.calls = [keyOf "00", keyOf "01", keyOf "02"] ∧ c.history = flood := ⟨_, rfl, rfl, rfl⟩
  obtain ⟨c, hc, hcalls, hhistory⟩ := hrun
  exact ⟨c, System.reaches_of_run hc, hcalls, hhistory⟩

end Sample

/-- A call that misses has its keysets refreshed: the bound is met. -/
theorem requests_le_two_miss : requests (O := Sample.options .deny) Sample.origin Sample.miss ≤ 2 := by
  obtain ⟨c, hc, -, hhistory⟩ := Sample.exists_miss
  have hsent : keysSent Sample.origin ((machine (Sample.options .deny).mintClient).event []
      ⟨0, .load Sample.origin, Sample.answered⟩) = true := rfl
  have hcached : StillCached (O := Sample.options .deny) ⟨0, .load Sample.origin, Sample.answered⟩
      (Sample.miss.drop 1) := by
    intro before s after hsplit hself htid y hy
    have hnow : ∀ z ∈ Sample.miss, z.env.now = 1000 := by simp [Sample.miss, Sample.env]
    have hmem : ∀ z ∈ before ++ s :: after, z ∈ Sample.miss :=
      fun z hz => List.mem_of_mem_drop (hsplit ▸ hz)
    rw [hnow y (hmem y (by simp [hy])), hnow s (hmem s (by simp))]
    norm_num [MintClientOptions.ttl, Sample.options]
  have hsplit : c.history = [] ++ ⟨0, .load Sample.origin, Sample.answered⟩ :: Sample.miss.drop 1 :=
    hhistory
  have hle := requests_le_two hc hsplit hsent hcached
    (by simp [hhistory, Sample.miss]) (Sample.answersValidly (by simp [hhistory, Sample.miss, Sample.env]))
    (by simp [hhistory, Forward, Sample.miss]) (hhistory ▸ Sample.apart_miss)
  rw [hhistory] at hle
  exact hle

/-- Three calls that find the cache empty have each started a request before the first answer is
stored. -/
theorem requests_unbounded : ∃ c e later,
    (resolver Sample.platform (Sample.options .deny)).Reachable c ∧
      c.calls = [Sample.keyOf "00", Sample.keyOf "01", Sample.keyOf "02"] ∧
      c.history = e :: later ∧ StillCached (O := Sample.options .deny) e later ∧
      AnswersValidly Sample.platform (O := Sample.options .deny) Sample.origin c.history ∧
      Forward (O := Sample.options .deny) c.history ∧
      requests (O := Sample.options .deny) Sample.origin c.history = 3 := by
  obtain ⟨c, hc, hcalls, hhistory⟩ := Sample.exists_flood
  refine ⟨c, _, _, hc, hcalls, hhistory, ?_, Sample.answersValidly ?_, ?_, ?_⟩
  · -- The first call does nothing after its request.
    intro before s after hsplit hself htid
    have hs : s ∈ before ++ s :: after := by simp
    rw [← hsplit] at hs
    simp only [List.mem_cons, List.not_mem_nil, or_false] at hs
    rcases hs with rfl | rfl <;> cases htid
  · rw [hhistory]
    simp [Sample.flood, Sample.env]
  · rw [hhistory]
    simp [Forward, Sample.flood]
  · rw [hhistory]
    rfl

end NapAuth.Voucher

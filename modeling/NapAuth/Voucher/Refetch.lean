import NapAuth.Interleaving.Sequential
import NapAuth.Voucher.Fetches

/-!
# A refetch that fails

A call for the key of a keyset that the cache of its mint lacks deletes the cache and asks the mint
again. Where that request fails, nothing is left of what was cached (`eval_failed`): no keyset that
was served from the cache is served from it any more, however long the entry had still to live
(`failed_refetch_keeps_nothing`).
-/

namespace NapAuth.Voucher

open Interleaving

section Refetch

variable {P : VoucherPlatform} {M : MintClientOptions} {cache : Cache} {entry : CacheEntry}
  {origin mintUrl keysetId : String} {keyset : Keyset} {amount : JsNumber} {env : ℕ → Env}

/-! ## Calls that run alone -/

/-- What a call of `getKey` comes to when no other call runs. -/
abbrev evalGetKey (P : VoucherPlatform) (M : MintClientOptions) (mintUrl keysetId : String)
    (amount : JsNumber) (env : ℕ → Env) (cache : Cache) :
    Evaluated Res (Except MintUnavailableError String) Cache :=
  (getKey P M mintUrl keysetId amount).eval (exec M) env 0 cache

/-- A call for a key of a keyset that is cached is answered from the cache. -/
theorem eval_hit (horigin : requireAllowedOrigin P M mintUrl = .ok origin)
    (hentry : cache.lookup origin = some entry) (hlive : ((env 0).now : ℚ) < entry.expiresAt)
    (hkeyset : entry.keysets.lookup keysetId = some keyset) :
    evalGetKey P M mintUrl keysetId amount env cache =
      ⟨selectKey P origin keysetId amount (some keyset), [⟨.load origin, .cached entry.keysets⟩],
        cache⟩ := by
  have hload : exec M (.load origin) (env 0) cache = (.cached entry.keysets, cache) := by
    simp only [exec, hentry, if_pos hlive]
  unfold evalGetKey getKey loadKeysets
  simp only [horigin, Prog.op_bind, Prog.call_bind, Prog.eval, hload, Prog.pure_eq, Prog.pure_bind,
    hkeyset]

/-- A call for a key of a keyset that is not, and whose refetch fails, throws what the request threw
and leaves nothing cached of the mint. -/
theorem eval_failed {error : MintUnavailableError}
    (horigin : requireAllowedOrigin P M mintUrl = .ok origin)
    (hentry : cache.lookup origin = some entry) (hlive : ((env 0).now : ℚ) < entry.expiresAt)
    (hmissing : entry.keysets.lookup keysetId = none) (hfirst : entry.refreshed = false)
    (hfails : readKeysets P origin (env 1).result = .error error) :
    evalGetKey P M mintUrl keysetId amount env cache =
      ⟨.error error, [⟨.load origin, .cached entry.keysets⟩, ⟨.refetch origin, some (env 1).result⟩],
        cache.erase origin⟩ := by
  have hload : exec M (.load origin) (env 0) cache = (.cached entry.keysets, cache) := by
    simp only [exec, hentry, if_pos hlive]
  have hrefetch : exec M (.refetch origin) (env 1) cache =
      (some (env 1).result, cache.erase origin) := by
    simp only [exec, hentry, hfirst, Bool.false_eq_true, if_false]
  unfold evalGetKey getKey loadKeysets
  simp only [horigin, Prog.op_bind, Prog.call_bind, Prog.eval, hload, Prog.pure_eq, Prog.pure_bind,
    hmissing, refetchKey, hrefetch, cacheKeysets, hfails]

/-- A call that finds nothing cached of its mint sends a request. -/
theorem eval_uncached (horigin : requireAllowedOrigin P M mintUrl = .ok origin)
    (hentry : cache.lookup origin = none) :
    ∃ ev ∈ (evalGetKey P M mintUrl keysetId amount env cache).events,
      sent ev = some (keysRequest origin) := by
  have hload : exec M (.load origin) (env 0) cache = (.fetched (env 0).result, cache) := by
    simp only [exec, hentry]
  refine ⟨⟨.load origin, .fetched (env 0).result⟩, ?_, rfl⟩
  unfold evalGetKey getKey loadKeysets
  simp only [horigin, Prog.op_bind, Prog.call_bind, Prog.eval, hload]
  exact List.mem_cons_self

/-! ## Keysets that are served from the cache -/

/-- A keyset is served from the cache without a request, to the calls at a time on the client's
clock. -/
def ServedFromCache (P : VoucherPlatform) (M : MintClientOptions) (cache : Cache)
    (origin mintUrl keysetId : String) (keyset : Keyset) (t : ℤ) : Prop :=
  ∀ amount env, (env 0).now = t →
    (evalGetKey P M mintUrl keysetId amount env cache).value =
        selectKey P origin keysetId amount (some keyset) ∧
      ∀ ev ∈ (evalGetKey P M mintUrl keysetId amount env cache).events, sent ev = none

/-- What is cached is served. -/
theorem servedFromCache {t : ℤ} (horigin : requireAllowedOrigin P M mintUrl = .ok origin)
    (hentry : cache.lookup origin = some entry) (hlive : (t : ℚ) < entry.expiresAt)
    (hkeyset : entry.keysets.lookup keysetId = some keyset) :
    ServedFromCache P M cache origin mintUrl keysetId keyset t := by
  intro amount env hnow
  rw [eval_hit horigin hentry (hnow ▸ hlive) hkeyset]
  exact ⟨rfl, by simp [sent]⟩

/-- Where nothing is cached, nothing is served. -/
theorem not_servedFromCache {t : ℤ} (horigin : requireAllowedOrigin P M mintUrl = .ok origin)
    (hentry : cache.lookup origin = none) (henv : (env 0).now = t) :
    ¬ ServedFromCache P M cache origin mintUrl keysetId keyset t := by
  intro hserved
  obtain ⟨-, hquiet⟩ := hserved (.fin 0) env henv
  have hsends : ∃ ev ∈ (evalGetKey P M mintUrl keysetId (.fin 0) env cache).events,
      sent ev = some (keysRequest origin) := eval_uncached horigin hentry
  obtain ⟨ev, hmem, hsent⟩ := hsends
  rw [hquiet ev hmem] at hsent
  cases hsent

/-- Every keyset of a mint that was served from one cache at the time `now` is served from another,
until a given time. -/
def KeepsServing (P : VoucherPlatform) (M : MintClientOptions) (before after : Cache)
    (origin mintUrl : String) (now : ℤ) (expiresAt : ℚ) : Prop :=
  ∀ keysetId keyset, ServedFromCache P M before origin mintUrl keysetId keyset now →
    ∀ t : ℤ, now ≤ t → (t : ℚ) < expiresAt →
      ServedFromCache P M after origin mintUrl keysetId keyset t

/-! ## The failed refetch -/

/-- What a mint publishes has a keyset in it. -/
theorem exists_keyset {result : FetchResult} {keysets : Keysets}
    (hread : readKeysets P origin result = .ok keysets) :
    ∃ keysetId keyset, keysets.lookup keysetId = some keyset := by
  unfold readKeysets at hread
  cases hresponse : readResponse (keysRequest origin).url result with
  | error error =>
    rw [hresponse] at hread
    cases hread
  | ok payload =>
    rw [hresponse] at hread
    have hparse : parseKeysets P payload = .ok keysets := hread
    unfold parseKeysets at hparse
    split at hparse
    · cases hparse
    · dsimp only at hparse
      split_ifs at hparse with hempty
      obtain rfl := Except.ok.inj hparse
      -- Its list of entries is not empty.
      obtain ⟨entry, rest, hentries⟩ := List.exists_cons_of_ne_nil (by simpa using hempty)
      refine ⟨entry.1, entry.2, AList.mem_lookup_iff.mpr ?_⟩
      rw [hentries]
      exact List.mem_cons_self

/-- A call whose refetch fails leaves nothing cached of the mint: what was served from the cache before
it is served no more. -/
theorem failed_refetch_keeps_nothing {O : VoucherAclResolverOptions} {c : (resolver P O).Config}
    (hc : (resolver P O).Reachable c) {error : MintUnavailableError}
    (horigin : requireAllowedOrigin P O.mintClient mintUrl = .ok origin)
    (hentry : c.state.lookup origin = some entry) (hlive : ((env 0).now : ℚ) < entry.expiresAt)
    (hmissing : entry.keysets.lookup keysetId = none) (hfirst : entry.refreshed = false)
    (hfails : readKeysets P origin (env 1).result = .error error) :
    (evalGetKey P O.mintClient mintUrl keysetId amount env c.state).value = .error error ∧
      ¬ KeepsServing P O.mintClient c.state
        (evalGetKey P O.mintClient mintUrl keysetId amount env c.state).state origin mintUrl
        (env 0).now entry.expiresAt := by
  rw [eval_failed horigin hentry hlive hmissing hfirst hfails]
  refine ⟨rfl, fun hkeeps => ?_⟩
  -- The mint has published a keyset, which was served.
  have hpublished : Published P c.history origin entry.keysets := by
    rw [hc.coherent.state_eq] at hentry
    exact cache_published (System.Valid.of_reachable hc) hentry
  obtain ⟨pre, e, -, result, -, hread⟩ := hpublished
  obtain ⟨served, keyset, hkeyset⟩ := exists_keyset hread
  have hbefore := servedFromCache (t := (env 0).now) horigin hentry hlive hkeyset
  have hafter := hkeeps served keyset hbefore (env 0).now le_rfl hlive
  exact not_servedFromCache horigin (AList.lookup_erase _ _) rfl hafter

end Refetch

namespace Sample

/-- The keyset that the mint publishes. -/
def keysetId : String := "00ad268c4d1f5826"

/-- Its keys. -/
def keyset : Keyset := (published.lookup keysetId).getD ∅

/-- What is cached of the mint after the first call. -/
def cachedEntry : CacheEntry := ⟨published, 4600, false⟩

/-- The mint answers the first operation of a call, and then is down. -/
def down : ℕ → Env
  | 0 => answered
  | _ => env (.rejected "fetch failed")

/-- A second later it is up again. -/
def later (_ : ℕ) : Env := { env keys with now := 1001 }

/-- What the failed request throws. -/
def downError : MintUnavailableError := ⟨.unavailable, "mint request failed: fetch failed"⟩

theorem published_keyset : published.lookup keysetId = some keyset := rfl

theorem requireAllowedOrigin_origin :
    requireAllowedOrigin platform (options .deny).mintClient origin = .ok origin := rfl

/-- A call for a key of the keyset leaves it cached. -/
theorem exists_cached : ∃ c, (resolver platform (options .deny)).Reachable c ∧
    c.calls = [keyOf keysetId] ∧ c.state.lookup origin = some cachedEntry := by
  have hrun : ∃ c, (resolver platform (options .deny)).run (resolver platform (options .deny)).initial
      [.start (keyOf keysetId), .run 0 answered, .run 0 answered] = some c ∧
      c.calls = [keyOf keysetId] ∧
      c.state.lookup origin = some ⟨published, ((1000 : ℤ) : ℚ) + 3600, false⟩ := ⟨_, rfl, rfl, rfl⟩
  obtain ⟨c, hc, hcalls, hentry⟩ := hrun
  have hexpires : ((1000 : ℤ) : ℚ) + 3600 = 4600 := by norm_num
  rw [hexpires] at hentry
  exact ⟨c, System.reaches_of_run hc, hcalls, hentry⟩

end Sample

/-- A call for a keyset that the mint has never published, while the mint is down. -/
theorem failed_refetch_keeps_nothing_down :
    ∃ c, (resolver Sample.platform (Sample.options .deny)).Reachable c ∧
      (evalGetKey Sample.platform (Sample.options .deny).mintClient Sample.origin "00" (.fin 8)
        Sample.down c.state).value = .error Sample.downError ∧
      ¬ KeepsServing Sample.platform (Sample.options .deny).mintClient c.state
        (evalGetKey Sample.platform (Sample.options .deny).mintClient Sample.origin "00" (.fin 8)
          Sample.down c.state).state Sample.origin Sample.origin 1000 4600 := by
  obtain ⟨c, hc, -, hentry⟩ := Sample.exists_cached
  have hlive : (((Sample.down 0).now : ℤ) : ℚ) < Sample.cachedEntry.expiresAt := by
    norm_num [Sample.down, Sample.cachedEntry, Sample.env]
  exact ⟨c, hc, failed_refetch_keeps_nothing hc Sample.requireAllowedOrigin_origin hentry hlive rfl
    rfl rfl⟩

/-- The keys of the mint were cached for an hour, and are lost to a call for a keyset that it has never
published. -/
theorem cached_keys_lost :
    ∃ c, (resolver Sample.platform (Sample.options .deny)).Reachable c ∧
      c.state.lookup Sample.origin = some Sample.cachedEntry ∧
      ServedFromCache Sample.platform (Sample.options .deny).mintClient c.state Sample.origin
        Sample.origin Sample.keysetId Sample.keyset 1000 ∧
      ¬ ServedFromCache Sample.platform (Sample.options .deny).mintClient
        (evalGetKey Sample.platform (Sample.options .deny).mintClient Sample.origin "00" (.fin 8)
          Sample.down c.state).state Sample.origin Sample.origin Sample.keysetId Sample.keyset
        1001 := by
  obtain ⟨c, hc, -, hentry⟩ := Sample.exists_cached
  have hlive : (((Sample.down 0).now : ℤ) : ℚ) < Sample.cachedEntry.expiresAt := by
    norm_num [Sample.down, Sample.cachedEntry, Sample.env]
  refine ⟨c, hc, hentry, ?_, ?_⟩
  · exact servedFromCache Sample.requireAllowedOrigin_origin hentry hlive Sample.published_keyset
  · rw [eval_failed Sample.requireAllowedOrigin_origin hentry hlive rfl rfl rfl]
    have hclock : (Sample.later 0).now = 1001 := rfl
    exact not_servedFromCache Sample.requireAllowedOrigin_origin (AList.lookup_erase _ _) hclock

end NapAuth.Voucher

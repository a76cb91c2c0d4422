import NapAuth.Server.Runs

/-!
# Challenges over a run

What happens to a challenge from its creation on. It is created by one step and keeps what it was
issued with (`asIssued_eq`), once dropped it does not come back (`challengeAt_gone`), and it is
redeemed by at most one step, whose parameters it then keeps (`redeem_unique`,
`redeemed_persists`). Everything follows from what one step may do to a challenge
(`challenge_step`).
-/

namespace NapAuth

open Interleaving

variable {P : Platform} {O : NapServerOptions} {cb sb : Backend} {h h' pre pre' : History cb sb}
  {e e' : Step (machine cb sb)} {id : String} {r r' : ChallengeRecord}

/-- What is read under an id is what is held under it. -/
theorem challengeAt_of_get {record : Option ChallengeRecord}
    (hev : (machine cb sb).event h e = ⟨.challengeGet id, record⟩) : challengeAt h id = record :=
  (Machine.event_eq_iff _ |>.mp hev).2

/-- A challenge is held under its own id. -/
theorem challengeAt_id (hv : (server P O cb sb).Valid h) (hr : challengeAt h id = some r) :
    r.challengeId = id :=
  cb.challengeStore_lawful.get_id (sound_of_valid hv).challenges_wf hr

/-! ## Creation and eviction -/

/-- A challenge that has been dropped stays away. -/
theorem challengeAt_gone (hv : (server P O cb sb).Valid h') (hp : h <+: h') (hd : id ∈ drawn h)
    (hn : challengeAt h id = none) : challengeAt h' id = none := by
  refine hv.persist (P := fun h => challengeAt h id = none) hp hn fun h1 e hv1 hp1 hn1 => ?_
  rcases challenge_step hv1 id with heq | ⟨op, hop, hch⟩
  · rw [heq, hn1]
  · rw [hn1] at hch
    generalize hafter : challengeAt (h1 ++ [e]) id = after at hch
    cases hch with
    | same => rfl
    | created issue new =>
      -- The id would have been drawn twice.
      obtain ⟨draft, answer, hev, -, rfl, -⟩ := challengeOp?_eq_some hop
      have hdrawn : (challengeRecord draft e.env.draws).challengeId ∈ drawnBy e := by
        rw [drawnBy_eq hev]; simp [drawnBy, Draws.strings, challengeRecord]
      exact absurd (drawn_mono hp1 hd) (not_drawn hv1 Occurs.last hdrawn).2

/-- A step changes nothing about how a challenge was issued. -/
theorem asIssued_step (hv : (server P O cb sb).Valid (h ++ [e])) (hr : challengeAt h id = some r)
    (hr' : challengeAt (h ++ [e]) id = some r') : r'.asIssued = r.asIssued := by
  rcases challenge_step hv id with heq | ⟨op, -, hch⟩
  · rw [hr', hr] at heq
    rw [Option.some.inj heq]
  · rw [hr, hr'] at hch
    cases hch <;> rfl

/-- A challenge keeps what it was issued with. -/
theorem asIssued_eq (hv : (server P O cb sb).Valid h') (hp : h <+: h')
    (hr : challengeAt h id = some r) (hr' : challengeAt h' id = some r') :
    r'.asIssued = r.asIssued := by
  have hd : id ∈ drawn h := (sound_of_valid (hv.restrict hp)).id_drawn id r hr
  refine hv.persist (P := fun h => ∀ r', challengeAt h id = some r' → r'.asIssued = r.asIssued) hp
    (fun r' hr' => ?_) (fun h1 e hv1 hp1 ih r' hr' => ?_) r' hr'
  · rw [hr] at hr'
    rw [Option.some.inj hr']
  · cases hr1 : challengeAt h1 id with
    | none =>
      rw [challengeAt_gone hv1 (List.prefix_append _ _) (drawn_mono hp1 hd) hr1] at hr'
      cases hr'
    | some r1 => rw [asIssued_step hv1 hr1 hr', ih r1 hr1]

/-- At any two times of a run, a challenge is the same in what it was issued with. -/
theorem asIssued_agree (hv : (server P O cb sb).Valid h) (hp : pre <+: h) (hp' : pre' <+: h)
    (hr : challengeAt pre id = some r) (hr' : challengeAt pre' id = some r') :
    r.asIssued = r'.asIssued := by
  rcases List.prefix_or_prefix_of_prefix hp hp' with hle | hle
  · exact (asIssued_eq (hv.restrict hp') hle hr hr').symm
  · exact asIssued_eq (hv.restrict hp) hle hr' hr

/-- A challenge that a call has read is held with what it was issued with. -/
theorem asIssued_of_read (hv : (server P O cb sb).Valid h) {tid : ℕ} {id' : String}
    {challenge : ChallengeRecord}
    (hmem : ⟨.challengeGet id', some challenge⟩ ∈ (machine cb sb).own tid h)
    (hr : challengeAt h challenge.challengeId = some r) : r.asIssued = challenge.asIssued := by
  obtain ⟨pre, e, ho, -, hev⟩ := mem_own.mp hmem
  have hread := challengeAt_of_get hev
  have hid : challenge.challengeId = id' := challengeAt_id (hv.restrict ho.before) hread
  exact asIssued_eq hv ho.before hread (hid ▸ hr)

/-- A challenge that is held was created by a step, and it is as it was issued there. -/
theorem exists_challengeCreate (hv : (server P O cb sb).Valid h) (hr : challengeAt h id = some r) :
    ∃ (pre : History cb sb) (e : Step (machine cb sb)) (draft : ChallengeDraft), Occurs h pre e ∧
      e.op = .challengeCreate draft ∧
      r.asIssued = (challengeRecord draft e.env.draws).asIssued := by
  refine hv.rec_on (P := fun h => ∀ r, challengeAt h id = some r →
    ∃ (pre : History cb sb) (e : Step (machine cb sb)) (draft : ChallengeDraft), Occurs h pre e ∧
      e.op = .challengeCreate draft ∧ r.asIssued = (challengeRecord draft e.env.draws).asIssued)
    (fun r hr => ?_) (fun h e hv hv' ih r' hr' => ?_) r hr
  · exact absurd (sound_nil.id_drawn id r hr) (by simp)
  · cases hr : challengeAt h id with
    | some r =>
      obtain ⟨pre, e0, draft, ho, hop, hissue⟩ := ih r hr
      exact ⟨pre, e0, draft, ho.mono (List.prefix_append _ _), hop,
        (asIssued_step hv' hr hr').trans hissue⟩
    | none =>
      rcases challenge_step hv' id with heq | ⟨op, hop, hch⟩
      · rw [hr', hr] at heq
        cases heq
      · rw [hr, hr'] at hch
        cases hch with
        | created issue new =>
          obtain ⟨draft, answer, hev, -, rfl, -⟩ := challengeOp?_eq_some hop
          exact ⟨h, e, draft, Occurs.last, op_of_event hev, issue⟩

/-! ## Redemption -/

/-- A challenge that was redeemed with the given parameters. -/
structure ChallengeRecord.RedeemedBy (r : ChallengeRecord) (params : RedeemParams) : Prop where
  /-- It counts as redeemed. -/
  state : r.state = .redeemed
  /-- The event is on record. -/
  eventId : r.redeemedEventId = some params.eventId
  /-- The session is on record. -/
  sessionId : r.redeemedSessionId = some params.sessionId
  /-- So is the end of the result cache. -/
  resultCacheUntil : r.resultCacheUntil = some params.resultCacheUntil

/-- A redemption finds an issued challenge before its end, and redeems it. -/
theorem redeem_spec (hv : (server P O cb sb).Valid h) (ho : Occurs h pre e) {params : RedeemParams}
    (hev : (machine cb sb).event pre e = ⟨.redeem id params, .redeemed⟩) :
    ∃ r, challengeAt pre id = some r ∧ r.state = .issued ∧ params.now ≤ r.expiresAt ∧
      challengeAt (pre ++ [e]) id = some (r.redeem params) := by
  obtain ⟨hop, hanswer⟩ := Machine.event_eq_iff _ |>.mp hev
  obtain ⟨r, hr, hstate, halive, hafter⟩ := cb.challengeStore_lawful.redeem_redeemed
    (sound_of_valid (hv.restrict ho.before)).challenges_wf hanswer
  refine ⟨r, hr, hstate, halive, ?_⟩
  rw [challengeAt, Machine.after_concat, Machine.next, hop]
  exact hafter

/-- Nobody attempts to redeem a challenge after its end. -/
theorem redeem_alive (hv : (server P O cb sb).Valid h) (ho : Occurs h pre e) {params : RedeemParams}
    (hop : e.op = .redeem id params) (hr : challengeAt pre id = some r) :
    params.now ≤ r.expiresAt := by
  have hj := justified hv ho
  rw [hop] at hj
  -- The call has compared its time with the challenge that it has read, and that one ends when
  -- this one does.
  obtain ⟨-, ⟨id', challenge, hmem, rfl, halive⟩, -⟩ := hj
  have hissue := asIssued_of_read (hv.restrict ho.before) hmem hr
  have hend : r.expiresAt = challenge.expiresAt := (congrArg ChallengeRecord.expiresAt hissue :)
  omega

/-- Once a challenge is redeemed it stays so. -/
theorem redeemed_persists (hv : (server P O cb sb).Valid h) (ho : Occurs h pre e)
    {params : RedeemParams}
    (hev : (machine cb sb).event pre e = ⟨.redeem id params, .redeemed⟩)
    (hr : challengeAt h id = some r) : r.RedeemedBy params := by
  obtain ⟨r0, hr0, -, -, hafter⟩ := redeem_spec hv ho hev
  have hd : id ∈ drawn (pre ++ [e]) :=
    (sound_of_valid (hv.restrict ho)).id_drawn id _ hafter
  refine hv.persist (P := fun h => ∀ r, challengeAt h id = some r → r.RedeemedBy params) ho
    (fun r hr => ?_) (fun h1 e1 hv1 hp1 ih r' hr' => ?_) r hr
  · rw [hafter] at hr
    obtain rfl := Option.some.inj hr
    exact ⟨rfl, rfl, rfl, rfl⟩
  · cases hr1 : challengeAt h1 id with
    | none =>
      rw [challengeAt_gone hv1 (List.prefix_append _ _) (drawn_mono hp1 hd) hr1] at hr'
      cases hr'
    | some r1 =>
      have hred := ih r1 hr1
      rcases challenge_step hv1 id with heq | ⟨op, hop, hch⟩
      · rw [hr', hr1] at heq
        exact Option.some.inj heq ▸ hred
      · rw [hr1, hr'] at hch
        cases hch with
        | same => exact hred
        | redeemed issued alive => simp [hred.state] at issued
        | expired issued dead => simp [hred.state] at issued
        | failed issued next => simp [hred.state] at issued
        | late dead =>
          have halive := redeem_alive hv1 Occurs.last (op_of_event (challengeOp?_eq_some hop)) hr1
          omega

/-- A further attempt at a redeemed challenge is told so. -/
theorem redeem_again (hv : (server P O cb sb).Valid h) (ho : Occurs h pre e) {params : RedeemParams}
    {status : RedeemStatus} (hev : (machine cb sb).event pre e = ⟨.redeem id params, status⟩)
    (hr : challengeAt pre id = some r) (hstate : r.state = .redeemed) :
    status = .alreadyRedeemed := by
  obtain ⟨hop, hanswer⟩ := Machine.event_eq_iff _ |>.mp hev
  rw [← hanswer]
  exact cb.challengeStore_lawful.redeem_again
    (sound_of_valid (hv.restrict ho.before)).challenges_wf hr hstate (redeem_alive hv ho hop hr)

/-- A challenge is redeemed at most once. -/
theorem redeem_unique (hv : (server P O cb sb).Valid h) (ho : Occurs h pre e)
    (ho' : Occurs h pre' e') {params params' : RedeemParams}
    (hev : (machine cb sb).event pre e = ⟨.redeem id params, .redeemed⟩)
    (hev' : (machine cb sb).event pre' e' = ⟨.redeem id params', .redeemed⟩) :
    pre = pre' ∧ e = e' := by
  -- A second redemption would have found a challenge that is redeemed.
  have hsecond : ∀ {p p' : History cb sb} {s s' : Step (machine cb sb)} {q q' : RedeemParams},
      Occurs h p s → Occurs p p' s' → (machine cb sb).event p s = ⟨.redeem id q, .redeemed⟩ →
      (machine cb sb).event p' s' = ⟨.redeem id q', .redeemed⟩ → False := by
    intro p p' s s' q q' hos hos' hs hs'
    obtain ⟨r, hr, hissued, -⟩ := redeem_spec hv hos hs
    have hred := redeemed_persists (hv.restrict hos.before) hos' hs' hr
    rw [hred.state] at hissued
    cases hissued
  rcases ho.trichotomy ho' with heq | hlt | hlt
  · exact heq
  · exact (hsecond ho hlt hev hev').elim
  · exact (hsecond ho' hlt hev' hev).elim

/-- A challenge with a session on record was redeemed by a step, with the parameters that are on
record. -/
theorem exists_redeem (hv : (server P O cb sb).Valid h) (hr : challengeAt h id = some r)
    (hs : r.redeemedSessionId ≠ none) :
    ∃ pre e params, Occurs h pre e ∧
      (machine cb sb).event pre e = ⟨.redeem id params, .redeemed⟩ ∧ r.RedeemedBy params := by
  suffices hstep : ∃ pre e params, Occurs h pre e ∧
      (machine cb sb).event pre e = ⟨.redeem id params, .redeemed⟩ by
    obtain ⟨pre, e, params, ho, hev⟩ := hstep
    exact ⟨pre, e, params, ho, hev, redeemed_persists hv ho hev hr⟩
  refine hv.rec_on (P := fun h => ∀ r, challengeAt h id = some r → r.redeemedSessionId ≠ none →
    ∃ pre e params, Occurs h pre e ∧
      (machine cb sb).event pre e = ⟨.redeem id params, .redeemed⟩)
    (fun r hr => ?_) (fun h e hv hv' ih r' hr' hs' => ?_) r hr hs
  · exact absurd (sound_nil.id_drawn id r hr) (by simp)
  · have hold : ∀ r, challengeAt h id = some r → r.redeemedSessionId ≠ none →
        ∃ pre e1 params, Occurs (h ++ [e]) pre e1 ∧
          (machine cb sb).event pre e1 = ⟨.redeem id params, .redeemed⟩ := by
      intro r hr hs
      obtain ⟨pre, e1, params, ho, hev⟩ := ih r hr hs
      exact ⟨pre, e1, params, ho.mono (List.prefix_append _ _), hev⟩
    rcases challenge_step hv' id with heq | ⟨op, hop, hch⟩
    · exact hold r' (heq ▸ hr') hs'
    · rw [hr'] at hch
      generalize hbefore : challengeAt h id = before at hch
      cases hch with
      | same => exact hold r' hbefore hs'
      | created issue new => exact absurd new.redeemedSessionId hs'
      | redeemed issued alive => exact ⟨h, e, _, Occurs.last, challengeOp?_eq_some hop⟩
      | late dead => exact hold _ hbefore hs'
      | expired issued dead => exact hold _ hbefore hs'
      | failed issued next => exact hold _ hbefore hs'

/-- With one clock, a redeemed challenge is held until the end of its result cache. -/
theorem redeemed_held (hv : (server P O cb sb).Valid h) (hone : OneClock h) (ho : Occurs h pre e)
    {params : RedeemParams}
    (hev : (machine cb sb).event pre e = ⟨.redeem id params, .redeemed⟩)
    (hcached : ∀ e' ∈ h, e'.env.now ≤ params.resultCacheUntil) :
    ∃ r, challengeAt h id = some r := by
  obtain ⟨r0, -, -, -, hafter⟩ := redeem_spec hv ho hev
  refine hv.persist (P := fun h1 => h1 <+: h → ∃ r, challengeAt h1 id = some r) ho
    (fun _ => ⟨_, hafter⟩) (fun h1 e1 hv1 hp1 ih hp => ?_) List.prefix_rfl
  obtain ⟨r1, hr1⟩ := ih ((List.prefix_append _ _).trans hp)
  have ho1 : Occurs h1 pre e := hp1
  have hred := redeemed_persists (hv.restrict ((List.prefix_append _ _).trans hp)) ho1 hev hr1
  rcases challenge_step hv1 id with heq | ⟨op, hop, hch⟩
  · exact ⟨r1, by rw [heq, hr1]⟩
  · rw [hr1] at hch
    generalize hafter1 : challengeAt (h1 ++ [e1]) id = after at hch
    cases hch with
    | evicted dead =>
      -- It would have been dropped before the end of its result cache.
      obtain ⟨draft, answer, -, rfl, -, -⟩ := challengeOp?_eq_some hop
      have hmem : e1 ∈ h := hp.mem (by simp)
      have hsame := hone.same e1 hmem
      have hle := hcached e1 hmem
      rw [ChallengeRecord.retainUntil, hred.resultCacheUntil, Option.getD_some] at dead
      omega
    | _ => exact ⟨_, rfl⟩

end NapAuth

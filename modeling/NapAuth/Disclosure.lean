import NapAuth.Completion
import NapAuth.Revocation

/-!
# Who is answered with a token

Access tokens, refresh tokens and step-up tokens are bearer tokens: whoever presents one is taken for
its principal. This file says what that comes to over a run. A string is a token of one session for
ever, whatever its kind and whenever it was drawn (`token_session`). So, if every client signs with its
own key and presents the tokens that it was answered with, and no others, then every token goes to the
owner of the key that the session is for, through any number of refreshes, and every request that a
guard admits was sent by that owner (`admitted_to_owner`). Nobody else ends a session either, but an
operator or the ACL (`ended_by_owner`).
-/

namespace NapAuth

open Interleaving

variable {P : Platform} {O : NapServerOptions} {cb sb : Backend} {h h' pre pre' : History cb sb}
  {e e' : Step (machine cb sb)} {id id' token : String} {r r' s : SessionRecord} {tid : ℕ}

/-! ## Tokens and sessions -/

/-- The tokens of a session, the refresh token that it has exchanged last among them. -/
def SessionRecord.tokens (r : SessionRecord) : List String :=
  r.accessToken :: (r.refreshToken.toList ++ r.previousRefreshToken.toList ++ r.stepUpToken.toList)

/-- The step has drawn the token for the session under an id: it has created the session, or rotated
its tokens. -/
structure IssuedBy (id token : String) (h pre : History cb sb) (e : Step (machine cb sb)) : Prop where
  /-- The step was executed. -/
  occurs : Occurs h pre e
  /-- It has drawn the token. -/
  draws : token ∈ drawnBy e
  /-- It was for the session. -/
  session : (∃ draft, e.op = .createForChallenge draft ∧ id = base64Url e.env.draws.id) ∨
    ∃ draft, e.op = .rotateRefreshToken id draft

/-- Every token of a session that is held was drawn for it. -/
theorem exists_issuedBy (hv : (server P O cb sb).Valid h) (hr : rowsAt h id = some r)
    (ht : token ∈ r.tokens) : ∃ pre e, IssuedBy id token h pre e := by
  refine hv.rec_on (P := fun h => ∀ r, rowsAt h id = some r → token ∈ r.tokens →
    ∃ pre e, IssuedBy id token h pre e) (fun r hr => ?_) (fun h e hv hv' ih r' hr' ht => ?_) r hr ht
  · exact absurd (sound_nil.keys_drawn id r hr r.sessionId (by simp)) (by simp)
  have hold : ∀ r, rowsAt h id = some r → token ∈ r.tokens →
      ∃ pre e', IssuedBy id token (h ++ [e]) pre e' := by
    intro r hr ht
    obtain ⟨pre, e', hi⟩ := ih r hr ht
    exact ⟨pre, e', hi.occurs.mono (List.prefix_append _ _), hi.draws, hi.session⟩
  rcases rowsAt_cases hv' hr' with hr | ⟨draft, hev, hnew, -⟩ | ⟨draft, r, hev, hrot, hr⟩ |
    ⟨-, r, t, rfl, hr⟩
  · exact hold r' hr ht
  · have hid := (rowsAt_id hv' hr').symm
    rw [hnew] at hid ht
    refine ⟨h, e, Occurs.last, ?_, Or.inl ⟨draft, op_of_event hev, hid⟩⟩
    rw [drawnBy, op_of_event hev]
    simp only [SessionRecord.tokens, createSessionRecord, List.mem_cons, List.mem_append,
      Option.mem_toList, Option.map_eq_some_iff, reduceCtorEq, or_false, Draws.strings] at ht ⊢
    rcases ht with rfl | ht | ⟨-, -, rfl⟩
    · simp
    · split_ifs at ht
      simp [(Option.some.inj ht).symm]
    · simp
  · -- A rotation draws two of the tokens, and the others were there.
    rw [hrot] at ht
    simp only [SessionRecord.tokens, SessionRecord.rotate, List.mem_cons, List.mem_append,
      Option.mem_toList, Option.some.injEq] at ht
    have hdraw : drawnBy e = e.env.draws.strings := by rw [drawnBy, op_of_event hev]
    rcases ht with rfl | (rfl | ht) | ht
    · exact ⟨h, e, Occurs.last, by simp [hdraw, Draws.strings, rotateParams],
        Or.inr ⟨draft, op_of_event hev⟩⟩
    · exact ⟨h, e, Occurs.last, by simp [hdraw, Draws.strings, rotateParams],
        Or.inr ⟨draft, op_of_event hev⟩⟩
    · exact hold r hr (by simp [SessionRecord.tokens, ht])
    · exact hold r hr (by simp [SessionRecord.tokens, ht])
  · exact hold r hr ht

/-- A token is drawn for one session. -/
theorem IssuedBy.unique (hv : (server P O cb sb).Valid h) (hi : IssuedBy id token h pre e)
    (hi' : IssuedBy id' token h pre' e') : pre = pre' ∧ e = e' ∧ id = id' := by
  obtain ⟨rfl, rfl⟩ := drawn_unique hv hi.occurs hi'.occurs hi.draws hi'.draws
  refine ⟨rfl, rfl, ?_⟩
  rcases hi.session with ⟨draft, hop, rfl⟩ | ⟨draft, hop⟩ <;>
    rcases hi'.session with ⟨draft', hop', rfl⟩ | ⟨draft', hop'⟩
  · rfl
  · cases hop.symm.trans hop'
  · cases hop.symm.trans hop'
  · exact (Op.rotateRefreshToken.inj (hop.symm.trans hop')).1

/-- A string is a token of one session and of one principal for ever, whatever its kind. -/
theorem token_session (hv : (server P O cb sb).Valid h) (hp : pre <+: h) (hp' : pre' <+: h)
    (hr : rowsAt pre id = some r) (hr' : rowsAt pre' id' = some r') (ht : token ∈ r.tokens)
    (ht' : token ∈ r'.tokens) : id = id' ∧ r.principalPubkey = r'.principalPubkey := by
  obtain ⟨p, e, hi⟩ := exists_issuedBy (hv.restrict hp) hr ht
  obtain ⟨p', e', hi'⟩ := exists_issuedBy (hv.restrict hp') hr' ht'
  obtain ⟨-, -, rfl⟩ := IssuedBy.unique hv ⟨hi.occurs.mono hp, hi.draws, hi.session⟩
    ⟨hi'.occurs.mono hp', hi'.draws, hi'.session⟩
  exact ⟨rfl, (congrArg SessionRecord.principalPubkey (asCreated_agree hv hp hp' hr hr') :)⟩

/-! ## Answers -/

/-- A completion or a refresh was answered with the session `s` and its tokens. -/
def GivenTokens (c : (server P O cb sb).Config) (tid : ℕ) (s : SessionRecord) : Prop :=
  (∃ input, Returned c tid (.verifyCompletion input) (.ok s)) ∨
    ∃ input, Returned c tid (.refreshSession input) (.ok s)

/-- Each client signs with its own key only, and presents the tokens that it was answered with and no
others. `agent` says which client has sent a request, and `owner` which client has a key. A string
that the server has never drawn is no token, and anybody may present it. -/
structure Discreet {A : Type} (c : (server P O cb sb).Config) (agent : ℕ → A) (owner : String → A) :
    Prop where
  /-- A request with a signed event comes from the owner of the key. -/
  signs : ∀ tid th input event, c.threads[tid]? = some th → th.call = .verifyCompletion input →
    parseNostrAuthorizationHeader P (input.authorization.getD "") = some event →
    P.verifyEvent event = true → agent tid = owner event.pubkey
  /-- A refresh token comes from a client that was answered with it. -/
  refreshes : ∀ tid th input token, c.threads[tid]? = some th → th.call = .refreshSession input →
    input.refreshToken = some token → token ∈ drawn c.history →
    ∃ tid' s, GivenTokens c tid' s ∧ s.refreshToken = some token ∧ agent tid' = agent tid
  /-- An access token comes from a client that was answered with it. -/
  accesses : ∀ tid th req token, c.threads[tid]? = some th →
    (th.call = .logout req ∨ ∃ hasResolver, th.call = .loadGuardContext req hasResolver) →
    presentedToken req = some token → token ∈ drawn c.history →
    ∃ tid' s, GivenTokens c tid' s ∧ s.accessToken = token ∧ agent tid' = agent tid

/-- The rotation that a refresh was answered for. -/
structure Rotation (c : (server P O cb sb).Config) (tid : ℕ) (s : SessionRecord)
    (pre : History cb sb) (e : Step (machine cb sb)) (draft : RotateDraft) : Prop where
  /-- The call is a refresh with the expected token. -/
  presented : ∃ th input, c.threads[tid]? = some th ∧ th.call = .refreshSession input ∧
    input.refreshToken = some draft.expectedRefreshToken
  /-- The step was executed. -/
  occurs : Occurs c.history pre e
  /-- It is the rotation of the session. -/
  rotates : (machine cb sb).event pre e = ⟨.rotateRefreshToken s.sessionId draft, some s⟩

variable {c : (server P O cb sb).Config}

/-- A refresh that was answered has rotated its session. -/
theorem exists_rotation (hc : (server P O cb sb).Reachable c) {input : RefreshSessionInput}
    (hr : Returned c tid (.refreshSession input) (.ok s)) :
    ∃ pre e draft, Rotation c tid s pre e draft := by
  obtain ⟨-, -, pre, e, session, -, draft, -, ho, -, -, -, -, hev, hpres, -⟩ :=
    exists_rotate_of_ok hc hr
  have hv := System.Valid.of_reachable hc
  obtain ⟨-, -, -, -, -, hafter⟩ := rotate_spec (hv.restrict ho) hev
  obtain ⟨th, hth, hcall, -⟩ := hr
  exact ⟨pre, e, draft, ⟨th, input, hth, hcall, hpres⟩, ho,
    (rowsAt_id (hv.restrict ho) hafter).symm ▸ hev⟩

/-- A session that was answered was held. -/
theorem GivenTokens.held (hc : (server P O cb sb).Reachable c) (ha : GivenTokens c tid s) :
    ∃ p, p <+: c.history ∧ rowsAt p s.sessionId = some s := by
  have hv := System.Valid.of_reachable hc
  rcases ha with ⟨input, hr⟩ | ⟨input, hr⟩
  · obtain ⟨j, ha⟩ := (explained hc hr).resolve_left (by simp)
    obtain ⟨-, -, p, -, -, -, -, hp, hrow, -⟩ := ha.create hv
    exact ⟨p, hp, hrow⟩
  · obtain ⟨pre, e, draft, hrot⟩ := exists_rotation hc hr
    obtain ⟨-, -, -, -, -, hafter⟩ := rotate_spec (hv.restrict hrot.occurs) hrot.rotates
    exact ⟨pre ++ [e], hrot.occurs, hafter⟩

section Confinement

variable {A : Type} {agent : ℕ → A} {owner : String → A}

/-- A completion that succeeds was sent by the owner of the session's key. -/
theorem Discreet.completion (hd : Discreet c agent owner) (hc : (server P O cb sb).Reachable c)
    {input : VerifyCompletionInput} (hr : Returned c tid (.verifyCompletion input) (.ok s)) :
    agent tid = owner s.principalPubkey := by
  have hv := System.Valid.of_reachable hc
  obtain ⟨j, ha⟩ := (explained hc hr).resolve_left (by simp)
  obtain ⟨p, hp, hread, hid⟩ := ha.read hv
  obtain ⟨-, -, p', -, -, -, -, hp', hrow, hcid⟩ := ha.create hv
  have hprincipal := (principal_of_challenge hv hp' hrow hp (hcid ▸ hid ▸ hread)).1
  obtain ⟨th, hth, hcall, -⟩ := hr
  rw [hprincipal, ha.holds.principal]
  exact hd.signs tid th input _ hth hcall ha.holds.proven.decoded ha.holds.proven.signature

/-- A refresh that succeeds was sent by the owner of the session's key. The induction is on the time
of the rotation: the token that it exchanges was answered before. -/
theorem Discreet.rotation (hd : Discreet c agent owner) (hc : (server P O cb sb).Reachable c)
    {draft : RotateDraft} (hrot : Rotation c tid s pre e draft) :
    agent tid = owner s.principalPubkey := by
  have hv := System.Valid.of_reachable hc
  induction hn : pre.length using Nat.strong_induction_on generalizing tid s pre e draft with
  | _ n ih =>
  obtain ⟨r, hrow, hcur, -, hnew, -⟩ := rotate_spec (hv.restrict hrot.occurs) hrot.rotates
  obtain ⟨th, input, hth, hcall, hpres⟩ := hrot.presented
  have hp := hrot.occurs.before
  have htoken : draft.expectedRefreshToken ∈ r.tokens := by simp [SessionRecord.tokens, hcur]
  obtain ⟨p, e1, hi⟩ := exists_issuedBy (hv.restrict hp) hrow htoken
  have hdrawn := drawn_of_occurs (hi.occurs.mono hp) hi.draws
  obtain ⟨tid', s', ha, hs', hagent⟩ := hd.refreshes tid th input _ hth hcall hpres hdrawn
  -- Both have the token, so they are one session.
  obtain ⟨p', hp', hrow'⟩ := ha.held hc
  have htoken' : draft.expectedRefreshToken ∈ s'.tokens := by simp [SessionRecord.tokens, hs']
  have hsame := (token_session hv hp hp' hrow hrow' htoken htoken').2
  have hprincipal : s.principalPubkey = s'.principalPubkey := by
    rw [hnew, SessionRecord.rotate_principalPubkey, hsame]
  rw [hprincipal, ← hagent]
  rcases ha with ⟨input', hr'⟩ | ⟨input', hr'⟩
  · exact hd.completion hc hr'
  · obtain ⟨pre', e', draft', hrot'⟩ := exists_rotation hc hr'
    refine ih pre'.length ?_ hrot' rfl
    -- The rotation that was answered with the token has drawn it.
    obtain ⟨r', -, -, -, hnew', -⟩ := rotate_spec (hv.restrict hrot'.occurs) hrot'.rotates
    have hdraws' : draft.expectedRefreshToken ∈ drawnBy e' := by
      rw [hnew'] at hs'
      rw [drawnBy, op_of_event hrot'.rotates, ← Option.some.inj hs']
      simp [Draws.strings, rotateParams]
    obtain ⟨rfl, -⟩ := drawn_unique hv (hi.occurs.mono hp) hrot'.occurs hi.draws hdraws'
    have hle := hi.occurs.length_le
    simp only [List.length_append, List.length_singleton] at hle
    omega

/-- Whoever is answered with the tokens of a session owns its key. -/
theorem Discreet.answered (hd : Discreet c agent owner) (hc : (server P O cb sb).Reachable c)
    (ha : GivenTokens c tid s) : agent tid = owner s.principalPubkey := by
  rcases ha with ⟨input, hr⟩ | ⟨input, hr⟩
  · exact hd.completion hc hr
  · obtain ⟨pre, e, draft, hrot⟩ := exists_rotation hc hr
    exact hd.rotation hc hrot

/-- Whoever presents an access token of a session that is held owns its key. -/
theorem Discreet.presents (hd : Discreet c agent owner) (hc : (server P O cb sb).Reachable c)
    {th : Thread Res Call Outcome} {req : GuardRequest} (hth : c.threads[tid]? = some th)
    (hcall : th.call = .logout req ∨ ∃ hasResolver, th.call = .loadGuardContext req hasResolver)
    (hpres : presentedToken req = some s.accessToken) (hp : pre <+: c.history)
    (hrow : rowsAt pre s.sessionId = some s) : agent tid = owner s.principalPubkey := by
  have hv := System.Valid.of_reachable hc
  have htoken : s.accessToken ∈ s.tokens := List.mem_cons_self
  obtain ⟨p, e, hi⟩ := exists_issuedBy (hv.restrict hp) hrow htoken
  have hdrawn := drawn_of_occurs (hi.occurs.mono hp) hi.draws
  obtain ⟨tid', s', ha, hs', hagent⟩ := hd.accesses tid th req _ hth hcall hpres hdrawn
  obtain ⟨p', hp', hrow'⟩ := ha.held hc
  have htoken' : s.accessToken ∈ s'.tokens := hs' ▸ List.mem_cons_self
  rw [(token_session hv hp hp' hrow hrow' htoken htoken').2, ← hagent]
  exact hd.answered hc ha

/-- Whoever presents a token of a session to a refresh owns its key. -/
theorem Discreet.presentsRefresh (hd : Discreet c agent owner) (hc : (server P O cb sb).Reachable c)
    {th : Thread Res Call Outcome} {input : RefreshSessionInput} (hth : c.threads[tid]? = some th)
    (hcall : th.call = .refreshSession input) (hpres : input.refreshToken = some token)
    (hp : pre <+: c.history) (hrow : rowsAt pre id = some r) (ht : token ∈ r.tokens) :
    agent tid = owner r.principalPubkey := by
  have hv := System.Valid.of_reachable hc
  obtain ⟨p, e, hi⟩ := exists_issuedBy (hv.restrict hp) hrow ht
  have hdrawn := drawn_of_occurs (hi.occurs.mono hp) hi.draws
  obtain ⟨tid', s', ha, hs', hagent⟩ := hd.refreshes tid th input _ hth hcall hpres hdrawn
  obtain ⟨p', hp', hrow'⟩ := ha.held hc
  have htoken' : token ∈ s'.tokens := by simp [SessionRecord.tokens, hs']
  rw [(token_session hv hp hp' hrow hrow' ht htoken').2, ← hagent]
  exact hd.answered hc ha

end Confinement

/-- With discreet clients, tokens stay with their principals: whoever is answered with the tokens of a
session owns the key that the session is for, and so does whoever sends a request that a guard acts
for. -/
theorem admitted_to_owner {A : Type} {agent : ℕ → A} {owner : String → A}
    (hc : (server P O cb sb).Reachable c) (hd : Discreet c agent owner) :
    (∀ tid s, GivenTokens c tid s → agent tid = owner s.principalPubkey) ∧
    ∀ tid req hasResolver context s,
      Returned c tid (.loadGuardContext req hasResolver) (.guarded context) →
      context.session? = some s → agent tid = owner s.principalPubkey := by
  refine ⟨fun tid s ha => hd.answered hc ha, fun tid req hasResolver context s hr hs => ?_⟩
  have hv := System.Valid.of_reachable hc
  obtain ⟨hnone, hlookup⟩ := guard_lookup hc hr
  cases htoken : presentedToken req with
  | none =>
    rw [hnone htoken] at hs
    cases hs
  | some token =>
    obtain ⟨pre, e, found, ho, -, hev, hfound⟩ := hlookup token htoken
    obtain ⟨hrow, rfl, -, -⟩ := held_of_admitted (hv.restrict ho) hev (hfound ▸ hs)
    obtain ⟨th, hth, hcall, -⟩ := hr
    exact hd.presents hc hth (Or.inr ⟨hasResolver, hcall⟩) htoken ho.before hrow

namespace Sample

/-- The calls of a client that logs in, refreshes, makes a request, and refreshes with its old token. -/
def clientCalls : List Call :=
  [issue none, complete false none, refresh 1, guard (accessToken 2), refresh 1]

/-- Who has sent a request: a stranger has asked for the challenge. -/
def sender (tid : ℕ) : String := if tid = 0 then "" else pubkey

/-- What is to be computed of those calls. -/
def ownTokens (c : refresher.Config) : Bool :=
  (session? c 1).any (fun s => s.refreshToken == some (base64Url (draws 1).refresh)) &&
  (session? c 2).any (fun s => s.accessToken == accessToken 2) &&
  (guarded? c 3).isSome && presentedToken (bearer (accessToken 2)) == some (accessToken 2) &&
  (Backend.memory.view.rows c.state.sessions (sessionId 1)).any fun r => r.revokedAt.isSome

/-- The client only signs with its own key, and only presents tokens that it was answered with. -/
theorem exists_discreet : ∃ c : refresher.Config, refresher.Reachable c ∧ c.calls = clientCalls ∧
    Discreet c sender (fun key => key) ∧ (∃ s, session? c 2 = some s) ∧ (∃ s, guarded? c 3 = some s) ∧
    ∃ r, rowsAt c.history (sessionId 1) = some r ∧ r.revokedAt ≠ none := by
  have hcomputed : ∀ call ∈ clientCalls, Computed refreshing call := by
    simp only [clientCalls, List.forall_mem_cons]
    exact ⟨rfl, computed_complete rfl false none, rfl, rfl, rfl, by simp⟩
  obtain ⟨c, hc, hcalls, hp⟩ := exists_run
    (login 1000 1010 false ++ turn (refresh 1) 2 5 (env 1020 2) ++
      turn (guard (accessToken 2)) 3 1 (env 1030 3) ++ turn (refresh 1) 4 4 (env 1040 4))
    clientCalls ownTokens rfl hcomputed (by decide +kernel)
  simp only [ownTokens, Bool.and_eq_true, beq_iff_eq] at hp
  obtain ⟨⟨⟨⟨hlogin, hrefresh⟩, hguard⟩, hbearer⟩, hrevoked⟩ := hp
  obtain ⟨s1, hs1, hs1'⟩ := (Option.any_eq_true _ _).mp hlogin
  obtain ⟨s2, hs2, hs2'⟩ := (Option.any_eq_true _ _).mp hrefresh
  obtain ⟨r, hr, hrev⟩ := (Option.any_eq_true _ _).mp hrevoked
  rw [hc.coherent.state_eq] at hr
  have ha1 : GivenTokens c 1 s1 := Or.inl ⟨_, returned_of_session hcalls rfl hs1⟩
  have ha2 : GivenTokens c 2 s2 := Or.inr ⟨_, returned_of_session hcalls rfl hs2⟩
  have hcallAt : ∀ {tid : ℕ} {th : Thread Res Call Outcome}, c.threads[tid]? = some th →
      clientCalls[tid]? = some th.call := by
    intro tid th hth
    rw [← hcalls, System.Config.calls, List.getElem?_map, hth]
    rfl
  -- What each of the five calls is.
  have hcases : ∀ {tid : ℕ} {th : Thread Res Call Outcome}, c.threads[tid]? = some th →
      (tid = 0 ∧ th.call = issue none) ∨ (tid = 1 ∧ th.call = complete false none) ∨
      ((tid = 2 ∨ tid = 4) ∧ th.call = refresh 1) ∨ (tid = 3 ∧ th.call = guard (accessToken 2)) := by
    intro tid th hth
    have hcall := hcallAt hth
    rcases tid with _ | _ | _ | _ | _ | n
    · exact Or.inl ⟨rfl, (Option.some.inj hcall).symm⟩
    · exact Or.inr (Or.inl ⟨rfl, (Option.some.inj hcall).symm⟩)
    · exact Or.inr (Or.inr (Or.inl ⟨Or.inl rfl, (Option.some.inj hcall).symm⟩))
    · exact Or.inr (Or.inr (Or.inr ⟨rfl, (Option.some.inj hcall).symm⟩))
    · exact Or.inr (Or.inr (Or.inl ⟨Or.inr rfl, (Option.some.inj hcall).symm⟩))
    · cases hcall
  refine ⟨c, hc, hcalls, ⟨?_, ?_, ?_⟩, ⟨s2, hs2⟩, Option.isSome_iff_exists.mp hguard, r, hr,
    Option.isSome_iff_ne_none.mp hrev⟩
  · intro tid th input event hth hcall hdecoded hverified
    rcases hcases hth with ⟨rfl, h⟩ | ⟨rfl, h⟩ | ⟨htid, h⟩ | ⟨rfl, h⟩ <;> rw [h] at hcall
    · cases hcall
    · obtain rfl : (request false).input none = input := Call.verifyCompletion.inj hcall
      have hevent := (valid_request (O := refreshing) rfl false none).decoded
      have heq : event = Sample.event false := Option.some.inj (hdecoded.symm.trans hevent)
      rw [heq]
      rfl
    · cases hcall
    · cases hcall
  · intro tid th input token hth hcall hpres _
    rcases hcases hth with ⟨rfl, h⟩ | ⟨rfl, h⟩ | ⟨htid, h⟩ | ⟨rfl, h⟩ <;> rw [h] at hcall
    · cases hcall
    · cases hcall
    · have hinput := Call.refreshSession.inj hcall
      rw [← hinput] at hpres
      refine ⟨1, s1, ha1, (eq_of_beq hs1').trans hpres, ?_⟩
      rcases htid with rfl | rfl <;> rfl
    · cases hcall
  · intro tid th req token hth hcall hpres _
    rcases hcases hth with ⟨rfl, h⟩ | ⟨rfl, h⟩ | ⟨htid, h⟩ | ⟨rfl, h⟩ <;> rw [h] at hcall
    · rcases hcall with hcall | ⟨hasResolver, hcall⟩ <;> cases hcall
    · rcases hcall with hcall | ⟨hasResolver, hcall⟩ <;> cases hcall
    · rcases hcall with hcall | ⟨hasResolver, hcall⟩ <;> cases hcall
    · rcases hcall with hcall | ⟨hasResolver, hcall⟩
      · cases hcall
      · obtain ⟨hreq, -⟩ := Call.loadGuardContext.inj hcall
        rw [← hreq, hbearer] at hpres
        exact ⟨2, s2, ha2, (eq_of_beq hs2').trans (Option.some.inj hpres), rfl⟩

end Sample

open Sample in
/-- A client that logs in, refreshes its session and makes a request. -/
theorem admitted_to_owner_client : ∃ (c : refresher.Config) (s s' : SessionRecord),
    refresher.Reachable c ∧ GivenTokens c 2 s ∧ guarded? c 3 = some s' ∧
    s.principalPubkey = pubkey ∧ s'.principalPubkey = pubkey := by
  obtain ⟨c, hc, hcalls, hd, ⟨s, hs⟩, ⟨s', hs'⟩, -⟩ := exists_discreet
  have ha : GivenTokens c 2 s := Or.inr ⟨_, returned_of_session hcalls rfl hs⟩
  obtain ⟨context, hr, hcontext⟩ := returned_of_guarded hcalls rfl hs'
  obtain ⟨hanswered, hadmitted⟩ := admitted_to_owner hc hd
  exact ⟨c, s, s', hc, ha, hs', (hanswered 2 s ha).symm,
    (hadmitted 3 _ _ context s' hr hcontext).symm⟩

/-- With discreet clients, a revoked session was ended by its own principal, whose requests the ACL may
have denied, or by an operator: by the step that has found it unrevoked. -/
theorem ended_by_owner {A : Type} {agent : ℕ → A} {owner : String → A}
    (hc : (server P O cb sb).Reachable c) (hd : Discreet c agent owner)
    (hr : rowsAt c.history id = some r) (hrev : r.revokedAt ≠ none) :
    ∃ pre e th, Occurs c.history pre e ∧ (∃ r0, rowsAt pre id = some r0 ∧ r0.revokedAt = none) ∧
      Revokes pre e id ∧ c.threads[e.tid]? = some th ∧
      (agent e.tid = owner r.principalPubkey ∨ th.call = .revokeSession id ∨
        th.call = .revokePrincipal r.principalPubkey) := by
  have hv := System.Valid.of_reachable hc
  have hid := rowsAt_id hv hr
  obtain ⟨pre, e, th, ho, hbefore, hrevokes, hth, hended⟩ := revocation_ends hc hr hrev
  refine ⟨pre, e, th, ho, hbefore, hrevokes, hth, ?_⟩
  have hp := ho.before
  generalize hcall : th.call = call at hended
  cases hended with
  | logout presented found live same =>
    obtain ⟨pre0, e0, ho0, -, -, -, hrow⟩ := found
    have hsame := asCreated_agree hv (ho0.before.trans hp) List.prefix_rfl hrow (same ▸ hid ▸ hr)
    left
    rw [hd.presents hc hth (Or.inl hcall) presented (ho0.before.trans hp) hrow]
    exact congrArg owner (congrArg SessionRecord.principalPubkey hsame :)
  | @reused input pre0 e0 draft s presented exchanged rotation =>
    have hp0 := exchanged.before.trans hp
    obtain ⟨r0, hrow, hcur, -⟩ := rotate_spec (hv.restrict (exchanged.mono hp)) rotation
    have hsame := asCreated_agree hv hp0 List.prefix_rfl hrow (hid.symm ▸ hr)
    left
    rw [hd.presentsRefresh hc hth hcall presented hp0 hrow (by simp [SessionRecord.tokens, hcur])]
    exact congrArg owner (congrArg SessionRecord.principalPubkey hsame :)
  | refreshDenied presented current found live principal denied =>
    obtain ⟨pre0, e0, ho0, -, -, -, hrow⟩ := found
    left
    rw [← principal]
    exact hd.presentsRefresh hc hth hcall presented (ho0.before.trans hp) hrow
      (by simp [SessionRecord.tokens, current])
  | guardDenied presented found live principal denied =>
    obtain ⟨pre0, e0, ho0, -, -, -, hrow⟩ := found
    left
    rw [← principal]
    exact hd.presents hc hth (Or.inr ⟨true, hcall⟩) presented (ho0.before.trans hp) hrow
  | operator => exact Or.inr (Or.inl (congrArg Call.revokeSession hid))
  | operatorPrincipal => exact Or.inr (Or.inr rfl)

open Sample in
/-- A client that ends its session by presenting an old refresh token. -/
theorem ended_by_owner_client : ∃ (c : refresher.Config) (r : SessionRecord)
    (pre : History .memory .memory) (e : Step (machine .memory .memory)), refresher.Reachable c ∧
    rowsAt c.history (sessionId 1) = some r ∧ r.revokedAt ≠ none ∧ Occurs c.history pre e ∧
    Revokes pre e (sessionId 1) ∧ sender e.tid = r.principalPubkey := by
  obtain ⟨c, hc, hcalls, hd, -, -, r, hr, hrev⟩ := exists_discreet
  obtain ⟨pre, e, th, ho, -, hrevokes, hth, hwho⟩ := ended_by_owner hc hd hr hrev
  refine ⟨c, r, pre, e, hc, hr, hrev, ho, hrevokes, ?_⟩
  have hcall : th.call ∈ clientCalls := by
    rw [← hcalls]
    exact List.mem_map_of_mem (List.mem_of_getElem? hth)
  rcases hwho with howner | hop | hop
  · exact howner
  · simp only [clientCalls, List.mem_cons, List.not_mem_nil, or_false] at hcall
    rcases hcall with h | h | h | h | h <;> cases hop.symm.trans h
  · simp only [clientCalls, List.mem_cons, List.not_mem_nil, or_false] at hcall
    rcases hcall with h | h | h | h | h <;> cases hop.symm.trans h

end NapAuth

import NapAuth.CrossOrigin.Consent

/-!
# What a signed completion is good for

The signer page reads the tags of a template on its own (`audienceOf`, `isCompletion`), and so does
the server that is shown the signed event (`getSingleTag` and `exactUrlMatch` of
`verifyNip98Completion`). `signed_completion_bound` says that they agree where it matters: a server
that accepts an event is an audience of the grant that it was signed under, and the page has taken
the template for the completion that it is.

The page parses URLs with the parser that the server uses. It is a parameter, and all that is used
of it is that a URL is read as it was written.
-/

namespace NapAuth.CrossOrigin

open Interleaving

variable {W : WebPlatform} {O : CrossOriginSignerOptions} {P : Platform}

/-- The event of a template has the template's tags. -/
theorem hasSingleTag_iff {template : EventTemplate} {event : Nip98Event}
    (htags : event.tags = template.tags) {name value : String} :
    HasSingleTag event name value ↔
      ∃ tag, template.tags.filter (fun tag => tag[0]? == some name) = [tag] ∧
        tag[1]? = some value := by
  rw [HasSingleTag, htags]

/-- A proof that quotes a challenge is what the page takes for a completion. -/
theorem isCompletion_of_challenge {template : EventTemplate} {event : Nip98Event}
    (htags : event.tags = template.tags) {challenge : String}
    (h : HasSingleTag event "challenge" challenge) : isCompletion template = true := by
  obtain ⟨tag, hfilter, -⟩ := (hasSingleTag_iff htags).mp h
  have hmem : tag ∈ template.tags.filter fun tag => tag[0]? == some "challenge" := by
    rw [hfilter]
    exact List.mem_singleton_self tag
  obtain ⟨hin, hname⟩ := List.mem_filter.mp hmem
  exact List.any_eq_true.mpr ⟨tag, hin, hname⟩

/-- A server whose URL matches the `u` tag has the origin that the page reads there. -/
theorem origin_of_match (hurl : P.newUrl = fun s => (W.newURL s).map Url.href)
    (hserial : ∀ s u, W.newURL s = some u → W.newURL u.href = some u) {template : EventTemplate}
    {event : Nip98Event} (htags : event.tags = template.tags) {audience value url : String}
    (haudience : audienceOf W.newURL template = some audience) (hvalue : HasSingleTag event "u" value)
    (hmatch : exactUrlMatch P value url = true) :
    ∃ u, W.newURL url = some u ∧ u.origin = audience := by
  obtain ⟨tag, value', signed, hfilter, hvalue', hsigned, rfl⟩ := exists_tag_of_audience haudience
  obtain ⟨tag', hfilter', htag'⟩ := (hasSingleTag_iff htags).mp hvalue
  -- There is one `u` tag, and both have read its value.
  obtain rfl : tag = tag' := (List.cons.inj (hfilter.symm.trans hfilter')).1
  obtain rfl : value' = value := Option.some.inj (hvalue'.symm.trans htag')
  unfold exactUrlMatch at hmatch
  rw [hurl] at hmatch
  dsimp only at hmatch
  rw [hsigned] at hmatch
  cases hserver : W.newURL url with
  | none =>
    rw [hserver] at hmatch
    cases hmatch
  | some server =>
    rw [hserver] at hmatch
    have hhref : signed.href = server.href := by simpa using hmatch
    -- One text is read as one URL.
    have hread := hserial _ _ hsigned
    rw [hhref, hserial _ _ hserver] at hread
    exact ⟨server, rfl, congrArg Url.origin (Option.some.inj hread)⟩

/-- A server that accepts the event of a template which the page has put to its signer is an audience
of the grant, and the page has treated the template as a completion: it was the connection's own, or
was approved as another one. -/
theorem signed_completion_bound {c : (signerPage W O).Config} (hr : (signerPage W O).Reachable c)
    {pre : List (Step (signerMachine W O))} {e : Step (signerMachine W O)}
    (ho : Occurs c.history pre e) {template : EventTemplate}
    (hop : e.op = .ask (.signEvent template)) {event : Nip98Event}
    (hsame : sameEvent template event = true)
    (hurl : P.newUrl = fun s => (W.newURL s).map Url.href)
    (hserial : ∀ s u, W.newURL s = some u → W.newURL u.href = some u)
    {input : VerifyNip98CompletionInput} {value : VerifiedNip98Completion}
    (hverified : verifyNip98Completion P input = .ok value) (hevent : value.event = event) :
    ∃ origin source grantId grant needsPrompt url,
      ⟨.admitSign origin source grantId template, .admitted grant needsPrompt⟩ ∈
        (signerMachine W O).own e.tid pre ∧
      W.newURL input.url = some url ∧ url.origin ∈ grant.audiences ∧
      isCompletion template = true ∧ needsPrompt = grant.completionUsed ∧
      (needsPrompt = true → O.hasOnSign = true ∧
        ApprovedCompletion ((signerMachine W O).own e.tid pre) grant.grantId template) := by
  obtain ⟨call, hwarrant⟩ := warranted (System.Valid.of_reachable hr) ho
  rw [hop] at hwarrant
  obtain ⟨⟨request, id, grantId, grant, needsPrompt, hadmitted, hprompt⟩, -⟩ := hwarrant
  obtain ⟨pre0, e0, -, -, hev0⟩ := mem_own.mp hadmitted.admitted
  obtain ⟨-, -, -, -, -, -, -, ⟨audience, hin, haudience⟩, hneeds⟩ := event_admitted hev0
  have htags : event.tags = template.tags := (sameEvent_iff.mp hsame).2.2.2
  have hvalid := verifyNip98Completion_ok.mp hverified
  have hcompletion : isCompletion template = true :=
    isCompletion_of_challenge htags (hevent ▸ hvalid.challenge)
  obtain ⟨u, hu, hmatch⟩ := hvalid.url
  obtain ⟨url, hserver, rfl⟩ := origin_of_match hurl hserial htags haudience (hevent ▸ hu) hmatch
  rw [hcompletion, Bool.true_and] at hneeds
  exact ⟨request.origin, request.source, grantId, grant, needsPrompt, url, hadmitted.admitted,
    hserver, hin, hcompletion, hneeds, hprompt⟩

namespace SignerSample

/-- The server's platform, with the page's URL parser. -/
def server : Platform := { Sample.platform with newUrl := fun s => (newURL s).map Url.href }

/-- A URL is read as it was written. -/
theorem newURL_href (s : String) (u : Url) (h : newURL s = some u) : newURL u.href = some u := by
  unfold newURL at h
  split_ifs at h
  · obtain rfl := Option.some.inj h
    rfl
  · obtain rfl := Option.some.inj h
    rfl

/-- The server accepts the signed event. -/
theorem server_accepts : ∃ input value, verifyNip98Completion server input = .ok value ∧
    input.url = Sample.url ∧ value.event = Sample.event false := by
  have hvalid := Sample.valid_request (O := Sample.options) rfl false none
  refine ⟨_, Sample.proof false, verifyNip98Completion_ok.mpr ⟨hvalid.decoded, hvalid.kind,
    hvalid.content, hvalid.signature, hvalid.window, ?_, hvalid.method, hvalid.payload,
    hvalid.payload_eq, hvalid.challengeId, hvalid.challengeId_eq, hvalid.challengeId_ne,
    hvalid.challenge⟩, rfl, rfl⟩
  exact ⟨Sample.url, ⟨["u", Sample.url], by decide, rfl⟩, by decide⟩

end SignerSample

/-- The server that accepts a completion of a page with one audience is that audience. -/
theorem signed_completion_bound_here : ∃ c pre e origin source grantId template grant needsPrompt url,
    (signerPage SignerSample.platform SignerSample.options).Reachable c ∧ Occurs c.history pre e ∧
    e.op = .ask (.signEvent template) ∧
    ⟨.admitSign origin source grantId template, .admitted grant needsPrompt⟩ ∈
      (signerMachine SignerSample.platform SignerSample.options).own e.tid pre ∧
    SignerSample.newURL Sample.url = some url ∧ url.origin ∈ grant.audiences := by
  obtain ⟨c, pre, e, template, hr, ho, hop, -, hsame⟩ := SignerSample.completion_asked
  obtain ⟨input, value, hverified, hurl, hevent⟩ := SignerSample.server_accepts
  obtain ⟨origin, source, grantId, grant, needsPrompt, url, hadmitted, hserver, hin, -⟩ :=
    signed_completion_bound hr ho hop hsame (P := SignerSample.server) rfl
      SignerSample.newURL_href hverified hevent
  exact ⟨c, pre, e, origin, source, grantId, template, grant, needsPrompt, url, hr, ho, hop, hadmitted,
    hurl ▸ hserver, hin⟩

end NapAuth.CrossOrigin

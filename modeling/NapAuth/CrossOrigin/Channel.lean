import NapAuth.Interleaving.Network
import NapAuth.CrossOrigin.Replies
import NapAuth.CrossOrigin.Accepted

/-!
# A relying page and a signer page

The relying page of a connection and the signer page in its popup, which may be loaded more than once.
Each load of the signer page starts with an empty memory. The browser reports who has posted a message:
one that the relying page hears from the popup, while it shows the key origin, was posted by a load of
the signer page, and one that a load hears from its opener, while that shows the relying origin, was
posted by the relying page. Messages of other windows and of other origins may say anything and come
at any time, and all messages may be lost, delayed, reordered, and delivered to an older load.

What `signEvent` returns was then signed under a grant that the user has consented to
(`signature_end_to_end`): a load of the signer page has posted it in reply to this very request, and
the grant is the one that the connection has got.
-/

namespace NapAuth.CrossOrigin

open Interleaving

/-! ## The windows -/

/-- A page of the channel. -/
inductive Page where
  | relying
  /-- A load of the signer page, in the popup. -/
  | signer (load : ℕ)
  deriving DecidableEq

namespace Page

/-- Its operations. -/
@[reducible] def Op : Page → Type
  | relying => RelyingOp
  | signer _ => SignerOp

/-- The answers to them. -/
@[reducible] def Res : (page : Page) → page.Op → Type
  | relying => RelyingRes
  | signer _ => SignerRes

/-- What starts its programs. -/
@[reducible] def Call : Page → Type
  | relying => RelyingCall
  | signer _ => SignerCall

/-- What they return. -/
@[reducible] def Outcome : Page → Type
  | relying => RelyingOutcome
  | signer _ => Unit

end Page

/-- A message that has been posted. -/
inductive Posted where
  /-- By the relying page, to the popup, if it shows the key origin. -/
  | toPopup (message : CrossOriginMessage)
  /-- By the signer page, to its opener, if it shows an origin. -/
  | toOpener (origin : String) (message : CrossOriginMessage)

/-- A message arrives as the data that it was posted as, as far as it is read. -/
def arrives (event : MessageEvent) (message : CrossOriginMessage) : Bool :=
  decide (parseMessage message.data = parseMessage event.data)

/-- The signer page posts a message to the relying origin, which arrives. -/
def arrivesAtOpener (origin : String) (event : MessageEvent) : Posted → Bool
  | .toOpener target message => decide (target = origin) && arrives event message
  | .toPopup _ => false

/-- The relying page posts a message to the popup, which arrives. -/
def arrivesAtPopup (event : MessageEvent) : Posted → Bool
  | .toPopup message => arrives event message
  | .toOpener _ _ => false

section

variable (K : RelyingOptions) (P : Platform) (W : WebPlatform) (O : CrossOriginSignerOptions)
  (relying : String) (popup : ℕ)

/-- The system of a page. -/
@[reducible] def pageOf : (page : Page) → System page.Res page.Call page.Outcome
  | .relying => relyingPage K P
  | .signer _ => signerPage W O

/-- The messages that an event of a page posts. -/
def postedBy : (page : Page) → Event page.Res → List Posted
  | .relying, ev => (relyingPostsOf K ev).map .toPopup
  | .signer _, ev => (postsOf ev).map fun post => .toOpener post.1 post.2

/-- The message that an operation hears: one of the popup, from the key origin. -/
def heardFromPopup : (page : Page) → page.Op → Option (Posted → Bool)
  | .relying, .listener event =>
    if event.source = some popup ∧ event.origin = K.keyOrigin then some (arrivesAtOpener relying event)
    else none
  | _, _ => none

/-- The message that starts a call: one of the opener, from the relying origin. -/
def heardFromOpener : (page : Page) → page.Call → Option (Posted → Bool)
  | .signer _, .message event =>
    if event.source = O.opener ∧ event.origin = relying then some (arrivesAtPopup event) else none
  | _, _ => none

/-- The relying page, of an origin, and the loads of the signer page in a window. -/
def channel : Network Page Posted Page.Res Page.Call Page.Outcome where
  party := pageOf K P W O
  posts page _ ev := postedBy K page ev
  receipt := heardFromPopup K relying popup
  hears := heardFromOpener O relying
  listens _ _ := true

end

variable {K : RelyingOptions} {P : Platform} {W : WebPlatform} {O : CrossOriginSignerOptions}
  {relying : String} {popup : ℕ}

/-- What the relying page has executed. -/
def relyingHistory (c : (channel K P W O relying popup).Config) : List (Step (relyingMachine K)) :=
  (c.party .relying).history

/-- What a load of the signer page has executed. -/
def signerHistory (c : (channel K P W O relying popup).Config) (n : ℕ) :
    List (Step (signerMachine W O)) :=
  (c.party (.signer n)).history

/-- What the channel rests on: `window.open` returns the popup, and the ids that two loads draw for
their grants differ. -/
structure ProperChannel (c : (channel K P W O relying popup).Config) : Prop where
  popup : ∀ e ∈ relyingHistory c, e.op = .open → ∀ window, e.env.popup = some window → window = popup
  fresh : ∀ n n' e e', e ∈ signerHistory c n → e' ∈ signerHistory c n' →
    e.op.isFinishConnect = true → e'.op.isFinishConnect = true →
    e.env.randomId = e'.env.randomId → n = n'

/-- A grant was opened with the user's consent to what is in it. -/
def OpenedWithConsent (h : List (Step (signerMachine W O))) (grant : GrantState) : Prop :=
  ∃ pre e npub expectedPubkey draft opened, Occurs h pre e ∧
    (signerMachine W O).event pre e = ⟨.finishConnect true expectedPubkey draft, .opened opened⟩ ∧
    opened.claimed = grant.claimed ∧
    ConsentGiven ⟨grant.origin, grant.pubkey, npub, grant.kinds, grant.audiences, expectedPubkey⟩
      ((signerMachine W O).own e.tid pre)

/-! ## One page's messages -/

/-- A message that arrives is the one that was posted. -/
theorem arrives_eq {event : MessageEvent} {message message' : CrossOriginMessage}
    (h : arrives event message' = true) (hparse : parseMessage event.data = some message) :
    message' = message := by
  unfold arrives at h
  rw [hparse, decide_eq_true_eq] at h
  exact (reads_data message').unique (parseMessage_eq_some.mp h).2

section Signer

variable {h pre : List (Step (signerMachine W O))} {e : Step (signerMachine W O)} {grant : GrantState}

/-- The reply to a connection is posted by an operation of its own. -/
theorem connected_mem_postsOf {ev : Event SignerRes} {origin id : String} {info : GrantInfo}
    (hpost : (origin, .connected id info) ∈ postsOf ev) : ev.1 = .post origin (.connected id info) := by
  have hnot : ∀ {grants : List GrantState}, (origin, .connected id info) ∉
      (grants.map fun g => (g.origin, CrossOriginMessage.revoked g.grantId)) := by
    intro grants hmem
    obtain ⟨g, -, heq⟩ := List.mem_map.mp hmem
    cases heq
  obtain ⟨op, res⟩ := ev
  cases op with
  | post origin' message =>
    obtain ⟨rfl, rfl⟩ := Prod.mk.inj (List.mem_singleton.mp hpost)
    rfl
  | finishSign origin' id' grant template event =>
    cases res with
    | identityChanged dropped =>
      rcases List.mem_cons.mp hpost with heq | hmem
      · cases heq
      · exact (hnot hmem).elim
    | revoked => cases List.mem_singleton.mp hpost
    | mismatched => cases List.mem_singleton.mp hpost
    | signed => cases List.mem_singleton.mp hpost
  | dropGrants which =>
    cases which with
    | disconnect origin' grantId => cases hpost
    | all => exact (hnot hpost).elim
    | matching key => exact (hnot hpost).elim
  | close => exact (hnot hpost).elim
  | closed => cases hpost
  | ask query => cases hpost
  | answer query => cases hpost
  | finishConnect approved expectedPubkey draft => cases hpost
  | admitSign origin' source grantId template => cases hpost
  | hasGrant grantId => cases hpost
  | grantsChanged => cases hpost

/-- A page that replies to a connection has opened the grant. -/
theorem connected_posted (hv : (signerPage W O).Valid h) (ho : Occurs h pre e) {origin id : String}
    {info : GrantInfo}
    (hpost : (origin, .connected id info) ∈ postsOf ((signerMachine W O).event pre e)) :
    ∃ grant, Opened W O h grant ∧ grant.info = info := by
  have hop : e.op = .post origin (.connected id info) := connected_mem_postsOf hpost
  have hwarrant := replies_warranted hv ho
  rw [hop] at hwarrant
  rcases hwarrant with heq | ⟨id', code, -, heq⟩ |
    ⟨id', grant, approved, expectedPubkey, draft, -, heq, -, hopened⟩
  · cases heq
  · cases heq
  · obtain ⟨-, rfl⟩ := CrossOriginMessage.connected.inj heq
    obtain ⟨pre', e', ho', -, hev'⟩ := mem_own.mp hopened
    exact ⟨grant, ⟨pre', e', approved, expectedPubkey, draft, ho'.mono ho.before, hev'⟩, rfl⟩

/-- The id of a grant is the one that its connection has drawn. -/
theorem opened_drawn (ho : Opened W O h grant) :
    ∃ e ∈ h, e.op.isFinishConnect = true ∧ e.env.randomId = grant.grantId := by
  obtain ⟨pre, e, approved, expectedPubkey, draft, hocc, hev⟩ := ho
  obtain ⟨hop, -, -, -, hopened⟩ := event_opened hev
  refine ⟨e, hocc.mem (by simp), by rw [hop]; rfl, by rw [hopened]⟩

/-- A grant that was opened was consented to. -/
theorem openedWithConsent (hv : (signerPage W O).Valid h) {opened : GrantState}
    (ho : Opened W O h opened) (hsame : opened.claimed = grant.claimed) :
    OpenedWithConsent h grant := by
  obtain ⟨pre, e, approved, expectedPubkey, draft, hocc, hev⟩ := ho
  obtain ⟨hop, -, rfl, -, hopened⟩ := event_opened hev
  have hwarrant := replies_warranted hv hocc
  rw [hop] at hwarrant
  obtain ⟨-, -, npub, -, hgiven⟩ := hwarrant
  obtain ⟨-, horigin, hpubkey, hkinds, haudiences, -, -⟩ := claimed_eq hsame
  rw [hopened] at horigin hpubkey hkinds haudiences
  refine ⟨pre, e, npub, expectedPubkey, draft, opened, hocc, hev, hsame, ?_⟩
  rw [← horigin, ← hpubkey, ← hkinds, ← haudiences]
  exact hgiven rfl

end Signer

/-- A signature is asked for by its beginning. -/
theorem sign_mem_relyingPostsOf {ev : Event RelyingRes} {id grantId : String} {template : EventTemplate}
    (hpost : .sign id grantId template ∈ relyingPostsOf K ev) :
    ev = ⟨.startSign template, .pending id grantId⟩ := by
  unfold relyingPostsOf at hpost
  split at hpost
  · cases List.mem_singleton.mp hpost
  · obtain ⟨rfl, rfl, rfl⟩ := CrossOriginMessage.sign.inj (List.mem_singleton.mp hpost)
    rfl
  · cases List.mem_singleton.mp hpost
  · cases hpost

/-! ## The channel -/

section Runs

variable {c : (channel K P W O relying popup).Config}

/-- The relying page behaves as it does alone. -/
theorem relying_reachable (hr : (channel K P W O relying popup).Reachable c) :
    (relyingPage K P).Reachable (c.party .relying) := hr.party .relying

/-- And so does every load of the signer page. -/
theorem signer_reachable (hr : (channel K P W O relying popup).Reachable c) (n : ℕ) :
    (signerPage W O).Reachable (c.party (.signer n)) := hr.party (.signer n)

/-- What the relying page hears from the popup was posted by a load of the signer page. -/
theorem heard_posted (hr : (channel K P W O relying popup).Reachable c) (hproper : ProperChannel c)
    {pre : List (Step (relyingMachine K))} {e : Step (relyingMachine K)}
    (ho : Occurs (relyingHistory c) pre e) {message : CrossOriginMessage}
    (hheard : Hears K ((relyingMachine K).after pre) e.op message) :
    ∃ n pre' e', Occurs (signerHistory c n) pre' e' ∧
      (relying, message) ∈ postsOf ((signerMachine W O).event pre' e') := by
  obtain ⟨event, hop, horigin, hsource, hparse⟩ := hheard.event
  obtain ⟨window, hwindow⟩ := Option.isSome_iff_exists.mp hheard.popup
  obtain ⟨e0, hmem, hopen, hreturned⟩ := popup_opened hwindow
  obtain rfl : window = popup := hproper.popup e0 (ho.before.mem hmem) hopen window hreturned
  have hreceipt : (channel K P W O relying window).receipt .relying e.op =
      some (arrivesAtOpener relying event) := by
    rw [hop]
    exact if_pos ⟨hsource.trans hwindow, horigin⟩
  obtain ⟨posted, htakes, page, pre', e', hother, ho', hposted⟩ := hr.posted ho hreceipt
  cases page with
  | relying => exact absurd rfl hother
  | signer n =>
    obtain ⟨⟨target, message'⟩, hpost, rfl⟩ := List.mem_map.mp hposted
    obtain ⟨htarget, harrives⟩ := Bool.and_eq_true_iff.mp htakes
    obtain rfl := of_decide_eq_true htarget
    obtain rfl := arrives_eq harrives hparse
    exact ⟨n, pre', e', ho', hpost⟩

/-- What a load of the signer page hears from the relying page was posted by it. -/
theorem asked_posted (hr : (channel K P W O relying popup).Reachable c) {n : ℕ}
    {request : MessageEvent} {message : CrossOriginMessage}
    (hcall : SignerCall.message request ∈ (c.party (.signer n)).calls)
    (hsource : request.source = O.opener) (horigin : request.origin = relying)
    (hparse : parseMessage request.data = some message) :
    ∃ pre e, Occurs (relyingHistory c) pre e ∧
      message ∈ relyingPostsOf K ((relyingMachine K).event pre e) := by
  have hhears : (channel K P W O relying popup).hears (.signer n) (.message request) =
      some (arrivesAtPopup request) := if_pos ⟨hsource, horigin⟩
  obtain ⟨posted, htakes, page, pre, e, hother, ho, hposted⟩ := hr.heard hcall hhears
  cases page with
  | signer n' =>
    obtain ⟨post, -, rfl⟩ := List.mem_map.mp hposted
    cases htakes
  | relying =>
    obtain ⟨message', hpost, rfl⟩ := List.mem_map.mp hposted
    obtain rfl := arrives_eq htakes hparse
    exact ⟨pre, e, ho, hpost⟩

/-- The template of the request and the one that was signed are the same, since the event is both. -/
theorem template_unique {template template' : EventTemplate} {event : Nip98Event}
    (h : sameEvent template event = true) (h' : sameEvent template' event = true) :
    template = template' := by
  obtain ⟨hkind, hcreatedAt, hcontent, htags⟩ := sameEvent_iff.mp h
  obtain ⟨hkind', hcreatedAt', hcontent', htags'⟩ := sameEvent_iff.mp h'
  cases template
  cases template'
  rw [EventTemplate.mk.injEq]
  exact ⟨hcreatedAt.symm.trans hcreatedAt', hkind.symm.trans hkind', htags.symm.trans htags',
    hcontent.symm.trans hcontent'⟩

/-- What `signEvent` returns was signed for this page under a grant that the user has consented to. This
very call has posted a request with an id. Some load of the signer page has posted the event, in the
program that this request has started and as the reply to it, under a grant that was there at the time.
The user has consented to the grant's origin, key, kinds and audiences, and the connection's grant is this
one, and within what it has asked for. -/
theorem signature_end_to_end (hr : (channel K P W O relying popup).Reachable c)
    (hproper : ProperChannel c) {tid : ℕ} {th : Thread RelyingRes RelyingCall RelyingOutcome}
    {template : EventTemplate} {event : Nip98Event}
    (hth : (c.party .relying).threads[tid]? = some th) (hcall : th.call = .signEvent template)
    (hprog : th.prog = .pure (.event event)) :
    P.verifyEvent event = true ∧
    ∃ n pre e id th' request grant entry,
      ⟨.startSign template, .pending id grant.grantId⟩ ∈
        (relyingMachine K).own tid (relyingHistory c) ∧
      Occurs (signerHistory c n) pre e ∧
      (relying, .signed id event) ∈ postsOf ((signerMachine W O).event pre e) ∧
      (c.party (.signer n)).threads[e.tid]? = some th' ∧ th'.call = .message request ∧
      grant ∈ grantsAt W O pre ∧
      Covered W O relying id event request template grant entry ∧
      OpenedWithConsent (signerHistory c n) grant ∧
      ((relyingMachine K).after (relyingHistory c)).grant = some grant.info ∧
      granted K grant.info = true := by
  obtain ⟨hsame, hverified, info, id, hgrant, -, hstarted, pre2, e2, ho2, hheard⟩ :=
    event_heard (relying_reachable hr) hth hcall hprog
  obtain ⟨pre1, e1, ho1, -, hev1⟩ := mem_own.mp hstarted
  have hrelying := System.Valid.of_reachable (relying_reachable hr)
  have hsigner := fun n => System.Valid.of_reachable (signer_reachable hr n)
  obtain ⟨hgranted, id0, pre3, e3, ho3, hconnected⟩ := grant_heard hrelying hgrant
  -- The reply, and the signature that it is the end of.
  obtain ⟨n, pre, e, ho, hpost⟩ := heard_posted hr hproper ho2 hheard
  obtain ⟨grant, template', hev⟩ := event_of_signed_reply (hsigner n) ho hpost
  obtain ⟨hop, -, -, hsame'⟩ := event_signed.mp hev
  obtain rfl := template_unique hsame hsame'
  obtain ⟨th', request, live, entry, hth', hcall', hlive, -, hcovered⟩ :=
    finishSign_covered (signer_reachable hr n) ho hev
  -- It was asked for by this call: no other request has its id.
  have hcalled : SignerCall.message request ∈ (c.party (.signer n)).calls := by
    rw [← hcall']
    exact List.mem_map_of_mem (List.mem_of_getElem? hth')
  obtain ⟨pre4, e4, ho4, hposted⟩ :=
    asked_posted hr hcalled hcovered.opener.1 hcovered.origin_eq hcovered.asked
  have hev4 := sign_mem_relyingPostsOf hposted
  obtain ⟨rfl, rfl⟩ := requested_unique hrelying ho1 ho4 (by rw [hev1]; rfl) (by rw [hev4]; rfl)
  have hids : info.grantId = live.grantId := by
    rw [hev1] at hev4
    obtain ⟨-, heq⟩ := Sigma.mk.inj hev4
    exact (RelyingState.SignStart.pending.inj (eq_of_heq heq)).2
  -- The grant was opened by this load, and the connection was told of it.
  obtain ⟨n0, pre5, e5, ho5, hpost5⟩ := heard_posted hr hproper ho3 hconnected
  obtain ⟨opened0, hopened0, hinfo⟩ := connected_posted (hsigner n0) ho5 hpost5
  obtain ⟨opened, hopened, hclaimed'⟩ := opened_of_mem hlive
  have hopened := hopened.mono ho.before
  obtain ⟨hid, -, hpubkey, hkinds, haudiences, hexpires, -⟩ := claimed_eq hclaimed'
  have hnamed : opened.grantId = opened0.grantId := by
    rw [← hid, ← hids, ← hinfo]
    rfl
  obtain ⟨d, hd, hdop, hdraw⟩ := opened_drawn hopened
  obtain ⟨d0, hd0, hdop0, hdraw0⟩ := opened_drawn hopened0
  obtain rfl : n = n0 := hproper.fresh n n0 d d0 hd hd0 hdop hdop0 (by rw [hdraw, hdraw0, hnamed])
  obtain rfl := opened_same (hsigner n) hopened hopened0 hnamed
  have hlast : live.info = info := by
    rw [← hinfo, GrantState.info, GrantState.info, hid, hpubkey, hkinds, haudiences, hexpires]
  exact ⟨hverified, n, pre, e, id, th', request, live, entry, hids ▸ hstarted, ho, hpost, hth', hcall',
    hlive, hcovered, openedWithConsent (hsigner n) hopened hclaimed'.symm, hlast ▸ hgrant,
    hlast ▸ hgranted⟩

end Runs

/-! ## A signature -/

namespace ChannelSample

open RelyingSample (template)

/-- The page of a shop, and the signer page of a wallet. -/
abbrev shop : Network Page Posted Page.Res Page.Call Page.Outcome :=
  channel RelyingSample.options Sample.platform SignerSample.platform SignerSample.options
    SignerSample.relying 2

/-- The shop's page runs a program, with a random id. -/
def shopRuns (tid : ℕ) (randomId : String) : shop.Label :=
  .moves .relying (.run tid (RelyingSample.env randomId))

/-- The wallet's page runs a program. -/
def walletRuns (tid n : ℕ) : List shop.Label :=
  List.replicate n (.moves (.signer 0) (.run tid (SignerSample.env 1000)))

/-- A message arrives at the shop's page. -/
def toShop (message : CrossOriginMessage) : shop.Label :=
  .moves .relying (.start (.message ⟨message.data, "https://wallet.example", some 2⟩))

/-- A message arrives at the wallet's page. -/
def toWallet (message : CrossOriginMessage) : shop.Label :=
  .moves (.signer 0) (.start (.message ⟨message.data, SignerSample.relying, some 1⟩))

/-- What the wallet grants. -/
def grant : GrantInfo := ⟨"g1", Sample.pubkey, [27235], [SignerSample.audience], 1900⟩

/-- The shop connects, and has a proof signed. -/
def moves : List shop.Label :=
  [.opens .relying, .moves .relying (.start .connectCrossOrigin), shopRuns 0 "",
    .opens (.signer 0), .moves (.signer 0) (.start .announce)] ++ walletRuns 0 1 ++
  [toShop .ready, shopRuns 1 "", shopRuns 0 "", shopRuns 0 "r1",
    toWallet (.connect "r1" [27235] [SignerSample.audience] none)] ++ walletRuns 1 14 ++
  [toShop (.connected "r1" grant), shopRuns 2 "", shopRuns 0 "", shopRuns 0 "",
    .moves .relying (.start (.signEvent template)), shopRuns 3 "r2",
    toWallet (.sign "r2" "g1" template)] ++ walletRuns 2 5 ++
  [toShop (.signed "r2" (Sample.event false)), shopRuns 4 "", shopRuns 3 "", shopRuns 3 ""]

/-- A call asks for the signature. -/
def asks : RelyingCall → Bool
  | .signEvent asked => decide (asked = template)
  | _ => false

/-- The signature has been returned, and the popup is the one that was opened. -/
def isSigned (c : shop.Config) : Bool :=
  (relyingHistory c).all (fun e => RelyingEnv.popup e.env == some 2) &&
    ((c.party .relying).threads[3]?.any fun th => asks th.call &&
      (match th.prog with
        | .pure outcome => (RelyingSample.returned outcome).isSome
        | .call _ _ => false))

/-- A label moves the shop's page or the first load of the wallet's. -/
def movesFirst : shop.Label → Bool
  | .moves (.signer n) _ => n == 0
  | _ => true

/-- That run. -/
theorem exists_run : ∃ c th event, shop.Reachable c ∧ ProperChannel c ∧
    (c.party .relying).threads[3]? = some th ∧ th.call = .signEvent template ∧
    th.prog = .pure (.event event) := by
  have hrun : (shop.run shop.initial moves).any isSigned = true := by decide +kernel
  obtain ⟨c, hc, hsigned⟩ := (Option.any_eq_true _ _).mp hrun
  rw [isSigned, Bool.and_eq_true, List.all_eq_true] at hsigned
  obtain ⟨hpopup, hreturned⟩ := hsigned
  obtain ⟨th, hth, hreturned⟩ := (Option.any_eq_true _ _).mp hreturned
  rw [Bool.and_eq_true] at hreturned
  obtain ⟨hasks, hprog⟩ := hreturned
  -- The other loads have done nothing.
  have hload : ∀ n, n ≠ 0 → signerHistory c n = [] := by
    intro n hn
    have hall : moves.all movesFirst = true := by decide +kernel
    have hstill : c.party (.signer n) = shop.initial.party (.signer n) :=
      Network.run_party hc fun l hmem => hn (by simpa [movesFirst] using List.all_eq_true.mp hall _ hmem)
    exact congrArg System.Config.history hstill
  have hfirst : ∀ n e, e ∈ signerHistory c n → n = 0 := by
    intro n e he
    by_contra hn
    rw [hload n hn] at he
    cases he
  refine ⟨c, th, ?_⟩
  have hcall : th.call = .signEvent template := by
    unfold asks at hasks
    split at hasks
    · rename_i asked heq
      rw [heq, of_decide_eq_true hasks]
    · cases hasks
  have hproper : ProperChannel c := by
    refine ⟨fun e he _ window hwindow => ?_, fun n n' e e' he he' _ _ _ => ?_⟩
    · have hsome := hpopup e he
      rw [hwindow] at hsome
      exact Option.some.inj (beq_iff_eq.mp hsome)
    · rw [hfirst n e he, hfirst n' e' he']
  split at hprog
  · rename_i outcome heq
    obtain ⟨event, hevent⟩ := Option.isSome_iff_exists.mp hprog
    unfold RelyingSample.returned at hevent
    split at hevent
    · exact ⟨_, Network.reaches_of_run hc, hproper, hth, hcall, heq⟩
    · cases hevent
  · cases hprog

end ChannelSample

open ChannelSample in
/-- A proof that the shop's page has got from the wallet's: its call is the fourth of the page. -/
theorem signature_end_to_end_here : ∃ c n pre e id event th request grant entry, shop.Reachable c ∧
    ⟨.startSign RelyingSample.template, .pending id grant.grantId⟩ ∈
      (relyingMachine RelyingSample.options).own 3 (relyingHistory c) ∧
    Occurs (signerHistory c n) pre e ∧
    (SignerSample.relying, .signed id event) ∈
      postsOf ((signerMachine SignerSample.platform SignerSample.options).event pre e) ∧
    (c.party (.signer n)).threads[e.tid]? = some th ∧ th.call = .message request ∧
    Covered SignerSample.platform SignerSample.options SignerSample.relying id event request
      RelyingSample.template grant entry ∧
    OpenedWithConsent (signerHistory c n) grant := by
  obtain ⟨c, th, event, hr, hproper, hth, hcall, hprog⟩ := exists_run
  obtain ⟨-, n, pre, e, id, th', request, grant, entry, hstarted, ho, hpost, hth', hcall', -, hcovered,
    hconsent, -⟩ := signature_end_to_end hr hproper hth hcall hprog
  exact ⟨c, n, pre, e, id, event, th', request, grant, entry, hr, hstarted, ho, hpost, hth', hcall',
    hcovered, hconsent⟩

end NapAuth.CrossOrigin

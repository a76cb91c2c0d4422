import NapAuth.Interleaving.Network
import NapAuth.Web.Logout

/-!
# The tabs of a session

The pages of one origin keep a session each, and tell each other of locks, logouts and identities that
have changed over a channel (`createBroadcastBus` of `packages/nap-client-web/src/broadcast.ts`). A
page may open at any time, its messages are delivered after any delay and in any order, and whatever
its programs are waiting for goes on. What the application does in `onLock`, `onShutdown`, `onLogout`
and `onIdentityChanged`, which run before `publish`, does not throw (see `NapAuth.Web.Session`).

A lock reaches every tab: one that was open, and that no longer has the message before it, was locked
when it came, unless it had no session then (`lock_reaches`). A logout does so too (`logout_reaches`).
And a tab is locked only if some tab was locked by its own user or timer (`lock_origin`): messages lock
nothing that nobody has locked.
-/

namespace NapAuth.Web

open Interleaving

/-! ## What the channel carries -/

/-- The data of a message: a string, an object with a `type` and a `detail`, or something else. -/
inductive ChannelData where
  | text (data : String)
  | object (type : Option String) (detail : Option (String × String))
  | other
  deriving DecidableEq

/-- `MESSAGE_TYPES`, as they are written. -/
def BroadcastMessageType.text : BroadcastMessageType → String
  | .logout => "logout"
  | .lock => "lock"
  | .unlock => "unlock"
  | .shutdown => "shutdown"
  | .identityChanged => "identity-changed"

/-- `isMessageType`, and which one. -/
def isMessageType (value : String) : Option BroadcastMessageType :=
  [.logout, .lock, .unlock, .shutdown, .identityChanged].find? fun type =>
    decide (BroadcastMessageType.text type = value)

/-- What `publish` posts. -/
def publish (type : BroadcastMessageType) (detail : Option (String × String)) : ChannelData :=
  match detail with
  | none => .text type.text
  | some detail => .object (some type.text) (some detail)

/-- What the listener calls `onMessage` with. -/
def onChannelMessage : ChannelData → Option (BroadcastMessageType × Option (String × String))
  | .text data => (isMessageType data).map fun type => (type, none)
  | .object (some value) detail => (isMessageType value).map fun type => (type, detail)
  | .object none _ => none
  | .other => none

@[simp] theorem isMessageType_text (type : BroadcastMessageType) :
    isMessageType type.text = some type := by
  cases type <;> decide

/-- A message arrives as it was published. -/
@[simp] theorem onChannelMessage_publish (type : BroadcastMessageType)
    (detail : Option (String × String)) :
    onChannelMessage (publish type detail) = some (type, detail) := by
  cases detail <;> simp [publish, onChannelMessage]

/-- Whether the data is a message of a kind. -/
def carries (kind : BroadcastMessageType → Bool) (data : ChannelData) : Bool :=
  (onChannelMessage data).any fun message => kind message.1

/-- The messages that lock a tab. -/
def BroadcastMessageType.locks : BroadcastMessageType → Bool
  | .lock => true
  | .shutdown => true
  | _ => false

/-- The messages that end a tab's session. -/
def BroadcastMessageType.drops : BroadcastMessageType → Bool
  | .logout => true
  | .identityChanged => true
  | _ => false

/-! ## The tabs -/

variable {ι : Type} (O : ι → NapClientOptions) (P : Platform) (C : Client)

/-- The tabs of one origin, each with a session of its own. A channel that is closed posts nothing and
receives nothing. -/
def tabs : Network ι ChannelData (fun _ => SessionRes) (fun _ => SessionCall)
    (fun _ => SessionOutcome) where
  party i := napSession (O i) P C
  posts _ s ev :=
    if Session.channelOpen s then (published ev).map fun message => publish message.1 message.2
    else []
  receipt
    | _, .message type => some (carries fun type' => decide (type' = type))
    | _, _ => none
  hears _ _ := none
  listens _ s := Session.channelOpen s

variable {O P C}

/-- What a tab has executed. -/
def tabHistory (c : (tabs O P C).Config) (i : ι) : List (Step (sessionMachine (O i) P C)) :=
  (c.party i).history

/-- The session of a tab. -/
def tabState (c : (tabs O P C).Config) (i : ι) : Session := (c.party i).state

/-- The receipt of a message is a message operation. -/
theorem receipt_eq_some {i : ι} {op : SessionOp} {takes : ChannelData → Bool}
    (h : (tabs O P C).receipt i op = some takes) :
    ∃ type, op = .message type ∧ takes = carries fun type' => decide (type' = type) := by
  cases op with
  | message type => exact ⟨type, rfl, (Option.some.inj h).symm⟩
  | _ => cases h

/-- A message that was published with a type is taken by a receipt of that type. -/
theorem carries_publish {kind : BroadcastMessageType → Bool} {type : BroadcastMessageType}
    {detail : Option (String × String)} : carries kind (publish type detail) = kind type := by
  simp [carries]

/-- What a tab posts: what its event publishes, while its channel is open. -/
theorem postedAt_iff {i : ι} {pre : List (Step (sessionMachine (O i) P C))}
    {e : Step (sessionMachine (O i) P C)} {data : ChannelData} :
    (tabs O P C).PostedAt i pre e data ↔
      ((sessionMachine (O i) P C).after (pre ++ [e])).channelOpen = true ∧
      ∃ type detail, (type, detail) ∈ published ((sessionMachine (O i) P C).event pre e) ∧
        publish type detail = data := by
  show data ∈ (if ((sessionMachine (O i) P C).after (pre ++ [e])).channelOpen then
    (published ((sessionMachine (O i) P C).event pre e)).map fun message =>
      publish message.1 message.2
    else []) ↔ _
  split
  · rename_i hopen
    simp only [hopen, List.mem_map, Prod.exists, true_and]
  · rename_i hclosed
    exact ⟨nofun, fun h => absurd h.1 hclosed⟩

section Steps

variable {O : NapClientOptions} {s : Session} {h pre : List (Step (sessionMachine O P C))}
  {e : Step (sessionMachine O P C)}

/-- What locks a session, and is no message, is published as a lock. -/
theorem published_of_locks {ev : Event SessionRes} (hlocks : locks ev = true)
    (hown : ∀ type, ev.1 ≠ .message type) :
    ∃ type, type.locks = true ∧ (type, none) ∈ published ev := by
  obtain ⟨op, res⟩ := ev
  cases op with
  | lock => exact ⟨.lock, rfl, by simp [published, show res = true from hlocks]⟩
  | lockTimer => exact ⟨.lock, rfl, by simp [published, show res = true from hlocks]⟩
  | shutdown => exact ⟨.shutdown, rfl, by simp [published, show res = true from hlocks]⟩
  | shutdownTimer => exact ⟨.shutdown, rfl, by simp [published, show res = true from hlocks]⟩
  | message type => exact absurd rfl (hown type)
  | _ => cases hlocks

/-- What is published as a lock has locked the session, and is no message. -/
theorem locks_of_published {ev : Event SessionRes} {type : BroadcastMessageType}
    {detail : Option (String × String)} (hlocks : type.locks = true)
    (hmem : (type, detail) ∈ published ev) :
    locks ev = true ∧ ∀ type', ev.1 ≠ .message type' := by
  unfold published at hmem
  split at hmem <;> first
    | exact ⟨rfl, nofun⟩
    | (obtain ⟨rfl, -⟩ := Prod.mk.inj (List.mem_singleton.mp hmem); cases hlocks)
    | cases hmem

/-- A message that locks, to a tab that listens and has a session, locks it. -/
theorem locks_message {type : BroadcastMessageType} (hop : e.op = .message type)
    (hlocks : type.locks = true)
    (hlistens : ((sessionMachine O P C).after pre).channelOpen = true)
    (hsession : ((sessionMachine O P C).after pre).sessionState.isSome = true) :
    locks ((sessionMachine O P C).event pre e) = true := by
  obtain ⟨tid, op, env⟩ := e
  obtain rfl : op = .message type := hop
  show locks ⟨.message type, (((sessionMachine O P C).after pre).onMessage O type).1⟩ = true
  have hsome : ((sessionMachine O P C).after pre).sessionState.isNone = false := by
    rw [← Option.not_isSome, hsession, Bool.not_true]
  cases type with
  | lock => simp [Session.onMessage, hlistens, hsome, NapAuth.Web.locks]
  | shutdown => simp [Session.onMessage, hlistens, hsome, NapAuth.Web.locks]
  | _ => cases hlocks

/-- A message that ends the session, to a tab that listens. -/
theorem loggedOut_message {type : BroadcastMessageType} (hop : e.op = .message type)
    (hdrops : type.drops = true)
    (hlistens : ((sessionMachine O P C).after pre).channelOpen = true) :
    LoggedOut O ((sessionMachine O P C).after (pre ++ [e])) := by
  obtain ⟨tid, op, env⟩ := e
  obtain rfl : op = .message type := hop
  rw [Machine.after_concat]
  show LoggedOut O (((sessionMachine O P C).after pre).onMessage O type).2
  cases type with
  | logout => simpa [Session.onMessage, hlistens] using drop_loggedOut
  | identityChanged => simpa [Session.onMessage, hlistens] using drop_loggedOut
  | _ => cases hdrops

/-- An evictable signer has no key until its own tab gives it one. -/
theorem keyHeld_persists (hevictable : O.evictable = true) (hp : pre <+: h)
    (hkey : ((sessionMachine O P C).after pre).keyHeld = false) :
    ((sessionMachine O P C).after h).keyHeld = false ∨
      ∃ pre' e' key, Occurs h pre' e' ∧ pre <+: pre' ∧ e'.op = .setKey key := by
  by_cases hstill : ((sessionMachine O P C).after h).keyHeld = false
  · exact Or.inl hstill
  · obtain ⟨pre', e', ho, hlater, hbefore, hnot⟩ :=
      exists_breaking (P := fun s : Session => s.keyHeld = false) hp hkey hstill
    refine Or.inr ⟨pre', e', ?_⟩
    have hinstalls : installs O e'.op e'.env = true := by
      by_contra hnone
      rw [Bool.not_eq_true] at hnone
      exact hnot (exec_keyHeld hevictable hbefore hnone)
    obtain ⟨tid, op, env⟩ := e'
    -- A login or a `resume` installs a session, and leaves the key.
    cases op with
    | setKey key => exact ⟨key, ho, hlater, rfl⟩
    | complete =>
      refine absurd (?_ : (((sessionMachine O P C).after pre').complete O env.success).2.keyHeld = false) hnot
      unfold Session.complete
      split
      · exact hbefore
      · split
        · exact hbefore
        · split
          · exact hbefore
          · dsimp only
            split
            · exact evictKey_keyHeld hevictable
            · exact hbefore
    | resume =>
      refine absurd (?_ : (((sessionMachine O P C).after pre').resume env.success).2.keyHeld = false) hnot
      unfold Session.resume
      split
      · exact hbefore
      · split
        · exact hbefore
        · split
          · exact hbefore
          · split <;> exact hbefore
    | _ => cases hinstalls

end Steps

/-! ## Messages between tabs -/

section Runs

variable [DecidableEq ι] {c c1 c' : (tabs O P C).Config} {i j : ι}

/-- The history of a tab determines its session. -/
theorem tabState_eq (hc : (tabs O P C).Reachable c) (i : ι) :
    tabState c i = (sessionMachine (O i) P C).after (tabHistory c i) :=
  (Network.Reachable.party hc i).coherent.state_eq

/-- What a tab publishes, another tab receives: if it was open and listened, and no message of the kind
is before it any more, then it has received one since. -/
theorem message_reaches {e : Step (sessionMachine (O i) P C)} (hc : (tabs O P C).Reachable c)
    (hnext : (tabs O P C).Next c c1)
    (hstep : tabHistory c1 i = tabHistory c i ++ [e])
    (hsender : ((sessionMachine (O i) P C).after (tabHistory c1 i)).channelOpen = true)
    (hij : i ≠ j) (hopened : c.opened j = true)
    (hlistens : (tabState c j).channelOpen = true)
    {kind : BroadcastMessageType → Bool} {type : BroadcastMessageType}
    {detail : Option (String × String)} (hkind : kind type = true)
    (hpublished : (type, detail) ∈
      published ((sessionMachine (O i) P C).event (tabHistory c i) e))
    (hlater : (tabs O P C).Reaches c1 c') (hquiet : ∀ data ∈ c'.flight j, carries kind data = false) :
    ∃ pre e' type', Occurs (tabHistory c' j) pre e' ∧ tabHistory c j <+: pre ∧
      e'.op = .message type' ∧ kind type' = true := by
  have hexec := hnext.executes hstep
  have hposted : (tabs O P C).PostedAt i (tabHistory c i) e (publish type detail) :=
    postedAt_iff.mpr ⟨hstep ▸ hsender, type, detail, hpublished, rfl⟩
  have hflight := hexec.in_flight hc (hc.tail hnext) hposted hij hopened hlistens
  have hgone : publish type detail ∉ c'.flight j := fun hmem => by
    have hquiet := hquiet _ hmem
    rw [carries_publish, hkind] at hquiet
    cases hquiet
  obtain ⟨pre, e', takes, ho, hsince, hreceipt, htakes⟩ := hlater.taken (fun _ => rfl) hflight hgone
  obtain ⟨type', hop, rfl⟩ := receipt_eq_some hreceipt
  rw [carries_publish, decide_eq_true_eq] at htakes
  exact ⟨pre, e', type', ho,
    (Network.Reaches.party (Relation.ReflTransGen.single hnext) j).history_mono.trans hsince, hop,
    htakes ▸ hkind⟩

/-- A lock reaches every tab. A tab is locked, by its user or its timer. Of every other tab that is open
and listens: once no message of a lock is before it any more, it has received one since; and unless it
was closed or without a session at that time, it is locked until something releases it or a login goes
on, and its signer has no key until the tab itself gives it one. -/
theorem lock_reaches {e : Step (sessionMachine (O i) P C)} (hc : (tabs O P C).Reachable c)
    (hnext : (tabs O P C).Next c c1)
    (hstep : tabHistory c1 i = tabHistory c i ++ [e])
    (hown : ∀ type, e.op ≠ .message type)
    (hlocks : locks ((sessionMachine (O i) P C).event (tabHistory c i) e) = true)
    (hsender : ((sessionMachine (O i) P C).after (tabHistory c1 i)).channelOpen = true)
    (hij : i ≠ j) (hopened : c.opened j = true)
    (hlistens : (tabState c j).channelOpen = true)
    (hlater : (tabs O P C).Reaches c1 c')
    (hquiet : ∀ data ∈ c'.flight j, carries BroadcastMessageType.locks data = false) :
    ∃ pre e', Occurs (tabHistory c' j) pre e' ∧ tabHistory c j <+: pre ∧
      (∃ type, e'.op = .message type ∧ type.locks = true) ∧
      (((sessionMachine (O j) P C).after pre).channelOpen = false ∨
        ((sessionMachine (O j) P C).after pre).sessionState = none ∨
        (((tabState c' j).locked = true ∨
          ∃ pre' e'', Occurs (tabHistory c' j) pre' e'' ∧ pre ++ [e'] <+: pre' ∧
            (lockFlag (O j) P C).clears pre' e'') ∧
        ((O j).evictable = true → (tabState c' j).keyHeld = false ∨
          ∃ pre' e'' key, Occurs (tabHistory c' j) pre' e'' ∧ pre ++ [e'] <+: pre' ∧
            e''.op = .setKey key))) := by
  obtain ⟨type, htype, hpublished⟩ := published_of_locks hlocks hown
  obtain ⟨pre, e', type', ho, hsince, hop, htype'⟩ := message_reaches hc hnext hstep hsender hij
    hopened hlistens htype hpublished hlater hquiet
  refine ⟨pre, e', ho, hsince, ⟨type', hop, htype'⟩, ?_⟩
  cases hopen : ((sessionMachine (O j) P C).after pre).channelOpen with
  | false => exact Or.inl rfl
  | true =>
    cases hsession : ((sessionMachine (O j) P C).after pre).sessionState with
    | none => exact Or.inr (Or.inl rfl)
    | some state =>
      have hlocked := locks_message hop htype' hopen (by rw [hsession]; rfl)
      have hset := (lockFlag (O j) P C).value_sets hlocked
      have hstate := tabState_eq ((hc.tail hnext).trans hlater) j
      refine Or.inr (Or.inr ⟨?_, fun hevictable => ?_⟩)
      · rw [hstate]
        rcases (lockFlag (O j) P C).value_persists ho hset with hstill | ⟨pre', e'', ho', hp, -, hclears⟩
        · exact Or.inl hstill
        · exact Or.inr ⟨pre', e'', ho', hp, hclears⟩
      · rw [hstate]
        exact keyHeld_persists hevictable ho (keyHeld_of_locked hevictable hset)

/-- A logout reaches every tab. A tab's session ends, by a logout or because its signer is someone
else. Of every other tab that is open and listens: once no such message is before it any more, it has
received one since; and unless it was closed at that time, it has no session and no key until one of
its own operations installs one. -/
theorem logout_reaches {e : Step (sessionMachine (O i) P C)} {type : BroadcastMessageType}
    {detail : Option (String × String)} (hc : (tabs O P C).Reachable c)
    (hnext : (tabs O P C).Next c c1)
    (hstep : tabHistory c1 i = tabHistory c i ++ [e]) (hdrops : type.drops = true)
    (hpublished : (type, detail) ∈
      published ((sessionMachine (O i) P C).event (tabHistory c i) e))
    (hsender : ((sessionMachine (O i) P C).after (tabHistory c1 i)).channelOpen = true)
    (hij : i ≠ j) (hopened : c.opened j = true)
    (hlistens : (tabState c j).channelOpen = true)
    (hlater : (tabs O P C).Reaches c1 c')
    (hquiet : ∀ data ∈ c'.flight j, carries BroadcastMessageType.drops data = false) :
    ∃ pre e', Occurs (tabHistory c' j) pre e' ∧ tabHistory c j <+: pre ∧
      (∃ type, e'.op = .message type ∧ type.drops = true) ∧
      (((sessionMachine (O j) P C).after pre).channelOpen = false ∨
        LoggedOut (O j) (tabState c' j) ∨
        ∃ pre' e'', Occurs (tabHistory c' j) pre' e'' ∧ pre ++ [e'] <+: pre' ∧
          installs (O j) e''.op e''.env = true) := by
  obtain ⟨pre, e', type', ho, hsince, hop, htype'⟩ := message_reaches hc hnext hstep hsender hij
    hopened hlistens hdrops hpublished hlater hquiet
  refine ⟨pre, e', ho, hsince, ⟨type', hop, htype'⟩, ?_⟩
  cases hopen : ((sessionMachine (O j) P C).after pre).channelOpen with
  | false => exact Or.inl rfl
  | true =>
    have hout := loggedOut_message hop htype' hopen
    rw [tabState_eq ((hc.tail hnext).trans hlater) j]
    by_cases hstill : LoggedOut (O j) ((sessionMachine (O j) P C).after (tabHistory c' j))
    · exact Or.inr (Or.inl hstill)
    · obtain ⟨pre', e'', ho', hp, hbefore, hnot⟩ := exists_breaking ho hout hstill
      exact Or.inr (Or.inr ⟨pre', e'', ho', hp, (installs_of_breaking hbefore hnot).1⟩)

/-- Messages lock nothing that nobody has locked: if a tab is locked, then some tab was locked by its
own user or timer, and it had a session. -/
theorem lock_origin (hc : (tabs O P C).Reachable c) (hlocked : (tabState c j).locked = true) :
    ∃ i pre e, Occurs (tabHistory c i) pre e ∧
      locks ((sessionMachine (O i) P C).event pre e) = true ∧ (∀ type, e.op ≠ .message type) ∧
      ((sessionMachine (O i) P C).after pre).sessionState.isSome = true := by
  rw [tabState_eq hc] at hlocked
  obtain ⟨pre, e, ho, hsets, -⟩ := (lockFlag (O j) P C).value_iff.mp hlocked
  have hsession : ∀ {i : ι} {pre : List (Step (sessionMachine (O i) P C))}
      {e : Step (sessionMachine (O i) P C)},
      locks ((sessionMachine (O i) P C).event pre e) = true →
      ((sessionMachine (O i) P C).after pre).sessionState.isSome = true := by
    intro i pre e hlocks
    rcases step_change (h := pre) (e := e) with ⟨-, hsession, -, -, -⟩ | ⟨hclears, -⟩ | ⟨hnot, -, -, -⟩
    · exact hsession
    · obtain ⟨hreleases, hproceeds⟩ := not_clears_of_locks hlocks
      rw [hreleases, hproceeds] at hclears
      rcases hclears with hclears | hclears <;> cases hclears
    · rw [hnot.1] at hlocks
      cases hlocks
  cases hop : e.op with
  | message type =>
    -- The lock came from another tab.
    have htype : type.locks = true := by
      obtain ⟨tid, op, env⟩ := e
      obtain rfl : op = .message type := hop
      cases type with
      | lock => rfl
      | shutdown => rfl
      | _ => cases hsets
    obtain ⟨data, htakes, i, pre', e', -, ho', hposted⟩ :=
      hc.posted ho (show (tabs O P C).receipt j e.op = some (carries fun type' =>
        decide (type' = type)) by rw [hop]; rfl)
    obtain ⟨-, type', detail, hpublished, rfl⟩ := postedAt_iff.mp hposted
    rw [carries_publish, decide_eq_true_eq] at htakes
    obtain ⟨hlocks, hown⟩ := locks_of_published htype (htakes ▸ hpublished)
    exact ⟨i, pre', e', ho', hlocks, hown, hsession hlocks⟩
  | _ => exact ⟨j, pre, e, ho, hsets, by rw [hop]; exact nofun, hsession hsets⟩

end Runs

/-! ## Two tabs -/

namespace TabsSample

/-- Two tabs whose signers hold their keys. -/
abbrev twoTabs : Network Bool ChannelData (fun _ => SessionRes) (fun _ => SessionCall)
    (fun _ => SessionOutcome) :=
  tabs (fun _ => LogoutSample.options) Sample.platform Sample.client

/-- The signer and the server answer. -/
def env : SessionEnv := SessionSample.env (.response 200 (some SessionSample.response))

/-- Both tabs open and log in. -/
def bothLogIn : List twoTabs.Label :=
  [.opens false, .opens true, .moves false (.start .login)] ++
    List.replicate 5 (.moves false (.run 0 env)) ++
    [.moves true (.start .login)] ++ List.replicate 5 (.moves true (.run 0 env))

/-- One tab does something at once, and then the other one receives a message. -/
def tells (call : SessionCall) (type : BroadcastMessageType) (p : twoTabs.Config → twoTabs.Config →
    twoTabs.Config → Bool) : Bool :=
  (twoTabs.run twoTabs.initial (bothLogIn ++ [.moves false (.start call)])).any fun c =>
    (twoTabs.step c (.moves false (.run 1 env))).any fun c1 =>
      (twoTabs.run c1 [.moves true (.start (.message type)), .moves true (.run 1 env)]).any (p c c1)

/-- The tab has executed a step that meets a condition, and it has told the other tab, which has no
message before it any more. -/
def told (p : SessionOp → Event SessionRes → Bool) (q : Session → Bool)
    (c c1 c' : twoTabs.Config) : Bool :=
  (match (tabHistory c1 false).drop (tabHistory c false).length with
    | [e] => p e.op
      ((sessionMachine LogoutSample.options Sample.platform Sample.client).event
        (tabHistory c false) e)
    | _ => false) &&
  ((sessionMachine LogoutSample.options Sample.platform Sample.client).after
    (tabHistory c1 false)).channelOpen &&
  c.opened true && (tabState c true).channelOpen && (c'.flight true).isEmpty &&
  q (tabState c' true)

/-- A run of it. -/
theorem exists_told (call : SessionCall) (type : BroadcastMessageType)
    (p : SessionOp → Event SessionRes → Bool) (q : Session → Bool)
    (h : tells call type (told p q) = true) :
    ∃ (c c1 c' : twoTabs.Config)
      (e : Step (sessionMachine LogoutSample.options Sample.platform Sample.client)),
      twoTabs.Reachable c ∧ twoTabs.Next c c1 ∧ twoTabs.Reaches c1 c' ∧
      tabHistory c1 false = tabHistory c false ++ [e] ∧
      p e.op ((sessionMachine LogoutSample.options Sample.platform Sample.client).event
        (tabHistory c false) e) = true ∧
      ((sessionMachine LogoutSample.options Sample.platform Sample.client).after
        (tabHistory c1 false)).channelOpen = true ∧
      c.opened true = true ∧ (tabState c true).channelOpen = true ∧ c'.flight true = [] ∧
      q (tabState c' true) = true := by
  obtain ⟨c, c1, c', hc, hnext, hlater, hp⟩ := Network.exists_run _ _ _ _ h
  simp only [told, Bool.and_eq_true, List.isEmpty_iff] at hp
  obtain ⟨⟨⟨⟨⟨hstep, hopen⟩, hopened⟩, hlistens⟩, hempty⟩, hq⟩ := hp
  have hgrows : tabHistory c false <+: tabHistory c1 false :=
    (Network.Reaches.party (Relation.ReflTransGen.single hnext) false).history_mono
  obtain ⟨t, ht⟩ := hgrows
  rw [← ht, List.drop_left] at hstep
  split at hstep
  · rename_i e
    exact ⟨c, c1, c', e, hc, hnext, hlater, ht.symm, hstep, hopen, hopened, hlistens, hempty, hq⟩
  · cases hstep

end TabsSample

open TabsSample in
/-- The user locks one of two tabs. The other one receives the message, and its signer loses its
key. -/
theorem lock_reaches_two : ∃ (c' : twoTabs.Config) (pre : _) (e' : _), twoTabs.Reachable c' ∧
    Occurs (tabHistory c' true) pre e' ∧ (∃ type, e'.op = .message type ∧ type.locks = true) ∧
    (tabState c' true).keyHeld = false := by
  obtain ⟨c, c1, c', e, hc, hnext, hlater, hstep, hlock, hopen, hopened, hlistens, hempty, hkey⟩ :=
    exists_told .lock .lock (fun op ev => (match op with | .lock => true | _ => false) && locks ev)
      (fun s => !s.keyHeld) (by decide)
  rw [Bool.and_eq_true] at hlock
  have hop : e.op = .lock := by
    cases hop : e.op <;> first | rfl | (rw [hop] at hlock; cases hlock.1)
  obtain ⟨pre, e', ho, -, htype, -⟩ := lock_reaches hc hnext hstep (by rw [hop]; exact nofun)
    hlock.2 hopen (show false ≠ true from nofun) hopened hlistens hlater (by simp [hempty])
  exact ⟨c', pre, e', (hc.tail hnext).trans hlater, ho, htype, by simpa using hkey⟩

open TabsSample in
/-- The user logs out of one of two tabs. The other one receives the message, and has no session. -/
theorem logout_reaches_two : ∃ (c' : twoTabs.Config) (pre : _) (e' : _), twoTabs.Reachable c' ∧
    Occurs (tabHistory c' true) pre e' ∧ (∃ type, e'.op = .message type ∧ type.drops = true) ∧
    (tabState c' true).sessionState = none := by
  obtain ⟨c, c1, c', e, hc, hnext, hlater, hstep, hlogout, hopen, hopened, hlistens, hempty, hnone⟩ :=
    exists_told .logout .logout (fun _ ev => (published ev).contains (.logout, none))
      (fun s => s.sessionState.isNone) (by decide)
  obtain ⟨pre, e', ho, -, htype, -⟩ := logout_reaches hc hnext hstep rfl
    (List.contains_iff_mem.mp hlogout) hopen (show false ≠ true from nofun) hopened hlistens hlater
    (by simp [hempty])
  exact ⟨c', pre, e', (hc.tail hnext).trans hlater, ho, htype, Option.isNone_iff_eq_none.mp hnone⟩

open TabsSample in
/-- A tab that another one has locked. -/
theorem lock_origin_two : ∃ (c : twoTabs.Config) (i : Bool) (pre : _) (e : _), twoTabs.Reachable c ∧
    (tabState c true).locked = true ∧ Occurs (tabHistory c i) pre e ∧
    ∀ type, e.op ≠ .message type := by
  obtain ⟨c, c1, c', e, hc, hnext, hlater, -, -, -, -, -, -, hlocked⟩ :=
    exists_told .lock .lock (fun _ _ => true) (fun s => s.locked) (by decide)
  have hc' : twoTabs.Reachable c' := (hc.tail hnext).trans hlater
  obtain ⟨i, pre, e, ho, -, hown, -⟩ := lock_origin hc' hlocked
  exact ⟨c', i, pre, e, hc', hlocked, ho, hown⟩

end NapAuth.Web

import NapAuth.CrossOrigin.Grants
import NapAuth.CrossOrigin.Scope

/-!
# Remembered consents

`createStorageConsentStore` of `packages/nap-client-web/src/crossOriginSigner.ts`: the consents that a
signer page remembers, in one item of its storage. The storage may refuse to be read or written, and
then nothing is remembered.

A record of the item was remembered (`mem_after`), and a connection whose user is not asked has a
record of its own origin, identity and scope (`handleConnect_consent`). As the text of a scope
determines it, that is a consent to the same request (`remembered_same`).
-/

namespace NapAuth.CrossOrigin

open Interleaving

variable {newURL : String → Option Url}

/-! ## The store -/

/-- A property of a record, if it is a string. -/
def stringOf (record : Json) (name : String) : Option String := (record.get? name).bind Json.str?

/-- `ConsentRecord`, as it is written. -/
def consentRecord (origin pubkey scope : String) : Json :=
  .obj [("origin", .str origin), ("pubkey", .str pubkey), ("scope", .str scope)]

/-- Whether a value that was read is a `ConsentRecord`. -/
def isConsentRecord (record : Json) : Bool :=
  (stringOf record "origin").isSome && (stringOf record "pubkey").isSome &&
    (stringOf record "scope").isSome

/-- What the storage allows during a call. -/
structure StorageAccess where
  /-- `getItem` does not throw. -/
  readable : Bool
  /-- `setItem` does not throw. -/
  writable : Bool

/-- The item of the storage, as the value that `JSON.parse` reads from its text. `JSON.stringify`
writes a text from which it reads the same value. -/
abbrev ConsentItem : Type := Option Json

namespace ConsentItem

/-- `read()`. -/
def read (item : ConsentItem) (access : StorageAccess) : List Json :=
  if access.readable then
    match (item.getD (.arr [])).arr? with
    | some parsed => parsed.filter isConsentRecord
    | none => []
  else []

/-- `write(records)`. -/
def write (item : ConsentItem) (access : StorageAccess) (records : List Json) : ConsentItem :=
  if access.writable then some (.arr records) else item

/-- `has(origin, pubkey, scope)`. -/
def has (item : ConsentItem) (access : StorageAccess) (origin pubkey scope : String) : Bool :=
  (item.read access).any fun record => stringOf record "origin" == some origin &&
    stringOf record "pubkey" == some pubkey && stringOf record "scope" == some scope

/-- `remember(origin, pubkey, scope)`. -/
def remember (item : ConsentItem) (access : StorageAccess) (origin pubkey scope : String) :
    ConsentItem :=
  let records := (item.read access).filter fun record =>
    !(stringOf record "origin" == some origin && stringOf record "pubkey" == some pubkey)
  item.write access (records ++ [consentRecord origin pubkey scope])

/-- `forget(origin, pubkey)`. -/
def forget (item : ConsentItem) (access : StorageAccess) (origin : String) (pubkey : Option String) :
    ConsentItem :=
  item.write access ((item.read access).filter fun record =>
    !(stringOf record "origin" == some origin &&
      (pubkey.isNone || stringOf record "pubkey" == pubkey)))

end ConsentItem

/-- A call that changes the store. What is remembered is a consent to a scope. -/
inductive ConsentCall (newURL : String → Option Url) where
  | remember (origin pubkey : String) (scope : Scope newURL)
  | forget (origin : String) (pubkey : Option String)

/-- The item after a call. -/
def ConsentCall.run (item : ConsentItem) (access : StorageAccess) : ConsentCall newURL → ConsentItem
  | remember origin pubkey scope => item.remember access origin pubkey scope.key
  | forget origin pubkey => item.forget access origin pubkey

/-- The calls to a store that has been empty, each with what the storage allows. -/
abbrev ConsentHistory (newURL : String → Option Url) : Type :=
  List (ConsentCall newURL × StorageAccess)

/-- The item after them. -/
def ConsentHistory.item (history : ConsentHistory newURL) : ConsentItem :=
  history.foldl (fun item e => e.1.run item e.2) none

/-- A consent has been remembered. -/
def ConsentHistory.Remembered (history : ConsentHistory newURL) (origin pubkey : String)
    (scope : Scope newURL) : Prop :=
  ∃ access, (.remember origin pubkey scope, access) ∈ history

/-! ## What it remembers -/

/-- What is read after some records were written: some of them, or what was there. -/
theorem mem_read_write {item : ConsentItem} {access access' : StorageAccess} {records : List Json}
    {record : Json} (h : record ∈ (item.write access records).read access') :
    record ∈ records ∨ record ∈ item.read access' := by
  unfold ConsentItem.write at h
  split at h
  · unfold ConsentItem.read at h
    split at h
    · exact Or.inl (List.mem_of_mem_filter h)
    · cases h
  · exact Or.inr h

/-- What can be read at all can be read when the storage is readable. -/
theorem ConsentItem.read_subset (item : ConsentItem) (access : StorageAccess) :
    item.read access ⊆ item.read ⟨true, true⟩ := by
  intro record h
  unfold read at h
  split at h
  · exact h
  · cases h

/-- What a call leaves in the store was there, or is what it remembers. -/
theorem mem_run {call : ConsentCall newURL} {item : ConsentItem} {access access' : StorageAccess}
    {record : Json} (h : record ∈ (call.run item access).read access') :
    record ∈ item.read ⟨true, true⟩ ∨ ∃ origin pubkey scope,
      call = .remember origin pubkey scope ∧ record = consentRecord origin pubkey scope.key := by
  cases call with
  | remember origin pubkey scope =>
    rcases mem_read_write h with h | h
    · rcases List.mem_append.mp h with h | h
      · exact Or.inl (item.read_subset access (List.mem_of_mem_filter h))
      · exact Or.inr ⟨origin, pubkey, scope, rfl, List.mem_singleton.mp h⟩
    · exact Or.inl (item.read_subset access' h)
  | forget origin pubkey =>
    rcases mem_read_write h with h | h
    · exact Or.inl (item.read_subset access (List.mem_of_mem_filter h))
    · exact Or.inl (item.read_subset access' h)

/-- Every record of the store was remembered. -/
theorem mem_item {history : ConsentHistory newURL} {access : StorageAccess} {record : Json}
    (h : record ∈ history.item.read access) : ∃ origin pubkey scope,
      history.Remembered origin pubkey scope ∧ record = consentRecord origin pubkey scope.key := by
  induction history using List.reverseRecOn generalizing access with
  | nil =>
    unfold ConsentHistory.item ConsentItem.read at h
    split at h <;> cases h
  | append_singleton history e ih =>
    unfold ConsentHistory.item at h
    rw [List.foldl_append] at h
    rcases mem_run h with h | ⟨origin, pubkey, scope, hcall, rfl⟩
    · obtain ⟨origin, pubkey, scope, ⟨access', hmem⟩, hrecord⟩ := ih h
      exact ⟨origin, pubkey, scope, ⟨access', List.mem_append_left _ hmem⟩, hrecord⟩
    · obtain ⟨call, access'⟩ := e
      obtain rfl : call = _ := hcall
      exact ⟨origin, pubkey, scope, ⟨access', List.mem_append_right _ List.mem_cons_self⟩, rfl⟩

/-- A consent that the store has was remembered, for the same origin and identity and under the same
text of a scope. -/
theorem has_item {history : ConsentHistory newURL} {access : StorageAccess}
    {origin pubkey text : String} (h : history.item.has access origin pubkey text = true) :
    ∃ scope, history.Remembered origin pubkey scope ∧ scope.key = text := by
  unfold ConsentItem.has at h
  obtain ⟨record, hrecord, hfields⟩ := List.any_eq_true.mp h
  obtain ⟨origin', pubkey', scope, hremembered, rfl⟩ := mem_item hrecord
  simp only [Bool.and_eq_true, beq_iff_eq] at hfields
  obtain ⟨⟨horigin, hpubkey⟩, hscope⟩ := hfields
  obtain rfl : origin' = origin := Option.some.inj horigin
  obtain rfl : pubkey' = pubkey := Option.some.inj hpubkey
  exact ⟨scope, hremembered, Option.some.inj hscope⟩

/-- A consent that is remembered is there, if the storage allows it. -/
theorem has_remember (item : ConsentItem) (origin pubkey text : String) :
    (item.remember ⟨true, true⟩ origin pubkey text).has ⟨true, true⟩ origin pubkey text = true := by
  refine List.any_eq_true.mpr ⟨consentRecord origin pubkey text, ?_, ?_⟩
  · show _ ∈ List.filter _ (_ ++ [_])
    rw [List.filter_append]
    exact List.mem_append_right _ (List.mem_singleton_self _)
  · simp [stringOf, consentRecord, Json.get?, Json.str?]

/-! ## Connections -/

/-- The scope that a connection asks for. -/
structure IsScopeOf (kinds : List ℤ) (audiences : List String) (scope : Scope newURL) : Prop where
  kinds_eq : scope.kinds = kinds.eraseDups
  audiences_eq : ∃ normalized, audiences.mapM (normalizeOrigin newURL) = .ok normalized ∧
    scope.audiences = normalized.eraseDups

/-- What stands behind an operation of a connection. An approved one was asked for or has been
remembered, and what is remembered was approved. -/
def ConnectWarrant (W : WebPlatform) (origin : String) (kinds : List ℤ) (audiences : List String)
    (xs : List (Event SignerRes)) : SignerOp → Prop
  | .finishConnect true _ draft =>
    draft.origin = origin ∧ ∃ scope : Scope W.newURL, IsScopeOf kinds audiences scope ∧
      draft.kinds = scope.kinds ∧ draft.audiences = scope.audiences ∧
      ((∃ request, ⟨.ask (.onConsent request), ()⟩ ∈ xs) ∨
        ⟨.answer (.consentHas origin draft.pubkey scope.key), some true⟩ ∈ xs)
  | .ask (.consentRemember origin' pubkey text) =>
    origin' = origin ∧ ∃ scope : Scope W.newURL, IsScopeOf kinds audiences scope ∧
      text = scope.key ∧ ∃ request, ⟨.answer (.onConsent request), some true⟩ ∈ xs ∧
        request.origin = origin ∧ request.pubkey = pubkey ∧ request.kinds = scope.kinds ∧
        request.audiences = scope.audiences
  | _ => True

section

variable {W : WebPlatform} {entry : CrossOriginPolicyEntry} {origin id : String} {source : Option ℕ}
  {kinds : List ℤ} {audiences : List String} {expectedPubkey : Option String}

/-- The scope of a request within the policy. -/
theorem exists_scope (kinds : List ℤ) {normalized : List String}
    (h : audiences.mapM (normalizeOrigin newURL) = .ok normalized) :
    ∃ scope : Scope newURL, IsScopeOf kinds audiences scope ∧ scope.audiences = normalized.eraseDups := by
  refine ⟨⟨kinds.eraseDups, normalized.eraseDups, nodup_eraseDups kinds, fun a ha => ?_⟩,
    ⟨rfl, normalized, h, rfl⟩, rfl⟩
  obtain ⟨value, -, hvalue⟩ := exists_of_mapM_eq_ok h (List.mem_eraseDups.mp ha)
  exact ⟨value, hvalue⟩

/-- A consent was asked for, or has been remembered. -/
theorem consent_warrant {xs : List (Event SignerRes)} {scope : Scope W.newURL}
    (hscope : IsScopeOf kinds audiences scope) {request : ConsentRequest}
    (horigin : request.origin = origin) (hkinds : request.kinds = scope.kinds)
    (haudiences : request.audiences = scope.audiences) :
    (consent request).Sat (ConnectWarrant W origin kinds audiences)
      (fun ys approved => approved = true → (∃ request, ⟨.ask (.onConsent request), ()⟩ ∈ ys) ∨
        ⟨.answer (.consentHas origin request.pubkey scope.key), some true⟩ ∈ ys) xs := by
  have hkey : scopeKey request.kinds request.audiences = scope.key := by
    rw [hkinds, haudiences]
    rfl
  refine ⟨trivial, fun _ => ⟨trivial, fun answer => ?_⟩⟩
  match answer with
  | none => exact fun h => absurd h Bool.false_ne_true
  | some true =>
    intro _
    rw [← horigin, ← hkey]
    exact Or.inr (by simp)
  | some false =>
    refine ⟨trivial, fun _ => ⟨trivial, fun approved => ?_⟩⟩
    match approved with
    | none => exact fun h => absurd h Bool.false_ne_true
    | some false => exact fun h => absurd h Bool.false_ne_true
    | some true =>
      refine ⟨⟨horigin, scope, hscope, hkey, request, by simp, horigin, rfl, hkinds, haudiences⟩,
        fun _ => ⟨trivial, fun b _ => Or.inl ⟨request, by simp⟩⟩⟩

/-- An error is posted. -/
theorem fail_warrant (code : CrossOriginErrorCode) (xs : List (Event SignerRes)) :
    (fail origin id code).Sat (ConnectWarrant W origin kinds audiences) (fun _ _ => True) xs :=
  ⟨trivial, fun _ => trivial⟩

/-- What stands behind the operations of a connection. -/
theorem handleConnect_consent :
    (handleConnect W entry origin source id kinds audiences expectedPubkey).Sat
      (ConnectWarrant W origin kinds audiences) (fun _ _ => True) [] := by
  unfold handleConnect
  cases hnormalized : audiences.mapM (normalizeOrigin W.newURL) with
  | error _ => exact fail_warrant _ _
  | ok normalized =>
    obtain ⟨scope, hscope, haudiences⟩ := exists_scope kinds hnormalized
    show (if _ then _ else _ : SignerProgram Unit).Sat _ _ _
    split
    · exact fail_warrant _ _
    · refine ⟨trivial, fun _ => ⟨trivial, fun unlocked => ?_⟩⟩
      cases unlocked with
      | false => exact fail_warrant _ _
      | true =>
        refine ⟨trivial, fun _ => ⟨trivial, fun npub => ?_⟩⟩
        cases npub with
        | none => exact fail_warrant _ _
        | some npub =>
          dsimp only [Prog.bind]
          cases pubkeyOfNpub W npub with
          | none => exact fail_warrant _ _
          | some pubkey =>
            apply Prog.Sat.bind
            refine (consent_warrant hscope rfl hscope.kinds_eq.symm haudiences.symm).mono
              (fun _ _ h => h) fun ys approved happroved => ?_
            refine ⟨?_, fun result => ?_⟩
            · cases approved with
              | false => trivial
              | true => exact ⟨rfl, scope, hscope, hscope.kinds_eq.symm, haudiences.symm, happroved rfl⟩
            · cases result with
              | closed => trivial
              | declined => exact fail_warrant _ _
              | refused => exact fail_warrant _ _
              | opened grant => exact ⟨trivial, fun _ => ⟨trivial, fun _ => trivial⟩⟩

/-- The answers of the store, after some calls: to each question what it has then, whatever the storage
allows. -/
def AnsweredFrom (history : ConsentHistory newURL) (xs : List (Event SignerRes)) : Prop :=
  ∀ origin pubkey text answer, ⟨.answer (.consentHas origin pubkey text), answer⟩ ∈ xs →
    ∃ access, answer = some (history.item.has access origin pubkey text)

/-- A connection that is approved without a question is one that has been remembered: for its origin
and its identity, and for the same kinds and the same audiences. What a connection remembers is what
the user has approved. -/
theorem remembered_same (W : WebPlatform) (hhost : SchemeAndHost W.newURL)
    (entry : CrossOriginPolicyEntry) (origin : String) (source : Option ℕ) (id : String)
    (kinds : List ℤ) (audiences : List String) (expectedPubkey : Option String) :
    (∀ xs approvedFor draft k,
      (handleConnect W entry origin source id kinds audiences expectedPubkey).Follows xs
        (.call (.finishConnect true approvedFor draft) k) →
      (∀ request, ⟨.ask (.onConsent request), ()⟩ ∉ xs) →
      ∀ history : ConsentHistory W.newURL, AnsweredFrom history xs →
        ∃ scope, history.Remembered origin draft.pubkey scope ∧ draft.origin = origin ∧
          (∀ kind, kind ∈ scope.kinds ↔ kind ∈ draft.kinds) ∧
          (∀ a, a ∈ scope.audiences ↔ a ∈ draft.audiences) ∧
          (∀ kind, kind ∈ scope.kinds ↔ kind ∈ kinds) ∧
          ∃ normalized, audiences.mapM (normalizeOrigin W.newURL) = .ok normalized ∧
            ∀ a, a ∈ scope.audiences ↔ a ∈ normalized) ∧
    (∀ xs origin' pubkey text k,
      (handleConnect W entry origin source id kinds audiences expectedPubkey).Follows xs
        (.call (.ask (.consentRemember origin' pubkey text)) k) →
      origin' = origin ∧ ∃ scope : Scope W.newURL, text = scope.key ∧
        ∃ request, ⟨.answer (.onConsent request), some true⟩ ∈ xs ∧ request.origin = origin ∧
          request.pubkey = pubkey ∧ request.kinds = scope.kinds ∧
          request.audiences = scope.audiences) ∧
    (∀ scope scope' : Scope W.newURL, scope.key = scope'.key → scope.Same scope') ∧
    ∀ scope scope' : Scope W.newURL, scope.audiences.Nodup → scope'.audiences.Nodup →
      scope.Same scope' → scope.key = scope'.key := by
  refine ⟨fun xs approvedFor draft k hf hnone history hanswered => ?_, fun xs _ pubkey text k hf => ?_,
    fun scope scope' h => Scope.same_of_key_eq hhost h,
    fun scope scope' hnodup hnodup' h => Scope.key_eq_of_same h hnodup hnodup'⟩
  · have hwarrant := (handleConnect_consent.follows hf).1
    obtain ⟨horigin, scope, hscope, hkinds, haudiences, ⟨request, hasked⟩ | hknown⟩ := hwarrant
    · exact absurd hasked (hnone request)
    · obtain ⟨access, hhas⟩ := hanswered _ _ _ _ hknown
      obtain ⟨scope', hremembered, hkey⟩ := has_item (Option.some.inj hhas).symm
      have hsame := Scope.same_of_key_eq hhost hkey
      obtain ⟨normalized, hnormalized, heq⟩ := hscope.audiences_eq
      refine ⟨scope', hremembered, horigin, fun kind => ?_, fun a => ?_, fun kind => ?_, normalized,
        hnormalized, fun a => ?_⟩
      · rw [hsame.1, hkinds]
      · rw [hsame.2, haudiences]
      · rw [hsame.1, hscope.kinds_eq, List.mem_eraseDups]
      · rw [hsame.2, heq, List.mem_eraseDups]
  · obtain ⟨horigin, scope, -, htext, happroved⟩ := (handleConnect_consent.follows hf).1
    exact ⟨horigin, scope, htext, happroved⟩

end

/-! ## A consent that was remembered -/

namespace SignerSample

/-- The URLs of the sample have a host. -/
theorem schemeAndHost : SchemeAndHost platform.newURL := by
  intro value url hurl _
  refine ⟨"api.example.com", ?_, by decide⟩
  unfold platform newURL at hurl
  dsimp only at hurl
  split_ifs at hurl
  all_goals
    obtain rfl := Option.some.inj hurl
    decide

/-- The scope of the connection. -/
def scope : Scope platform.newURL where
  kinds := [27235]
  audiences := [audience]
  kinds_nodup := List.nodup_singleton _
  canonical := by
    intro a ha
    obtain rfl := List.mem_singleton.mp ha
    exact ⟨audience, rfl⟩

/-- It has been remembered. -/
def history : ConsentHistory platform.newURL := [(.remember relying Sample.pubkey scope, ⟨true, true⟩)]

/-- A quarter of an hour is some time. -/
theorem ttl_pos : (0 : ℤ) < 900 := by decide

/-- It is no longer than a session. -/
theorem ttl_le : (900 : ℤ) ≤ maxGrantTtlSeconds := by decide

/-- The entry of the relying origin. -/
def entry : CrossOriginPolicyEntry := ⟨[27235], [audience], 900, ttl_pos, ttl_le⟩

/-- The connection's grant. -/
def draft : GrantDraft := ⟨relying, some 1, Sample.pubkey, [27235], [audience], 900⟩

/-- The events of the connection: the store has the consent. -/
def events : List (Event SignerRes) :=
  [⟨.ask .ensureUnlocked, ()⟩, ⟨.answer .ensureUnlocked, true⟩, ⟨.ask .getNpub, ()⟩,
    ⟨.answer .getNpub, some Sample.npub⟩, ⟨.ask (.consentHas relying Sample.pubkey scope.key), ()⟩,
    ⟨.answer (.consentHas relying Sample.pubkey scope.key), some true⟩]

/-- The connection is approved after them. -/
theorem follows_events : ∃ k,
    (handleConnect platform entry relying (some 1) "c1" [27235] [audience] none).Follows events
      (.call (.finishConnect true none draft) k) := by
  have hwithin : handleConnect platform entry relying (some 1) "c1" [27235] [audience] none =
      connectWithin platform entry relying (some 1) "c1" [27235] [audience] none := rfl
  rw [hwithin]
  let p := connectWithin platform entry relying (some 1) "c1" [27235] [audience] none
  have hunlock : p.Follows [] (.call (.ask .ensureUnlocked) _) := .start
  have hunlocked : p.Follows _ (.call (.answer .ensureUnlocked) _) := hunlock.answer ()
  have hnpub : p.Follows _ (.call (.ask .getNpub) _) := hunlocked.answer true
  have hanswered : p.Follows _ (.call (.answer .getNpub) _) := hnpub.answer ()
  have hhas : p.Follows _ (.call (.ask (.consentHas relying Sample.pubkey scope.key)) _) :=
    hanswered.answer (some Sample.npub)
  have hknown : p.Follows _ (.call (.answer (.consentHas relying Sample.pubkey scope.key)) _) :=
    hhas.answer ()
  exact ⟨_, hknown.answer (some true)⟩

/-- The store has answered. -/
theorem answeredFrom_history : AnsweredFrom history events := by
  intro origin pubkey text answer hmem
  simp only [events, List.mem_cons, List.not_mem_nil, or_false] at hmem
  rcases hmem with h | h | h | h | h | h
  · cases h
  · cases h
  · cases h
  · cases h
  · cases h
  · cases h
    exact ⟨⟨true, true⟩, congrArg some (has_remember none relying Sample.pubkey scope.key).symm⟩

end SignerSample

open SignerSample in
/-- The page of the sample remembers the consent to the connection. -/
theorem remembered_same_relying : ∃ scope, history.Remembered relying Sample.pubkey scope ∧
    (∀ kind, kind ∈ scope.kinds ↔ kind = 27235) ∧ ∀ a, a ∈ scope.audiences ↔ a = audience := by
  obtain ⟨k, hf⟩ := follows_events
  obtain ⟨scope, hremembered, -, -, haudiences, hkinds, -⟩ :=
    (remembered_same platform schemeAndHost entry relying (some 1) "c1" [27235] [audience] none).1
      events none draft k hf (by simp [events]) history answeredFrom_history
  refine ⟨scope, hremembered, fun kind => ?_, fun a => ?_⟩
  · rw [hkinds, List.mem_singleton]
  · rw [haudiences]
    exact List.mem_singleton

end NapAuth.CrossOrigin

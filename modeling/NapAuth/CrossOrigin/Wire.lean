import NapAuth.CrossOrigin.Protocol

/-!
# The messages on the wire

The object that a page posts for a message (`CrossOriginMessage.data`), and what the other page reads
in it. What `parseMessage` returns is well formed and stands in the object that it was given
(`parseMessage_eq_some`). So a posted message is read as itself exactly if it is well formed, and never
as another one (`wire_round_trip`).

An object that arrives may have other fields, and one that a page posts for an event may have them too:
`parseMessage` reads none of them.
-/

namespace NapAuth.CrossOrigin

/-! ## What is posted -/

/-- A list of texts. -/
def textsData (texts : List String) : Json := .arr (texts.map .str)

/-- A list of kinds. -/
def kindsData (kinds : List ℤ) : Json := .arr (kinds.map fun kind => .num (JsonNumber.ofInt kind))

/-- The fields of a grant. -/
def grantFields (grant : GrantInfo) : List (String × Json) :=
  [("grantId", .str grant.grantId), ("pubkey", .str grant.pubkey), ("kinds", kindsData grant.kinds),
    ("audiences", textsData grant.audiences),
    ("expiresAt", .num ⟨.fin grant.expiresAt, JsNumber.noConfusion⟩)]

/-- The fields of an event template. -/
def templateFields (template : EventTemplate) : List (String × Json) :=
  [("kind", .num template.kind), ("created_at", .num template.createdAt),
    ("content", .str template.content), ("tags", .arr (template.tags.map textsData))]

/-- The template of an event. -/
def templateOf (event : Nip98Event) : EventTemplate :=
  ⟨event.createdAt, event.kind, event.tags, event.content⟩

/-- The fields of a signed event. -/
def eventFields (event : Nip98Event) : List (String × Json) :=
  templateFields (templateOf event) ++
    [("id", .str event.id), ("pubkey", .str event.pubkey), ("sig", .str event.sig)]

/-- The field of a value that may be absent. -/
def optionalText (key : String) (value : Option String) : List (String × Json) :=
  (value.map fun s => (key, Json.str s)).toList

namespace CrossOriginMessage

/-- The type of a message. -/
def type : CrossOriginMessage → String
  | ready => "ready"
  | connect _ _ _ _ => "connect"
  | connected _ _ => "connected"
  | sign _ _ _ => "sign"
  | signed _ _ => "signed"
  | error _ _ => "error"
  | revoked _ => "revoked"
  | disconnect _ => "disconnect"

/-- The fields of a message. -/
def fields : CrossOriginMessage → List (String × Json)
  | ready => []
  | connect id kinds audiences expectedPubkey =>
    [("id", .str id), ("kinds", kindsData kinds), ("audiences", textsData audiences)] ++
      optionalText "expectedPubkey" expectedPubkey
  | connected id grant => [("id", .str id), ("grant", .obj (grantFields grant))]
  | sign id grantId template =>
    [("id", .str id), ("grantId", .str grantId), ("template", .obj (templateFields template))]
  | signed id event => [("id", .str id), ("event", .obj (eventFields event))]
  | error id code => ("code", .str code.text) :: optionalText "id" id
  | revoked grantId => [("grantId", .str grantId)]
  | disconnect grantId => [("grantId", .str grantId)]

/-- The object that is posted for a message. -/
def data (m : CrossOriginMessage) : Json :=
  .obj (("nap", .str crossOriginProtocol) :: ("type", .str m.type) :: m.fields)

end CrossOriginMessage

/-! ## What is well formed -/

/-- A text is an id. -/
def IsId (s : String) : Prop := s ≠ "" ∧ JsString.length s ≤ 128

/-- A list is one of kinds. -/
structure IsKindList (kinds : List ℤ) : Prop where
  nonempty : kinds ≠ []
  length_le : kinds.length ≤ 32
  kind : ∀ kind ∈ kinds, 0 ≤ kind ∧ kind ≤ 65535

/-- A list is one of short texts. -/
structure IsStringList (texts : List String) : Prop where
  nonempty : texts ≠ []
  length_le : texts.length ≤ 32
  text : ∀ s ∈ texts, JsString.length s ≤ 512

/-- The parts of a tag are few and short. -/
structure IsTag (tag : List String) : Prop where
  nonempty : tag ≠ []
  length_le : tag.length ≤ 16
  part : ∀ part ∈ tag, JsString.length part ≤ 4096

/-- A template is one of an event. -/
structure IsTemplate (template : EventTemplate) : Prop where
  kind : ∃ kind, template.kind = JsonNumber.ofInt kind
  createdAt : ∃ createdAt, template.createdAt = JsonNumber.ofInt createdAt
  content : JsString.length template.content ≤ 65536
  tags_le : template.tags.length ≤ 64
  tag : ∀ tag ∈ template.tags, IsTag tag

/-- A grant is one of a key. -/
structure IsGrant (grant : GrantInfo) : Prop where
  grantId : IsId grant.grantId
  pubkey : isHex64 grant.pubkey = true
  kinds : IsKindList grant.kinds
  audiences : IsStringList grant.audiences
  expiresAt : ∃ expiresAt : ℤ, grant.expiresAt = expiresAt

/-- A message is well formed. -/
def CrossOriginMessage.WellFormed : CrossOriginMessage → Prop
  | .ready => True
  | .connect id kinds audiences expectedPubkey =>
    IsId id ∧ IsKindList kinds ∧ IsStringList audiences ∧ ∀ s ∈ expectedPubkey, isHex64 s = true
  | .connected id grant => IsId id ∧ IsGrant grant
  | .sign id grantId template => IsId id ∧ IsId grantId ∧ IsTemplate template
  | .signed id event => IsId id ∧ IsTemplate (templateOf event)
  | .error id _ => ∀ s ∈ id, IsId s
  | .revoked grantId => IsId grantId
  | .disconnect grantId => IsId grantId

/-! ## Reading the parts -/

/-- An object has some fields. -/
def HasFields (v : Json) (fields : List (String × Json)) : Prop :=
  v.isObject = true ∧ ∀ f ∈ fields, v.get? f.1 = some f.2

section Parts

variable {v : Json}

theorem str?_eq_some {s : String} : v.str? = some s ↔ v = .str s := by
  cases v <;> simp [Json.str?]

theorem str?_str (s : String) : (Json.str s).str? = some s := rfl

theorem idOf_eq_some {s : String} : idOf v = some s ↔ v = .str s ∧ IsId s := by
  simp only [idOf, Option.bind_eq_bind, Option.bind_eq_some_iff, str?_eq_some, IsId]
  constructor
  · rintro ⟨s', rfl, h⟩
    split_ifs at h with hid
    obtain rfl := Option.some.inj h
    exact ⟨rfl, hid⟩
  · rintro ⟨rfl, hid⟩
    exact ⟨s, rfl, if_pos hid⟩

theorem integer?_eq_some_iff {x : JsNumber} {k : ℤ} : x.integer? = some k ↔ x = .fin k := by
  cases x with
  | fin q =>
    show (if q.den = 1 then some q.num else none) = some k ↔ _
    rw [JsNumber.fin.injEq]
    constructor
    · intro h
      split_ifs at h with hden
      rw [← Option.some.inj h]
      exact (Rat.coe_int_num_of_den_eq_one hden).symm
    · rintro rfl
      rfl
  | _ => simp [JsNumber.integer?]

theorem integerOf_eq_some {k : ℤ} : integerOf v = some k ↔ v = .num (JsonNumber.ofInt k) := by
  cases v with
  | num n =>
    show n.val.integer? = some k ↔ _
    rw [integer?_eq_some_iff, Json.num.injEq]
    exact ⟨fun h => Subtype.ext h, fun h => congrArg Subtype.val h⟩
  | _ => simp [integerOf, Json.num?]

/-- Entries that are read one by one. -/
theorem mapM_eq_some {α β : Type} {read : α → Option β} {write : β → α} {p : β → Prop}
    (h : ∀ x y, read x = some y ↔ x = write y ∧ p y) {xs : List α} {ys : List β} :
    xs.mapM read = some ys ↔ xs = ys.map write ∧ ∀ y ∈ ys, p y := by
  induction xs generalizing ys with
  | nil => cases ys <;> simp
  | cons x xs ih =>
    rw [List.mapM_cons]
    cases ys with
    | nil => simp [Option.bind_eq_some_iff]
    | cons y ys =>
      simp only [Option.bind_eq_bind, Option.bind_eq_some_iff, Option.pure_def, Option.some.injEq,
        List.cons.injEq, List.map_cons, List.forall_mem_cons, h, ih]
      constructor
      · rintro ⟨_, ⟨rfl, hy⟩, _, ⟨rfl, hys⟩, rfl, rfl⟩
        exact ⟨⟨rfl, rfl⟩, hy, hys⟩
      · rintro ⟨⟨rfl, rfl⟩, hy, hys⟩
        exact ⟨y, ⟨rfl, hy⟩, ys, ⟨rfl, hys⟩, rfl, rfl⟩

/-- A list of bounded length, whose entries are read one by one. -/
theorem listOf_eq_some {β : Type} {read : Json → Option β} {write : β → Json} {p : β → Prop} {n : ℕ}
    (h : ∀ x y, read x = some y ↔ x = write y ∧ p y) {ys : List β} :
    (v.arr?.bind fun l => if l = [] ∨ n < l.length then none else l.mapM read) = some ys ↔
      v = .arr (ys.map write) ∧ ys ≠ [] ∧ ys.length ≤ n ∧ ∀ y ∈ ys, p y := by
  constructor
  · intro hread
    obtain ⟨l, hl, hread⟩ := Option.bind_eq_some_iff.mp hread
    have hv : v = .arr l := by cases v <;> simp_all [Json.arr?]
    split_ifs at hread with hlength
    obtain ⟨rfl, hp⟩ := (mapM_eq_some h).mp hread
    rw [not_or, List.map_eq_nil_iff, List.length_map, not_lt] at hlength
    exact ⟨hv, hlength.1, hlength.2, hp⟩
  · rintro ⟨rfl, hne, hle, hp⟩
    refine Option.bind_eq_some_iff.mpr ⟨_, rfl, ?_⟩
    rw [if_neg (by rw [not_or, List.map_eq_nil_iff, List.length_map, not_lt]; exact ⟨hne, hle⟩)]
    exact (mapM_eq_some h).mpr ⟨rfl, hp⟩

/-- A short text. -/
theorem shortText_eq_some {n : ℕ} {s : String} :
    (v.str?.bind fun s => if JsString.length s ≤ n then some s else none) = some s ↔
      v = .str s ∧ JsString.length s ≤ n := by
  simp only [Option.bind_eq_some_iff, str?_eq_some]
  constructor
  · rintro ⟨s', rfl, h⟩
    split_ifs at h with hle
    obtain rfl := Option.some.inj h
    exact ⟨rfl, hle⟩
  · rintro ⟨rfl, hle⟩
    exact ⟨s, rfl, if_pos hle⟩

theorem kindListOf_eq_some {kinds : List ℤ} :
    kindListOf v = some kinds ↔ v = kindsData kinds ∧ IsKindList kinds := by
  have hkind : ∀ x kind, ((integerOf x).bind fun kind =>
      if 0 ≤ kind ∧ kind ≤ 65535 then some kind else none) = some kind ↔
        x = .num (JsonNumber.ofInt kind) ∧ 0 ≤ kind ∧ kind ≤ 65535 := by
    intro x kind
    simp only [Option.bind_eq_some_iff, integerOf_eq_some]
    constructor
    · rintro ⟨kind', rfl, h⟩
      split_ifs at h with hrange
      obtain rfl := Option.some.inj h
      exact ⟨rfl, hrange⟩
    · rintro ⟨rfl, hrange⟩
      exact ⟨kind, rfl, if_pos hrange⟩
  refine (listOf_eq_some hkind).trans (and_congr_right fun _ => ?_)
  exact ⟨fun h => ⟨h.1, h.2.1, h.2.2⟩, fun h => ⟨h.nonempty, h.length_le, h.kind⟩⟩

theorem stringListOf_eq_some {texts : List String} :
    stringListOf v = some texts ↔ v = textsData texts ∧ IsStringList texts := by
  refine (listOf_eq_some fun x s => shortText_eq_some).trans (and_congr_right fun _ => ?_)
  exact ⟨fun h => ⟨h.1, h.2.1, h.2.2⟩, fun h => ⟨h.nonempty, h.length_le, h.text⟩⟩

theorem tagsOf_eq_some {tags : List (List String)} :
    tagsOf v = some tags ↔
      v = .arr (tags.map textsData) ∧ tags.length ≤ 64 ∧ ∀ tag ∈ tags, IsTag tag := by
  have htag : ∀ x tag, (x.arr?.bind fun parts => if parts = [] ∨ 16 < parts.length then none
      else parts.mapM fun part => do
        let s ← part.str?
        if JsString.length s ≤ 4096 then some s else none) = some tag ↔
        x = textsData tag ∧ IsTag tag := by
    intro x tag
    refine (listOf_eq_some fun x s => shortText_eq_some).trans (and_congr_right fun _ => ?_)
    exact ⟨fun h => ⟨h.1, h.2.1, h.2.2⟩, fun h => ⟨h.nonempty, h.length_le, h.part⟩⟩
  unfold tagsOf
  constructor
  · intro hread
    obtain ⟨l, hl, hread⟩ := Option.bind_eq_some_iff.mp hread
    have hv : v = .arr l := by cases v <;> simp_all [Json.arr?]
    split_ifs at hread with hlength
    obtain ⟨rfl, hp⟩ := (mapM_eq_some htag).mp hread
    rw [List.length_map, not_lt] at hlength
    exact ⟨hv, hlength, hp⟩
  · rintro ⟨rfl, hle, hp⟩
    refine Option.bind_eq_some_iff.mpr ⟨_, rfl, ?_⟩
    rw [if_neg (by rw [List.length_map, not_lt]; exact hle)]
    exact (mapM_eq_some htag).mpr ⟨rfl, hp⟩

/-! ## Reading a message -/

theorem isObject_of_get? {key : String} {value : Json} (h : v.get? key = some value) :
    v.isObject = true := by
  cases v <;> first | rfl | cases h

@[simp] theorem hasFields_nil : HasFields v [] ↔ v.isObject = true := by simp [HasFields]

@[simp] theorem hasFields_cons {key : String} {value : Json} {fields : List (String × Json)} :
    HasFields v ((key, value) :: fields) ↔ v.get? key = some value ∧ HasFields v fields := by
  simp only [HasFields, List.forall_mem_cons]
  exact and_left_comm

theorem eventTemplateOf_eq_some {template : EventTemplate} :
    eventTemplateOf v = some template ↔ HasFields v (templateFields template) ∧ IsTemplate template := by
  simp only [eventTemplateOf, Option.bind_eq_bind, Option.bind_none, Option.pure_def,
    Option.ite_none_left_eq_some, Option.bind_eq_some_iff, integerOf_eq_some, tagsOf_eq_some,
    str?_eq_some, Option.some.injEq, Bool.not_eq_true', Bool.not_eq_false, templateFields,
    hasFields_cons, hasFields_nil]
  constructor
  · rintro ⟨hobject, _, hkind, kind, rfl, _, hcreated, createdAt, rfl, _, hcontent, content, rfl, hle,
      _, htags, tags, ⟨rfl, htags_le, htag⟩, rfl⟩
    exact ⟨⟨hkind, hcreated, hcontent, htags, hobject⟩,
      ⟨⟨kind, rfl⟩, ⟨createdAt, rfl⟩, not_lt.mp hle, htags_le, htag⟩⟩
  · obtain ⟨createdAt, kind, tags, content⟩ := template
    rintro ⟨⟨hkind, hcreated, hcontent, htags, hobject⟩, ⟨k, rfl⟩, ⟨t, rfl⟩, hle, htags_le, htag⟩
    exact ⟨hobject, _, hkind, k, rfl, _, hcreated, t, rfl, _, hcontent, content, rfl, not_lt.mpr hle,
      _, htags, tags, ⟨rfl, htags_le, htag⟩, rfl⟩

theorem grantInfoOf_eq_some {grant : GrantInfo} :
    grantInfoOf v = some grant ↔ HasFields v (grantFields grant) ∧ IsGrant grant := by
  simp only [grantInfoOf, Option.bind_eq_bind, Option.bind_none, Option.pure_def,
    Option.ite_none_left_eq_some, Option.bind_eq_some_iff, integerOf_eq_some, idOf_eq_some,
    str?_eq_some, kindListOf_eq_some, stringListOf_eq_some, Option.some.injEq, Bool.not_eq_true',
    Bool.not_eq_false, grantFields, hasFields_cons, hasFields_nil]
  constructor
  · rintro ⟨hobject, _, hid, grantId, ⟨rfl, hgrantId⟩, _, hpubkey, pubkey, rfl, hhex, _, hkinds, kinds,
      ⟨rfl, hkind⟩, _, haudiences, audiences, ⟨rfl, haudience⟩, _, hexpires, expiresAt, rfl, rfl⟩
    exact ⟨⟨hid, hpubkey, hkinds, haudiences, hexpires, hobject⟩,
      ⟨hgrantId, hhex, hkind, haudience, expiresAt, rfl⟩⟩
  · obtain ⟨grantId, pubkey, kinds, audiences, expiresAt⟩ := grant
    rintro ⟨⟨hid, hpubkey, hkinds, haudiences, hexpires, hobject⟩, hgrantId, hhex, hkind, haudience, t,
      rfl⟩
    exact ⟨hobject, _, hid, grantId, ⟨rfl, hgrantId⟩, _, hpubkey, pubkey, rfl, hhex, _, hkinds, kinds,
      ⟨rfl, hkind⟩, _, haudiences, audiences, ⟨rfl, haudience⟩, _, hexpires, t, rfl, rfl⟩

theorem signedEventOf_eq_some {event : Nip98Event} :
    signedEventOf v = some event ↔ HasFields v (eventFields event) ∧ IsTemplate (templateOf event) := by
  simp only [signedEventOf, Option.bind_eq_bind, Option.pure_def, Option.bind_eq_some_iff,
    str?_eq_some, Option.some.injEq, eventTemplateOf_eq_some, eventFields, templateFields,
    List.cons_append, List.nil_append, hasFields_cons, hasFields_nil]
  constructor
  · rintro ⟨template, ⟨⟨hkind, hcreated, hcontent, htags, hobject⟩, htemplate⟩, _, hid, id, rfl, _,
      hpubkey, pubkey, rfl, _, hsig, sig, rfl, rfl⟩
    exact ⟨⟨hkind, hcreated, hcontent, htags, hid, hpubkey, hsig, hobject⟩, htemplate⟩
  · rintro ⟨⟨hkind, hcreated, hcontent, htags, hid, hpubkey, hsig, hobject⟩, htemplate⟩
    exact ⟨templateOf event, ⟨⟨hkind, hcreated, hcontent, htags, hobject⟩, htemplate⟩, _, hid, _, rfl,
      _, hpubkey, _, rfl, _, hsig, _, rfl, rfl⟩

/-- A key in hex. -/
theorem hexText_eq_some {s : String} :
    (v.str?.bind fun s => if isHex64 s = true then some s else none) = some s ↔
      v = .str s ∧ isHex64 s = true := by
  simp only [Option.bind_eq_some_iff, str?_eq_some, Option.ite_none_right_eq_some, Option.some.injEq]
  constructor
  · rintro ⟨_, rfl, h, rfl⟩
    exact ⟨rfl, h⟩
  · rintro ⟨rfl, h⟩
    exact ⟨s, rfl, h, rfl⟩

/-- A field that may be absent. -/
theorem optionalOf_eq_some {α : Type} {field : Option Json} {check : Json → Option α}
    {write : α → Json} {p : α → Prop} (h : ∀ x a, check x = some a ↔ x = write a ∧ p a)
    {value : Option α} :
    optionalOf field check = some value ↔ field = value.map write ∧ ∀ a ∈ value, p a := by
  cases field with
  | none => cases value <;> simp [optionalOf]
  | some x => cases value <;> simp [optionalOf, h]

end Parts

/-- A message stands in an object. -/
def Reads (data : Json) (m : CrossOriginMessage) : Prop :=
  HasFields data [("nap", .str crossOriginProtocol), ("type", .str m.type)] ∧
  match m with
  | .ready => True
  | .connect id kinds audiences expectedPubkey =>
    HasFields data [("id", .str id), ("kinds", kindsData kinds), ("audiences", textsData audiences)] ∧
      data.get? "expectedPubkey" = expectedPubkey.map .str
  | .connected id grant =>
    data.get? "id" = some (.str id) ∧ ∃ g, data.get? "grant" = some g ∧ HasFields g (grantFields grant)
  | .sign id grantId template =>
    HasFields data [("id", .str id), ("grantId", .str grantId)] ∧
      ∃ t, data.get? "template" = some t ∧ HasFields t (templateFields template)
  | .signed id event =>
    data.get? "id" = some (.str id) ∧ ∃ v, data.get? "event" = some v ∧ HasFields v (eventFields event)
  | .error id code => data.get? "code" = some (.str code.text) ∧ data.get? "id" = id.map .str
  | .revoked grantId => data.get? "grantId" = some (.str grantId)
  | .disconnect grantId => data.get? "grantId" = some (.str grantId)

/-- The code with a text. -/
theorem errorCodes_find {text : String} {code : CrossOriginErrorCode} :
    (errorCodes.find? fun c => c.text == text) = some code ↔ text = code.text := by
  constructor
  · intro h
    have hfound := List.find?_some h
    exact (eq_of_beq hfound).symm
  · rintro rfl
    cases code <;> rfl

/-- What is read in an object is well formed and stands in it, and nothing else is needed. -/
theorem parseMessage_eq_some {data : Json} {m : CrossOriginMessage} :
    parseMessage data = some m ↔ m.WellFormed ∧ Reads data m := by
  constructor
  · intro h
    simp only [parseMessage, Option.bind_eq_bind, Option.bind_none, Option.pure_def,
      Option.ite_none_left_eq_some, Option.bind_eq_some_iff, str?_eq_some, not_not] at h
    obtain ⟨_, hnap, _, rfl, rfl, _, htype, type, rfl, h⟩ := h
    have hobject := isObject_of_get? hnap
    by_cases hready : type = "ready"
    · rw [if_pos hready] at h
      obtain rfl := Option.some.inj h
      exact ⟨trivial, by simp [hnap, htype, hready, hobject, CrossOriginMessage.type], trivial⟩
    rw [if_neg hready] at h
    by_cases hconnect : type = "connect"
    · rw [if_pos hconnect] at h
      simp only [Option.bind_eq_some_iff, idOf_eq_some, kindListOf_eq_some, stringListOf_eq_some,
        optionalOf_eq_some fun _ _ => hexText_eq_some, Option.some.injEq] at h
      obtain ⟨_, hid, id, ⟨rfl, hidOk⟩, _, hkinds, kinds, ⟨rfl, hkindsOk⟩, _, haudiences, audiences,
        ⟨rfl, haudiencesOk⟩, expectedPubkey, ⟨hexpected, hexpectedOk⟩, rfl⟩ := h
      exact ⟨⟨hidOk, hkindsOk, haudiencesOk, hexpectedOk⟩,
        by simp [hnap, htype, hconnect, hobject, CrossOriginMessage.type],
        by simp [hid, hkinds, haudiences, hobject], hexpected⟩
    rw [if_neg hconnect] at h
    by_cases hconnected : type = "connected"
    · rw [if_pos hconnected] at h
      simp only [Option.bind_eq_some_iff, idOf_eq_some, grantInfoOf_eq_some, Option.some.injEq] at h
      obtain ⟨_, hid, id, ⟨rfl, hidOk⟩, g, hgrant, grant, ⟨hfields, hgrantOk⟩, rfl⟩ := h
      exact ⟨⟨hidOk, hgrantOk⟩, by simp [hnap, htype, hconnected, hobject, CrossOriginMessage.type],
        hid, g, hgrant, hfields⟩
    rw [if_neg hconnected] at h
    by_cases hsign : type = "sign"
    · rw [if_pos hsign] at h
      simp only [Option.bind_eq_some_iff, idOf_eq_some, eventTemplateOf_eq_some, Option.some.injEq] at h
      obtain ⟨_, hid, id, ⟨rfl, hidOk⟩, _, hgrantId, grantId, ⟨rfl, hgrantIdOk⟩, t, ht, template,
        ⟨hfields, htemplate⟩, rfl⟩ := h
      exact ⟨⟨hidOk, hgrantIdOk, htemplate⟩,
        by simp [hnap, htype, hsign, hobject, CrossOriginMessage.type],
        by simp [hid, hgrantId, hobject], t, ht, hfields⟩
    rw [if_neg hsign] at h
    by_cases hsigned : type = "signed"
    · rw [if_pos hsigned] at h
      simp only [Option.bind_eq_some_iff, idOf_eq_some, signedEventOf_eq_some, Option.some.injEq] at h
      obtain ⟨_, hid, id, ⟨rfl, hidOk⟩, v, hv, event, ⟨hfields, htemplate⟩, rfl⟩ := h
      exact ⟨⟨hidOk, htemplate⟩, by simp [hnap, htype, hsigned, hobject, CrossOriginMessage.type],
        hid, v, hv, hfields⟩
    rw [if_neg hsigned] at h
    by_cases herror : type = "error"
    · rw [if_pos herror] at h
      simp only [Option.bind_eq_some_iff, str?_eq_some, errorCodes_find,
        optionalOf_eq_some (fun _ _ => idOf_eq_some), Option.some.injEq] at h
      obtain ⟨_, hcode, _, rfl, code, rfl, id, ⟨hid, hidOk⟩, rfl⟩ := h
      exact ⟨hidOk, by simp [hnap, htype, herror, hobject, CrossOriginMessage.type], hcode, hid⟩
    rw [if_neg herror] at h
    by_cases hrevoked : type = "revoked"
    · rw [if_pos hrevoked] at h
      simp only [Option.bind_eq_some_iff, idOf_eq_some, Option.some.injEq] at h
      obtain ⟨_, hid, grantId, ⟨rfl, hidOk⟩, rfl⟩ := h
      exact ⟨hidOk, by simp [hnap, htype, hrevoked, hobject, CrossOriginMessage.type], hid⟩
    rw [if_neg hrevoked] at h
    by_cases hdisconnect : type = "disconnect"
    · rw [if_pos hdisconnect] at h
      simp only [Option.bind_eq_some_iff, idOf_eq_some, Option.some.injEq] at h
      obtain ⟨_, hid, grantId, ⟨rfl, hidOk⟩, rfl⟩ := h
      exact ⟨hidOk, by simp [hnap, htype, hdisconnect, hobject, CrossOriginMessage.type], hid⟩
    rw [if_neg hdisconnect] at h
    cases h
  · rintro ⟨hwell, henvelope, hbody⟩
    simp only [hasFields_cons, hasFields_nil] at henvelope
    obtain ⟨hnap, htype, hobject⟩ := henvelope
    simp only [parseMessage, Option.bind_eq_bind, Option.pure_def, hnap, htype, Option.bind_some,
      str?_str, ne_eq, not_true_eq_false, if_false]
    cases m with
    | ready => rfl
    | connect id kinds audiences expectedPubkey =>
      obtain ⟨hidOk, hkindsOk, haudiencesOk, hexpectedOk⟩ := hwell
      obtain ⟨hfields, hexpected⟩ := hbody
      simp only [hasFields_cons, hasFields_nil] at hfields
      obtain ⟨hid, hkinds, haudiences, -⟩ := hfields
      simp [CrossOriginMessage.type, hid, hkinds, haudiences, idOf_eq_some.mpr ⟨rfl, hidOk⟩,
        kindListOf_eq_some.mpr ⟨rfl, hkindsOk⟩, stringListOf_eq_some.mpr ⟨rfl, haudiencesOk⟩,
        (optionalOf_eq_some fun _ _ => hexText_eq_some).mpr ⟨hexpected, hexpectedOk⟩]
    | connected id grant =>
      obtain ⟨hid, g, hgrant, hfields⟩ := hbody
      simp [CrossOriginMessage.type, hid, hgrant, idOf_eq_some.mpr ⟨rfl, hwell.1⟩,
        grantInfoOf_eq_some.mpr ⟨hfields, hwell.2⟩]
    | sign id grantId template =>
      obtain ⟨hids, t, ht, hfields⟩ := hbody
      simp only [hasFields_cons, hasFields_nil] at hids
      simp [CrossOriginMessage.type, hids.1, hids.2.1, ht, idOf_eq_some.mpr ⟨rfl, hwell.1⟩,
        idOf_eq_some.mpr ⟨rfl, hwell.2.1⟩, eventTemplateOf_eq_some.mpr ⟨hfields, hwell.2.2⟩]
    | signed id event =>
      obtain ⟨hid, v, hv, hfields⟩ := hbody
      simp [CrossOriginMessage.type, hid, hv, idOf_eq_some.mpr ⟨rfl, hwell.1⟩,
        signedEventOf_eq_some.mpr ⟨hfields, hwell.2⟩]
    | error id code =>
      obtain ⟨hcode, hid⟩ := hbody
      simp [CrossOriginMessage.type, hcode, str?_str, errorCodes_find.mpr rfl,
        (optionalOf_eq_some fun _ _ => idOf_eq_some).mpr ⟨hid, hwell⟩]
    | revoked grantId =>
      have hid : data.get? "grantId" = some (.str grantId) := hbody
      simp [CrossOriginMessage.type, hid, idOf_eq_some.mpr ⟨rfl, hwell⟩]
    | disconnect grantId =>
      have hid : data.get? "grantId" = some (.str grantId) := hbody
      simp [CrossOriginMessage.type, hid, idOf_eq_some.mpr ⟨rfl, hwell⟩]

/-! ## The round trip -/

@[simp] theorem textsData_inj {texts texts' : List String} :
    textsData texts = textsData texts' ↔ texts = texts' := by
  rw [textsData, textsData, Json.arr.injEq]
  exact (List.map_injective_iff.mpr fun _ _ => Json.str.inj).eq_iff

@[simp] theorem kindsData_inj {kinds kinds' : List ℤ} :
    kindsData kinds = kindsData kinds' ↔ kinds = kinds' := by
  rw [kindsData, kindsData, Json.arr.injEq]
  refine Function.Injective.eq_iff (List.map_injective_iff.mpr fun kind kind' h => ?_)
  have hfin := JsNumber.fin.inj (congrArg Subtype.val (Json.num.inj h))
  exact_mod_cast hfin

@[simp] theorem tagsData_inj {tags tags' : List (List String)} :
    tags.map textsData = tags'.map textsData ↔ tags = tags' :=
  (List.map_injective_iff.mpr fun _ _ => textsData_inj.mp).eq_iff

section Unique

variable {v : Json}

/-- An object has the fields of one grant only. -/
theorem grantFields_unique {grant grant' : GrantInfo} (h : HasFields v (grantFields grant))
    (h' : HasFields v (grantFields grant')) : grant = grant' := by
  simp only [grantFields, hasFields_cons, hasFields_nil] at h h'
  obtain ⟨hgrantId, hpubkey, hkinds, haudiences, hexpires, -⟩ := h
  obtain ⟨hgrantId', hpubkey', hkinds', haudiences', hexpires', -⟩ := h'
  obtain ⟨grantId, pubkey, kinds, audiences, expiresAt⟩ := grant
  obtain rfl := Json.str.inj (Option.some.inj (hgrantId.symm.trans hgrantId'))
  obtain rfl := Json.str.inj (Option.some.inj (hpubkey.symm.trans hpubkey'))
  obtain rfl := kindsData_inj.mp (Option.some.inj (hkinds.symm.trans hkinds'))
  obtain rfl := textsData_inj.mp (Option.some.inj (haudiences.symm.trans haudiences'))
  have hnumber := congrArg Subtype.val (Json.num.inj (Option.some.inj (hexpires.symm.trans hexpires')))
  obtain rfl : expiresAt = grant'.expiresAt := JsNumber.fin.inj hnumber
  rfl

/-- And of one template. -/
theorem templateFields_unique {template template' : EventTemplate}
    (h : HasFields v (templateFields template)) (h' : HasFields v (templateFields template')) :
    template = template' := by
  simp only [templateFields, hasFields_cons, hasFields_nil] at h h'
  obtain ⟨hkind, hcreated, hcontent, htags, -⟩ := h
  obtain ⟨hkind', hcreated', hcontent', htags', -⟩ := h'
  obtain ⟨createdAt, kind, tags, content⟩ := template
  obtain rfl := Json.num.inj (Option.some.inj (hkind.symm.trans hkind'))
  obtain rfl := Json.num.inj (Option.some.inj (hcreated.symm.trans hcreated'))
  obtain rfl := Json.str.inj (Option.some.inj (hcontent.symm.trans hcontent'))
  obtain rfl := tagsData_inj.mp (Json.arr.inj (Option.some.inj (htags.symm.trans htags')))
  rfl

/-- And of one event. -/
theorem eventFields_unique {event event' : Nip98Event} (h : HasFields v (eventFields event))
    (h' : HasFields v (eventFields event')) : event = event' := by
  have hsplit : ∀ {ev : Nip98Event}, HasFields v (eventFields ev) →
      HasFields v (templateFields (templateOf ev)) ∧ v.get? "id" = some (.str ev.id) ∧
        v.get? "pubkey" = some (.str ev.pubkey) ∧ v.get? "sig" = some (.str ev.sig) := by
    intro ev hev
    simp only [eventFields, templateFields, List.cons_append, List.nil_append, hasFields_cons,
      hasFields_nil] at hev ⊢
    obtain ⟨hkind, hcreated, hcontent, htags, hid, hpubkey, hsig, hobject⟩ := hev
    exact ⟨⟨hkind, hcreated, hcontent, htags, hobject⟩, hid, hpubkey, hsig⟩
  obtain ⟨htemplate, hid, hpubkey, hsig⟩ := hsplit h
  obtain ⟨htemplate', hid', hpubkey', hsig'⟩ := hsplit h'
  obtain ⟨hcreated, hkind, htags, hcontent⟩ :=
    EventTemplate.mk.inj (templateFields_unique htemplate htemplate')
  obtain ⟨id, pubkey, createdAt, kind, tags, content, sig⟩ := event
  obtain rfl := Json.str.inj (Option.some.inj (hid.symm.trans hid'))
  obtain rfl := Json.str.inj (Option.some.inj (hpubkey.symm.trans hpubkey'))
  obtain rfl := Json.str.inj (Option.some.inj (hsig.symm.trans hsig'))
  subst hcreated hkind htags hcontent
  rfl

end Unique

/-- A message stands in the object that is posted for it. -/
theorem reads_data (m : CrossOriginMessage) : Reads m.data m := by
  refine ⟨?_, ?_⟩
  · simp only [hasFields_cons, hasFields_nil]
    exact ⟨rfl, rfl, rfl⟩
  · cases m with
    | connect id kinds audiences expectedPubkey =>
      refine ⟨by simp only [hasFields_cons, hasFields_nil]; exact ⟨rfl, rfl, rfl, rfl⟩, ?_⟩
      cases expectedPubkey <;> rfl
    | connected id grant =>
      refine ⟨rfl, _, rfl, ?_⟩
      simp only [grantFields, hasFields_cons, hasFields_nil]
      exact ⟨rfl, rfl, rfl, rfl, rfl, rfl⟩
    | sign id grantId template =>
      refine ⟨by simp only [hasFields_cons, hasFields_nil]; exact ⟨rfl, rfl, rfl⟩, _, rfl, ?_⟩
      simp only [templateFields, hasFields_cons, hasFields_nil]
      exact ⟨rfl, rfl, rfl, rfl, rfl⟩
    | signed id event =>
      refine ⟨rfl, _, rfl, ?_⟩
      simp only [eventFields, templateFields, List.cons_append, List.nil_append, hasFields_cons,
        hasFields_nil]
      exact ⟨rfl, rfl, rfl, rfl, rfl, rfl, rfl, rfl⟩
    | error id code =>
      refine ⟨rfl, ?_⟩
      cases id <;> rfl
    | _ => trivial

/-- Two codes have two texts. -/
theorem text_injective : Function.Injective CrossOriginErrorCode.text := by
  intro code code' h
  exact Option.some.inj ((errorCodes_find.mpr rfl).symm.trans (errorCodes_find.mpr h))

/-- One message stands in an object. -/
theorem Reads.unique {data : Json} {m m' : CrossOriginMessage} (h : Reads data m) (h' : Reads data m') :
    m = m' := by
  obtain ⟨henvelope, hbody⟩ := h
  obtain ⟨henvelope', hbody'⟩ := h'
  simp only [hasFields_cons, hasFields_nil] at henvelope henvelope'
  have htype := Json.str.inj (Option.some.inj (henvelope.2.1.symm.trans henvelope'.2.1))
  -- A field that both messages have has one value.
  have htext : ∀ {key s s'}, data.get? key = some (.str s) → data.get? key = some (.str s') → s = s' :=
    fun hs hs' => Json.str.inj (Option.some.inj (hs.symm.trans hs'))
  have hoptional : ∀ {key} {s s' : Option String}, data.get? key = s.map .str →
      data.get? key = s'.map .str → s = s' := fun hs hs' =>
    Option.map_injective (fun _ _ => Json.str.inj) (hs.symm.trans hs')
  cases m with
  | ready =>
    cases m' with
    | ready => rfl
    | _ => simp [CrossOriginMessage.type] at htype
  | connect id kinds audiences expectedPubkey =>
    cases m' with
    | connect id' kinds' audiences' expectedPubkey' =>
      simp only [hasFields_cons, hasFields_nil] at hbody hbody'
      obtain ⟨⟨hid, hkinds, haudiences, -⟩, hexpected⟩ := hbody
      obtain ⟨⟨hid', hkinds', haudiences', -⟩, hexpected'⟩ := hbody'
      obtain rfl := htext hid hid'
      obtain rfl := kindsData_inj.mp (Option.some.inj (hkinds.symm.trans hkinds'))
      obtain rfl := textsData_inj.mp (Option.some.inj (haudiences.symm.trans haudiences'))
      obtain rfl := hoptional hexpected hexpected'
      rfl
    | _ => simp [CrossOriginMessage.type] at htype
  | connected id grant =>
    cases m' with
    | connected id' grant' =>
      obtain ⟨hid, g, hg, hfields⟩ := hbody
      obtain ⟨hid', g', hg', hfields'⟩ := hbody'
      obtain rfl := htext hid hid'
      obtain rfl := Option.some.inj (hg.symm.trans hg')
      rw [grantFields_unique hfields hfields']
    | _ => simp [CrossOriginMessage.type] at htype
  | sign id grantId template =>
    cases m' with
    | sign id' grantId' template' =>
      simp only [hasFields_cons, hasFields_nil] at hbody hbody'
      obtain ⟨⟨hid, hgrantId, -⟩, t, ht, hfields⟩ := hbody
      obtain ⟨⟨hid', hgrantId', -⟩, t', ht', hfields'⟩ := hbody'
      obtain rfl := htext hid hid'
      obtain rfl := htext hgrantId hgrantId'
      obtain rfl := Option.some.inj (ht.symm.trans ht')
      rw [templateFields_unique hfields hfields']
    | _ => simp [CrossOriginMessage.type] at htype
  | signed id event =>
    cases m' with
    | signed id' event' =>
      obtain ⟨hid, v, hv, hfields⟩ := hbody
      obtain ⟨hid', v', hv', hfields'⟩ := hbody'
      obtain rfl := htext hid hid'
      obtain rfl := Option.some.inj (hv.symm.trans hv')
      rw [eventFields_unique hfields hfields']
    | _ => simp [CrossOriginMessage.type] at htype
  | error id code =>
    cases m' with
    | error id' code' =>
      obtain ⟨hcode, hid⟩ := hbody
      obtain ⟨hcode', hid'⟩ := hbody'
      rw [text_injective (htext hcode hcode'), hoptional hid hid']
    | _ => simp [CrossOriginMessage.type] at htype
  | revoked grantId =>
    cases m' with
    | revoked grantId' => rw [htext hbody hbody']
    | _ => simp [CrossOriginMessage.type] at htype
  | disconnect grantId =>
    cases m' with
    | disconnect grantId' => rw [htext hbody hbody']
    | _ => simp [CrossOriginMessage.type] at htype

end NapAuth.CrossOrigin

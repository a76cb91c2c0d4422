import NapAuth.CrossOrigin.Signer
import NapAuth.Separated
import NapAuth.Utf16

/-!
# The scope of a consent

`scopeKey` joins the kinds and the audiences of a connection to one text. The comma that joins two
audiences may occur in the host of a URL, and so the text is not split at its commas. What ends an
audience is the scheme of the next one: the first slash after a host comes after a scheme, which has
no comma (`delimited_origin`).

So the scopes of two connections are the same exactly if their kinds and their audiences are, as sets
(`scopeKey_eq_iff`).
-/

namespace NapAuth.CrossOrigin

variable {newURL : String → Option Url}

/-! ## Canonical origins -/

/-- The origin of an `http` or `https` URL is its scheme and its host, with the port, and there is no
slash in a host. -/
def SchemeAndHost (newURL : String → Option Url) : Prop :=
  ∀ value url, newURL value = some url → url.protocol = "https:" ∨ url.protocol = "http:" →
    ∃ host, url.origin = url.protocol ++ "//" ++ host ∧ '/' ∉ host.toList

/-- An origin that `normalizeOrigin` returns. -/
def IsCanonical (newURL : String → Option Url) (origin : String) : Prop :=
  ∃ value, normalizeOrigin newURL value = .ok origin

/-- The characters of an origin: a scheme, two slashes, and a host. -/
def OriginChars (l : List Char) : Prop :=
  ∃ scheme host, l = scheme ++ '/' :: '/' :: host ∧ ',' ∉ scheme ∧ '/' ∉ scheme ∧ '/' ∉ host

/-- What `normalizeOrigin` returns is the origin of a URL with one of two schemes. -/
theorem normalizeOrigin_eq_ok {value origin : String} (h : normalizeOrigin newURL value = .ok origin) :
    ∃ url, newURL value = some url ∧ (url.protocol = "https:" ∨ url.protocol = "http:") ∧
      url.origin = origin := by
  unfold normalizeOrigin at h
  split at h
  · cases h
  · rename_i url hurl
    split_ifs at h with hprotocol
    refine ⟨url, hurl, ?_, Except.ok.inj h⟩
    by_contra hnot
    exact hprotocol (not_or.mp hnot)

/-- A canonical origin has the characters of one. -/
theorem IsCanonical.chars (hhost : SchemeAndHost newURL) {origin : String}
    (h : IsCanonical newURL origin) : OriginChars origin.toList := by
  obtain ⟨value, hvalue⟩ := h
  obtain ⟨url, hurl, hprotocol, rfl⟩ := normalizeOrigin_eq_ok hvalue
  obtain ⟨host, horigin, hslash⟩ := hhost value url hurl hprotocol
  refine ⟨url.protocol.toList, host.toList, ?_, ?_, ?_, hslash⟩
  · rw [horigin, String.toList_append, String.toList_append, List.append_assoc]
    rfl
  all_goals rcases hprotocol with h | h <;> rw [h] <;> decide

/-- Origins can be told from what follows them, in a list that is joined by commas. -/
theorem delimited_origin : Separated.Delimited ',' OriginChars := by
  rintro _ _ items items' ⟨scheme, host, rfl, -, hscheme, hhost⟩
    ⟨scheme', host', rfl, -, hscheme', hhost'⟩ hitems hitems' heq
  simp only [List.append_assoc, List.cons_append] at heq
  obtain ⟨rfl, hslashes⟩ := Separated.eq_of_separator hscheme hscheme' heq
  have hafter := (List.cons.inj hslashes).2
  have hhosts : host = host' := by
    cases items with
    | nil =>
      cases items' with
      | nil => rwa [Separated.rest_nil, List.append_nil, List.append_nil] at hafter
      | cons b' items' =>
        -- The next origin has a slash.
        obtain ⟨next', _, rfl, -, -, -⟩ := hitems' b' List.mem_cons_self
        rw [Separated.rest_nil, List.append_nil] at hafter
        exact absurd (hafter ▸ by simp) hhost
    | cons b items =>
      obtain ⟨next, _, rfl, hcomma, hnext, -⟩ := hitems b List.mem_cons_self
      cases items' with
      | nil =>
        rw [Separated.rest_nil, List.append_nil] at hafter
        exact absurd (hafter ▸ by simp) hhost'
      | cons b' items' =>
        obtain ⟨next', _, rfl, hcomma', hnext', -⟩ := hitems' b' List.mem_cons_self
        simp only [Separated.rest_cons, List.append_assoc, List.cons_append] at hafter
        -- Up to the next slash there is a host, a comma and a scheme, and no comma in the scheme.
        have hslash : '/' ∉ host ++ ',' :: next := by simp [hhost, hnext]
        have hslash' : '/' ∉ host' ++ ',' :: next' := by simp [hhost', hnext']
        have hbefore := (Separated.eq_of_separator hslash hslash' (by simpa using hafter)).1
        obtain rfl := Separated.right_eq_of_separator hcomma hcomma' hbefore
        exact List.append_cancel_right hbefore
  rw [hhosts]

/-! ## Their texts -/

/-- The characters of a decimal text. -/
def DecimalChars (l : List Char) : Prop := l ≠ [] ∧ ∀ c ∈ l, c = '-' ∨ c.isDigit = true

theorem decimalChars_toString (k : ℤ) : DecimalChars (toString k).toList := by
  refine ⟨fun hnil => ?_, fun c hc => JsString.mem_repr hc⟩
  cases k with
  | ofNat n => exact Nat.repr_ne_empty (String.toList_inj.mp hnil)
  | negSucc n => exact absurd (JsString.toList_repr_negSucc n ▸ hnil) (List.cons_ne_nil _ _)

/-- The text of kinds. -/
def kindsText (kinds : List ℤ) : String := String.intercalate "," (kinds.map toString)

/-- The characters of a joined text. -/
theorem toList_join (items : List String) :
    (String.intercalate "," items).toList = List.intercalate [','] (items.map String.toList) := by
  rw [String.toList_intercalate]
  rfl

/-- There are decimal texts and commas in the text of kinds. -/
theorem notMem_kindsText (kinds : List ℤ) : '|' ∉ (kindsText kinds).toList := by
  intro hmem
  unfold kindsText at hmem
  rw [toList_join] at hmem
  rcases Separated.mem_intercalate hmem with heq | ⟨a, ha, hbar⟩
  · cases heq
  · rw [List.map_map, List.mem_map] at ha
    obtain ⟨k, -, rfl⟩ := ha
    rcases (decimalChars_toString k).2 _ hbar with heq | hdigit
    · cases heq
    · cases hdigit

/-- The text of kinds determines them. -/
theorem kindsText_injective : Function.Injective kindsText := by
  have hdelimited : Separated.Delimited ',' DecimalChars := by
    have hcomma : ∀ a, DecimalChars a → ',' ∉ a := by
      intro a ha hmem
      rcases ha.2 _ hmem with heq | hdigit
      · cases heq
      · cases hdigit
    intro a a' items items' ha ha' hitems hitems' heq
    exact Separated.delimited_of_notMem (hcomma a ha) (hcomma a' ha')
      (fun b hb => hcomma b (hitems b hb)) (fun b hb => hcomma b (hitems' b hb)) heq
  have hdecimal : ∀ kinds : List ℤ, ∀ a ∈ (kinds.map toString).map String.toList, DecimalChars a := by
    intro kinds a ha
    rw [List.map_map, List.mem_map] at ha
    obtain ⟨k, -, rfl⟩ := ha
    exact decimalChars_toString k
  intro kinds kinds' h
  have hchars := congrArg String.toList h
  unfold kindsText at hchars
  rw [toList_join, toList_join] at hchars
  have hitems := Separated.intercalate_injective hdelimited (fun a ha => ha.1) (hdecimal kinds)
    (hdecimal kinds') hchars
  have htexts := List.map_injective_iff.mpr (fun a b hab => String.toList_inj.mp hab) hitems
  exact List.map_injective_iff.mpr (fun a b hab => JsString.repr_injective hab) htexts

/-- The text of canonical origins determines them. -/
theorem audiencesText_injective (hhost : SchemeAndHost newURL) {audiences audiences' : List String}
    (h : ∀ a ∈ audiences, IsCanonical newURL a) (h' : ∀ a ∈ audiences', IsCanonical newURL a)
    (heq : String.intercalate "," audiences = String.intercalate "," audiences') :
    audiences = audiences' := by
  have hchars : ∀ {l : List String}, (∀ a ∈ l, IsCanonical newURL a) →
      ∀ b ∈ l.map String.toList, OriginChars b := by
    intro l hl b hb
    obtain ⟨a, ha, rfl⟩ := List.mem_map.mp hb
    exact (hl a ha).chars hhost
  have hne : ∀ b, OriginChars b → b ≠ [] := by
    rintro b ⟨scheme, host, rfl, -⟩ hnil
    exact List.cons_ne_nil _ _ (List.append_eq_nil_iff.mp hnil).2
  have htext := congrArg String.toList heq
  rw [toList_join, toList_join] at htext
  exact List.map_injective_iff.mpr (fun a b hab => String.toList_inj.mp hab)
    (Separated.intercalate_injective delimited_origin hne (hchars h) (hchars h') htext)

/-! ## Scopes -/

/-- What a consent is for, as `handleConnect` asks for it: kinds without duplicates, and canonical
origins. -/
structure Scope (newURL : String → Option Url) where
  kinds : List ℤ
  audiences : List String
  kinds_nodup : kinds.Nodup
  canonical : ∀ a ∈ audiences, IsCanonical newURL a

/-- `[...new Set(l)]` has no duplicates. -/
theorem nodup_eraseDups {A : Type} [DecidableEq A] : ∀ l : List A, l.eraseDups.Nodup
  | [] => List.nodup_nil
  | a :: l => by
    rw [List.eraseDups_cons]
    refine List.nodup_cons.mpr ⟨?_, nodup_eraseDups _⟩
    rw [List.mem_eraseDups, List.mem_filter]
    simp
termination_by l => l.length
decreasing_by exact Nat.lt_succ_of_le (List.length_filter_le _ _)

/-- Its text. -/
def Scope.key (scope : Scope newURL) : String := scopeKey scope.kinds scope.audiences

/-- Two scopes have the same kinds and the same audiences, in some order. -/
def Scope.Same (scope scope' : Scope newURL) : Prop :=
  (∀ k, k ∈ scope.kinds ↔ k ∈ scope'.kinds) ∧ ∀ a, a ∈ scope.audiences ↔ a ∈ scope'.audiences

/-- Kinds in order. -/
def sortKinds (kinds : List ℤ) : List ℤ := kinds.mergeSort fun a b => decide (a ≤ b)

theorem sortKinds_perm (kinds : List ℤ) : (sortKinds kinds).Perm kinds := List.mergeSort_perm kinds _

/-- The text of a scope is that of its kinds, in order, a bar, and its audiences, in order. -/
theorem Scope.key_eq (scope : Scope newURL) : scope.key = kindsText (sortKinds scope.kinds) ++ "|" ++
    String.intercalate "," (JsString.sort scope.audiences) := rfl

/-- Kinds without duplicates that are the same are the same in order. -/
theorem sortKinds_eq {kinds kinds' : List ℤ} (h : kinds.Nodup) (h' : kinds'.Nodup)
    (hmem : ∀ k, k ∈ kinds ↔ k ∈ kinds') : sortKinds kinds = sortKinds kinds' := by
  have hsorted : ∀ l : List ℤ, (sortKinds l).Pairwise (· ≤ ·) := by
    intro l
    have hpairwise : (sortKinds l).Pairwise fun a b => decide (a ≤ b) = true :=
      List.pairwise_mergeSort (by grind) (by grind) l
    exact hpairwise.imp fun hle => of_decide_eq_true hle
  have hperm := (List.perm_ext_iff_of_nodup h h').mpr hmem
  refine List.Perm.eq_of_pairwise (fun a b _ _ => le_antisymm) (hsorted kinds) (hsorted kinds') ?_
  exact (sortKinds_perm kinds).trans (hperm.trans (sortKinds_perm kinds').symm)

/-- Scopes with the same text are the same. -/
theorem Scope.same_of_key_eq (hhost : SchemeAndHost newURL) {scope scope' : Scope newURL}
    (h : scope.key = scope'.key) : scope.Same scope' := by
  have hcanonical : ∀ s : Scope newURL, ∀ a ∈ JsString.sort s.audiences, IsCanonical newURL a :=
    fun s a ha => s.canonical a ((JsString.sort_perm _).mem_iff.mp ha)
  have htext : (kindsText (sortKinds scope.kinds)).toList ++
        '|' :: (String.intercalate "," (JsString.sort scope.audiences)).toList =
      (kindsText (sortKinds scope'.kinds)).toList ++
        '|' :: (String.intercalate "," (JsString.sort scope'.audiences)).toList := by
    have hchars := congrArg String.toList h
    simp only [key_eq, String.toList_append, List.append_assoc] at hchars
    exact hchars
  obtain ⟨hkinds, haudiences⟩ := Separated.eq_of_separator (notMem_kindsText _) (notMem_kindsText _)
    htext
  have hkinds := kindsText_injective (String.toList_inj.mp hkinds)
  have haudiences := audiencesText_injective hhost (hcanonical scope) (hcanonical scope')
    (String.toList_inj.mp haudiences)
  refine ⟨fun k => ?_, fun a => ?_⟩
  · rw [← (sortKinds_perm scope.kinds).mem_iff, hkinds, (sortKinds_perm scope'.kinds).mem_iff]
  · rw [← (JsString.sort_perm scope.audiences).mem_iff, haudiences,
      (JsString.sort_perm scope'.audiences).mem_iff]

/-- The order in which they are listed has no effect on the text. -/
theorem Scope.key_eq_of_same {scope scope' : Scope newURL} (h : scope.Same scope')
    (hnodup : scope.audiences.Nodup) (hnodup' : scope'.audiences.Nodup) : scope.key = scope'.key := by
  have hkinds := sortKinds_eq scope.kinds_nodup scope'.kinds_nodup h.1
  have haudiences : JsString.sort scope.audiences = JsString.sort scope'.audiences := by
    refine JsString.eq_of_strict (JsString.sort_strict hnodup) (JsString.sort_strict hnodup')
      fun a => ?_
    rw [(JsString.sort_perm _).mem_iff, (JsString.sort_perm _).mem_iff, h.2]
  rw [key_eq, key_eq, hkinds, haudiences]

end NapAuth.CrossOrigin

import Mathlib.Data.List.TakeWhile
import NapAuth.Voucher.Decisions

/-!
# What an issuer signs

Two vouchers with the same canonical bytes say the same (`canonicalBytes_injective`), although the
`data` and the nonce are written into them as they are. The `data` of a voucher that is locked to a
key has no quote, so that the kind and the `data` end where they seem to. The nonce is up to its
author, and ends at some `",[`. What follows is a list of tags, and a list of tags (`Scan`) has no
`",[` but in a string. If one voucher's nonce ended where another one's tags have a string, the tags
of the one would be outside of strings where those of the other are inside, up to their common end,
where both are outside (`opposite`).
-/

namespace NapAuth.Voucher

/-! ## Escaped texts -/

/-- The character that the beginning of an escaped text stands for, and what comes after it. -/
def unescapeChar : List Char → Option (Char × List Char)
  | '\\' :: 'n' :: rest => some ('\n', rest)
  | '\\' :: 'r' :: rest => some ('\r', rest)
  | '\\' :: 't' :: rest => some ('\t', rest)
  | '\\' :: 'b' :: rest => some (Char.ofNat 8, rest)
  | '\\' :: 'f' :: rest => some (Char.ofNat 12, rest)
  | '\\' :: 'u' :: _ :: _ :: high :: low :: rest =>
    some (Char.ofNat (16 * hexDigitValue high + hexDigitValue low), rest)
  | '\\' :: c :: rest => some (c, rest)
  | c :: rest => some (c, rest)
  | [] => none

/-- The value of the two digits of a small number. -/
theorem hexDigitValue_pair : ∀ n < 32,
    16 * hexDigitValue (Codec.hexDigit (n / 16)) + hexDigitValue (Codec.hexDigit (n % 16)) = n := by
  decide

/-- An escaped character can be read back. -/
theorem unescapeChar_escapeChar (c : Char) (rest : List Char) :
    unescapeChar (escapeChar c ++ rest) = some (c, rest) := by
  unfold escapeChar
  split
  · rfl
  · rfl
  · rfl
  · rfl
  · rfl
  · rename_i hbackslash _ _ _
    split_ifs with hb hf hu
    · rw [← Char.ofNat_toNat c, hb]
      rfl
    · rw [← Char.ofNat_toNat c, hf]
      rfl
    · show some (Char.ofNat _, rest) = _
      rw [hexDigitValue_pair c.toNat hu, Char.ofNat_toNat]
    · -- The character is no backslash.
      show unescapeChar (c :: rest) = _
      unfold unescapeChar
      split <;> simp_all

/-- An escaped character does not begin with a quote. -/
theorem escapeChar_ne_quote (c : Char) (rest tail : List Char) :
    escapeChar c ++ rest ≠ '"' :: tail := by
  unfold escapeChar
  split
  · simp
  · simp
  · simp
  · simp
  · simp
  · rename_i hquote _ _ _ _
    split_ifs
    · simp
    · simp
    · simp
    · simpa using fun h => absurd h hquote

/-- Where an escaped text ends is where its first quote is. -/
theorem escaped_inj {a b : List Char} {rest rest' : List Char}
    (h : a.flatMap escapeChar ++ '"' :: rest = b.flatMap escapeChar ++ '"' :: rest') :
    a = b ∧ rest = rest' := by
  induction a generalizing b with
  | nil =>
    cases b with
    | nil => exact ⟨rfl, (List.cons.inj h).2⟩
    | cons d b =>
      rw [List.flatMap_cons, List.append_assoc] at h
      exact absurd h.symm (escapeChar_ne_quote d _ _)
  | cons c a ih =>
    cases b with
    | nil =>
      rw [List.flatMap_cons, List.append_assoc] at h
      exact absurd h (escapeChar_ne_quote c _ _)
    | cons d b =>
      rw [List.flatMap_cons, List.flatMap_cons, List.append_assoc, List.append_assoc] at h
      have hread := congrArg unescapeChar h
      rw [unescapeChar_escapeChar, unescapeChar_escapeChar] at hread
      obtain ⟨rfl, hrest⟩ := Prod.mk.inj (Option.some.inj hread)
      obtain ⟨rfl, hend⟩ := ih hrest
      exact ⟨rfl, hend⟩

/-! ## Lists of tags -/

/-- Where a reader of a list of tags is. -/
inductive Scan where
  /-- Outside of the tags. -/
  | between
  /-- In a tag, after `[` or a comma. -/
  | opened
  /-- In a tag, after a string or in a number. -/
  | bare
  /-- In a string. -/
  | quoted
  /-- In a string, after a backslash. -/
  | escaped
  deriving DecidableEq

/-- One character is read. -/
def Scan.step : Scan → Char → Option Scan
  | between, c => if c = '[' then some opened else if c = ',' then some between else none
  | opened, c =>
    if c = '"' then some quoted
    else if c = ']' then some between
    else if c = ',' then some opened
    else if c = '[' then none
    else some bare
  | bare, c =>
    if c = ',' then some opened
    else if c = ']' then some between
    else if c = '"' ∨ c = '[' then none
    else some bare
  | quoted, c => if c = '"' then some bare else if c = '\\' then some escaped else some quoted
  | escaped, _ => some quoted

/-- A text is read. -/
def scan (s : Scan) (text : List Char) : Option Scan := text.foldlM Scan.step s

theorem scan_append (s : Scan) (a b : List Char) :
    scan s (a ++ b) = (scan s a).bind fun t => scan t b := List.foldlM_append

theorem scan_cons (s : Scan) (c : Char) (text : List Char) :
    scan s (c :: text) = (s.step c).bind fun t => scan t text := rfl

@[simp] theorem scan_nil (s : Scan) : scan s [] = some s := rfl

/-- An escaped text is read in a string. -/
theorem scan_escaped (text : List Char) : scan .quoted (text.flatMap escapeChar) = some .quoted := by
  induction text with
  | nil => rfl
  | cons c text ih =>
    have hchar : scan .quoted (escapeChar c) = some .quoted := by
      unfold escapeChar
      split
      · rfl
      · rfl
      · rfl
      · rfl
      · rfl
      · rename_i hquote hbackslash _ _ _
        split_ifs with _ _ hu
        · rfl
        · rfl
        · have hdigits : ∀ n < 32, scan .quoted ['\\', 'u', '0', '0', Codec.hexDigit (n / 16),
              Codec.hexDigit (n % 16)] = some .quoted := by decide
          exact hdigits c.toNat hu
        · simp only [scan_cons, Scan.step, if_neg hquote, if_neg hbackslash]
          rfl
    rw [List.flatMap_cons, scan_append, hchar]
    exact ih

/-- A string is read in a tag. -/
theorem scan_string (text : List Char) :
    scan .opened ('"' :: (text.flatMap escapeChar ++ ['"'])) = some .bare := by
  show scan .quoted (text.flatMap escapeChar ++ ['"']) = some .bare
  rw [scan_append, scan_escaped]
  rfl

/-- The characters that no number has. -/
def isDelimiter (c : Char) : Bool := c == '"' || c == ',' || c == '[' || c == ']'

/-- A number is read in a tag. -/
theorem scan_number {text : List Char} (h : ∀ c ∈ text, isDelimiter c = false) :
    scan .opened text = some .opened ∨ scan .opened text = some .bare := by
  have hbare : ∀ text : List Char, (∀ c ∈ text, isDelimiter c = false) →
      scan .bare text = some .bare := by
    intro text h
    induction text with
    | nil => rfl
    | cons c text ih =>
      have hc := h c List.mem_cons_self
      simp only [isDelimiter, Bool.or_eq_false_iff, beq_eq_false_iff_ne] at hc
      have hstep : Scan.step .bare c = some .bare := by simp [Scan.step, hc]
      rw [scan_cons, hstep]
      exact ih fun d hd => h d (List.mem_cons_of_mem _ hd)
  cases text with
  | nil => exact Or.inl rfl
  | cons c text =>
    right
    have hc := h c List.mem_cons_self
    simp only [isDelimiter, Bool.or_eq_false_iff, beq_eq_false_iff_ne] at hc
    have hstep : Scan.step .opened c = some .bare := by simp [Scan.step, hc]
    rw [scan_cons, hstep]
    exact hbare text fun d hd => h d (List.mem_cons_of_mem _ hd)

/-- Two readers of one text that disagree about what is in a string. After a backslash the one that
is in none has just read a part of a number. -/
def opposite : Scan → Scan → Bool
  | .quoted, .between | .quoted, .opened | .quoted, .bare | .escaped, .bare => true
  | .between, .quoted | .opened, .quoted | .bare, .quoted | .bare, .escaped => true
  | _, _ => false

/-- They go on disagreeing. -/
theorem opposite_step {s t s' t' : Scan} {c : Char} (h : opposite s t = true)
    (hs : s.step c = some s') (ht : t.step c = some t') : opposite s' t' = true := by
  cases s <;> cases t <;> simp only [opposite, Bool.false_eq_true] at h
  all_goals
    simp only [Scan.step] at hs ht
    split_ifs at hs ht <;> first
      | (cases hs; cases ht; rfl)
      -- The character is not two at once.
      | simp_all

/-- So they never both end outside of the tags. -/
theorem opposite_scan {s t s' t' : Scan} {text : List Char} (h : opposite s t = true)
    (hs : scan s text = some s') (ht : scan t text = some t') : opposite s' t' = true := by
  induction text generalizing s t with
  | nil =>
    obtain rfl := Option.some.inj hs
    obtain rfl := Option.some.inj ht
    exact h
  | cons c text ih =>
    rw [scan_cons, Option.bind_eq_some_iff] at hs ht
    obtain ⟨s₁, hs₁, hs⟩ := hs
    obtain ⟨t₁, ht₁, ht⟩ := ht
    exact ih (opposite_step h hs₁ ht₁) hs ht

/-- A list of tags has no `",[` after which there is another one. -/
theorem scan_ne {text tail before : List Char} (htext : scan .between text = some .between)
    (htail : scan .between tail = some .between) : text ≠ before ++ '"' :: ',' :: '[' :: tail := by
  intro heq
  rw [heq, scan_append, Option.bind_eq_some_iff] at htext
  obtain ⟨s, -, hs⟩ := htext
  -- Read from where the first one begins, the second one begins in a string.
  have hquoted : scan .quoted tail = some .between := by
    cases s with
    | between | bare => cases hs
    | opened | escaped => exact hs
    | quoted => cases hs
  have hopposite : opposite .between .between = true := opposite_scan rfl hquoted htail
  cases hopposite

/-! ## Tags -/

section Tags

variable (P : VoucherPlatform)

/-- A value of a tag, as it is signed. -/
def valueChars (key value : String) : List Char :=
  if isNumericTag key then (renderNumber P value).toList
  else '"' :: (value.toList.flatMap escapeChar ++ ['"'])

/-- The values of a tag, as they are signed. -/
def valuesChars (key : String) (values : List String) : List Char :=
  values.flatMap fun value => ',' :: valueChars P key value

/-- A tag, as it is signed. -/
def tagChars (tag : Tag) : List Char :=
  '[' :: '"' :: (tag.key.toList.flatMap escapeChar ++
    '"' :: (valuesChars P tag.key tag.values ++ [']']))

/-- Tags, as they are signed. -/
def tagsChars : List Tag → List Char
  | [] => []
  | tag :: tags => tagChars P tag ++ tags.flatMap fun tag => ',' :: tagChars P tag

theorem toList_renderTag (tag : Tag) : (renderTag P tag).toList = tagChars P tag := by
  have hvalue : ∀ value, (renderValue P tag.key value).toList = valueChars P tag.key value := by
    intro value
    unfold renderValue valueChars
    split_ifs
    · rfl
    · simp [escapeJson]
  simp [renderTag, tagChars, valuesChars, escapeJson, hvalue, List.flatMap_map]

theorem toList_intercalate_tags (tags : List Tag) :
    (",".intercalate (tags.map (renderTag P))).toList = tagsChars P tags := by
  cases tags with
  | nil => rfl
  | cons tag tags =>
    induction tags generalizing tag with
    | nil => simp [tagsChars, toList_renderTag]
    | cons tag' tags ih =>
      rw [List.map_cons, List.map_cons, String.intercalate_cons_cons, String.toList_append,
        String.toList_append, ← List.map_cons, ih tag', toList_renderTag]
      simp [tagsChars]

/-- `String` of a finite number has no quote, comma or bracket. -/
def PlainNumbers : Prop := ∀ q, ∀ c ∈ (P.numberToString (.fin q)).toList, isDelimiter c = false

variable {P}

theorem renderNumber_plain (hplain : PlainNumbers P) (raw : String) :
    ∀ c ∈ (renderNumber P raw).toList, isDelimiter c = false := by
  unfold renderNumber
  split
  · exact hplain _
  · simp [isDelimiter]

/-- The values of a tag are read. -/
theorem scan_values (hplain : PlainNumbers P) (key : String) (values : List String) {s : Scan}
    (hs : s = .opened ∨ s = .bare) : ∃ t, (t = .opened ∨ t = .bare) ∧
      scan s (valuesChars P key values) = some t := by
  induction values generalizing s with
  | nil => exact ⟨s, hs, rfl⟩
  | cons value values ih =>
    have hcomma : s.step ',' = some .opened := by rcases hs with rfl | rfl <;> rfl
    obtain ⟨t, ht, hvalue⟩ : ∃ t, (t = .opened ∨ t = .bare) ∧
        scan .opened (valueChars P key value) = some t := by
      unfold valueChars
      split_ifs
      · rcases scan_number (renderNumber_plain hplain value) with h | h
        · exact ⟨_, Or.inl rfl, h⟩
        · exact ⟨_, Or.inr rfl, h⟩
      · exact ⟨_, Or.inr rfl, scan_string value.toList⟩
    obtain ⟨t', ht', hrest⟩ := ih ht
    refine ⟨t', ht', ?_⟩
    have hcons : valuesChars P key (value :: values) =
        ',' :: (valueChars P key value ++ valuesChars P key values) := rfl
    rw [hcons, scan_cons, hcomma, Option.bind_some, scan_append, hvalue]
    exact hrest

/-- A tag is read. -/
theorem scan_tag (hplain : PlainNumbers P) (tag : Tag) :
    scan .between (tagChars P tag) = some .between := by
  obtain ⟨t, ht, hvalues⟩ := scan_values hplain tag.key tag.values (Or.inr rfl)
  have hclose : t.step ']' = some .between := by rcases ht with rfl | rfl <;> rfl
  show scan .quoted (tag.key.toList.flatMap escapeChar ++ '"' :: _) = _
  rw [scan_append, scan_escaped, Option.bind_some]
  show scan .bare (valuesChars P tag.key tag.values ++ [']']) = _
  rw [scan_append, hvalues, Option.bind_some, scan_cons, hclose]
  rfl

/-- Tags are read. -/
theorem scan_tags (hplain : PlainNumbers P) (tags : List Tag) :
    scan .between (tagsChars P tags) = some .between := by
  have hmore : ∀ tags : List Tag,
      scan .between (tags.flatMap fun tag => ',' :: tagChars P tag) = some .between := by
    intro tags
    induction tags with
    | nil => rfl
    | cons tag tags ih =>
      show scan .between (tagChars P tag ++ tags.flatMap fun tag => ',' :: tagChars P tag) = _
      rw [scan_append, scan_tag hplain, Option.bind_some, ih]
  cases tags with
  | nil => rfl
  | cons tag tags =>
    show scan .between (tagChars P tag ++ tags.flatMap fun tag => ',' :: tagChars P tag) = _
    rw [scan_append, scan_tag hplain, Option.bind_some, hmore]

variable (P) in
/-- Two values of one tag say the same: they are equal, or numbers that are written in the same
way. -/
def SameValue (key value value' : String) : Prop :=
  if isNumericTag key then renderNumber P value = renderNumber P value' else value = value'

variable (P) in
/-- Two tags say the same. -/
def SameTag (tag tag' : Tag) : Prop :=
  tag.key = tag'.key ∧ List.Forall₂ (SameValue P tag.key) tag.values tag'.values

/-- Where a text ends that has no character of some kind: before the first such character. -/
theorem split_inj {p : Char → Bool} {a b rest rest' : List Char} {c d : Char}
    (ha : ∀ x ∈ a, p x = false) (hb : ∀ x ∈ b, p x = false) (hc : p c = true) (hd : p d = true)
    (h : a ++ c :: rest = b ++ d :: rest') : a = b ∧ c :: rest = d :: rest' := by
  induction a generalizing b with
  | nil =>
    cases b with
    | nil => exact ⟨rfl, h⟩
    | cons y b =>
      obtain rfl : c = y := (List.cons.inj h).1
      have hno := hb c List.mem_cons_self
      rw [hc] at hno
      cases hno
  | cons x a ih =>
    cases b with
    | nil =>
      obtain rfl : x = d := (List.cons.inj h).1
      have hno := ha x List.mem_cons_self
      rw [hd] at hno
      cases hno
    | cons y b =>
      obtain ⟨rfl, htail⟩ := List.cons.inj h
      obtain ⟨rfl, hrest⟩ := ih (fun z hz => ha z (List.mem_cons_of_mem _ hz))
        (fun z hz => hb z (List.mem_cons_of_mem _ hz)) htail
      exact ⟨rfl, hrest⟩

/-- Where a value ends, if a comma or a bracket follows. -/
theorem valueChars_inj (hplain : PlainNumbers P) {key value value' : String}
    {rest rest' : List Char} {c d : Char} (hc : isDelimiter c = true) (hd : isDelimiter d = true)
    (h : valueChars P key value ++ c :: rest = valueChars P key value' ++ d :: rest') :
    SameValue P key value value' ∧ c :: rest = d :: rest' := by
  unfold valueChars at h
  unfold SameValue
  split_ifs at h ⊢
  · obtain ⟨htext, hrest⟩ := split_inj (renderNumber_plain hplain value)
      (renderNumber_plain hplain value') hc hd h
    exact ⟨String.toList_inj.mp htext, hrest⟩
  · rw [List.cons_append, List.cons_append, List.append_assoc, List.append_assoc] at h
    obtain ⟨htext, hrest⟩ := escaped_inj (List.cons.inj h).2
    exact ⟨String.toList_inj.mp htext, hrest⟩

/-- Where the values of a tag end. -/
theorem valuesChars_inj (hplain : PlainNumbers P) {key : String} {values values' : List String}
    {rest rest' : List Char}
    (h : valuesChars P key values ++ ']' :: rest = valuesChars P key values' ++ ']' :: rest') :
    List.Forall₂ (SameValue P key) values values' ∧ rest = rest' := by
  -- Another value or the end of the tag follows.
  have hnext : ∀ (values : List String) (rest : List Char), ∃ c tail, isDelimiter c = true ∧
      valuesChars P key values ++ ']' :: rest = c :: tail := by
    intro values rest
    cases values with
    | nil => exact ⟨']', rest, rfl, rfl⟩
    | cons value values => exact ⟨',', _, rfl, rfl⟩
  have hcons : ∀ (value : String) (values : List String) (rest : List Char),
      valuesChars P key (value :: values) ++ ']' :: rest =
        ',' :: (valueChars P key value ++ (valuesChars P key values ++ ']' :: rest)) := by
    intro value values rest
    simp [valuesChars]
  induction values generalizing values' with
  | nil =>
    cases values' with
    | nil => exact ⟨.nil, (List.cons.inj h).2⟩
    | cons value' values' => cases h
  | cons value values ih =>
    cases values' with
    | nil => cases h
    | cons value' values' =>
      rw [hcons, hcons] at h
      obtain ⟨c, tail, hc, htail⟩ := hnext values rest
      obtain ⟨d, tail', hd, htail'⟩ := hnext values' rest'
      have hvalues := (List.cons.inj h).2
      rw [htail, htail'] at hvalues
      obtain ⟨hsame, hrest⟩ := valueChars_inj hplain hc hd hvalues
      rw [← htail, ← htail'] at hrest
      obtain ⟨hall, hend⟩ := ih hrest
      exact ⟨.cons hsame hall, hend⟩

/-- Where a tag ends. -/
theorem tagChars_inj (hplain : PlainNumbers P) {tag tag' : Tag} {rest rest' : List Char}
    (h : tagChars P tag ++ rest = tagChars P tag' ++ rest') :
    SameTag P tag tag' ∧ rest = rest' := by
  have hassoc : ∀ (tag : Tag) (rest : List Char), tagChars P tag ++ rest =
      '[' :: '"' :: (tag.key.toList.flatMap escapeChar ++
        '"' :: (valuesChars P tag.key tag.values ++ ']' :: rest)) := by
    intro tag rest
    simp [tagChars]
  rw [hassoc, hassoc] at h
  obtain ⟨hkey, hvalues⟩ := escaped_inj (List.cons.inj (List.cons.inj h).2).2
  replace hkey : tag.key = tag'.key := String.toList_inj.mp hkey
  rw [← hkey] at hvalues
  obtain ⟨hsame, hrest⟩ := valuesChars_inj hplain hvalues
  exact ⟨⟨hkey, hsame⟩, hrest⟩

/-- Tags are told apart by their text. -/
theorem tagsChars_inj (hplain : PlainNumbers P) {tags tags' : List Tag}
    (h : tagsChars P tags = tagsChars P tags') : List.Forall₂ (SameTag P) tags tags' := by
  have hmore : ∀ tags tags' : List Tag,
      (tags.flatMap fun tag => ',' :: tagChars P tag) =
        (tags'.flatMap fun tag => ',' :: tagChars P tag) → List.Forall₂ (SameTag P) tags tags' := by
    intro tags
    induction tags with
    | nil =>
      intro tags' h
      cases tags' with
      | nil => exact .nil
      | cons tag' tags' => cases h
    | cons tag tags ih =>
      intro tags' h
      cases tags' with
      | nil => cases h
      | cons tag' tags' =>
        obtain ⟨hsame, hrest⟩ := tagChars_inj hplain (List.cons.inj h).2
        exact .cons hsame (ih tags' hrest)
  cases tags with
  | nil =>
    cases tags' with
    | nil => exact .nil
    | cons tag' tags' => cases h
  | cons tag tags =>
    cases tags' with
    | nil => cases h
    | cons tag' tags' =>
      obtain ⟨hsame, hrest⟩ := tagChars_inj hplain h
      exact .cons hsame (hmore tags tags' hrest)

/-! ## The whole text -/

/-- Where the nonce ends. -/
theorem nonce_inj {nonce nonce' text text' : List Char}
    (htext : scan .between text = some .between) (htext' : scan .between text' = some .between)
    (h : nonce ++ '"' :: ',' :: '[' :: (text ++ [']', ']']) =
      nonce' ++ '"' :: ',' :: '[' :: (text' ++ [']', ']'])) : nonce = nonce' ∧ text = text' := by
  -- A longer nonce would end in the tags.
  have hlonger : ∀ {text text' more : List Char}, scan .between text = some .between →
      scan .between text' = some .between →
      '"' :: ',' :: '[' :: (text ++ [']', ']']) =
        more ++ '"' :: ',' :: '[' :: (text' ++ [']', ']']) → more = [] := by
    intro text text' more htext htext' h
    rcases more with _ | ⟨a, _ | ⟨b, _ | ⟨c, before⟩⟩⟩
    · rfl
    · cases (List.cons.inj (List.cons.inj h).2).1
    · cases (List.cons.inj (List.cons.inj (List.cons.inj h).2).2).1
    · have hrest := (List.cons.inj (List.cons.inj (List.cons.inj h).2).2).2
      have hsplit : text ++ [']', ']'] = (before ++ '"' :: ',' :: '[' :: text') ++ [']', ']'] := by
        simpa using hrest
      exact absurd (List.append_cancel_right hsplit) (scan_ne htext htext')
  rcases List.append_eq_append_iff.mp h with ⟨more, rfl, hmore⟩ | ⟨more, rfl, hmore⟩
  · obtain rfl := hlonger htext htext' hmore
    exact ⟨by simp, by simpa using hmore⟩
  · obtain rfl := hlonger htext' htext hmore
    exact ⟨by simp, by simpa using hmore.symm⟩

variable (P) in
/-- A quote is no letter, and stays when a text is written in lower case. -/
def KeepsQuotes : Prop := ∀ s : String, '"' ∈ s.toList → '"' ∈ (P.toLowerCase s).toList

/-- What `trim` removes is white space. -/
theorem mem_trim {c : Char} {s : String} (hc : c ∈ s.toList) (hspace : JsString.isSpace c = false) :
    c ∈ (JsString.trim s).toList := by
  have hdrop : ∀ l : List Char, c ∈ l → c ∈ l.dropWhile JsString.isSpace := by
    intro l hl
    rw [← List.takeWhile_append_dropWhile (p := JsString.isSpace) (l := l), List.mem_append] at hl
    refine hl.resolve_left fun htake => ?_
    have htrue := List.mem_takeWhile_imp htake
    rw [hspace] at htrue
    cases htrue
  simp only [JsString.trim, JsString.trimList, String.toList_ofList, List.mem_reverse]
  exact hdrop _ (List.mem_reverse.mpr (hdrop _ hc))

/-- A key that a voucher is locked to has no quote. -/
theorem not_quote_of_lockKey (hquotes : KeepsQuotes P) {lockKey pubkey : String}
    (h : lockKeyMatchesPubkey P lockKey pubkey = true) : ∀ c ∈ lockKey.toList, (c == '"') = false := by
  intro c hc
  by_contra hquote
  obtain rfl : c = '"' := by simpa using hquote
  have hmem : '"' ∈ (normalized P lockKey).toList := hquotes _ (mem_trim hc (by decide))
  unfold lockKeyMatchesPubkey at h
  dsimp only at h
  split_ifs at h with _ hcompressed
  · -- It is a compressed key, whose characters are digits.
    unfold isCompressed at hcompressed
    split at hcompressed
    · rename_i c rest heq
      simp only [Bool.and_eq_true, Bool.or_eq_true, beq_iff_eq, List.all_eq_true] at hcompressed
      obtain ⟨⟨hparity, -⟩, hdigits⟩ := hcompressed
      rw [heq] at hmem
      rcases List.mem_cons.mp hmem with hzero | hmem
      · cases hzero
      · rcases List.mem_cons.mp hmem with rfl | hmem
        · rcases hparity with h | h <;> cases h
        · have := hdigits _ hmem
          revert this
          decide
    · cases hcompressed
  · simp only [Bool.and_eq_true, isHex, List.all_eq_true] at h
    have := h.1.2 _ hmem
    revert this
    decide

/-- The tags that are signed. -/
def signedTags (secret : ParsedVoucherSecret) : List Tag :=
  secret.tags.filter fun tag => !addedAfterSigning tag.key

/-- What is signed, as characters. -/
theorem toList_voucherCanonicalText (secret : ParsedVoucherSecret) :
    (voucherCanonicalText P secret).toList = '[' :: '"' :: (secret.kind.text.toList ++ '"' :: ',' ::
      '"' :: (secret.data.toList ++ '"' :: ',' :: '"' :: ((secret.nonce.getD "").toList ++
        '"' :: ',' :: '[' :: (tagsChars P (signedTags secret) ++ [']', ']'])))) := by
  unfold voucherCanonicalText
  simp only [String.toList_append, toList_intercalate_tags]
  simp [signedTags]

/-- What is signed is determined by the kind, the `data`, the nonce and the tags that are signed. -/
theorem voucherCanonicalText_congr {secret secret' : ParsedVoucherSecret}
    (hkind : secret.kind = secret'.kind) (hdata : secret.data = secret'.data)
    (hnonce : secret.nonce = secret'.nonce) (htags : signedTags secret = signedTags secret') :
    voucherCanonicalText P secret = voucherCanonicalText P secret' := by
  apply String.toList_inj.mp
  rw [toList_voucherCanonicalText, toList_voucherCanonicalText, hkind, hdata, hnonce, htags]

/-- The kind of a voucher is told by its text, which has no quote. -/
theorem VoucherKind.text_inj {kind kind' : VoucherKind} (h : kind.text = kind'.text) :
    kind = kind' := by
  cases kind <;> cases kind' <;> first | rfl | exact absurd h (by decide)

/-- Vouchers that are locked to keys and have the same canonical bytes say the same: their kind,
their `data`, their nonce and their tags, but for those that carry the signature. -/
theorem canonicalBytes_injective (hplain : PlainNumbers P) (hquotes : KeepsQuotes P)
    {secret secret' : ParsedVoucherSecret} {pubkey pubkey' : String}
    (hlock : lockKeyMatchesPubkey P secret.data pubkey = true)
    (hlock' : lockKeyMatchesPubkey P secret'.data pubkey' = true)
    (h : voucherCanonicalBytes P secret = voucherCanonicalBytes P secret') :
    secret.kind = secret'.kind ∧ secret.data = secret'.data ∧
      secret.nonce.getD "" = secret'.nonce.getD "" ∧
      List.Forall₂ (SameTag P) (signedTags secret) (signedTags secret') := by
  have htext : voucherCanonicalText P secret = voucherCanonicalText P secret' := by
    apply String.toByteArray_inj.mp
    exact ByteArray.ext (Array.toList_inj.mp h)
  have hchars := congrArg String.toList htext
  rw [toList_voucherCanonicalText, toList_voucherCanonicalText] at hchars
  -- The kind and the `data` end at the quotes after them.
  have hkind : ∀ kind : VoucherKind, ∀ c ∈ kind.text.toList, (c == '"') = false := by
    intro kind
    cases kind <;> simp [VoucherKind.text]
  obtain ⟨hkinds, hrest⟩ := split_inj (p := (· == '"')) (hkind secret.kind) (hkind secret'.kind) rfl rfl
    (List.cons.inj (List.cons.inj hchars).2).2
  obtain ⟨hdata, hrest⟩ := split_inj (p := (· == '"')) (not_quote_of_lockKey hquotes hlock)
    (not_quote_of_lockKey hquotes hlock') rfl rfl
    (List.cons.inj (List.cons.inj (List.cons.inj hrest).2).2).2
  obtain ⟨hnonce, htags⟩ := nonce_inj (scan_tags hplain _) (scan_tags hplain _)
    (List.cons.inj (List.cons.inj (List.cons.inj hrest).2).2).2
  exact ⟨VoucherKind.text_inj (String.toList_inj.mp hkinds), String.toList_inj.mp hdata,
    String.toList_inj.mp hnonce, tagsChars_inj hplain htags⟩

end Tags

namespace Sample

/-- The voucher before it was signed. -/
def unsigned : ParsedVoucherSecret where
  kind := .p2pkVoucher
  nonce := some "00"
  data := lockKey
  tags := [⟨"voucher_id", ["v-1"]⟩, ⟨"issuer", ["acme"]⟩, ⟨"unit", ["sat"]⟩,
    ⟨"face_value", ["1000"]⟩, ⟨"expires_at", ["2000"]⟩]
  nodup := by decide

theorem signedTags_unsigned : signedTags unsigned = signedTags parsed := by decide

/-- The platform writes numbers as decimal digits. -/
theorem plainNumbers : PlainNumbers platform := by
  intro q c hc
  change c ∈ (Int.repr q.num).toList at hc
  rcases JsString.mem_repr hc with rfl | hdigit
  · rfl
  · by_contra hdelimiter
    simp only [isDelimiter, Bool.not_eq_false, Bool.or_eq_true, beq_iff_eq] at hdelimiter
    rcases hdelimiter with ((rfl | rfl) | rfl) | rfl <;> cases hdigit

end Sample

/-- The sample voucher says what it said before it was signed. -/
theorem canonicalBytes_injective_signed :
    List.Forall₂ (SameTag Sample.platform) (signedTags Sample.unsigned) (signedTags Sample.parsed) := by
  have hquotes : KeepsQuotes Sample.platform := fun _ h => h
  have hlock : lockKeyMatchesPubkey Sample.platform Sample.unsigned.data Sample.pubkey = true := by
    show lockKeyMatchesPubkey Sample.platform Sample.lockKey Sample.pubkey = true
    decide
  have hbytes : voucherCanonicalBytes Sample.platform Sample.unsigned =
      voucherCanonicalBytes Sample.platform Sample.parsed :=
    congrArg textEncode (voucherCanonicalText_congr rfl rfl rfl Sample.signedTags_unsigned)
  have hsame := canonicalBytes_injective Sample.plainNumbers hquotes hlock hlock hbytes
  exact hsame.2.2.2

end NapAuth.Voucher

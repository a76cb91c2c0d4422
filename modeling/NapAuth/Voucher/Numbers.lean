import NapAuth.Voucher.Canonical

/-!
# Numbers that are signed and numbers that are enforced

The value of a numeric tag is read twice: `numericTagValue` reads it for what is enforced, and
`renderNumber` writes it into what is signed. They agree on every text that denotes a finite number,
and on no other (`signed_number_enforced`): such a text is signed as `0` and enforced as if the tag
were not there.

Two vouchers with the same canonical bytes have numeric tags that are written in the same way
(`sameText_of_canonicalBytes`), whatever their `data` and nonce are: the text of the tags ends where
the signed text does, and it begins where a list of tags does for the last time.
-/

namespace NapAuth.Voucher

section Numbers

variable {P : VoucherPlatform} {secret secret' : ParsedVoucherSecret} {key : String}

/-! ## One number -/

variable (P) in
/-- Whether a text denotes a finite number. -/
def denotesNumber (raw : String) : Bool := (P.toNumber raw).finite?.isSome

variable (P) in
/-- The number that a tag is enforced with is the one that is signed for its value. -/
def SignedAsEnforced (tags : List Tag) (key raw : String) : Prop :=
  ∃ q, numericTagValue P tags key = some q ∧ P.toNumber (renderNumber P raw) = .fin q

variable (P) in
/-- `Number` reads what `String` writes of a number that some text denotes. -/
def ReadsBack : Prop :=
  ∀ raw q, P.toNumber raw = .fin q → P.toNumber (P.numberToString (.fin q)) = .fin q

/-- What a text denotes, if it denotes a finite number. -/
theorem denotesNumber_iff {raw : String} :
    denotesNumber P raw = true ↔ ∃ q, P.toNumber raw = .fin q := by
  unfold denotesNumber
  cases P.toNumber raw <;> simp [JsNumber.finite?]

/-- What is enforced of a tag. -/
theorem numericTagValue_eq {tags : List Tag} {raw : String} (htag : tagValue tags key = some raw) :
    numericTagValue P tags key = (P.toNumber raw).finite? := by
  unfold numericTagValue
  rw [htag]
  rfl

/-- What is signed of a text that denotes a finite number. -/
theorem renderNumber_eq {raw : String} {q : ℚ} (hraw : P.toNumber raw = .fin q) :
    renderNumber P raw = P.numberToString (.fin q) := by
  unfold renderNumber
  rw [hraw]

/-- Texts that are written in the same way denote the same number exactly when both denote one, or
neither does. -/
theorem finite_eq_iff (hback : ReadsBack P) {raw raw' : String}
    (htext : renderNumber P raw = renderNumber P raw') :
    (P.toNumber raw).finite? = (P.toNumber raw').finite? ↔
      denotesNumber P raw = denotesNumber P raw' := by
  constructor
  · intro h
    unfold denotesNumber
    rw [h]
  · intro h
    by_cases hraw : denotesNumber P raw = true
    · obtain ⟨q, hq⟩ := denotesNumber_iff.mp hraw
      obtain ⟨q', hq'⟩ := denotesNumber_iff.mp (h ▸ hraw)
      rw [renderNumber_eq hq, renderNumber_eq hq'] at htext
      -- The number is read back from what is written.
      have hread : P.toNumber (P.numberToString (.fin q)) = .fin q := hback raw q hq
      have hread' : P.toNumber (P.numberToString (.fin q')) = .fin q' := hback raw' q' hq'
      rw [hq, hq', ← hread, ← hread', htext]
    · have hraw' : ¬ denotesNumber P raw' = true := h ▸ hraw
      unfold denotesNumber at hraw hraw'
      rw [Option.not_isSome_iff_eq_none.mp hraw, Option.not_isSome_iff_eq_none.mp hraw']

/-- The number that is signed is enforced exactly when the text denotes one. -/
theorem signedAsEnforced_iff (hback : ReadsBack P) {tags : List Tag} {raw : String}
    (htag : tagValue tags key = some raw) :
    SignedAsEnforced P tags key raw ↔ denotesNumber P raw = true := by
  rw [denotesNumber_iff]
  unfold SignedAsEnforced
  rw [numericTagValue_eq htag]
  constructor
  · intro ⟨q, hq, _⟩
    cases hraw : P.toNumber raw with
    | fin q' => exact ⟨q', rfl⟩
    | posInf | negInf | nan =>
      rw [hraw] at hq
      cases hq
  · intro ⟨q, hraw⟩
    have hsigned : P.toNumber (renderNumber P raw) = .fin q := by
      rw [renderNumber_eq hraw]
      exact hback raw q hraw
    exact ⟨q, by rw [hraw]; rfl, hsigned⟩

/-! ## Two vouchers -/

/-- Vouchers with the same canonical bytes have signed tags that say the same. -/
theorem sameTags_of_canonicalBytes (hplain : PlainNumbers P)
    (h : voucherCanonicalBytes P secret = voucherCanonicalBytes P secret') :
    List.Forall₂ (SameTag P) (signedTags secret) (signedTags secret') := by
  have htext : voucherCanonicalText P secret = voucherCanonicalText P secret' := by
    apply String.toByteArray_inj.mp
    exact ByteArray.ext (Array.toList_inj.mp h)
  have hchars := congrArg String.toList htext
  rw [toList_voucherCanonicalText, toList_voucherCanonicalText] at hchars
  -- What comes before the tags is read as if it were one nonce.
  have hbefore : ∀ s : ParsedVoucherSecret, ∃ before : List Char,
      '[' :: '"' :: (s.kind.text.toList ++ '"' :: ',' :: '"' :: (s.data.toList ++ '"' :: ',' :: '"' ::
        ((s.nonce.getD "").toList ++ '"' :: ',' :: '[' :: (tagsChars P (signedTags s) ++
          [']', ']'])))) = before ++ '"' :: ',' :: '[' :: (tagsChars P (signedTags s) ++ [']', ']']) :=
    fun s => ⟨'[' :: '"' :: (s.kind.text.toList ++ '"' :: ',' :: '"' :: (s.data.toList ++
      '"' :: ',' :: '"' :: (s.nonce.getD "").toList)), by simp⟩
  obtain ⟨before, hsecret⟩ := hbefore secret
  obtain ⟨before', hsecret'⟩ := hbefore secret'
  rw [hsecret, hsecret'] at hchars
  obtain ⟨-, htags⟩ := nonce_inj (scan_tags hplain _) (scan_tags hplain _) hchars
  exact tagsChars_inj hplain htags

/-- A tag that is signed is found among those that are. -/
theorem tagValue_signedTags (hkey : addedAfterSigning key = false) (secret : ParsedVoucherSecret) :
    tagValue (signedTags secret) key = tagValue secret.tags key := by
  unfold tagValue signedTags
  rw [List.find?_filter]
  congr 2
  funext tag
  by_cases h : tag.key = key
  · rw [h, hkey]
    cases tag.values <;> simp
  · rw [beq_eq_false_iff_ne.mpr h]
    simp

/-- The values of tags that say the same say the same. -/
theorem sameValue_of_sameTags {tags tags' : List Tag} (h : List.Forall₂ (SameTag P) tags tags')
    (key : String) : Option.Rel (SameValue P key) (tagValue tags key) (tagValue tags' key) := by
  induction h with
  | nil => exact .none
  | @cons tag tag' tags tags' hsame _ ih =>
    obtain ⟨tagKey, values⟩ := tag
    obtain ⟨tagKey', values'⟩ := tag'
    obtain ⟨rfl, hvalues⟩ : tagKey = tagKey' ∧ _ := hsame
    unfold tagValue at ih ⊢
    rw [List.find?_cons, List.find?_cons]
    cases hvalues with
    | nil => simpa using ih
    | cons hvalue _ =>
      by_cases hkey : tagKey = key
      · subst hkey
        simpa using Option.Rel.some hvalue
      · rw [beq_eq_false_iff_ne.mpr hkey]
        exact ih

/-- Numeric tags of vouchers with the same canonical bytes are written in the same way, if they are
there. -/
theorem sameText_of_canonicalBytes (hplain : PlainNumbers P) (hnumeric : isNumericTag key = true)
    (hkey : addedAfterSigning key = false)
    (h : voucherCanonicalBytes P secret = voucherCanonicalBytes P secret') :
    Option.Rel (fun raw raw' => renderNumber P raw = renderNumber P raw')
      (tagValue secret.tags key) (tagValue secret'.tags key) := by
  have hsame := sameValue_of_sameTags (sameTags_of_canonicalBytes hplain h) key
  rw [tagValue_signedTags hkey, tagValue_signedTags hkey] at hsame
  have hvalue : SameValue P key = fun raw raw' => renderNumber P raw = renderNumber P raw' := by
    funext raw raw'
    unfold SameValue
    rw [if_pos hnumeric]
  rwa [hvalue] at hsame

variable (P) in
/-- Whether a tag has no value, or one that denotes a finite number. -/
def readable (tags : List Tag) (key : String) : Bool :=
  (tagValue tags key).all (denotesNumber P)

/-- Vouchers with the same canonical bytes are enforced with the same number exactly when the tags of
both denote one, or those of neither do. -/
theorem numericTagValue_eq_iff (hback : ReadsBack P) (hplain : PlainNumbers P)
    (hnumeric : isNumericTag key = true) (hkey : addedAfterSigning key = false)
    (h : voucherCanonicalBytes P secret = voucherCanonicalBytes P secret') :
    numericTagValue P secret.tags key = numericTagValue P secret'.tags key ↔
      readable P secret.tags key = readable P secret'.tags key := by
  have hsame := sameText_of_canonicalBytes hplain hnumeric hkey h
  unfold readable
  cases hraw : tagValue secret.tags key with
  | none =>
    cases hraw' : tagValue secret'.tags key with
    | none =>
      unfold numericTagValue
      rw [hraw, hraw']
      exact iff_of_true rfl rfl
    | some raw' =>
      rw [hraw, hraw'] at hsame
      cases hsame
  | some raw =>
    cases hraw' : tagValue secret'.tags key with
    | none =>
      rw [hraw, hraw'] at hsame
      cases hsame
    | some raw' =>
      rw [hraw, hraw'] at hsame
      obtain htext : renderNumber P raw = renderNumber P raw' := by
        cases hsame
        assumption
      rw [numericTagValue_eq hraw, numericTagValue_eq hraw', Option.all_some, Option.all_some]
      exact finite_eq_iff hback htext

/-- The number that is signed for a numeric tag is enforced exactly when the text of the tag denotes a
finite number, which the text of a number does. Vouchers with the same canonical bytes expire at the
same time, and are worth the same, exactly when the texts of both denote a number or those of neither
do. -/
theorem signed_number_enforced (hback : ReadsBack P) (hplain : PlainNumbers P) :
    (∀ tags key raw, tagValue tags key = some raw →
      (SignedAsEnforced P tags key raw ↔ denotesNumber P raw = true)) ∧
    (∀ raw q, P.toNumber raw = .fin q → denotesNumber P (P.numberToString (.fin q)) = true) ∧
    ∀ secret secret', voucherCanonicalBytes P secret = voucherCanonicalBytes P secret' →
      (secret.expiresAt P = secret'.expiresAt P ↔
        readable P secret.tags "expires_at" = readable P secret'.tags "expires_at") ∧
      (secret.faceValue P = secret'.faceValue P ↔
        readable P secret.tags "face_value" = readable P secret'.tags "face_value") := by
  refine ⟨fun tags key raw htag => signedAsEnforced_iff hback htag, fun raw q hraw => ?_,
    fun secret secret' h => ⟨?_, ?_⟩⟩
  · exact denotesNumber_iff.mpr ⟨q, hback raw q hraw⟩
  · exact numericTagValue_eq_iff hback hplain (by decide) (by decide) h
  · exact numericTagValue_eq_iff hback hplain (by decide) (by decide) h

end Numbers

namespace Sample

/-- A voucher, as text, with a given expiry. -/
def expiringText (expiry : String) : String :=
  "[\"P2PK_VOUCHER\",\x7b\"data\":\"" ++ lockKey ++ "\",\"tags\":[[\"expires_at\",\"" ++ expiry ++
    "\"]]\x7d]"

/-- The voucher as a JSON value. -/
def expiringJson (expiry : String) : Json :=
  .arr [.str "P2PK_VOUCHER", .obj [("data", .str lockKey),
    ("tags", .arr [.arr [.str "expires_at", .str expiry]])]]

/-- The voucher as it is parsed. -/
def expiring (expiry : String) : ParsedVoucherSecret where
  kind := .p2pkVoucher
  nonce := none
  data := lockKey
  tags := [⟨"expires_at", [expiry]⟩]
  nodup := List.nodup_singleton _

/-- A platform that knows two of these vouchers, and one number. -/
def zeroPlatform : VoucherPlatform where
  __ := platform
  jsonParse text :=
    if text = expiringText "0" then some (expiringJson "0")
    else if text = expiringText "never" then some (expiringJson "never")
    else none
  toNumber text := if text = "0" then .fin 0 else .nan

theorem readsBack : ReadsBack zeroPlatform := by
  intro raw q hraw
  change (if raw = "0" then JsNumber.fin 0 else .nan) = .fin q at hraw
  split_ifs at hraw
  obtain rfl : (0 : ℚ) = q := JsNumber.fin.inj hraw
  rfl

end Sample

/-- The tag of a voucher that expires at once. -/
theorem signed_number_enforced_zero :
    SignedAsEnforced Sample.zeroPlatform (Sample.expiring "0").tags "expires_at" "0" ∧
      denotesNumber Sample.zeroPlatform "never" = false := by
  have hplain : PlainNumbers Sample.zeroPlatform := Sample.plainNumbers
  obtain ⟨hone, -, -⟩ := signed_number_enforced Sample.readsBack hplain
  exact ⟨(hone _ "expires_at" "0" rfl).mpr rfl, rfl⟩

/-- A voucher that expires at once and one that says that it never expires have the same canonical
bytes, and the second one does not expire. -/
theorem never_signed_as_zero :
    parseVoucherSecret Sample.zeroPlatform (Sample.expiringText "0") = some (Sample.expiring "0") ∧
    parseVoucherSecret Sample.zeroPlatform (Sample.expiringText "never") =
      some (Sample.expiring "never") ∧
    voucherCanonicalBytes Sample.zeroPlatform (Sample.expiring "0") =
      voucherCanonicalBytes Sample.zeroPlatform (Sample.expiring "never") ∧
    (Sample.expiring "0").expiresAt Sample.zeroPlatform = some 0 ∧
    (Sample.expiring "never").expiresAt Sample.zeroPlatform = none ∧
    ¬ SignedAsEnforced Sample.zeroPlatform (Sample.expiring "never").tags "expires_at" "never" := by
  refine ⟨?_, ?_, rfl, rfl, rfl, ?_⟩
  · decide
  · decide
  · intro ⟨q, hq, _⟩
    cases hq

end NapAuth.Voucher

import NapAuth.Codec
import NapAuth.Utf16

/-!
# What the hexadecimal decoder accepts

`hexToBytes` of `packages/nap-core/src/codec.ts` hands each two characters to `Number.parseInt`. That
reads as much as it can of what it is given: it skips white space, takes a sign, and stops at the first
character that is no digit. So the decoder accepts some texts that are not hexadecimal
(`parses_iff`), and decodes them to the bytes of other texts. `hexToBytes_exact_iff` says which texts
those are.

A string is read here by its UTF-16 units, since two of them may be one character.
-/

namespace NapAuth.Codec

/-! ## `Number.parseInt` -/

/-- Whether a unit is white space. No half of a character is. -/
def isSpaceUnit (u : ℕ) : Bool := JsString.isSpace (Char.ofNat u)

/-- The value of a hexadecimal digit. -/
def digitValue (u : ℕ) : Option ℕ :=
  if 48 ≤ u ∧ u ≤ 57 then some (u - 48)
  else if 97 ≤ u ∧ u ≤ 102 then some (u - 87)
  else if 65 ≤ u ∧ u ≤ 70 then some (u - 55)
  else none

/-- The number that a text begins with, after an optional `0x`. -/
def parseDigits (s : List ℕ) : Option ℕ :=
  let s := if s.take 2 = [48, 120] ∨ s.take 2 = [48, 88] then s.drop 2 else s
  let digits := (s.takeWhile fun u => (digitValue u).isSome).filterMap digitValue
  if digits = [] then none else some (digits.foldl (fun value digit => 16 * value + digit) 0)

/-- The number that a text begins with, after an optional sign. -/
def parseSigned (s : List ℕ) : Option ℤ :=
  if s.head? = some 45 then (parseDigits s.tail).map fun n : ℕ => -(n : ℤ)
  else if s.head? = some 43 then (parseDigits s.tail).map fun n : ℕ => (n : ℤ)
  else (parseDigits s).map fun n : ℕ => (n : ℤ)

/-- `Number.parseInt(s, 16)`. `none` is `NaN`. -/
def parseInt16 (s : List ℕ) : Option ℤ := parseSigned (s.dropWhile isSpaceUnit)

/-! ## The decoder -/

/-- The loop of `hexToBytes`, two units at a time. A number is written into a byte modulo 256. -/
def hexPairs (index : ℕ) : List ℕ → Except String (List UInt8)
  | u₁ :: u₂ :: rest =>
    match parseInt16 [u₁, u₂] with
    | none => .error ("Invalid hex byte at index " ++ toString index)
    | some value => do
      let bytes ← hexPairs (index + 2) rest
      return UInt8.ofInt value :: bytes
  | _ => .ok []

/-- `hex.trim().toLowerCase()`. -/
def normalizedHex (toLowerCase : String → String) (hex : String) : String :=
  toLowerCase (JsString.trim hex)

/-- `hexToBytes`. -/
def hexToBytes (toLowerCase : String → String) (hex : String) : Except String (List UInt8) :=
  let normalized := JsString.utf16 (normalizedHex toLowerCase hex)
  if normalized.length % 2 ≠ 0 then .error "Hex input must have an even number of characters"
  else hexPairs 0 normalized

/-! ## Two units -/

/-- Two units that are read as a number: a digit, unless `0x` stands there, or white space or a sign
before a digit. -/
def Parses (u₁ u₂ : ℕ) : Prop :=
  ((digitValue u₁).isSome ∧ ¬ (u₁ = 48 ∧ (u₂ = 120 ∨ u₂ = 88))) ∨
    ((isSpaceUnit u₁ = true ∨ u₁ = 43 ∨ u₁ = 45) ∧ (digitValue u₂).isSome)

/-- A digit is neither white space nor a sign. -/
theorem not_space_of_digit {u : ℕ} (h : (digitValue u).isSome) :
    isSpaceUnit u = false ∧ u ≠ 43 ∧ u ≠ 45 := by
  have hall : ∀ u < 128, (digitValue u).isSome → isSpaceUnit u = false ∧ u ≠ 43 ∧ u ≠ 45 := by
    decide
  refine hall u ?_ h
  by_contra hge
  have hnone : digitValue u = none := by
    unfold digitValue
    rw [if_neg (by omega), if_neg (by omega), if_neg (by omega)]
  rw [hnone] at h
  cases h

/-- There is no number in an empty text. -/
theorem parseDigits_nil : parseDigits [] = none := rfl

/-- The number in a text of one unit. -/
theorem parseDigits_singleton (u : ℕ) : parseDigits [u] = digitValue u := by
  cases hu : digitValue u with
  | none => simp [parseDigits, hu]
  | some d => simp [parseDigits, hu]

/-- The number in a text of two units. -/
theorem parseDigits_pair {u₁ u₂ d₁ : ℕ} (h₁ : digitValue u₁ = some d₁) : parseDigits [u₁, u₂] =
    if u₁ = 48 ∧ (u₂ = 120 ∨ u₂ = 88) then none
    else some ((digitValue u₂).elim d₁ fun d₂ => 16 * d₁ + d₂) := by
  by_cases hmark : u₁ = 48 ∧ (u₂ = 120 ∨ u₂ = 88)
  · rw [if_pos hmark]
    rcases hmark with ⟨rfl, rfl | rfl⟩ <;> rfl
  · rw [if_neg hmark]
    have hmark' : ¬ (u₁ = 48 ∧ u₂ = 120 ∨ u₁ = 48 ∧ u₂ = 88) := by
      rwa [← and_or_left]
    cases h₂ : digitValue u₂ <;> simp [parseDigits, hmark', List.takeWhile, h₁, h₂]

/-- A first unit that is no digit does not begin a number. -/
theorem parseDigits_cons {u₁ u₂ : ℕ} (h₁ : digitValue u₁ = none) : parseDigits [u₁, u₂] = none := by
  have hne : u₁ ≠ 48 := by
    rintro rfl
    cases h₁
  simp [parseDigits, hne, h₁]

/-- A number may begin with a digit. -/
theorem parseInt16_digit {u₁ u₂ d₁ : ℕ} (h₁ : digitValue u₁ = some d₁) : parseInt16 [u₁, u₂] =
    if u₁ = 48 ∧ (u₂ = 120 ∨ u₂ = 88) then none
    else some (((digitValue u₂).elim d₁ fun d₂ => 16 * d₁ + d₂ : ℕ) : ℤ) := by
  obtain ⟨hspace, hplus, hminus⟩ := not_space_of_digit (u := u₁) (by rw [h₁]; rfl)
  have hhead : ∀ c, u₁ ≠ c → ¬ [u₁, u₂].head? = some c := fun c hne h => hne (Option.some.inj h)
  unfold parseInt16 parseSigned
  rw [List.dropWhile_cons_of_neg (by simp [hspace]), if_neg (hhead 45 hminus), if_neg (hhead 43 hplus),
    parseDigits_pair h₁]
  split <;> rfl

/-- A single unit is a number if it is a digit. -/
theorem parseSigned_singleton (u : ℕ) : (parseSigned [u]).isSome = (digitValue u).isSome := by
  unfold parseSigned
  by_cases hminus : u = 45
  · subst hminus
    rfl
  · by_cases hplus : u = 43
    · subst hplus
      rfl
    · have hhead : ∀ c, u ≠ c → ¬ [u].head? = some c := fun c hne h => hne (Option.some.inj h)
      rw [if_neg (hhead 45 hminus), if_neg (hhead 43 hplus), parseDigits_singleton, Option.isSome_map]

/-- Which units are read as a number. -/
theorem parses_iff {u₁ u₂ : ℕ} : (parseInt16 [u₁, u₂]).isSome ↔ Parses u₁ u₂ := by
  unfold Parses
  cases h₁ : digitValue u₁ with
  | some d₁ =>
    have hdigit : (digitValue u₁).isSome := by rw [h₁]; rfl
    obtain ⟨hspace, hplus, hminus⟩ := not_space_of_digit hdigit
    rw [parseInt16_digit h₁]
    simp [hspace, hplus, hminus]
  | none =>
    unfold parseInt16
    by_cases hspace : isSpaceUnit u₁ = true
    · rw [List.dropWhile_cons_of_pos hspace]
      by_cases hspace' : isSpaceUnit u₂ = true
      · have hnone : ¬ (digitValue u₂).isSome := fun h => by
          rw [(not_space_of_digit h).1] at hspace'
          cases hspace'
        rw [List.dropWhile_cons_of_pos hspace', List.dropWhile_nil]
        simp [parseSigned, parseDigits_nil, hnone]
      · rw [List.dropWhile_cons_of_neg hspace', parseSigned_singleton]
        simp [hspace]
    · rw [List.dropWhile_cons_of_neg hspace]
      unfold parseSigned
      by_cases hminus : u₁ = 45
      · simp [hminus, parseDigits_singleton]
      · by_cases hplus : u₁ = 43
        · simp [hplus, parseDigits_singleton]
        · simp [hminus, hplus, hspace, parseDigits_cons h₁]

/-! ## Texts -/

/-- A digit that `bytesToHex` writes. -/
def IsHexDigit (u : ℕ) : Prop := 48 ≤ u ∧ u ≤ 57 ∨ 97 ≤ u ∧ u ≤ 102

instance (u : ℕ) : Decidable (IsHexDigit u) := inferInstanceAs (Decidable (_ ∨ _))

/-- The units of a text, two at a time. -/
def pairs : List ℕ → List (ℕ × ℕ)
  | u₁ :: u₂ :: rest => (u₁, u₂) :: pairs rest
  | _ => []

/-- The decoder succeeds if every pair is read as a number. -/
theorem hexPairs_ok_iff {l : List ℕ} {index : ℕ} :
    (∃ bytes, hexPairs index l = .ok bytes) ↔ ∀ p ∈ pairs l, Parses p.1 p.2 := by
  induction l using pairs.induct generalizing index with
  | case1 u₁ u₂ rest ih =>
    rw [pairs, List.forall_mem_cons, ← @ih (index + 2), ← parses_iff, hexPairs]
    cases parseInt16 [u₁, u₂] with
    | none => simp
    | some value =>
      cases hexPairs (index + 2) rest with
      | error e => simp [bind, Except.bind]
      | ok bytes => simp [bind, Except.bind, pure, Except.pure]
  | case2 l h =>
    rw [hexPairs.eq_2 _ _ h, pairs.eq_2 _ h]
    simp

set_option maxRecDepth 2000 in
/-- A digit is written for its value. -/
theorem hexDigit_digitValue {u : ℕ} (h : IsHexDigit u) :
    ∃ d < 16, digitValue u = some d ∧ JsString.units (hexDigit d) = [u] := by
  have hall : ∀ u < 128, IsHexDigit u → ∃ d < 16, digitValue u = some d ∧
      JsString.units (hexDigit d) = [u] := by decide
  refine hall u ?_ h
  unfold IsHexDigit at h
  omega

/-- The units of a text that is written for some bytes. -/
theorem utf16_bytesToHex_cons (b : UInt8) (bytes : List UInt8) :
    JsString.utf16 (bytesToHex (b :: bytes)) = JsString.units (hexDigit (b.toNat / 16)) ++
      (JsString.units (hexDigit (b.toNat % 16)) ++ JsString.utf16 (bytesToHex bytes)) := by
  simp [JsString.utf16, bytesToHex]

/-- A text of digits is written for the bytes that it is decoded to. -/
theorem utf16_of_hexPairs {l : List ℕ} {index : ℕ} {bytes : List UInt8}
    (h : hexPairs index l = .ok bytes) (hmod : l.length % 2 = 0) (hdigits : ∀ u ∈ l, IsHexDigit u) :
    JsString.utf16 (bytesToHex bytes) = l := by
  induction l using pairs.induct generalizing index bytes with
  | case1 u₁ u₂ rest ih =>
    simp only [List.forall_mem_cons] at hdigits
    obtain ⟨d₁, hlt₁, hd₁, hu₁⟩ := hexDigit_digitValue hdigits.1
    obtain ⟨d₂, hlt₂, hd₂, hu₂⟩ := hexDigit_digitValue hdigits.2.1
    have hmark : ¬ (u₁ = 48 ∧ (u₂ = 120 ∨ u₂ = 88)) := by
      have hdigit := hdigits.2.1
      unfold IsHexDigit at hdigit
      omega
    have hvalue : parseInt16 [u₁, u₂] = some ((16 * d₁ + d₂ : ℕ) : ℤ) := by
      rw [parseInt16_digit hd₁, if_neg hmark, hd₂]
      rfl
    rw [hexPairs, hvalue] at h
    cases hrest : hexPairs (index + 2) rest with
    | error e =>
      rw [hrest] at h
      cases h
    | ok bytes' =>
      rw [hrest] at h
      obtain rfl := Except.ok.inj h
      simp only [List.length_cons] at hmod
      have hbyte : (UInt8.ofInt ((16 * d₁ + d₂ : ℕ) : ℤ)).toNat = 16 * d₁ + d₂ := by
        have hmod : (((16 * d₁ + d₂ : ℕ) : ℤ) % 2 ^ 8).toNat = 16 * d₁ + d₂ := by omega
        rw [UInt8.ofInt, hmod, UInt8.toNat_ofNat']
        omega
      have hhigh : (16 * d₁ + d₂) / 16 = d₁ := by omega
      have hlow : (16 * d₁ + d₂) % 16 = d₂ := by omega
      rw [utf16_bytesToHex_cons, hbyte, hhigh, hlow, hu₁, hu₂,
        ih hrest (by omega) hdigits.2.2]
      rfl
  | case2 l hshort =>
    rw [hexPairs.eq_2 _ _ hshort] at h
    obtain rfl := Except.ok.inj h
    match l, hshort with
    | [], _ => rfl
    | [_], _ =>
      rw [List.length_singleton] at hmod
      omega
    | u₁ :: u₂ :: rest, hshort => exact (hshort _ _ _ rfl).elim

/-! ## The decoder -/

/-- The decoder accepts a text if it is hexadecimal, in pairs of digits, and decodes it to the bytes
that it is written for. -/
def HexExact (toLowerCase : String → String) (hex : String) : Prop :=
  ((∃ bytes, hexToBytes toLowerCase hex = .ok bytes) ↔
    (JsString.utf16 (normalizedHex toLowerCase hex)).length % 2 = 0 ∧
      ∀ u ∈ JsString.utf16 (normalizedHex toLowerCase hex), IsHexDigit u) ∧
  ∀ bytes, hexToBytes toLowerCase hex = .ok bytes → bytesToHex bytes = normalizedHex toLowerCase hex

/-- A text is of odd length, or has a pair that is not read as a number, or it has digits only. -/
def Unmistaken (units : List ℕ) : Prop :=
  units.length % 2 = 1 ∨ (∃ p ∈ pairs units, ¬ Parses p.1 p.2) ∨ ∀ u ∈ units, IsHexDigit u

variable {toLowerCase : String → String} {hex : String}

/-- When the decoder succeeds. -/
theorem hexToBytes_ok_iff : (∃ bytes, hexToBytes toLowerCase hex = .ok bytes) ↔
    (JsString.utf16 (normalizedHex toLowerCase hex)).length % 2 = 0 ∧
      ∀ p ∈ pairs (JsString.utf16 (normalizedHex toLowerCase hex)), Parses p.1 p.2 := by
  rw [hexToBytes]
  split
  · rename_i hodd
    simp [hodd]
  · rename_i heven
    rw [hexPairs_ok_iff, not_not.mp heven]
    simp

/-- Two digits are read as a number. -/
theorem parses_of_digits {l : List ℕ} (h : ∀ u ∈ l, IsHexDigit u) : ∀ p ∈ pairs l, Parses p.1 p.2 := by
  induction l using pairs.induct with
  | case1 u₁ u₂ rest ih =>
    simp only [List.forall_mem_cons] at h
    rw [pairs, List.forall_mem_cons]
    refine ⟨Or.inl ⟨?_, ?_⟩, ih h.2.2⟩
    · obtain ⟨d, -, hd, -⟩ := hexDigit_digitValue h.1
      rw [hd]
      rfl
    · have hdigit := h.2.1
      unfold IsHexDigit at hdigit
      omega
  | case2 l hshort =>
    rw [pairs.eq_2 _ hshort]
    exact fun p hp => absurd hp List.not_mem_nil

/-- The decoder is exact on a text that it does not mistake for another, -/
theorem HexExact.of_unmistaken
    (h : Unmistaken (JsString.utf16 (normalizedHex toLowerCase hex))) : HexExact toLowerCase hex := by
  unfold HexExact
  rw [hexToBytes_ok_iff]
  rcases h with hodd | ⟨p, hp, hrefused⟩ | hdigits
  · refine ⟨⟨fun h => ?_, fun h => ?_⟩, fun bytes hbytes => ?_⟩
    · omega
    · omega
    · have hok := (hexToBytes_ok_iff.mp ⟨bytes, hbytes⟩).1
      omega
  · refine ⟨⟨fun h => absurd (h.2 p hp) hrefused, fun h => ?_⟩, fun bytes hbytes => ?_⟩
    · exact absurd (parses_of_digits h.2 p hp) hrefused
    · exact absurd ((hexToBytes_ok_iff.mp ⟨bytes, hbytes⟩).2 p hp) hrefused
  · refine ⟨⟨fun h => ⟨h.1, hdigits⟩, fun h => ⟨h.1, parses_of_digits hdigits⟩⟩, ?_⟩
    intro bytes hbytes
    have heven := (hexToBytes_ok_iff.mp ⟨bytes, hbytes⟩).1
    rw [hexToBytes, if_neg (not_not.mpr heven)] at hbytes
    exact JsString.utf16_injective (utf16_of_hexPairs hbytes heven hdigits)

/-- and on no other text. -/
theorem HexExact.unmistaken (h : HexExact toLowerCase hex) :
    Unmistaken (JsString.utf16 (normalizedHex toLowerCase hex)) := by
  by_contra hmistaken
  unfold Unmistaken at hmistaken
  push Not at hmistaken
  obtain ⟨hodd, hparses, u, hu, hnot⟩ := hmistaken
  have hok := hexToBytes_ok_iff.mpr ⟨by omega, hparses⟩
  exact hnot ((h.1.mp hok).2 u hu)

/-- The decoder is exact on the texts that it does not mistake for others, and on no others. It decodes
no two of them to the same bytes, but for their case and the white space around them. -/
theorem hexToBytes_exact_iff (toLowerCase : String → String) (hex : String) :
    (HexExact toLowerCase hex ↔ Unmistaken (JsString.utf16 (normalizedHex toLowerCase hex))) ∧
    ∀ hex' bytes, Unmistaken (JsString.utf16 (normalizedHex toLowerCase hex)) →
      Unmistaken (JsString.utf16 (normalizedHex toLowerCase hex')) →
      hexToBytes toLowerCase hex = .ok bytes → hexToBytes toLowerCase hex' = .ok bytes →
      normalizedHex toLowerCase hex = normalizedHex toLowerCase hex' := by
  refine ⟨⟨HexExact.unmistaken, HexExact.of_unmistaken⟩, fun hex' bytes h h' hbytes hbytes' => ?_⟩
  rw [← (HexExact.of_unmistaken h).2 bytes hbytes, (HexExact.of_unmistaken h').2 bytes hbytes']

/-- `toLowerCase`, on ASCII characters. -/
def asciiLower (s : String) : String := s.map Char.toLower

/-- A text of digits in either case is decoded exactly. -/
theorem hexToBytes_exact_digits : HexExact asciiLower " 0aFF " :=
  (hexToBytes_exact_iff asciiLower " 0aFF ").1.mpr (Or.inr (Or.inr (by decide +kernel)))

/-- A pair with one digit is decoded like another. -/
theorem hexToBytes_mistakes : ¬ ∀ (toLowerCase : String → String) (hex : String),
    HexExact toLowerCase hex := by
  intro h
  have hmistaken := (h asciiLower "1g").1.mp ⟨[1], by decide +kernel⟩
  exact absurd (hmistaken.2 103 (by decide +kernel)) (by decide)

end NapAuth.Codec

import Mathlib.Data.List.TakeWhile
import NapAuth.Codec

/-!
# What the Base64 decoder accepts

`decodeGroups` is the decoder without its output array: the bytes of a text, four characters at a
time, or nothing if a character is not of the alphabet. The decoder writes these bytes, each in its
place and none past the end (`decodeChunks_eq`), and it accepts the texts that are well formed
(`decode_iff`).
-/

namespace NapAuth.Codec

/-- A text without white space is well formed: it is empty, or its length is divisible by four and
it has characters of the alphabet, with at most two `=` after them. -/
def WellFormed (chars : List Char) : Prop :=
  chars = [] ∨ chars.length % 4 = 0 ∧ ∃ body padding, chars = body ++ List.replicate padding '=' ∧
    padding ≤ 2 ∧ ∀ c ∈ body, c ∈ base64Alphabet

/-- The bytes of four characters, of which the last two may be padding. -/
def groupBytes (c₃ c₄ : Char) (chunk : ℕ) : List UInt8 :=
  UInt8.ofNat (chunk >>> 16 &&& 255) ::
    ((if c₃ = '=' then [] else [UInt8.ofNat (chunk >>> 8 &&& 255)]) ++
      if c₄ = '=' then [] else [UInt8.ofNat (chunk &&& 255)])

/-- The bytes of a text, if every character may stand where it does. -/
def decodeGroups : List Char → Option (List UInt8)
  | c₁ :: c₂ :: c₃ :: c₄ :: rest =>
    match base64Lookup c₁, base64Lookup c₂, paddedLookup c₃, paddedLookup c₄ with
    | some v₁, some v₂, some v₃, some v₄ =>
      (decodeGroups rest).map
        (groupBytes c₃ c₄ (v₁ <<< 18 ||| v₂ <<< 12 ||| v₃ <<< 6 ||| v₄) ++ ·)
    | _, _, _, _ => none
  | _ => some []

/-! ## Characters -/

/-- The characters that are found are those of the alphabet. -/
theorem base64Lookup_isSome {c : Char} : (base64Lookup c).isSome ↔ c ∈ base64Alphabet := by
  rw [base64Lookup, List.isSome_idxOf?]

/-- Padding is not of the alphabet. -/
theorem padding_notMem : '=' ∉ base64Alphabet := by decide

/-- What may stand at the end of a group. -/
theorem paddedLookup_isSome {c : Char} : (paddedLookup c).isSome ↔ c = '=' ∨ c ∈ base64Alphabet := by
  unfold paddedLookup
  split
  · rename_i h
    simp [h]
  · rename_i h
    rw [base64Lookup_isSome]
    simp [h]

/-- What may stand anywhere else may stand there. -/
theorem paddedLookup_of_mem {c : Char} (h : c ∈ base64Alphabet) : (paddedLookup c).isSome :=
  paddedLookup_isSome.mpr (Or.inr h)

/-! ## Groups -/

/-- What holds of a text that is shorter than a group, and of a group before a text that it holds of,
holds of every text. -/
theorem groups_induction {motive : List Char → Prop}
    (short : ∀ chars, chars.length < 4 → motive chars)
    (group : ∀ c₁ c₂ c₃ c₄ rest, motive rest → motive (c₁ :: c₂ :: c₃ :: c₄ :: rest)) :
    ∀ chars, motive chars
  | [] => short [] (by decide)
  | [c] => short [c] (Nat.lt_of_sub_eq_succ rfl)
  | [c₁, c₂] => short [c₁, c₂] (Nat.lt_of_sub_eq_succ rfl)
  | [c₁, c₂, c₃] => short [c₁, c₂, c₃] (Nat.lt_of_sub_eq_succ rfl)
  | c₁ :: c₂ :: c₃ :: c₄ :: rest => group c₁ c₂ c₃ c₄ rest (groups_induction short group rest)

/-- A text that is shorter than a group has no bytes. -/
theorem decodeGroups_short {chars : List Char} (h : chars.length < 4) :
    decodeGroups chars = some [] := by
  match chars, h with
  | [], _ => rfl
  | [_], _ => rfl
  | [_, _], _ => rfl
  | [_, _, _], _ => rfl
  | _ :: _ :: _ :: _ :: _, h =>
    simp only [List.length_cons] at h
    omega

/-- The decoder writes none. -/
theorem decodeChunks_short {chars : List Char} (h : chars.length < 4) (output : List UInt8)
    (outputIndex : ℕ) : decodeChunks chars output outputIndex = .ok output := by
  match chars, h with
  | [], _ => rfl
  | [_], _ => rfl
  | [_, _], _ => rfl
  | [_, _, _], _ => rfl
  | _ :: _ :: _ :: _ :: _, h =>
    simp only [List.length_cons] at h
    omega

section Group

variable {c₁ c₂ c₃ c₄ : Char} {rest : List Char}

/-- A text that begins with a group has bytes when each character of the group has a value. -/
theorem decodeGroups_eq_bind : decodeGroups (c₁ :: c₂ :: c₃ :: c₄ :: rest) =
    (base64Lookup c₁).bind fun v₁ => (base64Lookup c₂).bind fun v₂ =>
      (paddedLookup c₃).bind fun v₃ => (paddedLookup c₄).bind fun v₄ => (decodeGroups rest).map
        (groupBytes c₃ c₄ (v₁ <<< 18 ||| v₂ <<< 12 ||| v₃ <<< 6 ||| v₄) ++ ·) := by
  rw [decodeGroups]
  cases base64Lookup c₁ with
  | none => rfl
  | some v₁ =>
  cases base64Lookup c₂ with
  | none => rfl
  | some v₂ =>
  cases paddedLookup c₃ with
  | none => rfl
  | some v₃ => cases paddedLookup c₄ <;> rfl

/-- The bytes of a group come before those of the rest. -/
theorem decodeGroups_eq_some {out : List UInt8} :
    decodeGroups (c₁ :: c₂ :: c₃ :: c₄ :: rest) = some out ↔ ∃ v₁, base64Lookup c₁ = some v₁ ∧
      ∃ v₂, base64Lookup c₂ = some v₂ ∧ ∃ v₃, paddedLookup c₃ = some v₃ ∧
        ∃ v₄, paddedLookup c₄ = some v₄ ∧ ∃ out', decodeGroups rest = some out' ∧
          groupBytes c₃ c₄ (v₁ <<< 18 ||| v₂ <<< 12 ||| v₃ <<< 6 ||| v₄) ++ out' = out := by
  simp only [decodeGroups_eq_bind, Option.bind_eq_some_iff, Option.map_eq_some_iff]

/-- One group. -/
theorem decodeGroups_cons : (decodeGroups (c₁ :: c₂ :: c₃ :: c₄ :: rest)).isSome ↔
    (base64Lookup c₁).isSome ∧ (base64Lookup c₂).isSome ∧ (paddedLookup c₃).isSome ∧
      (paddedLookup c₄).isSome ∧ (decodeGroups rest).isSome := by
  simp only [Option.isSome_iff_exists, decodeGroups_eq_some]
  constructor
  · rintro ⟨out, v₁, h₁, v₂, h₂, v₃, h₃, v₄, h₄, out', hout', -⟩
    exact ⟨⟨v₁, h₁⟩, ⟨v₂, h₂⟩, ⟨v₃, h₃⟩, ⟨v₄, h₄⟩, out', hout'⟩
  · rintro ⟨⟨v₁, h₁⟩, ⟨v₂, h₂⟩, ⟨v₃, h₃⟩, ⟨v₄, h₄⟩, out', hout'⟩
    exact ⟨_, v₁, h₁, v₂, h₂, v₃, h₃, v₄, h₄, out', hout', rfl⟩

end Group

/-- A group of characters of the alphabet, with padding. -/
theorem decodeGroups_padded : ∀ (body : List Char) {padding : ℕ}, padding ≤ 2 →
    (∀ c ∈ body, c ∈ base64Alphabet) → (body.length + padding) % 4 = 0 →
    (decodeGroups (body ++ List.replicate padding '=')).isSome
  | [], padding, hle, _, hmod => by
    obtain rfl : padding = 0 := by
      rw [List.length_nil] at hmod
      omega
    rfl
  | [_], padding, hle, _, hmod => by
    rw [List.length_singleton] at hmod
    omega
  | [c₁, c₂], padding, hle, hbody, hmod => by
    simp only [List.length_cons, List.length_nil] at hmod
    obtain rfl : padding = 2 := by omega
    simp only [List.forall_mem_cons] at hbody
    exact decodeGroups_cons.mpr ⟨base64Lookup_isSome.mpr hbody.1, base64Lookup_isSome.mpr hbody.2.1,
      rfl, rfl, rfl⟩
  | [c₁, c₂, c₃], padding, hle, hbody, hmod => by
    simp only [List.length_cons, List.length_nil] at hmod
    obtain rfl : padding = 1 := by omega
    simp only [List.forall_mem_cons] at hbody
    exact decodeGroups_cons.mpr ⟨base64Lookup_isSome.mpr hbody.1, base64Lookup_isSome.mpr hbody.2.1,
      paddedLookup_of_mem hbody.2.2.1, rfl, rfl⟩
  | c₁ :: c₂ :: c₃ :: c₄ :: body, padding, hle, hbody, hmod => by
    simp only [List.length_cons] at hmod
    simp only [List.forall_mem_cons] at hbody
    exact decodeGroups_cons.mpr ⟨base64Lookup_isSome.mpr hbody.1, base64Lookup_isSome.mpr hbody.2.1,
      paddedLookup_of_mem hbody.2.2.1, paddedLookup_of_mem hbody.2.2.2.1,
      decodeGroups_padded body hle hbody.2.2.2.2 (by omega)⟩

/-- Every character of a text of whole groups is of the alphabet, or padding. -/
theorem mem_of_decodeGroups {chars : List Char} (h : (decodeGroups chars).isSome)
    (hmod : chars.length % 4 = 0) : ∀ c ∈ chars, c = '=' ∨ c ∈ base64Alphabet := by
  induction chars using groups_induction with
  | short chars hlt =>
    obtain rfl : chars = [] := List.length_eq_zero_iff.mp (by omega)
    exact fun c hc => absurd hc List.not_mem_nil
  | group c₁ c₂ c₃ c₄ rest ih =>
    obtain ⟨h₁, h₂, h₃, h₄, hrest⟩ := decodeGroups_cons.mp h
    simp only [List.length_cons] at hmod
    simp only [List.forall_mem_cons]
    exact ⟨Or.inr (base64Lookup_isSome.mp h₁), Or.inr (base64Lookup_isSome.mp h₂),
      paddedLookup_isSome.mp h₃, paddedLookup_isSome.mp h₄, ih hrest (by omega)⟩

/-! ## Writing -/

/-- A byte is written in its place. -/
theorem set_written (written : List UInt8) (old b : UInt8) (rest : List UInt8) :
    (written ++ old :: rest).set written.length b = written ++ [b] ++ rest := by
  rw [List.set_append_right _ _ (Nat.le_refl _), Nat.sub_self, List.set_cons_zero, List.append_assoc,
    List.singleton_append]

/-- The bytes of a group are written one after another. -/
theorem write_group {c₃ c₄ : Char} {chunk : ℕ} (chars : List Char) (written : List UInt8)
    {buffer : List UInt8} (rest : List UInt8)
    (hlen : buffer.length = (groupBytes c₃ c₄ chunk).length) :
    (let output := (written ++ (buffer ++ rest)).set written.length
        (UInt8.ofNat (chunk >>> 16 &&& 255))
      let outputIndex := written.length + 1
      let (output, outputIndex) :=
        if c₃ = '=' then (output, outputIndex)
        else (output.set outputIndex (UInt8.ofNat (chunk >>> 8 &&& 255)), outputIndex + 1)
      let (output, outputIndex) :=
        if c₄ = '=' then (output, outputIndex)
        else (output.set outputIndex (UInt8.ofNat (chunk &&& 255)), outputIndex + 1)
      decodeChunks chars output outputIndex) =
    decodeChunks chars (written ++ groupBytes c₃ c₄ chunk ++ rest)
      (written ++ groupBytes c₃ c₄ chunk).length := by
  have hnext : ∀ (l : List UInt8) b, (l ++ [b]).length = l.length + 1 := by simp
  unfold groupBytes at hlen ⊢
  by_cases h₃ : c₃ = '=' <;> by_cases h₄ : c₄ = '=' <;>
    simp only [h₃, h₄, if_true, if_false, List.length_cons, List.length_nil, List.append_nil,
      List.nil_append] at hlen ⊢
  · obtain ⟨x, rfl⟩ := List.length_eq_one_iff.mp hlen
    rw [List.singleton_append, set_written, hnext]
  · obtain ⟨x, y, rfl⟩ := List.length_eq_two.mp hlen
    rw [List.cons_append, set_written, List.singleton_append, ← hnext written, set_written]
    simp
  · obtain ⟨x, y, rfl⟩ := List.length_eq_two.mp hlen
    rw [List.cons_append, set_written, List.singleton_append, ← hnext written, set_written]
    simp
  · obtain ⟨x, y, z, rfl⟩ := List.length_eq_three.mp hlen
    rw [List.cons_append, set_written, List.cons_append, ← hnext written, set_written,
      List.singleton_append, ← hnext (written ++ _), set_written]
    simp

/-- A buffer that has room for two lists has room for each. -/
theorem exists_room {buffer l l' : List UInt8} (h : buffer.length = (l ++ l').length) :
    ∃ front back, buffer = front ++ back ∧ front.length = l.length ∧ back.length = l'.length := by
  rw [List.length_append] at h
  refine ⟨buffer.take l.length, buffer.drop l.length, (List.take_append_drop _ _).symm, ?_, ?_⟩
  · rw [List.length_take]
    omega
  · rw [List.length_drop]
    omega

/-- The decoder writes the bytes of the text, in an array of any content that has room for them, and
leaves alone what is before and after them. -/
theorem decodeChunks_eq {chars : List Char} {out : List UInt8} (hout : decodeGroups chars = some out)
    (written : List UInt8) {buffer : List UInt8} (rest : List UInt8)
    (hlen : buffer.length = out.length) :
    decodeChunks chars (written ++ (buffer ++ rest)) written.length =
      .ok (written ++ (out ++ rest)) := by
  induction chars using groups_induction generalizing out written buffer with
  | short chars hlt =>
    rw [decodeGroups_short hlt] at hout
    obtain rfl := Option.some.inj hout
    rw [decodeChunks_short hlt, List.length_eq_zero_iff.mp hlen]
  | group c₁ c₂ c₃ c₄ chars ih =>
    obtain ⟨v₁, h₁, v₂, h₂, v₃, h₃, v₄, h₄, out', hout', rfl⟩ := decodeGroups_eq_some.mp hout
    rw [decodeChunks, h₁, h₂, h₃, h₄]
    -- The buffer has room for the group, and for the rest.
    obtain ⟨front, back, rfl, hfront, hback⟩ := exists_room hlen
    rw [List.append_assoc front]
    refine (write_group chars written (back ++ rest) hfront).trans ?_
    rw [ih hout' _ hback]
    simp

/-- It refuses a text with a character that may not stand where it does. -/
theorem decodeChunks_none {chars : List Char} (hnone : decodeGroups chars = none)
    (output : List UInt8) (outputIndex : ℕ) :
    decodeChunks chars output outputIndex = .error "Invalid base64 character" := by
  induction chars using groups_induction generalizing output outputIndex with
  | short chars hlt =>
    rw [decodeGroups_short hlt] at hnone
    cases hnone
  | group c₁ c₂ c₃ c₄ chars ih =>
    rw [decodeChunks]
    split
    · rename_i h₁ h₂ h₃ h₄
      rw [decodeGroups_eq_bind, h₁, h₂, h₃, h₄] at hnone
      replace hnone := Option.map_eq_none_iff.mp hnone
      dsimp only
      split <;> split <;> exact ih hnone _ _
    · rfl

/-! ## What is accepted -/

/-- A character that is found is no padding. -/
theorem ne_padding_of_lookup {c : Char} {v : ℕ} (h : base64Lookup c = some v) : c ≠ '=' := by
  have hmem : c ∈ base64Alphabet := base64Lookup_isSome.mp (by rw [h, Option.isSome_some])
  exact ne_of_mem_of_not_mem hmem padding_notMem

/-- A group has three bytes, but for its padding. -/
theorem length_groupBytes (c₃ c₄ : Char) (chunk : ℕ) :
    (groupBytes c₃ c₄ chunk).length + [c₃, c₄].count '=' = 3 := by
  unfold groupBytes
  by_cases h₃ : c₃ = '=' <;> by_cases h₄ : c₄ = '=' <;> simp [h₃, h₄]

/-- So has a text, for each group. -/
theorem length_decodeGroups {chars : List Char} {out : List UInt8}
    (hout : decodeGroups chars = some out) (hmod : chars.length % 4 = 0) :
    out.length + chars.count '=' = chars.length / 4 * 3 := by
  induction chars using groups_induction generalizing out with
  | short chars hlt =>
    rw [decodeGroups_short hlt] at hout
    obtain rfl := Option.some.inj hout
    obtain rfl : chars = [] := List.length_eq_zero_iff.mp (by omega)
    rfl
  | group c₁ c₂ c₃ c₄ chars ih =>
    obtain ⟨v₁, h₁, v₂, h₂, v₃, h₃, v₄, h₄, out', hout', rfl⟩ := decodeGroups_eq_some.mp hout
    simp only [List.length_cons] at hmod
    have hrest := ih hout' (by omega)
    have hgroup := length_groupBytes c₃ c₄ (v₁ <<< 18 ||| v₂ <<< 12 ||| v₃ <<< 6 ||| v₄)
    have hcount : (c₁ :: c₂ :: c₃ :: c₄ :: chars).count '=' = [c₃, c₄].count '=' + chars.count '=' := by
      rw [List.count_cons_of_ne (ne_padding_of_lookup h₁),
        List.count_cons_of_ne (ne_padding_of_lookup h₂), ← List.count_append]
      rfl
    rw [hcount, List.length_append]
    simp only [List.length_cons]
    omega

/-- A text that is well formed consists of a body and its padding. -/
theorem WellFormed.padded {chars : List Char} (h : WellFormed chars) : ∃ body padding,
    chars = body ++ List.replicate padding '=' ∧ padding ≤ 2 ∧ (∀ c ∈ body, c ∈ base64Alphabet) ∧
      (body.length + padding) % 4 = 0 := by
  rcases h with h | ⟨hmod, body, padding, heq, hle, hbody⟩
  · exact ⟨[], 0, h, by omega, fun c hc => absurd hc List.not_mem_nil, rfl⟩
  · refine ⟨body, padding, heq, hle, hbody, ?_⟩
    rwa [heq, List.length_append, List.length_replicate] at hmod

/-- A text that is well formed has its bytes, and they are decoded. -/
theorem decode_of_wellFormed {value : String} (h : WellFormed (sanitized value)) :
    ∃ out, decodeGroups (sanitized value) = some out ∧ decodeBase64Bytes value = .ok out ∧
      out.length = (sanitized value).length / 4 * 3 - (sanitized value).count '=' := by
  obtain ⟨body, padding, hvalue, hle, hbody, hmod⟩ := h.padded
  have hnot : '=' ∉ body := fun hmem => padding_notMem (hbody _ hmem)
  have hlength : (sanitized value).length = body.length + padding := by simp [hvalue]
  have hcount : (sanitized value).count '=' = padding := by
    rw [hvalue, List.count_append, List.count_eq_zero_of_not_mem hnot, List.count_replicate_self,
      Nat.zero_add]
  obtain ⟨out, hout⟩ := Option.isSome_iff_exists.mp (decodeGroups_padded body hle hbody hmod)
  rw [← hvalue] at hout
  have hlen := length_decodeGroups hout (by omega)
  have hroom : (List.replicate ((body.length + padding) / 4 * 3 - padding) (0 : UInt8)).length =
      out.length := by
    rw [List.length_replicate]
    omega
  refine ⟨out, hout, ?_, by omega⟩
  have hwrite := decodeChunks_eq hout [] [] hroom
  rw [List.append_nil, List.append_nil] at hwrite
  rw [decodeBase64Bytes_of_padded hvalue hnot hle hmod]
  exact hwrite

/-- What comes before the first `=`, and what comes from there on. -/
theorem padded_of_tail {chars : List Char} (htail : ¬ (chars.dropWhile (· ≠ '=') ≠ [] ∧
      chars.dropWhile (· ≠ '=') ≠ ['='] ∧ chars.dropWhile (· ≠ '=') ≠ ['=', '='])) :
    ∃ padding, chars = chars.takeWhile (· ≠ '=') ++ List.replicate padding '=' ∧ padding ≤ 2 := by
  have hsplit := List.takeWhile_append_dropWhile (p := (· ≠ '=')) (l := chars)
  by_cases hnone : chars.dropWhile (· ≠ '=') = []
  · exact ⟨0, by rw [hnone] at hsplit; exact hsplit.symm, by omega⟩
  by_cases hone : chars.dropWhile (· ≠ '=') = ['=']
  · exact ⟨1, by rw [hone] at hsplit; exact hsplit.symm, by omega⟩
  · have htwo : chars.dropWhile (· ≠ '=') = ['=', '='] := by
      by_contra h
      exact htail ⟨hnone, hone, h⟩
    exact ⟨2, by rw [htwo] at hsplit; exact hsplit.symm, by omega⟩

/-- The decoder, step by step. -/
theorem decodeBase64Bytes_eq (value : String) : decodeBase64Bytes value =
    if sanitized value = [] then .ok []
    else if (sanitized value).length % 4 ≠ 0 then .error "Invalid base64 length"
    else if (sanitized value).dropWhile (· ≠ '=') ≠ [] ∧
        (sanitized value).dropWhile (· ≠ '=') ≠ ['='] ∧
        (sanitized value).dropWhile (· ≠ '=') ≠ ['=', '='] then .error "Invalid base64 padding"
    else decodeChunks (sanitized value) (List.replicate ((sanitized value).length / 4 * 3 -
      if ['=', '='].isSuffixOf (sanitized value) then 2
      else if ['='].isSuffixOf (sanitized value) then 1 else 0) 0) 0 := rfl

/-- A text that is decoded is well formed. -/
theorem wellFormed_of_decode {value : String} {out : List UInt8}
    (h : decodeBase64Bytes value = .ok out) : WellFormed (sanitized value) := by
  rw [decodeBase64Bytes_eq] at h
  by_cases hnil : sanitized value = []
  · exact Or.inl hnil
  rw [if_neg hnil] at h
  by_cases hmod : (sanitized value).length % 4 ≠ 0
  · rw [if_pos hmod] at h
    cases h
  rw [if_neg hmod] at h
  split at h
  · cases h
  rename_i htail
  obtain ⟨padding, hpadded, hle⟩ := padded_of_tail htail
  rw [not_not] at hmod
  refine Or.inr ⟨hmod, _, padding, hpadded, hle, fun c hc => ?_⟩
  -- No group was refused, so every character but the padding is of the alphabet.
  have hsome : (decodeGroups (sanitized value)).isSome := by
    by_contra hnone
    rw [decodeChunks_none (Option.not_isSome_iff_eq_none.mp hnone)] at h
    cases h
  have hne := List.mem_takeWhile_imp hc
  rw [decide_eq_true_eq] at hne
  exact (mem_of_decodeGroups hsome hmod c ((List.takeWhile_prefix _).mem hc)).resolve_left hne

/-! ## The URL alphabet -/

/-- A character, as it is written in a URL. -/
def urlChar (c : Char) : Char := if c = '+' then '-' else if c = '/' then '_' else c

/-- A character, as it was before. -/
def ofUrlChar (c : Char) : Char := if c = '-' then '+' else if c = '_' then '/' else c

set_option maxRecDepth 4000 in
theorem ofUrlChar_urlChar : ∀ c ∈ base64Alphabet, ofUrlChar (urlChar c) = c ∧ urlChar c ≠ '=' := by
  have hall : (base64Alphabet.all fun c =>
      decide (ofUrlChar (urlChar c) = c ∧ urlChar c ≠ '=')) = true := by decide
  exact fun c hc => of_decide_eq_true (List.all_eq_true.mp hall c hc)

/-- The URL encoding is the body of the encoding, in the other alphabet. -/
theorem encodeBase64UrlBytes_eq {bytes : List UInt8} {body : List Char} {padding : ℕ}
    (heq : encodeChunks bytes = body ++ List.replicate padding '=')
    (hbody : ∀ c ∈ body, c ∈ base64Alphabet) :
    encodeBase64UrlBytes bytes = String.ofList (body.map urlChar) := by
  have hchar : ((fun c => if c = '/' then '_' else c) ∘ fun c : Char => if c = '+' then '-' else c) =
      urlChar := by
    funext c
    unfold urlChar
    by_cases hplus : c = '+' <;> simp [hplus]
  have hpadding : (List.replicate padding '=').map urlChar = List.replicate padding '=' := by
    rw [List.map_replicate]
    rfl
  unfold encodeBase64UrlBytes encodeBase64Bytes
  -- Only the padding is dropped.
  have hkept : (body.map urlChar).reverse.dropWhile (· = '=') = (body.map urlChar).reverse := by
    cases hreverse : (body.map urlChar).reverse with
    | nil => rfl
    | cons c rest =>
      have hmem : c ∈ body.map urlChar := List.mem_reverse.mp (hreverse ▸ List.mem_cons_self)
      obtain ⟨c', hc', rfl⟩ := List.mem_map.mp hmem
      exact List.dropWhile_cons_of_neg (by simpa using (ofUrlChar_urlChar c' (hbody c' hc')).2)
  have hdropped : ∀ c ∈ List.replicate padding '=', decide (c = '=') = true := fun c hc =>
    decide_eq_true (List.mem_replicate.mp hc).2
  rw [String.toList_ofList, List.map_map, hchar, heq, List.map_append, hpadding, List.reverse_append,
    List.reverse_replicate, List.dropWhile_append_of_pos hdropped, hkept, List.reverse_reverse]

/-- The URL encoding of a byte array determines it. -/
theorem encodeBase64UrlBytes_injective : Function.Injective encodeBase64UrlBytes := by
  have hpadded : ∀ bytes, ∃ body padding, encodeChunks bytes = body ++ List.replicate padding '=' ∧
      padding ≤ 2 ∧ (∀ c ∈ body, c ∈ base64Alphabet) ∧ (body.length + padding) % 4 = 0 := by
    intro bytes
    have hpadded := (wellFormed_of_decode (decodeBase64Bytes_encode bytes)).padded
    rwa [sanitized_encode] at hpadded
  intro bytes bytes' h
  obtain ⟨body, padding, heq, hle, hbody, hmod⟩ := hpadded bytes
  obtain ⟨body', padding', heq', hle', hbody', hmod'⟩ := hpadded bytes'
  rw [encodeBase64UrlBytes_eq heq hbody, encodeBase64UrlBytes_eq heq' hbody'] at h
  have hback : ∀ {l : List Char}, (∀ c ∈ l, c ∈ base64Alphabet) → (l.map urlChar).map ofUrlChar = l := by
    intro l hl
    rw [List.map_map]
    exact (List.map_congr_left fun c hc => (ofUrlChar_urlChar c (hl c hc)).1).trans (List.map_id l)
  obtain rfl : body = body' := by
    rw [← hback hbody, ← hback hbody', String.ofList_inj.mp h]
  obtain rfl : padding = padding' := by omega
  have hencoded : encodeBase64Bytes bytes = encodeBase64Bytes bytes' :=
    congrArg String.ofList (heq.trans heq'.symm)
  have hdecoded := decodeBase64Bytes_encode bytes
  rw [hencoded, decodeBase64Bytes_encode] at hdecoded
  exact (Except.ok.inj hdecoded).symm

/-- The Base64 codec is correct. A text is accepted if it is well formed without its white space.
It is then decoded to three bytes for each group, less one for each `=`: every byte of an array of
that length is written, whatever it held before, and nothing after it. An encoding is decoded to what
it encodes, wherever white space is put into it, and in the URL alphabet it determines it. -/
theorem base64_correct (value : String) (bytes : List UInt8) :
    ((∃ out, decodeBase64Bytes value = .ok out) ↔ WellFormed (sanitized value)) ∧
    (∀ out, decodeBase64Bytes value = .ok out →
      out.length = (sanitized value).length / 4 * 3 - (sanitized value).count '=' ∧
      ∀ buffer rest : List UInt8, buffer.length = out.length →
        decodeChunks (sanitized value) (buffer ++ rest) 0 = .ok (out ++ rest)) ∧
    (sanitized value = (encodeBase64Bytes bytes).toList → decodeBase64Bytes value = .ok bytes) ∧
    ∀ bytes', encodeBase64UrlBytes bytes = encodeBase64UrlBytes bytes' → bytes = bytes' := by
  refine ⟨⟨fun ⟨out, hout⟩ => wellFormed_of_decode hout, fun h => ?_⟩, fun out hout => ?_,
    fun hvalue => ?_, fun bytes' h => encodeBase64UrlBytes_injective h⟩
  · obtain ⟨out, -, hout, -⟩ := decode_of_wellFormed h
    exact ⟨out, hout⟩
  · obtain ⟨out', hgroups, hout', hlen⟩ := decode_of_wellFormed (wellFormed_of_decode hout)
    obtain rfl := Except.ok.inj (hout.symm.trans hout')
    exact ⟨hlen, fun buffer rest hroom => decodeChunks_eq hgroups [] rest hroom⟩
  · rw [encodeBase64Bytes, String.toList_ofList] at hvalue
    exact decodeBase64Bytes_of_sanitized hvalue

/-- A text with white space in it. -/
theorem base64_correct_nap : decodeBase64Bytes "bm Fw\nIQ==" = .ok [110, 97, 112, 33] :=
  (base64_correct "bm Fw\nIQ==" [110, 97, 112, 33]).2.2.1 (by decide)

end NapAuth.Codec

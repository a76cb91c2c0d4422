import NapAuth.JsValue

/-!
# Base64 and hexadecimal

The codecs of `packages/nap-core/src/codec.ts`, hand-written there so that they run on any JavaScript
platform. Bytes are `UInt8`s, and a `Uint8Array` is a list of them. The decoder allocates an output
of the length that the padding announces and writes into it at a running index, and so does its
model. A write past the end of a typed array is ignored, as `List.set` ignores it.

What was encoded is decoded (`decodeBase64Bytes_encode`).

A character outside the Basic Multilingual Plane counts twice in the length of a JavaScript string,
and once here. No such character is in the alphabet, so a string with one is refused here and there,
but not always with the same message: the length is looked at first, and two such characters are four
units, of which the source says that the characters are invalid, and the model that the length is.
-/

namespace NapAuth.Codec

/-- `BASE64_ALPHABET`. -/
def base64Alphabet : List Char :=
  "ABCDEFGHIJKLMNOPQRSTUVWXYZabcdefghijklmnopqrstuvwxyz0123456789+/".toList

/-- `BASE64_LOOKUP.get(char)`: the index of a character in the alphabet. -/
def base64Lookup (c : Char) : Option ℕ := base64Alphabet.idxOf? c

/-- `BASE64_ALPHABET[index]`, for an index of six bits. -/
def base64Char (index : ℕ) : Char := base64Alphabet.getD index '='

/-- The value of the third or fourth character of a group, which may be padding. -/
def paddedLookup (c : Char) : Option ℕ := if c = '=' then some 0 else base64Lookup c

/-- Groups of three bytes become four characters, and a short last group is padded. -/
def encodeChunks : List UInt8 → List Char
  | [] => []
  | [b₁] =>
    let chunk := b₁.toNat <<< 16
    [base64Char (chunk >>> 18 &&& 63), base64Char (chunk >>> 12 &&& 63), '=', '=']
  | [b₁, b₂] =>
    let chunk := b₁.toNat <<< 16 ||| b₂.toNat <<< 8
    [base64Char (chunk >>> 18 &&& 63), base64Char (chunk >>> 12 &&& 63),
      base64Char (chunk >>> 6 &&& 63), '=']
  | b₁ :: b₂ :: b₃ :: rest =>
    let chunk := b₁.toNat <<< 16 ||| b₂.toNat <<< 8 ||| b₃.toNat
    base64Char (chunk >>> 18 &&& 63) :: base64Char (chunk >>> 12 &&& 63) ::
      base64Char (chunk >>> 6 &&& 63) :: base64Char (chunk &&& 63) :: encodeChunks rest

/-- `encodeBase64Bytes`. -/
def encodeBase64Bytes (bytes : List UInt8) : String := String.ofList (encodeChunks bytes)

/-- `encodeBase64UrlBytes`: the URL alphabet, without padding. -/
def encodeBase64UrlBytes (bytes : List UInt8) : String :=
  String.ofList ((((encodeBase64Bytes bytes).toList.map fun c => if c = '+' then '-' else c).map
    fun c => if c = '/' then '_' else c).reverse.dropWhile (· = '=')).reverse

/-- The loop of the decoder, four characters at a time, writing into `output` at `outputIndex`. -/
def decodeChunks : List Char → List UInt8 → ℕ → Except String (List UInt8)
  | c₁ :: c₂ :: c₃ :: c₄ :: rest, output, outputIndex =>
    match base64Lookup c₁, base64Lookup c₂, paddedLookup c₃, paddedLookup c₄ with
    | some v₁, some v₂, some v₃, some v₄ =>
      let chunk := v₁ <<< 18 ||| v₂ <<< 12 ||| v₃ <<< 6 ||| v₄
      let output := output.set outputIndex (UInt8.ofNat (chunk >>> 16 &&& 255))
      let outputIndex := outputIndex + 1
      let (output, outputIndex) :=
        if c₃ = '=' then (output, outputIndex)
        else (output.set outputIndex (UInt8.ofNat (chunk >>> 8 &&& 255)), outputIndex + 1)
      let (output, outputIndex) :=
        if c₄ = '=' then (output, outputIndex)
        else (output.set outputIndex (UInt8.ofNat (chunk &&& 255)), outputIndex + 1)
      decodeChunks rest output outputIndex
    | _, _, _, _ => .error "Invalid base64 character"
  | _, output, _ => .ok output

/-- `decodeBase64Bytes`, with lengths in characters: of a text outside the Basic Multilingual Plane the
message may be another one. -/
def decodeBase64Bytes (value : String) : Except String (List UInt8) :=
  let sanitized := value.toList.filter fun c => !JsString.isSpace c
  if sanitized = [] then .ok []
  else if sanitized.length % 4 ≠ 0 then .error "Invalid base64 length"
  else
    -- From the first `=` on there may only be one or two of them.
    let tail := sanitized.dropWhile (· ≠ '=')
    if tail ≠ [] ∧ tail ≠ ['='] ∧ tail ≠ ['=', '='] then .error "Invalid base64 padding"
    else
      let padding := if ['=', '='].isSuffixOf sanitized then 2
        else if ['='].isSuffixOf sanitized then 1 else 0
      decodeChunks sanitized (List.replicate (sanitized.length / 4 * 3 - padding) 0) 0

/-- One hexadecimal digit. -/
def hexDigit (n : ℕ) : Char := "0123456789abcdef".toList.getD n '0'

/-- `bytesToHex`: two digits a byte. -/
def bytesToHex (bytes : List UInt8) : String :=
  String.ofList (bytes.flatMap fun b => [hexDigit (b.toNat / 16), hexDigit (b.toNat % 16)])

example : encodeBase64Bytes [110, 97, 112, 33] = "bmFwIQ==" := by decide

example : (decodeBase64Bytes "bm Fw\nIQ==").toOption = some [110, 97, 112, 33] := by decide

/-! ## Decoding what was encoded -/

set_option maxRecDepth 4000 in
/-- An index of six bits is found again. -/
theorem base64Lookup_base64Char : ∀ v < 64, base64Lookup (base64Char v) = some v := by
  decide

set_option maxRecDepth 4000 in
/-- A character of the alphabet is neither padding nor white space. -/
theorem base64Char_proper :
    ∀ v < 64, base64Char v ≠ '=' ∧ JsString.isSpace (base64Char v) = false := by
  decide

theorem paddedLookup_base64Char {v : ℕ} (hv : v < 64) : paddedLookup (base64Char v) = some v := by
  rw [paddedLookup, if_neg (base64Char_proper v hv).1, base64Lookup_base64Char v hv]

/-- Six bits of a chunk. -/
theorem sextet_eq (chunk k : ℕ) : chunk >>> k &&& 63 = chunk / 2 ^ k % 64 := by
  rw [Nat.shiftRight_eq_div_pow]
  exact Nat.and_two_pow_sub_one_eq_mod _ 6

/-- They are an index of the alphabet. -/
theorem sextet_lt (chunk k : ℕ) : chunk >>> k &&& 63 < 64 := by
  rw [sextet_eq]
  exact Nat.mod_lt _ (by norm_num)

/-- Eight bits of a chunk. -/
theorem octet_eq (chunk k : ℕ) : chunk >>> k &&& 255 = chunk / 2 ^ k % 256 := by
  rw [Nat.shiftRight_eq_div_pow]
  exact Nat.and_two_pow_sub_one_eq_mod _ 8

/-- Bits that are put one after another are a sum. -/
theorem shift_or {a b k : ℕ} (hb : b < 2 ^ k) : a <<< k ||| b = a * 2 ^ k + b := by
  rw [← Nat.shiftLeft_add_eq_or_of_lt hb, Nat.shiftLeft_eq]

/-- Three bytes are a chunk of 24 bits. -/
theorem chunk_eq (b₁ b₂ b₃ : UInt8) : b₁.toNat <<< 16 ||| b₂.toNat <<< 8 ||| b₃.toNat =
    b₁.toNat * 65536 + b₂.toNat * 256 + b₃.toNat := by
  have h₂ := b₂.toNat_lt
  have h₃ := b₃.toNat_lt
  rw [Nat.or_assoc, shift_or (k := 8) (by omega), shift_or (by omega)]
  omega

/-- A chunk of 24 bits is its four indices, put one after another. -/
theorem join_sextets {chunk : ℕ} (h : chunk < 2 ^ 24) :
    (chunk >>> 18 &&& 63) <<< 18 ||| (chunk >>> 12 &&& 63) <<< 12 ||| (chunk >>> 6 &&& 63) <<< 6 |||
      (chunk &&& 63) = chunk := by
  have hlast : chunk &&& 63 = chunk % 64 := Nat.and_two_pow_sub_one_eq_mod _ 6
  simp only [sextet_eq, hlast]
  rw [Nat.or_assoc, Nat.or_assoc, shift_or (k := 6) (by omega), shift_or (k := 12) (by omega),
    shift_or (k := 18) (by omega)]
  omega

/-- The first of the bytes that are not written yet. -/
theorem set_next (written : List UInt8) (b : UInt8) (n : ℕ) :
    (written ++ List.replicate (n + 1) 0).set written.length b =
      written ++ [b] ++ List.replicate n 0 := by
  rw [List.set_append_right _ _ (Nat.le_refl _), Nat.sub_self, List.replicate_succ, List.set_cons_zero,
    List.append_assoc, List.singleton_append]

theorem ofNat_octet {b : UInt8} {n : ℕ} (h : n % 256 = b.toNat) : UInt8.ofNat n = b := by
  apply UInt8.toNat_inj.mp
  rw [UInt8.toNat_ofNat', h]

/-- The bytes of a chunk. -/
theorem octets_chunk {b₁ b₂ b₃ : UInt8} {chunk : ℕ}
    (h : b₁.toNat <<< 16 ||| b₂.toNat <<< 8 ||| b₃.toNat = chunk) : chunk < 2 ^ 24 ∧
    UInt8.ofNat (chunk >>> 16 &&& 255) = b₁ ∧ UInt8.ofNat (chunk >>> 8 &&& 255) = b₂ ∧
    UInt8.ofNat (chunk &&& 255) = b₃ := by
  have h₁ := b₁.toNat_lt
  have h₂ := b₂.toNat_lt
  have h₃ := b₃.toNat_lt
  have hlast : chunk &&& 255 = chunk % 256 := Nat.and_two_pow_sub_one_eq_mod _ 8
  rw [chunk_eq] at h
  rw [octet_eq, octet_eq, hlast]
  exact ⟨by omega, ofNat_octet (by omega), ofNat_octet (by omega), ofNat_octet (by omega)⟩

/-- The decoder writes the bytes that the encoder read. -/
theorem decodeChunks_encodeChunks (bytes written : List UInt8) :
    decodeChunks (encodeChunks bytes) (written ++ List.replicate bytes.length 0) written.length =
      .ok (written ++ bytes) := by
  have hnext : ∀ (written : List UInt8) b, (written ++ [b]).length = written.length + 1 := by simp
  have hlast : ∀ chunk, chunk &&& 63 < 64 := fun chunk => Nat.and_lt_two_pow _ (by norm_num : 63 < 2 ^ 6)
  induction bytes using encodeChunks.induct generalizing written with
  | case1 => rfl
  | case2 b₁ =>
    generalize hchunk : b₁.toNat <<< 16 = chunk
    obtain ⟨hlt, hb₁, -, -⟩ := @octets_chunk b₁ 0 0 _ (by simpa using hchunk)
    have hjoin := join_sextets hlt
    have hlow : (chunk >>> 6 &&& 63) = 0 ∧ chunk &&& 63 = 0 := by
      have h63 : chunk &&& 63 = chunk % 64 := Nat.and_two_pow_sub_one_eq_mod _ 6
      rw [sextet_eq, h63, ← hchunk, Nat.shiftLeft_eq]
      omega
    rw [hlow.1, hlow.2] at hjoin
    simp only [encodeChunks, hchunk, decodeChunks, base64Lookup_base64Char _ (sextet_lt _ _),
      paddedLookup, if_true, hjoin, hb₁, List.length_singleton]
    rw [set_next, List.replicate_zero, List.append_nil]
  | case3 b₁ b₂ =>
    generalize hchunk : b₁.toNat <<< 16 ||| b₂.toNat <<< 8 = chunk
    obtain ⟨hlt, hb₁, hb₂, -⟩ := @octets_chunk b₁ b₂ 0 _ (by simpa using hchunk)
    have hjoin := join_sextets hlt
    have hlow : chunk &&& 63 = 0 := by
      have h63 : chunk &&& 63 = chunk % 64 := Nat.and_two_pow_sub_one_eq_mod _ 6
      have hsum := chunk_eq b₁ b₂ 0
      rw [UInt8.toNat_zero, Nat.or_zero, hchunk] at hsum
      omega
    rw [hlow] at hjoin
    simp only [encodeChunks, hchunk, decodeChunks, base64Lookup_base64Char _ (sextet_lt _ _),
      paddedLookup, if_true, if_neg (base64Char_proper _ (sextet_lt _ _)).1, hjoin, hb₁, hb₂,
      List.length_cons, List.length_nil]
    rw [set_next, ← hnext written b₁, set_next, List.replicate_zero, List.append_nil,
      List.append_assoc]
    rfl
  | case4 b₁ b₂ b₃ rest ih =>
    generalize hchunk : b₁.toNat <<< 16 ||| b₂.toNat <<< 8 ||| b₃.toNat = chunk
    obtain ⟨hlt, hb₁, hb₂, hb₃⟩ := octets_chunk hchunk
    have hjoin := join_sextets hlt
    simp only [encodeChunks, hchunk, decodeChunks, base64Lookup_base64Char _ (sextet_lt _ _),
      paddedLookup_base64Char (sextet_lt _ _), paddedLookup_base64Char (hlast _),
      if_neg (base64Char_proper _ (sextet_lt _ _)).1, if_neg (base64Char_proper _ (hlast _)).1,
      hjoin, hb₁, hb₂, hb₃, List.length_cons]
    rw [set_next, ← hnext written b₁, set_next, ← hnext (written ++ [b₁]) b₂, set_next,
      ← hnext (written ++ [b₁] ++ [b₂]) b₃, ih]
    simp

/-- What the encoder writes: characters of the alphabet, and then padding. -/
theorem encodeChunks_eq (bytes : List UInt8) : ∃ body padding,
    encodeChunks bytes = body ++ List.replicate padding '=' ∧ padding ≤ 2 ∧
      (∀ c ∈ body, c ≠ '=' ∧ JsString.isSpace c = false) ∧
      (body.length + padding) / 4 * 3 - padding = bytes.length ∧ (body.length + padding) % 4 = 0 := by
  have hproper : ∀ chunk k, base64Char (chunk >>> k &&& 63) ≠ '=' ∧
      JsString.isSpace (base64Char (chunk >>> k &&& 63)) = false := fun chunk k =>
    base64Char_proper _ (sextet_lt _ _)
  induction bytes using encodeChunks.induct with
  | case1 => exact ⟨[], 0, rfl, by simp⟩
  | case2 b₁ =>
    refine ⟨[base64Char (b₁.toNat <<< 16 >>> 18 &&& 63), base64Char (b₁.toNat <<< 16 >>> 12 &&& 63)], 2,
      rfl, by omega, ?_, by simp, by simp⟩
    simp only [List.forall_mem_cons]
    exact ⟨hproper _ _, hproper _ _, by simp⟩
  | case3 b₁ b₂ =>
    refine ⟨_ :: _ :: [_], 1, rfl, by omega, ?_, by simp, by simp⟩
    simp only [List.forall_mem_cons]
    exact ⟨hproper _ _, hproper _ _, hproper _ _, by simp⟩
  | case4 b₁ b₂ b₃ rest ih =>
    obtain ⟨body, padding, heq, hle, hbody, hlen, hmod⟩ := ih
    refine ⟨_ :: _ :: _ :: _ :: body, padding, congrArg (fun l => _ :: _ :: _ :: _ :: l) heq, hle, ?_,
      ?_, ?_⟩
    · simp only [List.forall_mem_cons]
      exact ⟨hproper _ _, hproper _ _, hproper _ _, hproper _ 0, hbody⟩
    · simp only [List.length_cons]
      omega
    · simp only [List.length_cons]
      omega

/-- The encoder writes no white space. -/
theorem isSpace_encodeChunks {bytes : List UInt8} {c : Char} (hc : c ∈ encodeChunks bytes) :
    JsString.isSpace c = false := by
  obtain ⟨body, padding, heq, -, hbody, -, -⟩ := encodeChunks_eq bytes
  rcases List.mem_append.mp (heq ▸ hc) with hc | hc
  · exact (hbody c hc).2
  · rw [(List.mem_replicate.mp hc).2]
    rfl

/-- What is left of a text without its white space. -/
def sanitized (value : String) : List Char := value.toList.filter fun c => !JsString.isSpace c

/-- The padding that the decoder counts. -/
theorem padding_eq {body : List Char} {padding : ℕ} (hbody : '=' ∉ body) (hle : padding ≤ 2) :
    (if ['=', '='].isSuffixOf (body ++ List.replicate padding '=') then 2
      else if ['='].isSuffixOf (body ++ List.replicate padding '=') then 1 else 0) = padding := by
  simp only [List.isSuffixOf_iff_suffix]
  match padding, hle with
  | 2, _ => exact if_pos ⟨body, rfl⟩
  | 1, _ =>
    rw [if_neg, if_pos ⟨body, rfl⟩]
    rintro ⟨front, hfront⟩
    have heq : front ++ ['='] = body := by
      refine List.append_cancel_right (?_ : _ ++ ['='] = _ ++ ['='])
      simpa using hfront
    exact hbody (heq ▸ by simp)
  | 0, _ =>
    rw [List.replicate_zero, List.append_nil, if_neg fun hs => hbody (hs.subset (by simp)),
      if_neg fun hs => hbody (hs.subset (by simp))]

/-- A text that is well padded is decoded group by group. -/
theorem decodeBase64Bytes_of_padded {value : String} {body : List Char} {padding : ℕ}
    (hvalue : sanitized value = body ++ List.replicate padding '=') (hbody : '=' ∉ body)
    (hle : padding ≤ 2) (hmod : (body.length + padding) % 4 = 0) : decodeBase64Bytes value =
      decodeChunks (sanitized value)
        (List.replicate ((body.length + padding) / 4 * 3 - padding) 0) 0 := by
  have hlength : (body ++ List.replicate padding '=').length = body.length + padding := by simp
  have htail : (body ++ List.replicate padding '=').dropWhile (· ≠ '=') =
      List.replicate padding '=' := by
    have hother : ∀ c ∈ body, decide (c ≠ '=') = true := fun c hc =>
      decide_eq_true (ne_of_mem_of_not_mem hc hbody)
    rw [List.dropWhile_append_of_pos hother]
    cases padding <;> simp [List.replicate_succ]
  have hproper : ¬ (List.replicate padding '=' ≠ [] ∧ List.replicate padding '=' ≠ ['='] ∧
      List.replicate padding '=' ≠ ['=', '=']) := by
    match padding, hle with
    | 0, _ => simp
    | 1, _ => simp
    | 2, _ => simp
  have hmod' : ¬ (body.length + padding) % 4 ≠ 0 := by omega
  unfold sanitized at hvalue ⊢
  rw [decodeBase64Bytes]
  simp only [hvalue, htail, padding_eq hbody hle, if_neg hproper, hlength, if_neg hmod']
  split
  · rename_i hnil
    rw [hnil, List.length_nil] at hlength
    have hzero : (body.length + padding) / 4 * 3 - padding = 0 := by omega
    rw [hnil, hzero]
    rfl
  · rfl

/-- What was encoded is decoded, wherever white space is put into it. -/
theorem decodeBase64Bytes_of_sanitized {value : String} {bytes : List UInt8}
    (hvalue : sanitized value = encodeChunks bytes) : decodeBase64Bytes value = .ok bytes := by
  obtain ⟨body, padding, heq, hle, hbody, hlen, hmod⟩ := encodeChunks_eq bytes
  rw [decodeBase64Bytes_of_padded (hvalue.trans heq) (fun hmem => (hbody _ hmem).1 rfl) hle hmod,
    hvalue, hlen]
  exact decodeChunks_encodeChunks bytes []

/-- The encoder writes nothing that is left out. -/
theorem sanitized_encode (bytes : List UInt8) :
    sanitized (encodeBase64Bytes bytes) = encodeChunks bytes := by
  rw [sanitized, encodeBase64Bytes, String.toList_ofList, List.filter_eq_self]
  intro c hc
  rw [isSpace_encodeChunks hc, Bool.not_false]

/-- What was encoded is decoded. -/
theorem decodeBase64Bytes_encode (bytes : List UInt8) :
    decodeBase64Bytes (encodeBase64Bytes bytes) = .ok bytes :=
  decodeBase64Bytes_of_sanitized (sanitized_encode bytes)

end NapAuth.Codec

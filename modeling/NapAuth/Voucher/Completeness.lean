import Mathlib.Algebra.Group.Basic
import Mathlib.GroupTheory.OrderOfElement
import NapAuth.Voucher.Dleq

/-!
# A mint's proofs verify

What a mint with a key has issued for a blinded message is a proof that verifies, in the form that it
has after it was unblinded (`issued_verifies_iff`). The verifier computes the mint's commitments from
the response and the challenge (`DiscreteLog.commitment_eq`), and so the hash that it compares with the challenge is
the mint's.

The curve is any group in which the order of the scalars kills every point. The points of a group of
prime order are one.
-/

/-- A response is a commitment and a challenge's multiple of a key. The verifier finds the commitment
in every point that the key is a multiple of. -/
theorem DiscreteLog.commitment_eq {G : Type} [AddCommGroup G] {order : ℕ} {x : G} (horder : order • x = 0)
    {commitment challenge key response : ℕ}
    (hresponse : response ≡ commitment + challenge * key [MOD order]) :
    response • x + -(challenge • (key • x)) = commitment • x := by
  have hmod := hresponse.of_dvd (addOrderOf_dvd_iff_nsmul_eq_zero.mpr horder)
  have hx : response • x = (commitment + challenge * key) • x := nsmul_eq_nsmul_iff_modEq.mpr hmod
  rw [hx, add_nsmul, mul_nsmul', add_neg_cancel_right]

namespace NapAuth.Voucher

variable {P : VoucherPlatform}

/-! ## Hexadecimal texts -/

/-- A digit is the one of its value. -/
theorem hexDigit_hexDigitValue {c : Char} (hc : isHexDigit c = true) :
    hexDigitValue c < 16 ∧ Codec.hexDigit (hexDigitValue c) = c := by
  have hall : ∀ n < 128, isHexDigit (Char.ofNat n) = true → hexDigitValue (Char.ofNat n) < 16 ∧
      Codec.hexDigit (hexDigitValue (Char.ofNat n)) = Char.ofNat n := by decide
  have hlt : c.toNat < 128 := by
    simp only [isHexDigit, Bool.or_eq_true, Bool.and_eq_true, decide_eq_true_eq] at hc
    rcases hc with ⟨-, hle⟩ | ⟨-, hle⟩
    · have hle : c.toNat ≤ 57 := hle
      omega
    · have hle : c.toNat ≤ 102 := hle
      omega
  have hdigit := hall c.toNat hlt
  rw [Char.ofNat_toNat] at hdigit
  exact hdigit hc

/-- What is written for a value is a digit. -/
theorem isHexDigit_hexDigit : ∀ d < 16, isHexDigit (Codec.hexDigit d) = true := by decide

/-- The value of digits determines them, if there are as many. -/
theorem foldl_hexDigitValue_inj {l l' : List Char} (hlength : l.length = l'.length)
    (h : ∀ c ∈ l, isHexDigit c = true) (h' : ∀ c ∈ l', isHexDigit c = true) {m m' : ℕ}
    (heq : l.foldl (fun n c => 16 * n + hexDigitValue c) m =
      l'.foldl (fun n c => 16 * n + hexDigitValue c) m') : m = m' ∧ l = l' := by
  induction l generalizing l' m m' with
  | nil =>
    obtain rfl := List.eq_nil_of_length_eq_zero hlength.symm
    exact ⟨heq, rfl⟩
  | cons c l ih =>
    cases l' with
    | nil => cases hlength
    | cons c' l' =>
      obtain ⟨hc, hl⟩ := List.forall_mem_cons.mp h
      obtain ⟨hc', hl'⟩ := List.forall_mem_cons.mp h'
      obtain ⟨hfirst, rfl⟩ := ih (Nat.succ.inj hlength) hl hl' heq
      have hfirst : 16 * m + hexDigitValue c = 16 * m' + hexDigitValue c' := hfirst
      obtain ⟨hlt, hdigit⟩ := hexDigit_hexDigitValue hc
      obtain ⟨hlt', hdigit'⟩ := hexDigit_hexDigitValue hc'
      have hvalue : hexDigitValue c = hexDigitValue c' := by omega
      refine ⟨by omega, ?_⟩
      rw [← hdigit, hvalue, hdigit']

/-- The value of a text of digits determines it, if its length is known. -/
theorem hexValue_injective {n : ℕ} {s s' : String} (h : isHex n s = true) (h' : isHex n s' = true)
    (heq : hexValue s = hexValue s') : s = s' := by
  simp only [isHex, Bool.and_eq_true, beq_iff_eq, List.all_eq_true] at h h'
  exact String.toList_inj.mp
    (foldl_hexDigitValue_inj (h.1.trans h'.1.symm) h.2 h'.2 heq).2

/-- What is written for bytes is digits, two for each. -/
theorem isHex_bytesToHex (bytes : List UInt8) :
    isHex (2 * bytes.length) (Codec.bytesToHex bytes) = true := by
  simp only [isHex, Codec.bytesToHex, String.toList_ofList, Bool.and_eq_true, beq_iff_eq,
    List.all_eq_true]
  constructor
  · induction bytes with
    | nil => rfl
    | cons b bytes ih =>
      rw [List.flatMap_cons, List.length_append, ih, List.length_cons]
      show 2 + 2 * bytes.length = 2 * (bytes.length + 1)
      omega
  · intro c hc
    obtain ⟨b, -, hc⟩ := List.mem_flatMap.mp hc
    have hlt := b.toNat_lt
    simp only [List.mem_cons, List.not_mem_nil, or_false] at hc
    rcases hc with rfl | rfl
    · exact isHexDigit_hexDigit _ (by omega)
    · exact isHexDigit_hexDigit _ (by omega)

/-- A text that is read as a scalar is 64 digits, with its value. -/
theorem parseScalar_eq_some {value : String} {n : P.curve.Scalar}
    (h : parseScalar P value = some n) :
    isHex 64 (normalized P value) = true ∧ hexValue (normalized P value) = n.val := by
  unfold parseScalar at h
  split_ifs at h with hhex
  dsimp only at h
  split_ifs at h with hscalar
  exact ⟨hhex, congrArg Subtype.val (Option.some.inj h)⟩

/-! ## Issuing -/

/-- The curve library computes in a group, where the order of the scalars kills every point. -/
structure ComputesIn (C : Secp256k1) [AddCommGroup C.Point] : Prop where
  add_eq : ∀ x y, C.add x y = x + y
  negate_eq : ∀ x, C.negate x = -x
  multiply_eq : ∀ x (n : C.Scalar), C.multiply x n = n.val • x
  order_nsmul : ∀ x : C.Point, C.order • x = 0

/-- Points are read as they were written, and each but the identity has a text. Hashes have 32 bytes. -/
structure Encodes (P : VoucherPlatform) [AddCommGroup P.curve.Point] : Prop where
  parsePoint_toHex : ∀ x text, P.curve.toHex x true = some text → parsePoint P text = some x
  toHex_isSome : ∀ x : P.curve.Point, x ≠ 0 → (P.curve.toHex x true).isSome = true
  length_sha256 : ∀ bytes, (P.sha256 bytes).length = 32

/-- What a mint issues: it signs the blinded point of a secret with its key, and proves that it has
with a nonce. -/
structure Issuance (P : VoucherPlatform) [AddCommGroup P.curve.Point] where
  secret : String
  /-- `Y`. -/
  point : P.curve.Point
  point_eq : hashToCurve P (textEncode secret) = some point
  /-- `a`. -/
  key : ℕ
  /-- `r`. -/
  blinding : P.curve.Scalar
  /-- `k`. -/
  nonce : ℕ
  /-- `e`. -/
  challenge : P.curve.Scalar
  /-- `s`. -/
  response : P.curve.Scalar
  /-- The hash of the commitments, of the key and of the blind signature. -/
  digest : List UInt8
  digest_eq : hashE P [nonce • P.curve.base, nonce • (point + blinding.val • P.curve.base),
    key • P.curve.base, key • (point + blinding.val • P.curve.base)] = some digest
  challenge_eq : challenge.val = hexValue (Codec.bytesToHex digest)
  response_eq : response.val ≡ nonce + challenge.val * key [MOD P.curve.order]
  /-- The key is not the identity. -/
  A_ne : key • P.curve.base ≠ 0
  /-- The blinded point is not. -/
  B_ne : point + blinding.val • P.curve.base ≠ 0
  /-- The blind signature is not. -/
  C_ne : key • (point + blinding.val • P.curve.base) ≠ 0

namespace Issuance

variable [AddCommGroup P.curve.Point] (I : Issuance P)

/-- The mint's key, as a point. -/
def A : P.curve.Point := I.key • P.curve.base

/-- The blinded message. -/
def B_ : P.curve.Point := I.point + I.blinding.val • P.curve.base

/-- The blind signature. -/
def C_ : P.curve.Point := I.key • I.B_

/-- The signature, unblinded. -/
def C : P.curve.Point := I.C_ - I.blinding.val • I.A

/-- Texts of what was issued: of the key, of the signature, and of the scalars. -/
structure Texts (A C : String) (dleq : Dleq) : Prop where
  A_eq : parsePoint P A = some I.A
  C_eq : parsePoint P C = some I.C
  e_eq : parseScalar P dleq.e = some I.challenge
  s_eq : parseScalar P dleq.s = some I.response
  r_eq : parseScalar P dleq.r = some I.blinding

end Issuance

/-! ## Verifying -/

section

variable [AddCommGroup P.curve.Point] {I : Issuance P}

/-- The verifier's commitment, to a point that the mint has multiplied by its key. -/
theorem verifier_commitment (hgroup : ComputesIn P.curve) (x : P.curve.Point) :
    P.curve.add (P.curve.multiply x I.response)
      (P.curve.negate (P.curve.multiply (I.key • x) I.challenge)) = I.nonce • x := by
  rw [hgroup.add_eq, hgroup.negate_eq, hgroup.multiply_eq, hgroup.multiply_eq]
  exact DiscreteLog.commitment_eq (hgroup.order_nsmul x) I.response_eq

/-- The hash is the challenge's text. -/
theorem bytesToHex_digest (hencodes : Encodes P) {A C : String} {dleq : Dleq}
    (htexts : I.Texts A C dleq) : Codec.bytesToHex I.digest = normalized P dleq.e := by
  obtain ⟨hhex, hvalue⟩ := parseScalar_eq_some htexts.e_eq
  have hlength : I.digest.length = 32 := by
    have hdigest := I.digest_eq
    unfold hashE at hdigest
    obtain ⟨texts, -, hsha⟩ := Option.bind_eq_some_iff.mp hdigest
    rw [← Option.some.inj hsha]
    exact hencodes.length_sha256 _
  have hdigits := isHex_bytesToHex I.digest
  rw [hlength] at hdigits
  exact hexValue_injective hdigits hhex (by rw [hvalue, I.challenge_eq])

/-- A proof verifies in its blinded form. -/
theorem verifyDleq_issued (hgroup : ComputesIn P.curve) (hencodes : Encodes P)
    {A C : String} {dleq : Dleq} (htexts : I.Texts A C dleq) {A' B_ C_ : String}
    (hA : parsePoint P A' = some I.A) (hB : parsePoint P B_ = some I.B_)
    (hC : parsePoint P C_ = some I.C_) : verifyDleq P A' B_ C_ dleq = true := by
  have hR1 := verifier_commitment (I := I) hgroup P.curve.base
  have hR2 := verifier_commitment (I := I) hgroup I.B_
  have hhash : hashE P [I.nonce • P.curve.base, I.nonce • I.B_, I.A, I.C_] = some I.digest :=
    I.digest_eq
  unfold verifyDleq
  simp only [hA, hB, hC, htexts.e_eq, htexts.s_eq]
  unfold Issuance.C_ Issuance.A at hhash ⊢
  rw [hR1, hR2, hhash]
  exact beq_iff_eq.mpr (bytesToHex_digest hencodes htexts)

/-- What a mint has issued verifies, in the form without blinding, exactly if the secret is not empty:
an empty one is refused before anything is computed. -/
theorem issued_verifies_iff (hgroup : ComputesIn P.curve) (hencodes : Encodes P) (I : Issuance P)
    {A C : String} {dleq : Dleq} (htexts : I.Texts A C dleq) :
    verifyProofDleq P A I.secret C dleq = true ↔ I.secret ≠ "" := by
  have hC : P.curve.add I.C (P.curve.multiply I.A I.blinding) = I.C_ := by
    rw [hgroup.add_eq, hgroup.multiply_eq]
    exact sub_add_cancel _ _
  have hB : P.curve.add I.point (P.curve.multiply P.curve.base I.blinding) = I.B_ := by
    rw [hgroup.add_eq, hgroup.multiply_eq]
    rfl
  obtain ⟨textA, hA⟩ := Option.isSome_iff_exists.mp (hencodes.toHex_isSome I.A I.A_ne)
  obtain ⟨textB, hB'⟩ := Option.isSome_iff_exists.mp (hencodes.toHex_isSome I.B_ I.B_ne)
  obtain ⟨textC, hC'⟩ := Option.isSome_iff_exists.mp (hencodes.toHex_isSome I.C_ I.C_ne)
  have hverify := verifyDleq_issued hgroup hencodes htexts (hencodes.parsePoint_toHex _ _ hA)
    (hencodes.parsePoint_toHex _ _ hB') (hencodes.parsePoint_toHex _ _ hC')
  unfold verifyProofDleq
  simp only [htexts.A_eq, htexts.C_eq, htexts.r_eq]
  split_ifs with hempty
  · simp [hempty]
  · simp [hempty, I.point_eq, hB, hC, hA, hB', hC', hverify]

end

/-! ## A group of order five -/

namespace FiveSample

/-- A text of 64 digits, of which the last one counts. -/
def scalarText (digit : Char) : String := String.ofList (List.replicate 63 '0' ++ [digit])

/-- The texts of the points. -/
def pointTexts : List (ZMod 5 × String) := [(1, "021"), (2, "022"), (3, "023"), (4, "024")]

/-- The candidate of every secret. -/
def candidate : String := "02" ++ scalarText '1'

/-- The curve. -/
def curve : Secp256k1 where
  Point := ZMod 5
  order := 5
  base := 1
  add := (· + ·)
  negate := (- ·)
  multiply x n := n.val • x
  fromHex text :=
    if text = candidate then some 1
    else (pointTexts.find? fun entry => entry.2 == text).map (·.1)
  toHex x _ := (pointTexts.find? fun entry => entry.1 == x).map (·.2)

/-- The platform, where every hash is one. -/
def platform : VoucherPlatform where
  jsonParse _ := none
  toNumber _ := .nan
  numberToString _ := ""
  toLowerCase text := text
  parseUrl _ := none
  sha256 _ := List.replicate 31 0 ++ [1]
  schnorrVerify _ _ _ := none
  curve := curve

instance : AddCommGroup platform.curve.Point := inferInstanceAs (AddCommGroup (ZMod 5))

theorem computesIn : ComputesIn platform.curve where
  add_eq _ _ := rfl
  negate_eq _ := rfl
  multiply_eq _ _ := rfl
  order_nsmul := by
    have hall : ∀ x : ZMod 5, 5 • x = 0 := by decide
    exact hall

theorem encodes : Encodes platform where
  parsePoint_toHex := by
    have hall : ∀ x : ZMod 5, ∀ text, curve.toHex x true = some text →
        parsePoint platform text = some x := by
      intro x text htext
      obtain ⟨entry, hentry, rfl⟩ := Option.map_eq_some_iff.mp htext
      have hkey : entry.1 = x := by simpa using List.find?_some hentry
      have hread : ∀ entry ∈ pointTexts, parsePoint platform entry.2 = some entry.1 := by
        intro entry hentry
        simp only [pointTexts, List.mem_cons, List.not_mem_nil, or_false] at hentry
        rcases hentry with rfl | rfl | rfl | rfl <;> rfl
      exact hkey ▸ hread entry (List.mem_of_find?_eq_some hentry)
    exact hall
  toHex_isSome := by
    have hall : ∀ x : ZMod 5, x ≠ 0 → (curve.toHex x true).isSome = true := by decide
    exact hall
  length_sha256 _ := rfl

/-- A mint with the key 1 issues for a secret. -/
def issuance (secret : String) : Issuance platform where
  secret := secret
  point := (1 : ZMod 5)
  point_eq := rfl
  key := 1
  blinding := ⟨1, by decide⟩
  nonce := 1
  challenge := ⟨1, by decide⟩
  response := ⟨2, by decide⟩
  digest := List.replicate 31 0 ++ [1]
  digest_eq := rfl
  challenge_eq := by decide
  response_eq := by decide
  A_ne := (by decide : 1 • (1 : ZMod 5) ≠ 0)
  B_ne := (by decide : (1 : ZMod 5) + 1 • (1 : ZMod 5) ≠ 0)
  C_ne := (by decide : 1 • ((1 : ZMod 5) + 1 • (1 : ZMod 5)) ≠ 0)

/-- The proof. -/
def dleq : Dleq := ⟨scalarText '1', scalarText '2', scalarText '1'⟩

theorem parsePoint_base : parsePoint platform "021" = some (1 : ZMod 5) := rfl

theorem parseScalar_one :
    parseScalar platform (scalarText '1') = some (⟨1, by decide⟩ : platform.curve.Scalar) := by
  decide

theorem parseScalar_two :
    parseScalar platform (scalarText '2') = some (⟨2, by decide⟩ : platform.curve.Scalar) := by
  decide

theorem texts (secret : String) : (issuance secret).Texts "021" "021" dleq where
  A_eq := parsePoint_base.trans (congrArg some (by decide : (1 : ZMod 5) = 1 • (1 : ZMod 5)))
  C_eq := parsePoint_base.trans (congrArg some (by decide : (1 : ZMod 5) =
    1 • ((1 : ZMod 5) + 1 • (1 : ZMod 5)) - 1 • (1 • (1 : ZMod 5))))
  e_eq := parseScalar_one
  s_eq := parseScalar_two
  r_eq := parseScalar_one

end FiveSample

section Witnesses

open FiveSample

/-- A secret with a text. -/
theorem issued_verifies_secret : verifyProofDleq platform "021" "secret" "021" dleq = true :=
  (issued_verifies_iff computesIn encodes (issuance "secret") (texts "secret")).mpr (by decide)

/-- The empty secret is refused, though everything about it was issued. -/
theorem issued_not_verified : ∃ I : Issuance platform, ∃ A C dleq, ComputesIn platform.curve ∧
    Encodes platform ∧ I.Texts A C dleq ∧ verifyProofDleq platform A I.secret C dleq = false :=
  ⟨issuance "", "021", "021", dleq, computesIn, encodes, texts "", by decide⟩

end Witnesses

end NapAuth.Voucher

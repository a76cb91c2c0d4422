import NapAuth.Codec
import NapAuth.Types

/-!
# DLEQ proofs

`packages/nap-voucher/src/dleq.ts`: the map from a voucher's secret to a point of the curve, and the
check that the mint which published a key has signed a proof with it (`verifyProofDleq`).

The curve library is a `Secp256k1`, and it and what else the voucher code takes from its platform
are a `VoucherPlatform`. A scalar is a number that the curve library accepts as one, so that no
product with it throws.
-/

namespace NapAuth.Voucher

/-- A curve as `@noble/curves` has it. `none` stands for a thrown error. -/
structure Secp256k1 where
  /-- The points. -/
  Point : Type
  /-- The order of the group. -/
  order : ℕ
  /-- `Point.BASE`. -/
  base : Point
  /-- `add`. -/
  add : Point → Point → Point
  /-- `negate`. -/
  negate : Point → Point
  /-- `multiply`, by a number from 1 to below the order. -/
  multiply : Point → { n : ℕ // 0 < n ∧ n < order } → Point
  /-- `Point.fromHex`. -/
  fromHex : String → Option Point
  /-- `toHex`, compressed or not. It throws for the point at infinity. -/
  toHex : Point → Bool → Option String

/-- A URL as `new URL` parses it. -/
structure Url where
  protocol : String
  username : String
  password : String
  host : String
  origin : String
  pathname : String
  search : String
  hash : String

/-- What the voucher code takes from its platform and its libraries. -/
structure VoucherPlatform where
  /-- `JSON.parse`. -/
  jsonParse : String → Option Json
  /-- `Number`, of a string. -/
  toNumber : String → JsNumber
  /-- `String`, of a number. -/
  numberToString : JsNumber → String
  /-- `toLowerCase`. -/
  toLowerCase : String → String
  /-- `new URL`. -/
  parseUrl : String → Option Url
  /-- SHA-256. -/
  sha256 : List UInt8 → List UInt8
  /-- `schnorr.verify`, of a signature, a message and a key. `none` is a thrown error. -/
  schnorrVerify : List UInt8 → List UInt8 → List UInt8 → Option Bool
  /-- secp256k1. -/
  curve : Secp256k1

/-- A scalar of the curve. -/
abbrev Secp256k1.Scalar (C : Secp256k1) : Type := { n : ℕ // 0 < n ∧ n < C.order }

/-- `new TextEncoder().encode`. -/
def textEncode (s : String) : List UInt8 := s.toUTF8.data.toList

/-- A digit of `[0-9a-f]`. -/
def isHexDigit (c : Char) : Bool := ('0' ≤ c && c ≤ '9') || ('a' ≤ c && c ≤ 'f')

/-- `/^[0-9a-f]{n}$/`. -/
def isHex (n : ℕ) (s : String) : Bool := s.toList.length == n && s.toList.all isHexDigit

/-- The value of a hexadecimal digit. -/
def hexDigitValue (c : Char) : ℕ :=
  if c ≤ '9' then c.toNat - '0'.toNat
  else if c ≤ 'F' then c.toNat - 'A'.toNat + 10
  else c.toNat - 'a'.toNat + 10

/-- The number that hexadecimal digits denote, the first one counting most. -/
def hexValue (s : String) : ℕ := s.toList.foldl (fun n c => 16 * n + hexDigitValue c) 0

/-- `hexToBytes`, of digits in pairs. -/
def hexToBytes (s : String) : List UInt8 :=
  let rec pairs : List Char → List UInt8
    | c :: d :: rest => UInt8.ofNat (16 * hexDigitValue c + hexDigitValue d) :: pairs rest
    | _ => []
  pairs s.toList

variable (P : VoucherPlatform)

/-- `value.trim().toLowerCase()`. -/
def normalized (value : String) : String := P.toLowerCase (JsString.trim value)

/-- `parseScalar`: zero and what is not below the order are refused. -/
def parseScalar (value : String) : Option P.curve.Scalar :=
  if isHex 64 (normalized P value) then
    let scalar := hexValue (normalized P value)
    if h : 0 < scalar ∧ scalar < P.curve.order then some ⟨scalar, h⟩ else none
  else none

/-- `parsePoint`. -/
def parsePoint (value : String) : Option P.curve.Point := P.curve.fromHex (normalized P value)

/-! ## The point of a secret -/

/-- `DOMAIN_SEPARATOR`. -/
def domainSeparator : List UInt8 := textEncode "Secp256k1_HashToCurve_Cashu_"

/-- A counter as four bytes, the lowest first. -/
def counterBytes (counter : ℕ) : List UInt8 :=
  [UInt8.ofNat counter, UInt8.ofNat (counter / 256), UInt8.ofNat (counter / 65536),
    UInt8.ofNat (counter / 16777216)]

/-- The loop of `hashToCurve`: the first of the next counters that gives a point. -/
def hashToCurveFrom (messageHash : List UInt8) : ℕ → ℕ → Option P.curve.Point
  | _, 0 => none
  | counter, left + 1 =>
    let candidate := 0x02 :: P.sha256 (messageHash ++ counterBytes counter)
    match P.curve.fromHex (Codec.bytesToHex candidate) with
    | some point => some point
    | none => hashToCurveFrom messageHash (counter + 1) left

/-- `hashToCurve`. It throws when no counter gives a point. -/
def hashToCurve (secret : List UInt8) : Option P.curve.Point :=
  hashToCurveFrom P (P.sha256 (domainSeparator ++ secret)) 0 0x01000000

/-- `proofY`: the point that a state check is keyed on, as text. -/
def proofY (secret : String) : Option String := do
  let point ← hashToCurve P (textEncode secret)
  P.curve.toHex point true

/-! ## The proof -/

/-- `hashE`: the hash of the texts of the points, uncompressed. -/
def hashE (points : List P.curve.Point) : Option (List UInt8) := do
  let texts ← points.mapM fun point => P.curve.toHex point false
  return P.sha256 (textEncode (String.join texts))

/-- `verifyDleq`. -/
def verifyDleq (A B_ C_ : String) (dleq : Dleq) : Bool :=
  let C := P.curve
  match parsePoint P A, parsePoint P B_, parsePoint P C_, parseScalar P dleq.e,
      parseScalar P dleq.s with
  | some A, some B_, some C_, some e, some s =>
    let R1 := C.add (C.multiply C.base s) (C.negate (C.multiply A e))
    let R2 := C.add (C.multiply B_ s) (C.negate (C.multiply C_ e))
    match hashE P [R1, R2, A, C_] with
    | some expected => Codec.bytesToHex expected == normalized P dleq.e
    | none => false
  | _, _, _, _, _ => false

/-- `verifyProofDleq`: what the mint saw is computed from the blinding factor. -/
def verifyProofDleq (A secret C : String) (dleq : Dleq) : Bool :=
  match parsePoint P A, parsePoint P C, parseScalar P dleq.r with
  | some A, some C, some r =>
    if secret = "" then false
    else
      let verified : Option Bool := do
        let Y ← hashToCurve P (textEncode secret)
        let C_ := P.curve.add C (P.curve.multiply A r)
        let B_ := P.curve.add Y (P.curve.multiply P.curve.base r)
        return verifyDleq P (← P.curve.toHex A true) (← P.curve.toHex B_ true)
          (← P.curve.toHex C_ true) dleq
      verified.getD false
  | _, _, _ => false

end NapAuth.Voucher

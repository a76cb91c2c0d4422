import Mathlib.Data.Nat.Bitwise
import NapAuth.Server.Program

/-!
# Comparing tokens

Access tokens are looked up; refresh tokens and step-up tokens are compared, with
`constantTimeEquals`. It collects the differences of all bytes before it looks at what it has
collected, and it is equality all the same.

The server's functions compare with `constantTimeEquals` on natural numbers. JavaScript computes `^`
and `|` on integers of 32 bits, and `constantTimeEqualsInt32` is the function on these. What it
collects is what the other one does, modulo `2^32` (`differenceInt32_eq`). So the two agree on strings
whose bytes an array can hold (`constantTimeEqualsInt32_eq`).
-/

namespace NapAuth

/-! ## On natural numbers -/

/-- Collecting differences finds none when there are none. -/
theorem foldl_or_eq_zero (f : ℕ → ℕ) (l : List ℕ) (d : ℕ) :
    l.foldl (fun difference index => difference ||| f index) d = 0 ↔ d = 0 ∧ ∀ i ∈ l, f i = 0 := by
  induction l generalizing d with
  | nil => simp
  | cons i l ih => simp [ih, Nat.or_eq_zero_iff, and_assoc]

/-- What is collected has no more bits than what it is collected from. -/
theorem foldl_or_lt {f : ℕ → ℕ} {l : List ℕ} {d n : ℕ} (hd : d < 2 ^ n) (hf : ∀ i, f i < 2 ^ n) :
    l.foldl (fun difference index => difference ||| f index) d < 2 ^ n := by
  induction l generalizing d with
  | nil => exact hd
  | cons i l ih => exact ih (Nat.or_lt_two_pow hd (hf i))

/-- Strings with the same bytes are the same. -/
theorem encodeText_injective : Function.Injective encodeText := by
  intro a b h
  have hbytes := List.map_injective_iff.mpr (fun _ _ => UInt8.toNat_inj.mp) h
  exact String.toByteArray_inj.mp (ByteArray.ext (Array.toList_inj.mp hbytes))

/-- A byte has eight bits, also one past the end. -/
theorem encodeText_getD_lt (s : String) (index : ℕ) : (encodeText s).getD index 0 < 2 ^ 8 := by
  rw [List.getD_eq_getElem?_getD, encodeText, List.getElem?_map]
  cases s.toUTF8.data.toList[index]? with
  | none => exact Nat.two_pow_pos 8
  | some byte => exact byte.toNat_lt

/-- `constantTimeEquals` is equality. -/
theorem constantTimeEquals_iff {a b : String} : constantTimeEquals a b = true ↔ a = b := by
  unfold constantTimeEquals
  simp only [beq_iff_eq, foldl_or_eq_zero, Nat.xor_eq_zero_iff, List.mem_range]
  constructor
  · rintro ⟨hlen, hbytes⟩
    refine encodeText_injective (List.ext_getElem hlen fun i hi hi' => ?_)
    simpa [List.getD_eq_getElem?_getD, hi, hi'] using hbytes i hi
  · rintro rfl
    simp

/-! ## On integers of 32 bits -/

/-- `ToInt32`, for a natural number. -/
def toInt32 (n : ℕ) : BitVec 32 := BitVec.ofNat 32 n

/-- The variable `difference` after the loop, when it is an integer of 32 bits. -/
def differenceInt32 (left right : List ℕ) : BitVec 32 :=
  (List.range left.length).foldl
    (fun difference index =>
      difference ||| (toInt32 (left.getD index 0) ^^^ toInt32 (right.getD index 0)))
    (toInt32 left.length ^^^ toInt32 right.length)

/-- `constantTimeEquals`, on integers of 32 bits. -/
def constantTimeEqualsInt32 (a b : String) : Bool :=
  differenceInt32 (encodeText a) (encodeText b) == 0#32

/-- It is the natural number, of which the upper bits are lost. -/
theorem differenceInt32_eq (left right : List ℕ) : differenceInt32 left right =
    toInt32 ((List.range left.length).foldl
      (fun difference index => difference ||| (left.getD index 0 ^^^ right.getD index 0))
      (left.length ^^^ right.length)) := by
  unfold differenceInt32 toInt32
  rw [← BitVec.ofNat_xor]
  refine List.foldl_hom (BitVec.ofNat 32) fun difference index => ?_
  rw [← BitVec.ofNat_xor, BitVec.ofNat_or]

/-- Of a number that has 32 bits, none are lost. -/
theorem toInt32_eq_zero {n : ℕ} (hn : n < 2 ^ 32) : toInt32 n = 0#32 ↔ n = 0 := by
  rw [toInt32, BitVec.toNat_eq, BitVec.toNat_ofNat, Nat.mod_eq_of_lt hn]
  rfl

/-- Lengths of 32 bits lose no difference, and neither do bytes. -/
theorem constantTimeEqualsInt32_eq {a b : String} (ha : (encodeText a).length < 2 ^ 32)
    (hb : (encodeText b).length < 2 ^ 32) :
    constantTimeEqualsInt32 a b = constantTimeEquals a b := by
  have hbits : ∀ index, (encodeText a).getD index 0 ^^^ (encodeText b).getD index 0 < 2 ^ 32 := by
    intro index
    have hbyte := Nat.xor_lt_two_pow (encodeText_getD_lt a index) (encodeText_getD_lt b index)
    exact hbyte.trans (by norm_num)
  have hlt := foldl_or_lt (l := List.range (encodeText a).length) (Nat.xor_lt_two_pow ha hb) hbits
  rw [Bool.eq_iff_iff, constantTimeEqualsInt32, constantTimeEquals, beq_iff_eq, beq_iff_eq,
    differenceInt32_eq, toInt32_eq_zero hlt]

/-- Two strings of any lengths are compared by what they are, and so they are on integers of 32 bits,
when these hold their lengths. -/
theorem constantTimeEquals_correct (a b : String) :
    (constantTimeEquals a b = true ↔ a = b) ∧
      ((encodeText a).length < 2 ^ 32 → (encodeText b).length < 2 ^ 32 →
        (constantTimeEqualsInt32 a b = true ↔ a = b)) := by
  refine ⟨constantTimeEquals_iff, fun ha hb => ?_⟩
  rw [constantTimeEqualsInt32_eq ha hb]
  exact constantTimeEquals_iff

/-- A token, and one that it is the beginning of. -/
theorem constantTimeEquals_correct_longer : constantTimeEqualsInt32 "token" "token-longer" = false := by
  have hne : "token" ≠ "token-longer" := by decide
  have hsame := (constantTimeEquals_correct "token" "token-longer").2 (by decide) (by decide)
  exact Bool.eq_false_iff.mpr fun h => hne (hsame.mp h)

end NapAuth

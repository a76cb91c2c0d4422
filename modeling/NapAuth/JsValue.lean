import Mathlib.Data.List.Lex
import Mathlib.Data.Rat.Floor

/-!
# JavaScript values

The parts of the language that the modelled code rests on: the string methods it calls, numbers as
far as they are compared and rounded, and the values that `JSON.parse` returns. Strings are Lean
strings, read character by character, and `JsString.length` counts UTF-16 units.
-/

namespace JsString

/-- The characters that `trim` removes and that `\s` matches: white space and line terminators. -/
def isSpace (c : Char) : Bool :=
  c.toNat ∈ [9, 10, 11, 12, 13, 32, 160, 5760, 8232, 8233, 8239, 8287, 12288, 65279] ||
    (8192 ≤ c.toNat && c.toNat ≤ 8202)

/-- `trim`, on characters. -/
def trimList (l : List Char) : List Char :=
  ((l.dropWhile isSpace).reverse.dropWhile isSpace).reverse

/-- `s.trim()`. -/
def trim (s : String) : String := String.ofList (trimList s.toList)

/-- `s.startsWith(p)`. -/
def startsWith (s p : String) : Bool := p.toList.isPrefixOf s.toList

/-- `s.endsWith(p)`. -/
def endsWith (s p : String) : Bool := p.toList.isSuffixOf s.toList

/-- `s.slice(n)`. -/
def slice (s : String) (n : ℕ) : String := String.ofList (s.toList.drop n)

/-- `s.includes(c)`, for one character. -/
def includes (s : String) (c : Char) : Bool := s.toList.contains c

/-- `s.length`: a character outside the Basic Multilingual Plane counts twice. -/
def length (s : String) : ℕ := (s.toList.map fun c => if c.toNat < 65536 then 1 else 2).sum

/-- The UTF-16 units of a character. -/
def units (c : Char) : List ℕ :=
  if c.toNat < 65536 then [c.toNat]
  else [55296 + (c.toNat - 65536) / 1024, 56320 + (c.toNat - 65536) % 1024]

/-- `l.sort()`: strings are compared by their UTF-16 units. -/
def sort (l : List String) : List String :=
  l.mergeSort fun a b => decide (a.toList.flatMap units ≤ b.toList.flatMap units)

/-- A string and the characters after it, as a suffix test. -/
theorem endsWith_iff {s p : String} : endsWith s p = true ↔ ∃ l, s.toList = l ++ p.toList := by
  simp only [endsWith, List.isSuffixOf_iff_suffix]
  exact ⟨fun ⟨l, hl⟩ => ⟨l, hl.symm⟩, fun ⟨l, hl⟩ => ⟨l, hl.symm⟩⟩

/-- A text without white space is its own trim. -/
theorem trim_of_not_space {s : String} (h : ∀ c ∈ s.toList, isSpace c = false) : trim s = s := by
  have hdrop : ∀ l : List Char, (∀ c ∈ l, isSpace c = false) → l.dropWhile isSpace = l := by
    intro l hl
    cases l with
    | nil => rfl
    | cons c l => exact List.dropWhile_cons_of_neg (by simp [hl c List.mem_cons_self])
  rw [trim, trimList, hdrop _ h, hdrop _ fun c hc => h c (List.mem_reverse.mp hc),
    List.reverse_reverse, String.ofList_toList]

/-- A text that begins with another one, and what follows it. -/
theorem startsWith_append (p s : String) : startsWith (p ++ s) p = true := by
  rw [startsWith, List.isPrefixOf_iff_prefix, String.toList_append]
  exact List.prefix_append _ _

theorem slice_append (p s : String) : slice (p ++ s) p.toList.length = s := by
  rw [slice, String.toList_append, List.drop_left, String.ofList_toList]

/-- The text of a natural number has digits. -/
theorem isDigit_of_mem_repr {n : ℕ} {c : Char} (h : c ∈ (Nat.repr n).toList) : c.isDigit = true := by
  rw [Nat.toList_repr] at h
  exact Nat.isDigit_of_mem_toDigits (by decide) (by decide) h

/-- The text of a negative integer. -/
theorem toList_repr_negSucc (n : ℕ) :
    (Int.repr (.negSucc n)).toList = '-' :: (Nat.repr (n + 1)).toList := by
  change ("-" ++ Nat.repr (n + 1)).toList = _
  rw [String.toList_append]
  rfl

/-- The text of an integer has digits, and perhaps a sign. -/
theorem mem_repr {k : ℤ} {c : Char} (h : c ∈ (Int.repr k).toList) : c = '-' ∨ c.isDigit = true := by
  cases k with
  | ofNat n => exact Or.inr (isDigit_of_mem_repr h)
  | negSucc n =>
    rw [toList_repr_negSucc] at h
    exact (List.mem_cons.mp h).imp_right isDigit_of_mem_repr

/-- The text of an integer determines it. -/
theorem repr_injective : Function.Injective Int.repr := by
  have hnat : ∀ m n : ℕ, (Nat.repr m).toList = (Nat.repr n).toList → m = n := by
    intro m n h
    rw [Nat.toList_repr, Nat.toList_repr] at h
    rw [← Nat.ofDigitChars_ten_toDigits (n := m), h, Nat.ofDigitChars_ten_toDigits]
  have hsign : ∀ m n : ℕ, (Nat.repr m).toList ≠ '-' :: (Nat.repr (n + 1)).toList := by
    intro m n h
    have hdigit : '-'.isDigit = true := isDigit_of_mem_repr (n := m) (h ▸ List.mem_cons_self)
    cases hdigit
  intro a b h
  have hchars := congrArg String.toList h
  cases a with
  | ofNat m =>
    cases b with
    | ofNat n => rw [hnat m n hchars]
    | negSucc n => exact absurd (hchars.trans (toList_repr_negSucc n)) (hsign m n)
  | negSucc m =>
    rw [toList_repr_negSucc] at hchars
    cases b with
    | ofNat n => exact absurd hchars.symm (hsign n m)
    | negSucc n =>
      rw [toList_repr_negSucc] at hchars
      rw [Nat.succ.inj (hnat _ _ (List.cons.inj hchars).2)]

end JsString

/-- A number: a finite one, or one of the three that are not. Every finite double is a rational. -/
inductive JsNumber where
  /-- A finite number. -/
  | fin (q : ℚ)
  /-- `Infinity`. -/
  | posInf
  /-- `-Infinity`. -/
  | negInf
  /-- `NaN`. -/
  | nan
  deriving DecidableEq

namespace JsNumber

/-- `Number.isFinite(x)`, with the finite value. -/
def finite? : JsNumber → Option ℚ
  | fin q => some q
  | _ => none

/-- An integer as a number. -/
def ofInt (n : ℤ) : JsNumber := fin n

/-- `x < y`. Every comparison with `NaN` is false. -/
def lt : JsNumber → JsNumber → Bool
  | nan, _ => false
  | _, nan => false
  | fin a, fin b => a < b
  | negInf, negInf => false
  | negInf, _ => true
  | _, negInf => false
  | posInf, _ => false
  | _, posInf => true

/-- `Math.abs(n - x)`, for an integer `n`. -/
def absDiff (n : ℤ) : JsNumber → JsNumber
  | fin q => fin |(n : ℚ) - q|
  | nan => nan
  | _ => posInf

/-- `Math.min(x, y)`. -/
def min (x y : JsNumber) : JsNumber :=
  match x, y with
  | nan, _ => nan
  | _, nan => nan
  | x, y => if x.lt y then x else y

/-- `Number.isInteger(x)`, with the integer. -/
def integer? : JsNumber → Option ℤ
  | fin q => if q.den = 1 then some q.num else none
  | _ => none

@[simp] theorem lt_ofInt_fin (n : ℤ) (q : ℚ) : (ofInt n).lt (fin q) = decide ((n : ℚ) < q) := rfl

@[simp] theorem lt_fin_ofInt (q : ℚ) (n : ℤ) : (fin q).lt (ofInt n) = decide (q < (n : ℚ)) := rfl

end JsNumber

/-- A number that `JSON.parse` returns: no JSON text denotes `NaN`, but a large one overflows to an
infinity. -/
def JsonNumber : Type := { n : JsNumber // n ≠ .nan }

instance : DecidableEq JsonNumber := inferInstanceAs (DecidableEq { n : JsNumber // n ≠ .nan })

namespace JsonNumber

/-- An integer as a number. -/
def ofInt (n : ℤ) : JsonNumber := ⟨.fin n, JsNumber.noConfusion⟩

/-- A number of a JSON text that differs from an integer by no more than another one is finite. -/
theorem absDiff_le {n m : ℤ} {x : JsonNumber}
    (h : (JsNumber.ofInt m).lt (JsNumber.absDiff n x.val) = false) :
    ∃ q : ℚ, x.val = .fin q ∧ |(n : ℚ) - q| ≤ m := by
  obtain ⟨v, hv⟩ := x
  cases v with
  | fin q => exact ⟨q, rfl, by simpa [JsNumber.absDiff] using h⟩
  | posInf => simp [JsNumber.absDiff, JsNumber.lt, JsNumber.ofInt] at h
  | negInf => simp [JsNumber.absDiff, JsNumber.lt, JsNumber.ofInt] at h
  | nan => exact absurd rfl hv

end JsonNumber

/-- A value that `JSON.parse` returns. -/
inductive Json where
  /-- `null`. -/
  | null
  /-- A boolean. -/
  | bool (b : Bool)
  /-- A number. -/
  | num (n : JsonNumber)
  /-- A string. -/
  | str (s : String)
  /-- An array. -/
  | arr (l : List Json)
  /-- An object, as its own properties, of which no two have the same name. -/
  | obj (fields : List (String × Json))

namespace Json

/-- `v[key]` for a value that is not `null`, with `none` for `undefined`. Only objects have own
properties under the names that the code asks for. -/
def get? (v : Json) (key : String) : Option Json :=
  match v with
  | obj fields => (fields.find? fun f => f.1 == key).map (·.2)
  | _ => none

/-- The string that a value is, if it is one. -/
def str? : Json → Option String
  | str s => some s
  | _ => none

/-- The number that a value is, if it is one. -/
def num? : Json → Option JsonNumber
  | num n => some n
  | _ => none

/-- The object that a value is, if it is one and not an array. -/
def isObject : Json → Bool
  | obj _ => true
  | _ => false

/-- The array that a value is, if it is one. -/
def arr? : Json → Option (List Json)
  | arr l => some l
  | _ => none

end Json

/-- Whether an optional string is truthy: it is there and is not empty. -/
def truthyString : Option String → Bool
  | some s => s != ""
  | none => false

/-- Whether an optional integer is truthy: it is there and is not zero. -/
def truthyInt : Option ℤ → Bool
  | some n => n != 0
  | none => false

/-- A truthy string is there. -/
theorem truthyString_iff {s : Option String} : truthyString s = true ↔ ∃ t, s = some t ∧ t ≠ "" := by
  cases s with
  | none => simp [truthyString]
  | some t => simp [truthyString]

/-- A truthy integer is there. -/
theorem truthyInt_iff {n : Option ℤ} : truthyInt n = true ↔ ∃ m, n = some m ∧ m ≠ 0 := by
  cases n with
  | none => simp [truthyInt]
  | some m => simp [truthyInt]

/-- `map` with a function that may throw. -/
theorem mapM_eq_ok_iff {A B E : Type} {f : A → Except E B} {xs : List A} {ys : List B} :
    xs.mapM f = .ok ys ↔ xs.map f = ys.map .ok := by
  induction xs generalizing ys with
  | nil =>
    cases ys with
    | nil => simp [pure, Except.pure]
    | cons y ys => simp [pure, Except.pure]
  | cons x xs ih =>
    rw [List.mapM_cons]
    cases hx : f x with
    | error e => cases ys <;> simp [bind, Except.bind, hx]
    | ok y =>
      cases hxs : xs.mapM f with
      | error e =>
        have hno : ∀ zs : List B, xs.map f ≠ zs.map .ok := by
          intro zs hzs
          rw [ih.mpr hzs] at hxs
          cases hxs
        cases ys with
        | nil => simp [bind, Except.bind]
        | cons z zs => simp [bind, Except.bind, hx, hno zs]
      | ok zs =>
        have hzs := ih.mp hxs
        cases ys with
        | nil => simp [bind, Except.bind, pure, Except.pure]
        | cons z zs' =>
          simp only [bind, Except.bind, pure, Except.pure, List.map_cons, List.cons.injEq,
            Except.ok.injEq, hx, hzs]
          constructor
          · rintro ⟨rfl, rfl⟩
            exact ⟨rfl, rfl⟩
          · rintro ⟨hz, hmap⟩
            exact ⟨hz, List.map_injective_iff.mpr (fun _ _ => Except.ok.inj) hmap⟩

/-- What it returns comes from some element. -/
theorem exists_of_mapM_eq_ok {A B E : Type} {f : A → Except E B} {xs : List A} {ys : List B}
    (h : xs.mapM f = .ok ys) {y : B} (hy : y ∈ ys) : ∃ x ∈ xs, f x = .ok y := by
  have hmem : Except.ok y ∈ xs.map f := by
    rw [mapM_eq_ok_iff.mp h]
    exact List.mem_map_of_mem hy
  obtain ⟨x, hx, heq⟩ := List.mem_map.mp hmem
  exact ⟨x, hx, heq⟩

import Mathlib.Data.List.Lex
import Mathlib.Data.List.Sort
import NapAuth.JsValue

/-!
# The order of strings

Strings are compared by their UTF-16 units, of which they are determined (`utf16_injective`). So
`sort` leaves a list in strictly increasing order if it has no duplicates (`sort_strict`), and there
is one such list with given elements (`eq_of_strict`).
-/

namespace JsString

/-- The UTF-16 units of a string. -/
def utf16 (s : String) : List ℕ := s.toList.flatMap units

/-- The first unit of a character, and whether there is another, determine each other. -/
theorem units_append_inj {c c' : Char} {l l' : List ℕ} (h : units c ++ l = units c' ++ l') :
    c = c' ∧ l = l' := by
  have hc : c.toNat < 55296 ∨ 57343 < c.toNat ∧ c.toNat < 1114112 := c.valid
  have hc' : c'.toNat < 55296 ∨ 57343 < c'.toNat ∧ c'.toNat < 1114112 := c'.valid
  unfold units at h
  have hnat : c.toNat = c'.toNat ∧ l = l' := by
    split at h <;> split at h
    · exact ⟨(List.cons.inj h).1, (List.cons.inj h).2⟩
    · -- A unit of a pair is no character.
      have hfirst := (List.cons.inj h).1
      omega
    · have hfirst := (List.cons.inj h).1
      omega
    · obtain ⟨hfirst, hrest⟩ := List.cons.inj h
      obtain ⟨hsecond, hrest⟩ := List.cons.inj hrest
      exact ⟨by omega, hrest⟩
  exact ⟨Char.toNat_inj.mp hnat.1, hnat.2⟩

/-- The units of a character are some. -/
theorem units_ne_nil (c : Char) : units c ≠ [] := by
  unfold units
  split <;> exact List.cons_ne_nil _ _

/-- A string is determined by its units. -/
theorem utf16_injective : Function.Injective utf16 := by
  have hlist : ∀ l l' : List Char, l.flatMap units = l'.flatMap units → l = l' := by
    intro l
    induction l with
    | nil =>
      intro l' h
      cases l' with
      | nil => rfl
      | cons c' l' => exact absurd (List.append_eq_nil_iff.mp h.symm).1 (units_ne_nil c')
    | cons c l ih =>
      intro l' h
      cases l' with
      | nil => exact absurd (List.append_eq_nil_iff.mp h).1 (units_ne_nil c)
      | cons c' l' =>
        obtain ⟨rfl, hrest⟩ := units_append_inj h
        rw [ih l' hrest]
  exact fun s s' h => String.toList_inj.mp (hlist _ _ h)

/-- `sort` keeps the elements. -/
theorem sort_perm (l : List String) : (sort l).Perm l := List.mergeSort_perm l _

/-- `sort` puts them in order. -/
theorem sort_pairwise (l : List String) : (sort l).Pairwise fun a b => utf16 a ≤ utf16 b := by
  have hsorted : (sort l).Pairwise fun a b => decide (utf16 a ≤ utf16 b) = true :=
    List.pairwise_mergeSort (fun a b c hab hbc => by
      rw [decide_eq_true_eq] at hab hbc ⊢
      exact hab.trans hbc) (fun a b => by
      rw [Bool.or_eq_true, decide_eq_true_eq, decide_eq_true_eq]
      exact le_total _ _) l
  exact hsorted.imp fun h => of_decide_eq_true h

/-- Without duplicates the order is strict. -/
theorem sort_strict {l : List String} (h : l.Nodup) :
    (sort l).Pairwise fun a b => utf16 a < utf16 b := by
  have hnodup : (sort l).Nodup := (sort_perm l).nodup_iff.mpr h
  exact (sort_pairwise l).imp₂ (fun a b hle hne => lt_of_le_of_ne hle fun heq => hne (utf16_injective heq))
    hnodup

/-- Two lists in strict order that have the same elements are the same. -/
theorem eq_of_strict {l l' : List String} (h : l.Pairwise fun a b => utf16 a < utf16 b)
    (h' : l'.Pairwise fun a b => utf16 a < utf16 b) (hmem : ∀ s, s ∈ l ↔ s ∈ l') : l = l' := by
  have hnodup : ∀ {m : List String}, m.Pairwise (fun a b => utf16 a < utf16 b) → m.Nodup :=
    fun hm => hm.imp fun hlt heq => absurd (congrArg utf16 heq) hlt.ne
  have hperm : l.Perm l' := (List.perm_ext_iff_of_nodup (hnodup h) (hnodup h')).mpr hmem
  exact hperm.eq_of_pairwise (fun a b _ _ hab hba => absurd hab (lt_asymm hba)) h h'

end JsString

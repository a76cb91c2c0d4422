import Mathlib.Data.List.Nodup
import Mathlib.Data.List.Pairwise
import Mathlib.Data.List.Perm.Subperm
import Mathlib.Data.Set.Card

/-!
# Tables of rows

A table of a database is a list of rows, and a statement reads or changes it in one step. `SELECT`
with a condition that at most one row meets is `find?`, `UPDATE` is `updateWhere`, and an `INSERT`
appends. The lemmas say what a `SELECT` by a key sees after an `UPDATE` or an `INSERT`.
-/

namespace SqlTable

variable {ρ κ : Type} [DecidableEq κ]

/-- `UPDATE .. SET f WHERE p`. -/
def updateWhere (p : ρ → Bool) (f : ρ → ρ) (rows : List ρ) : List ρ :=
  rows.map fun r => if p r then f r else r

/-- Where at most one row meets a condition, the row that is found is the row that meets it. -/
theorem find?_eq_some_iff {q : ρ → Bool} {rows : List ρ} {r : ρ}
    (hunique : ∀ a ∈ rows, ∀ b ∈ rows, q a = true → q b = true → a = b) :
    rows.find? q = some r ↔ r ∈ rows ∧ q r = true := by
  constructor
  · exact fun h => ⟨List.mem_of_find?_eq_some h, List.find?_some h⟩
  · rintro ⟨hmem, hq⟩
    cases hfind : rows.find? q with
    | none => exact absurd hq (List.find?_eq_none.mp hfind r hmem)
    | some r' =>
      rw [hunique r' (List.mem_of_find?_eq_some hfind) r hmem (List.find?_some hfind) hq]

/-- An update that keeps the key of every row changes the row under each key. -/
theorem find?_updateWhere {key : ρ → κ} {p : ρ → Bool} {f : ρ → ρ} (hkey : ∀ r, key (f r) = key r)
    (rows : List ρ) (k : κ) : (updateWhere p f rows).find? (fun r => key r = k) =
      (rows.find? fun r => key r = k).map fun r => if p r then f r else r := by
  unfold updateWhere
  rw [List.find?_map]
  congr 2
  funext r
  simp only [Function.comp_apply]
  split <;> simp [hkey]

/-- A row that is appended is found under its key, if no other row has the key. -/
theorem find?_append_singleton (key : ρ → κ) {rows : List ρ} (row : ρ)
    (hnone : rows.find? (fun r => key r = key row) = none) (k : κ) :
    (rows ++ [row]).find? (fun r => key r = k) =
      if k = key row then some row else rows.find? fun r => key r = k := by
  rw [List.find?_append]
  split
  · rename_i hk
    rw [hk, hnone]
    simp
  · rename_i hk
    rw [List.find?_singleton, if_neg (by simpa using Ne.symm hk), Option.or_none]

/-- Where no two rows meet a condition, as many rows meet it as are found. -/
theorem countP_eq_one_iff {q : ρ → Bool} {rows : List ρ}
    (hunique : rows.Pairwise fun a b => ¬ (q a = true ∧ q b = true)) :
    rows.countP q = 1 ↔ ∃ r ∈ rows, q r = true := by
  induction rows with
  | nil => simp
  | cons a rows ih =>
    rw [List.pairwise_cons] at hunique
    by_cases ha : q a = true
    · have hrest : rows.countP q = 0 :=
        List.countP_eq_zero.mpr fun b hb hqb => hunique.1 b hb ⟨ha, hqb⟩
      simp [ha, hrest]
    · simp [ha, ih hunique.2]

/-- Lists without duplicates that have the same members count the same. -/
theorem countP_eq_of_mem_iff {rows rows' : List ρ} (h : rows.Nodup) (h' : rows'.Nodup)
    (hmem : ∀ r, r ∈ rows ↔ r ∈ rows') (q : ρ → Bool) : rows.countP q = rows'.countP q :=
  ((List.perm_ext_iff_of_nodup h h').mpr hmem).countP_eq q

/-- Where the keys of rows differ, as many keys as rows belong to rows that meet a condition. -/
theorem encard_keys {key : ρ → κ} {rows : List ρ} (hkeys : (rows.map key).Nodup) (q : ρ → Bool) :
    {k | ∃ r ∈ rows, key r = k ∧ q r = true}.encard = rows.countP q := by
  have hset : {k | ∃ r ∈ rows, key r = k ∧ q r = true} =
      (((rows.filter q).map key).toFinset : Set κ) := by
    ext k
    simp only [Set.mem_ofPred_eq, List.coe_toFinset, List.mem_map, List.mem_filter]
    exact ⟨fun ⟨r, hr, hk, hq⟩ => ⟨r, ⟨hr, hq⟩, hk⟩, fun ⟨r, ⟨hr, hq⟩, hk⟩ => ⟨r, hr, hk, hq⟩⟩
  have hnodup : ((rows.filter q).map key).Nodup := hkeys.sublist (List.filter_sublist.map key)
  rw [hset, Set.encard_coe_eq_coe_finsetCard, List.toFinset_card_of_nodup hnodup, List.length_map,
    List.countP_eq_length_filter]

/-- A weaker condition that one more row meets counts more. -/
theorem countP_lt_countP {p q : ρ → Bool} {rows : List ρ} {r : ρ} (himp : ∀ r, p r = true → q r = true)
    (hr : r ∈ rows) (hp : p r = false) (hq : q r = true) : rows.countP p < rows.countP q := by
  obtain ⟨before, after, rfl⟩ := List.append_of_mem hr
  have hbefore : before.countP p ≤ before.countP q := List.countP_mono_left fun r _ => himp r
  have hafter : after.countP p ≤ after.countP q := List.countP_mono_left fun r _ => himp r
  simp only [List.countP_append, List.countP_cons, hp, hq, if_true, Bool.false_eq_true, if_false]
  omega

end SqlTable

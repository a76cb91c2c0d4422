import Mathlib.Data.List.AList

/-!
# JavaScript maps

A `Map` with string keys, as an association list without duplicate keys. `get`, `set` and `delete`
are Mathlib's `lookup`, `insert` and `erase`. This file adds the two loops that programs run over
a map: one that deletes entries, and one that updates values in place. The order of iteration is not
part of the model, so it serves programs whose results do not depend on it.
-/

/-- A `Map` with string keys. -/
abbrev JsMap (β : Type) : Type := AList fun _ : String => β

namespace JsMap

variable {β : Type}

/-- Delete every entry that `p` does not keep. -/
def keep (p : β → Bool) (m : JsMap β) : JsMap β :=
  ⟨m.entries.filter fun e => p e.2, m.nodupKeys.sublist List.filter_sublist⟩

/-- Update every value by `f`. -/
def mapValues (f : β → β) (m : JsMap β) : JsMap β :=
  ⟨m.entries.map fun e => ⟨e.1, f e.2⟩, by
    have h : (m.entries.map fun e => (⟨e.1, f e.2⟩ : Sigma fun _ : String => β)).keys =
        m.entries.keys := by
      simp [List.keys, Function.comp_def]
    rw [List.NodupKeys, h]
    exact m.nodupKeys⟩

/-- The values of a map. -/
def values (m : JsMap β) : List β := m.entries.map (·.2)

/-- What is found under a key is an entry, and conversely. -/
theorem lookup_eq_some {m : JsMap β} {k : String} {b : β} :
    m.lookup k = some b ↔ ⟨k, b⟩ ∈ m.entries := AList.mem_lookup_iff

@[simp] theorem lookup_keep (p : β → Bool) (m : JsMap β) (k : String) :
    (m.keep p).lookup k = (m.lookup k).filter p := by
  refine Option.ext fun b => ?_
  rw [lookup_eq_some, Option.filter_eq_some_iff, lookup_eq_some]
  simp [keep]

@[simp] theorem lookup_mapValues (f : β → β) (m : JsMap β) (k : String) :
    (m.mapValues f).lookup k = (m.lookup k).map f := by
  refine Option.ext fun b => ?_
  rw [lookup_eq_some, Option.map_eq_some_iff]
  simp only [lookup_eq_some, mapValues, List.mem_map, Sigma.mk.injEq, heq_eq_eq]
  constructor
  · rintro ⟨e, he, rfl, rfl⟩
    exact ⟨e.2, he, rfl⟩
  · rintro ⟨a, ha, rfl⟩
    exact ⟨⟨k, a⟩, ha, rfl, rfl⟩

/-- `set` and then `get`. -/
theorem lookup_insert_eq (m : JsMap β) (k k' : String) (b : β) :
    (m.insert k b).lookup k' = if k' = k then some b else m.lookup k' := by
  split
  · rename_i h
    rw [h, AList.lookup_insert]
  · rename_i h
    rw [AList.lookup_insert_ne h]

/-- `delete` and then `get`. -/
theorem lookup_erase_eq (m : JsMap β) (k k' : String) :
    (m.erase k).lookup k' = if k' = k then none else m.lookup k' := by
  split
  · rename_i h
    rw [h, AList.lookup_erase]
  · rename_i h
    rw [AList.lookup_erase_ne h]

/-- The values that are kept. -/
theorem values_keep (p : β → Bool) (m : JsMap β) : (m.keep p).values = m.values.filter p := by
  unfold values keep
  rw [List.filter_map]
  rfl

/-- A value under a new key comes first. -/
theorem values_insert {m : JsMap β} {k : String} (hnew : m.lookup k = none) (b : β) :
    values (m.insert k b) = b :: m.values := by
  unfold values
  rw [AList.entries_insert_of_notMem (AList.lookup_eq_none.mp hnew)]
  rfl

end JsMap

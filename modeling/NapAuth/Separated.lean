import Mathlib.Data.List.Basic

/-!
# Lists with separators

What a separator divides a list into: the part before the first separator (`eq_of_separator`) and the
part after the last one (`right_eq_of_separator`) are determined.

Items that are joined by a separator can be recovered when each can be told from what follows it
(`intercalate_injective`). That is so for items without the separator (`delimited_of_notMem`), but the
separator may also occur in items whose ends are told in another way.
-/

namespace Separated

variable {A : Type} {sep : A} {l l' r r' : List A}

/-- What precedes and what follows the first separator is determined. -/
theorem eq_of_separator (hl : sep ∉ l) (hl' : sep ∉ l') (h : l ++ sep :: r = l' ++ sep :: r') :
    l = l' ∧ r = r' := by
  classical
  have hsplit := congrArg (List.splitOn sep) h
  simp only [List.splitOn_append_cons_self_of_not_mem hl,
    List.splitOn_append_cons_self_of_not_mem hl'] at hsplit
  obtain ⟨hleft, hright⟩ := List.cons.inj hsplit
  refine ⟨hleft, ?_⟩
  calc
    r = List.intercalate [sep] (r.splitOn sep) := (List.intercalate_splitOn sep).symm
    _ = List.intercalate [sep] (r'.splitOn sep) := by rw [hright]
    _ = r' := List.intercalate_splitOn sep

/-- What follows the last separator is determined. -/
theorem right_eq_of_separator (hr : sep ∉ r) (hr' : sep ∉ r') (h : l ++ sep :: r = l' ++ sep :: r') :
    r = r' := by
  have hsuffix : ∀ {a s s' : List A}, sep ∉ s → sep :: s = a ++ sep :: s' → s = s' := by
    intro a s s' hs h
    cases a with
    | nil => exact (List.cons.inj h).2
    | cons x a =>
      refine absurd ?_ hs
      rw [(List.cons.inj h).2]
      exact List.mem_append_right a List.mem_cons_self
  rcases List.append_eq_append_iff.mp h with ⟨a, -, heq⟩ | ⟨a, -, heq⟩
  · exact hsuffix hr heq
  · exact (hsuffix hr' heq).symm

/-- The items after the first one, each with the separator before it. -/
def rest (sep : A) (items : List (List A)) : List A := items.flatMap (sep :: ·)

@[simp] theorem rest_nil : rest sep [] = [] := rfl

@[simp] theorem rest_cons (a : List A) (items : List (List A)) :
    rest sep (a :: items) = sep :: (a ++ rest sep items) := rfl

/-- Some items, joined. -/
theorem intercalate_cons (a : List A) (items : List (List A)) :
    List.intercalate [sep] (a :: items) = a ++ rest sep items := by
  induction items generalizing a with
  | nil => rw [List.intercalate_singleton, rest_nil, List.append_nil]
  | cons b items ih =>
    rw [List.intercalate_cons_cons, ih, rest_cons, List.append_assoc, List.singleton_append]

/-- What is in joined items is a separator, or is in one of them. -/
theorem mem_intercalate {items : List (List A)} {x : A} (h : x ∈ List.intercalate [sep] items) :
    x = sep ∨ ∃ a ∈ items, x ∈ a := by
  cases items with
  | nil => cases h
  | cons a items =>
    rw [intercalate_cons, List.mem_append] at h
    rcases h with h | h
    · exact Or.inr ⟨a, List.mem_cons_self, h⟩
    · obtain ⟨b, hb, hx⟩ := List.mem_flatMap.mp h
      rcases List.mem_cons.mp hx with rfl | hx
      · exact Or.inl rfl
      · exact Or.inr ⟨b, List.mem_cons_of_mem _ hb, hx⟩

/-- Items of a kind can be told from what follows them, where items of the kind are joined. -/
def Delimited (sep : A) (P : List A → Prop) : Prop :=
  ∀ ⦃a a' : List A⦄ ⦃items items' : List (List A)⦄, P a → P a' → (∀ b ∈ items, P b) →
    (∀ b ∈ items', P b) → a ++ rest sep items = a' ++ rest sep items' → a = a'

variable {P : List A → Prop} {items items' : List (List A)}

/-- What follows the first item is determined. -/
theorem rest_injective (hP : Delimited sep P) (h : ∀ a ∈ items, P a) (h' : ∀ a ∈ items', P a)
    (heq : rest sep items = rest sep items') : items = items' := by
  induction items generalizing items' with
  | nil =>
    cases items' with
    | nil => rfl
    | cons a' items' => exact absurd heq.symm (List.cons_ne_nil _ _)
  | cons a items ih =>
    cases items' with
    | nil => exact absurd heq (List.cons_ne_nil _ _)
    | cons a' items' =>
      obtain ⟨ha, hitems⟩ := List.forall_mem_cons.mp h
      obtain ⟨ha', hitems'⟩ := List.forall_mem_cons.mp h'
      have htail := (List.cons.inj heq).2
      obtain rfl := hP ha ha' hitems hitems' htail
      rw [ih hitems hitems' (List.append_cancel_left htail)]

/-- Joined items are determined, if none is empty. -/
theorem intercalate_injective (hP : Delimited sep P) (hne : ∀ a, P a → a ≠ [])
    (h : ∀ a ∈ items, P a) (h' : ∀ a ∈ items', P a)
    (heq : List.intercalate [sep] items = List.intercalate [sep] items') : items = items' := by
  have hnil : ∀ {a : List A} {items : List (List A)}, P a →
      List.intercalate [sep] [] ≠ List.intercalate [sep] (a :: items) := by
    intro a items ha heq
    rw [intercalate_cons, List.intercalate_nil] at heq
    exact hne a ha (List.append_eq_nil_iff.mp heq.symm).1
  cases items with
  | nil =>
    cases items' with
    | nil => rfl
    | cons a' items' => exact absurd heq (hnil (h' a' List.mem_cons_self))
  | cons a items =>
    cases items' with
    | nil => exact absurd heq.symm (hnil (h a List.mem_cons_self))
    | cons a' items' =>
      refine rest_injective hP h h' ?_
      rw [intercalate_cons, intercalate_cons] at heq
      rw [rest_cons, rest_cons, heq]

/-- Items without the separator can be told from what follows them. -/
theorem delimited_of_notMem : Delimited sep fun a => sep ∉ a := by
  intro a a' items items' ha ha' hitems hitems' heq
  cases items with
  | nil =>
    cases items' with
    | nil => rwa [rest_nil, List.append_nil, List.append_nil] at heq
    | cons b' items' =>
      rw [rest_nil, List.append_nil, rest_cons] at heq
      exact absurd (heq ▸ List.mem_append_right a' List.mem_cons_self) ha
  | cons b items =>
    cases items' with
    | nil =>
      rw [rest_nil, List.append_nil, rest_cons] at heq
      exact absurd (heq ▸ List.mem_append_right a List.mem_cons_self) ha'
    | cons b' items' => exact (eq_of_separator ha ha' heq).1

end Separated

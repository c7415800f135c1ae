/-
# `Proofs.Constraint.Elements` — laws of the constraints on elements

A list is unique if each of its elements is none of those before it.  That no two places of it hold
the same element (`unique_iff`) is more: which of two elements stands first counts for nothing, since
counting as one element is symmetric.  The other constraints ask of each of their values whether it
is an element, and an element is one at whatever place it stands.  So all three are told from the
elements alone and not from their order, and they follow the laws of a set of elements:
`element_laws` lists them.
-/
import FieldRules.Constraint.List
import FieldRules.Proofs.Json.Sameness

namespace FieldRules.ListConstraint

open Json (Value)

theorem holds_perm {items other : List Value} (h : items.Perm other) (v : Value) :
    holds items v = holds other v := by
  rw [Bool.eq_iff_iff, holds, holds, List.any_eq_true, List.any_eq_true]
  simp only [h.mem_iff]

theorem distinctFrom_append (seen xs ys : List Value) :
    distinctFrom seen (xs ++ ys)
      = (distinctFrom seen xs && distinctFrom (xs.reverse ++ seen) ys) := by
  induction xs generalizing seen with
  | nil => rfl
  | cons x xs ih =>
      rw [List.cons_append, distinctFrom, distinctFrom, ih, Bool.and_assoc, List.reverse_cons,
        List.append_assoc]
      rfl

/-- The induction is on the list, for whatever has been seen before it. -/
theorem distinctFrom_iff (seen items : List Value) :
    distinctFrom seen items = true ↔
      items.Pairwise (fun a b => a.same b = false) ∧ ∀ v ∈ items, holds seen v = false := by
  induction items generalizing seen with
  | nil => exact iff_of_true rfl ⟨List.Pairwise.nil, fun _ h => absurd h List.not_mem_nil⟩
  | cons v items ih =>
      have hseen : (∀ w ∈ items, holds (v :: seen) w = false) ↔
          (∀ w ∈ items, v.same w = false) ∧ ∀ w ∈ items, holds seen w = false := by
        simp only [holds, List.any_cons, Bool.or_eq_false_iff]
        exact forall₂_and
      rw [distinctFrom, Bool.and_eq_true, Bool.not_eq_true', ih (v :: seen), hseen,
        List.pairwise_cons, List.forall_mem_cons]
      tauto

theorem unique_iff_pairwise (items : List Value) :
    test items .unique = true ↔ items.Pairwise fun a b => a.same b = false :=
  (distinctFrom_iff [] items).trans (and_iff_left fun _ _ => rfl)

theorem same_eq_false_symm {a b : Value} (h : a.same b = false) : b.same a = false := by
  rw [← Bool.not_eq_true] at h ⊢
  exact fun hsame => h (Value.same_equivalence.symm hsame)

/-- A list is unique if no two of its places hold the same element. -/
theorem unique_iff (items : List Value) :
    test items .unique = true ↔
      ∀ i j, ∀ (hi : i < items.length) (hj : j < items.length), i ≠ j →
        items[i].same items[j] = false := by
  rw [unique_iff_pairwise, List.pairwise_iff_getElem]
  constructor
  · intro h i j hi hj hne
    rcases Nat.lt_or_gt_of_ne hne with hlt | hgt
    · exact h i j hi hj hlt
    · exact same_eq_false_symm (h j i hj hi hgt)
  · exact fun h i j hi hj hlt => h i j hi hj (Nat.ne_of_lt hlt)

theorem unique_perm {items other : List Value} (h : items.Perm other) :
    test items .unique = test other .unique := by
  rw [Bool.eq_iff_iff, unique_iff_pairwise, unique_iff_pairwise]
  exact h.pairwise_iff same_eq_false_symm

/-- A list with one more element is unique if it was unique without it and does not include it. -/
theorem unique_append_singleton (items : List Value) (x : Value) :
    test (items ++ [x]) .unique = (test items .unique && !test items (.includes [x])) := by
  have hseen : holds (items.reverse ++ []) x = holds items x := by
    rw [List.append_nil, holds_perm (List.reverse_perm items)]
  rw [test, test, test, distinctFrom_append, List.all_cons, List.all_nil, Bool.and_true,
    distinctFrom, distinctFrom, hseen, Bool.and_true]

/-- Counting as one element is an equivalence.  A list is unique if no two of its places hold the
same element; the order of the elements does not matter for that, nor for which values are included
or excluded.  Values are included together if each part of them is, and excluded likewise; one value
is excluded if it is not included; and one more element leaves a list unique if the list does not
include it. -/
theorem element_laws :
    (Equivalence fun a b : Value => a.same b = true) ∧
    ∀ items : List Value,
      (test items .unique = true ↔
        ∀ i j, ∀ (hi : i < items.length) (hj : j < items.length), i ≠ j →
          items[i].same items[j] = false) ∧
      (∀ other, items.Perm other →
        test items .unique = test other .unique ∧
        ∀ vs, test items (.includes vs) = test other (.includes vs) ∧
          test items (.excludes vs) = test other (.excludes vs)) ∧
      (∀ vs ws, test items (.includes (vs ++ ws))
          = (test items (.includes vs) && test items (.includes ws)) ∧
        test items (.excludes (vs ++ ws))
          = (test items (.excludes vs) && test items (.excludes ws))) ∧
      (∀ x, test items (.excludes [x]) = !test items (.includes [x])) ∧
      ∀ x, test (items ++ [x]) .unique = (test items .unique && !test items (.includes [x])) := by
  refine ⟨Value.same_equivalence, fun items => ⟨unique_iff items,
    fun other h => ⟨unique_perm h, fun vs => ?_⟩, fun vs ws => ⟨?_, ?_⟩, fun x => ?_,
    unique_append_singleton items⟩⟩
  · have hholds : holds items = holds other := funext (holds_perm h)
    rw [test, test, test, test, hholds]
    exact ⟨rfl, rfl⟩
  · exact List.all_append
  · rw [test, test, test, List.any_append, Bool.not_or]
  · rw [test, test, List.any_cons, List.any_nil, Bool.or_false, List.all_cons, List.all_nil,
      Bool.and_true]

/-- The integer 1 and the decimal 1.0 count as one element, and as two inside a list. -/
theorem element_laws_of_mixed_numbers :
    let one : Value := .number (.integer 1)
    let decimal : Value := .number (.float 1.0 (by decide))
    let items := [one, .array [one], .array [decimal]]
    items.Perm [.array [decimal], .array [one], one] ∧ one.same decimal = true ∧
      test items .unique = true ∧ test [.array [decimal], .array [one], one] .unique = true ∧
      test (items ++ [decimal]) .unique = false := by
  intro one decimal items
  have hperm : items.Perm [.array [decimal], .array [one], one] := (List.reverse_perm items).symm
  obtain ⟨-, hlaws⟩ := element_laws
  obtain ⟨-, horder, -, -, happend⟩ := hlaws items
  have hunique : test items .unique = true := by decide +kernel
  refine ⟨hperm, by decide +kernel, hunique, ?_, ?_⟩
  · rw [← (horder _ hperm).1, hunique]
  · rw [happend decimal, hunique]
    decide +kernel

end FieldRules.ListConstraint

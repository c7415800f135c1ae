/-
# `Proofs.Constraint.Integers` — integers as elements

Two integers count as one element when the doubles nearest to them are equal.  For integers of 64
bits that is an equality of integers again: `Decimal.roundInt` keeps the 53 leading bits, and two
integers count as one exactly if it maps them to one (`same_value_iff`).  Every constraint on lists
that compares elements, and the list of inputs that are let through, follow that rule, and so each of
them treats integers as equality does unless rounding makes one integer of two
(`integers_told_apart_iff`).

Up to `2 ^ 53` nothing is rounded; above, integers that are next to each other count as one.
-/
import FieldRules.Proofs.Decimal.Rounding
import FieldRules.Proofs.Constraint.Elements
import FieldRules.Group

namespace FieldRules

open Json (Value)

/-- An integer as reading a text gives it, in the signed or the unsigned 64-bit range. -/
def Word : Type := { i : Int // -0x8000000000000000 ≤ i ∧ i ≤ 0xFFFFFFFFFFFFFFFF }

namespace Word

def value (w : Word) : Value := .number (.integer w.val)

def values (ws : List Word) : List Value := ws.map value

/-- The integer that the double nearest to it is. -/
def rounded (w : Word) : Int := Decimal.roundInt w.val

theorem natAbs_lt (w : Word) : w.val.natAbs < 2 ^ 64 := by
  obtain ⟨i, hlow, hhigh⟩ := w
  show i.natAbs < 2 ^ 64
  omega

theorem same_value_iff (a b : Word) : a.value.same b.value = true ↔ a.rounded = b.rounded :=
  Decimal.ofInt_beq_iff a.natAbs_lt b.natAbs_lt

theorem any_values_iff (ws : List Word) (p : Value → Bool) :
    (values ws).any p = true ↔ ∃ w ∈ ws, p w.value = true := by
  rw [values, List.any_map, List.any_eq_true]
  exact Iff.rfl

end Word

namespace ListConstraint

open Word (values value rounded same_value_iff any_values_iff)

theorem holds_values_iff (ws : List Word) (a : Word) :
    holds (values ws) a.value = true ↔ a.rounded ∈ ws.map rounded := by
  rw [holds, any_values_iff, List.mem_map]
  exact exists_congr fun w => and_congr_right fun _ => same_value_iff w a

theorem unique_values_iff (ws : List Word) :
    test (values ws) .unique = true ↔ (ws.map rounded).Nodup := by
  rw [unique_iff_pairwise, values, List.pairwise_map, List.Nodup, List.pairwise_map]
  refine List.Pairwise.iff fun a b => ?_
  rw [← Bool.not_eq_true, same_value_iff]

theorem includes_values_iff (as ws : List Word) :
    test (values ws) (.includes (values as)) = true ↔ ∀ a ∈ as, a.rounded ∈ ws.map rounded := by
  rw [test, values, List.all_map, List.all_eq_true]
  exact forall₂_congr fun a _ => holds_values_iff ws a

theorem excludes_values_iff (as ws : List Word) :
    test (values ws) (.excludes (values as)) = true ↔ ∀ a ∈ as, a.rounded ∉ ws.map rounded := by
  rw [test, Bool.not_eq_true', ← Bool.not_eq_true, any_values_iff]
  simp only [holds_values_iff, not_exists, not_and]

theorem covers_values_iff (as : List Word) (b : Word) :
    (Exemption.listed (values as)).covers b.value = true ↔ b.rounded ∈ as.map rounded := by
  rw [Exemption.covers, any_values_iff, List.mem_map]
  exact exists_congr fun a => and_congr_right fun _ => same_value_iff a b

/-- The constraints and the exemption treat integers as equality does, unless rounding makes one
integer of two and the answer hangs on it. -/
theorem integers_told_apart_iff (as ws : List Word) (b : Word) :
    ((test (values ws) .unique = true ↔ ws.Nodup) ↔
        (ws.Nodup → (ws.map rounded).Nodup)) ∧
      ((test (values ws) (.includes (values as)) = true ↔ ∀ a ∈ as, a ∈ ws) ↔
        ((∀ a ∈ as, a.rounded ∈ ws.map rounded) → ∀ a ∈ as, a ∈ ws)) ∧
      ((test (values ws) (.excludes (values as)) = true ↔ ∀ a ∈ as, a ∉ ws) ↔
        ((∀ a ∈ as, a ∉ ws) → ∀ a ∈ as, a.rounded ∉ ws.map rounded)) ∧
      (((Exemption.listed (values as)).covers b.value = true ↔ b ∈ as) ↔
        (b.rounded ∈ as.map rounded → b ∈ as)) := by
  rw [unique_values_iff, includes_values_iff, excludes_values_iff, covers_values_iff]
  -- what is equal is equal after rounding, so each answer can be wrong in one way only
  have hmem : ∀ {a : Word} {xs : List Word}, a ∈ xs → a.rounded ∈ xs.map rounded :=
    fun h => List.mem_map_of_mem h
  refine ⟨⟨fun h => h.mpr, fun h => ⟨List.Nodup.of_map _, h⟩⟩, ⟨fun h => h.mp, fun h => ⟨h, ?_⟩⟩,
    ⟨fun h => h.mpr, fun h => ⟨?_, h⟩⟩, ⟨fun h => h.mp, fun h => ⟨h, hmem⟩⟩⟩
  · exact fun hall a ha => hmem (hall a ha)
  · exact fun hnone a ha hws => hnone a ha (hmem hws)

/-- Two integers next to each other count as one. -/
theorem neighbours_count_as_one :
    test [.ofNat 9007199254740992, .ofNat 9007199254740993] .unique = false ∧
      test [.ofNat 9007199254740993] (.includes [.ofNat 9007199254740992]) = true ∧
      test [.ofNat 9007199254740993] (.excludes [.ofNat 9007199254740992]) = false ∧
      (Exemption.listed [.ofNat 9007199254740992]).covers (.ofNat 9007199254740993) = true := by
  decide +kernel

end ListConstraint

end FieldRules

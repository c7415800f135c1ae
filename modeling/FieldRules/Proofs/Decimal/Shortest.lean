/-
# `Proofs.Decimal.Shortest` — the shortest decimal reads back

Comparing a decimal with `n * 2 ^ e` in natural numbers is comparing two rationals
(`compareBinary_eq`), so whether a decimal reads back to a double depends on its value alone and not
on how it is scaled (`readsBack_congr`).

The search for the fewest digits only takes decimals that read back, and when it finds none it takes
the magnitude itself, which does as well (`readsBack_exact`).  Taking zeros off the digits changes
nothing about the value, so `readsBack_shortest` holds for every magnitude and either tie.
-/
import FieldRules.Decimal.Shortest
import Mathlib.Algebra.Order.Field.Power
import Mathlib.Algebra.Order.Field.Rat
import Mathlib.Tactic.FieldSimp
import Mathlib.Tactic.GCongr
import Mathlib.Tactic.NormNum
import Mathlib.Tactic.Positivity
import Mathlib.Tactic.Ring

namespace FieldRules.Decimal

/-- The rational number that a decimal is. -/
def Scaled.value (d : Scaled) : ℚ := d.digits * 10 ^ d.exponent

/-! ## Comparing -/

theorem zpow_eq_div {b : ℚ} (hb : b ≠ 0) (e : Int) : b ^ e = b ^ e.toNat / b ^ (-e).toNat := by
  rw [← zpow_natCast, ← zpow_natCast, ← zpow_sub₀ hb, Int.toNat_sub_toNat_neg]

/-- Both sides of the comparison are multiplied by the denominators. -/
theorem compareBinary_eq (d : Scaled) (n : Nat) (e : Int) :
    d.compareBinary n e = compare d.value (n * 2 ^ e) := by
  have hden : (0 : ℚ) < 10 ^ (-d.exponent).toNat * 2 ^ (-e).toNat := by positivity
  have hleft : ((d.digits * 10 ^ d.exponent.toNat * 2 ^ (-e).toNat : Nat) : ℚ)
      = d.value * (10 ^ (-d.exponent).toNat * 2 ^ (-e).toNat) := by
    rw [Scaled.value, zpow_eq_div (by norm_num)]
    push_cast
    field_simp
  have hright : ((n * 2 ^ e.toNat * 10 ^ (-d.exponent).toNat : Nat) : ℚ)
      = n * 2 ^ e * (10 ^ (-d.exponent).toNat * 2 ^ (-e).toNat) := by
    rw [zpow_eq_div (by norm_num)]
    push_cast
    field_simp
  show compare (d.digits * 10 ^ d.exponent.toNat * 2 ^ (-e).toNat)
    (n * 2 ^ e.toNat * 10 ^ (-d.exponent).toNat) = _
  rw [← cmp_eq_compare, ← (Nat.strictMono_cast (α := ℚ)).cmp_map_eq, hleft, hright,
    cmp_mul_pos_right hden, cmp_eq_compare]

theorem readsBack_congr (x : Binary) {d d' : Scaled} (h : d.value = d'.value) :
    x.readsBack d = x.readsBack d' := by
  simp only [Binary.readsBack, compareBinary_eq, h]

/-- What lies between the ends reads back. -/
theorem readsBack_of_lt {x : Binary} {d : Scaled}
    (hlow : (4 * x.significand - 1 : Nat) * 2 ^ (x.exponent - 2) < d.value)
    (hhigh : d.value < (4 * x.significand + 2 : Nat) * 2 ^ (x.exponent - 2)) :
    x.readsBack d = true := by
  have hhigh' : compare d.value ((4 * x.significand + 2 : Nat) * 2 ^ (x.exponent - 2)) = .lt :=
    compare_lt_iff_lt.mpr hhigh
  have hlow' : ∀ low : Nat, low ≤ 4 * x.significand - 1 →
      compare d.value (low * 2 ^ (x.exponent - 2)) = .gt := fun low hle => by
    refine compare_gt_iff_gt.mpr (lt_of_le_of_lt ?_ hlow)
    gcongr
  unfold Binary.readsBack
  simp only [compareBinary_eq, hhigh']
  split
  · rw [hlow' _ le_rfl]
    rfl
  · rw [hlow' _ (by omega)]
    rfl

/-! ## The search -/

theorem value_exact (x : Binary) : x.exact.value = x.significand * 2 ^ x.exponent := by
  unfold Binary.exact Scaled.value
  split
  · next h =>
    have hden : (-x.exponent).toNat = 0 := by omega
    rw [zpow_eq_div (b := 2) (by norm_num), hden]
    simp
  · next h =>
    have hnum : x.exponent.toNat = 0 := by omega
    have hfive : (5 : ℚ) ^ (-x.exponent).toNat * 5 ^ x.exponent = 1 := by
      rw [zpow_eq_div (by norm_num) x.exponent, hnum, pow_zero]
      exact mul_one_div_cancel (by positivity)
    show ((x.significand * 5 ^ (-x.exponent).toNat : Nat) : ℚ) * 10 ^ x.exponent = _
    calc ((x.significand * 5 ^ (-x.exponent).toNat : Nat) : ℚ) * 10 ^ x.exponent
        = x.significand * 2 ^ x.exponent * (5 ^ (-x.exponent).toNat * 5 ^ x.exponent) := by
          rw [show (10 : ℚ) = 2 * 5 by norm_num, mul_zpow]
          push_cast
          ring
      _ = x.significand * 2 ^ x.exponent := by rw [hfive, mul_one]

theorem readsBack_exact {x : Binary} (hx : x.significand ≠ 0) : x.readsBack x.exact = true := by
  have hpow : (0 : ℚ) < 2 ^ (x.exponent - 2) := zpow_pos (by norm_num) _
  have hvalue : x.exact.value = (4 * x.significand : Nat) * 2 ^ (x.exponent - 2) := by
    rw [value_exact, zpow_sub₀ (by norm_num)]
    push_cast
    ring
  refine readsBack_of_lt ?_ ?_ <;> rw [hvalue] <;> gcongr <;> omega

theorem readsBack_candidate {tie : Tie} {x : Binary} {grid : Int} {d : Scaled}
    (h : x.candidate tie grid = some d) : x.readsBack d = true := by
  unfold Binary.candidate at h
  dsimp only at h
  split at h
  · cases h
    assumption
  · cases h
    assumption
  · cases h
  · split at h <;> cases h <;> try assumption
    split <;> assumption

theorem value_strip (d : Scaled) : d.strip.value = d.value := by
  induction d using Scaled.strip.induct with
  | case1 d h ih =>
      have hdigits : ((d.digits / 10 : Nat) : ℚ) * 10 = d.digits := by
        exact_mod_cast Nat.div_mul_cancel (Nat.dvd_of_mod_eq_zero h.2)
      rw [Scaled.strip, dif_pos h, ih, Scaled.value, Scaled.value, zpow_add_one₀ (by norm_num),
        ← hdigits]
      ring
  | case2 d h => rw [Scaled.strip, dif_neg h]

/-- The digits that are written read back. -/
theorem readsBack_shortest (tie : Tie) (x : Binary) : x.readsBack (x.shortest tie) = true := by
  unfold Binary.shortest
  split
  · next h =>
    have hhigh : (0 : ℚ) < (2 : Nat) * 2 ^ (x.exponent - 2) := by positivity
    have hvalue : (⟨0, 0⟩ : Scaled).value = 0 := zero_mul _
    simp only [Binary.readsBack, compareBinary_eq, hvalue, h, Nat.mul_zero, Nat.zero_sub, Nat.zero_add,
      ite_self, Nat.cast_zero, zero_mul, compare_lt_iff_lt.mpr hhigh, compare_eq_iff_eq.mpr]
    rfl
  · next h =>
    rw [readsBack_congr x (value_strip _)]
    cases hsearch : (List.range 17).findSome? fun (n : Nat) =>
      x.candidate tie (x.scale - ((n : Int) + 1)) with
    | none => exact readsBack_exact h
    | some d =>
        obtain ⟨n, -, hd⟩ := List.exists_of_findSome?_eq_some hsearch
        exact readsBack_candidate hd

theorem value_pos_of_readsBack {x : Binary} {d : Scaled} (hx : x.significand ≠ 0)
    (h : x.readsBack d = true) : 0 < d.value := by
  have hlow : ∀ low : Nat, 0 < low → (0 : ℚ) < low * 2 ^ (x.exponent - 2) := fun low hpos => by
    positivity
  simp only [Binary.readsBack, compareBinary_eq, Bool.and_eq_true, Bool.or_eq_true, beq_iff_eq,
    compare_gt_iff_gt, compare_eq_iff_eq] at h
  obtain ⟨hgt | ⟨-, heq⟩, -⟩ := h
  · refine lt_of_le_of_lt (hlow _ ?_).le hgt
    split <;> omega
  · rw [heq]
    refine hlow _ ?_
    split <;> omega

theorem exponent_shortest_eq_zero {tie : Tie} {x : Binary} (h : (x.shortest tie).digits = 0) :
    (x.shortest tie).exponent = 0 := by
  by_cases hx : x.significand = 0
  · rw [Binary.shortest, if_pos hx]
  · have hpos := value_pos_of_readsBack hx (readsBack_shortest tie x)
    rw [Scaled.value, h, Nat.cast_zero, zero_mul] at hpos
    exact absurd hpos (lt_irrefl 0)

end FieldRules.Decimal

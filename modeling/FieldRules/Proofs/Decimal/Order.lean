/-
# `Proofs.Decimal.Order` — the order of doubles

Doubles are compared by their unpacked parts: the sign, then the exponent, then the significand.
Comparing the other way round gives the opposite answer (`compare_swap`), and without NaN there is
always an answer, so a double that is not below another is at least as large (`le_iff_not_lt`).

Natural numbers keep their order when they become doubles, if one of the two is below `2 ^ 53`
(`compare_ofNat`).  Such a number keeps all its digits, and its last bit weighs one or less.  A
larger one may be rounded, or even become the infinity, but the last bit that it keeps weighs two or
more (`coarse_ofNat`), and the exponents decide.
-/
import FieldRules.Proofs.Decimal.Rounding
import FieldRules.Proofs.Decimal.Sign

namespace FieldRules.Decimal

open Float.Model (Format UnpackedFloat)
open Float.Model.UnpackedFloat

/-! ## Comparing -/

theorem compare_finite (s : Sign) {m n : Nat} (e f : Int) (hm : 0 < m) (hn : 0 < n) :
    (finite s m e hm).compare (finite s n f hn)
      = some (match s with
        | .negative => ((compare e f).then (compare m n)).swap
        | .positive => (compare e f).then (compare m n)) := by
  cases s <;> rfl

theorem compare_swap (u v : UnpackedFloat) : v.compare u = (u.compare v).map Ordering.swap := by
  rcases u with (_ | _) | _ | (_ | _) | ⟨_ | _, m, e, hm⟩ <;>
    rcases v with (_ | _) | _ | (_ | _) | ⟨_ | _, n, f, hn⟩ <;> try rfl
  -- what is left are two numbers of one sign
  all_goals
    rw [compare_finite, compare_finite, Option.map_some]
    simp only [Ordering.swap_then, Int.compare_swap, Nat.compare_swap]

theorem exists_compare_eq {u v : UnpackedFloat} (hu : u.isNaN = false) (hv : v.isNaN = false) :
    ∃ o, u.compare v = some o := by
  rcases u with (_ | _) | _ | (_ | _) | ⟨_ | _, m, e, hm⟩ <;>
    rcases v with (_ | _) | _ | (_ | _) | ⟨_ | _, n, f, hn⟩ <;>
    cases hu <;> cases hv <;> exact ⟨_, rfl⟩

theorem unpacked_lt (x y : Float) : x < y ↔ (unpacked x).compare (unpacked y) = some .lt := by
  have hmodel : x < y ↔ (unpacked x).lt (unpacked y) = true := decide_eq_true_iff
  rw [hmodel, UnpackedFloat.lt, beq_iff_eq]

theorem le_iff_not_lt {x y : Float} (hx : x.isNaN = false) (hy : y.isNaN = false) :
    x ≤ y ↔ ¬y < x := by
  have hmodel : x ≤ y ↔ (unpacked x).le (unpacked y) = true := decide_eq_true_iff
  obtain ⟨o, ho⟩ := exists_compare_eq (u := unpacked x) (v := unpacked y) hx hy
  rw [hmodel, unpacked_lt, compare_swap (unpacked x), UnpackedFloat.le, ho]
  cases o <;> decide

theorem Normal.compare_eq {v w : ℚ} {x y : UnpackedFloat} (hx : Normal .positive v x)
    (hy : Normal .positive w y) : x.compare y = some (compare v w) := by
  obtain ⟨m, e, hm, hmleast, hmbits, -, -, rfl⟩ := hx
  obtain ⟨n, f, hn, hnleast, hnbits, -, -, rfl⟩ := hy
  rw [compare_finite]
  rcases Int.lt_trichotomy e f with hlt | rfl | hgt
  · have hless := mul_zpow_lt_of_exponent_lt hmbits hnleast hlt
    rw [Int.compare_eq_lt.mpr hlt, compare_lt_iff_lt.mpr hless]
    rfl
  · have hpos : (0 : ℚ) < 2 ^ e := zpow_pos (by norm_num) e
    have hmono : StrictMono fun k : ℕ => (k : ℚ) * 2 ^ e := fun _ _ h =>
      mul_lt_mul_of_pos_right (Nat.cast_lt.mpr h) hpos
    rw [Int.compare_eq_eq.mpr rfl, Ordering.then, ← cmp_eq_compare, ← cmp_eq_compare]
    exact congrArg some (hmono.cmp_map_eq m n).symm
  · have hless := mul_zpow_lt_of_exponent_lt hnbits hmleast hgt
    rw [Int.compare_eq_gt.mpr hgt, compare_gt_iff_gt.mpr hless]
    rfl

theorem Normal.compare_zero {v : ℚ} {u : UnpackedFloat} (h : Normal .positive v u) (s : Sign) :
    u.compare (.zero s) = some .gt := by
  cases h
  rfl

/-! ## Large integers -/

/-- The last bit that a positive number keeps weighs two or more. -/
inductive Coarse : UnpackedFloat → Prop where
  | finite (m : Nat) (e : Int) (hm : 0 < m) (he : 1 ≤ e) : Coarse (.finite .positive m e hm)
  | infinity : Coarse (.infinity .positive)

theorem unpack_pack_of_high (s : Sign) {m : Nat} {e : Int} (hm : 0 < m) (hhigh : 971 < e) :
    unpack .binary64 (pack .binary64 (.finite s m e hm)) = .infinity s := by
  have hover : 2 ^ 11 ≤ (e + 1023 + 52).toNat + 1 := by omega
  have hpack : pack .binary64 (.finite s m e hm) = packedInfinity .binary64 s := if_pos hover
  rw [hpack]
  cases s <;> rfl

theorem coarse_ofScientific {n : Nat} (hn : 2 ^ 53 ≤ n) :
    Coarse (unpack .binary64 (pack .binary64 (ofScientific .binary64 n 0))) := by
  have hleast : 53 ≤ n.log2 := (Nat.le_log2 (by omega)).mpr hn
  have hfull : (n * 2 ^ 53).log2 = 52 + (n.log2 - 52 + 53) := by
    rw [log2_mul_two_pow (by omega)]
    omega
  obtain ⟨r, f, hr, hrleast, hrbits, hle, -, -, heq⟩ :=
    roundWithAccuracy_eq_finite .positive hfull (e := -53) (by omega)
  rw [ofScientific_eq_roundWithAccuracy (by omega), heq]
  have hf : 1 ≤ f := by omega
  rcases le_or_gt f 971 with hrange | hhigh
  · have hnormal : Normal .positive (r * 2 ^ f) (.finite .positive r f hr) :=
      .intro r f hr hrleast hrbits (by omega) hrange rfl
    rw [hnormal.unpack_pack]
    exact .finite r f hr hf
  · rw [unpack_pack_of_high .positive hr hhigh]
    exact .infinity

theorem coarse_ofNat {n : Nat} (hn : 2 ^ 53 ≤ n) : Coarse (unpacked (Float.ofNat n)) := by
  have hlarge : ¬(n < 2 ^ 53 ∧ 0 ≤ 22) := by omega
  unfold Float.ofNat
  change Coarse (unpacked (Float.ofScientific n false 0))
  unfold Float.ofScientific
  rw [dif_neg hlarge]
  exact coarse_ofScientific hn

theorem Coarse.compare_zero {u : UnpackedFloat} (hu : Coarse u) (s : Sign) :
    u.compare (.zero s) = some .gt := by
  cases hu <;> rfl

/-- Of two numbers whose last bits have different weights these decide. -/
theorem Coarse.compare_normal {u v : UnpackedFloat} {a : Nat} (hu : Coarse u)
    (hv : Normal .positive a v) (ha : a < 2 ^ 53) : u.compare v = some .gt := by
  obtain ⟨n, f, hn, hleast, -, -, -, hvalue⟩ := hv
  cases hu with
  | infinity => rfl
  | finite m e hm he =>
      have hf : f ≤ 0 := exponent_le ha hleast (e := 0) (by rwa [zpow_zero, mul_one])
      rw [compare_finite, Int.compare_eq_gt.mpr (show f < e by omega)]
      rfl

/-! ## Doubles of integers -/

/-- Natural numbers are compared like their doubles, if one of the two is small. -/
theorem compare_ofNat {a : Nat} (ha : a < 2 ^ 53) (n : Nat) :
    (unpacked (Float.ofNat n)).compare (unpacked (Float.ofNat a)) = some (compare n a) := by
  have hzero : unpacked (Float.ofNat 0) = .zero .positive := rfl
  rcases Nat.lt_or_ge n (2 ^ 53) with hn | hn
  · rcases Nat.eq_zero_or_pos n with rfl | hnpos <;> rcases Nat.eq_zero_or_pos a with rfl | hapos
    · rfl
    · rw [Nat.compare_eq_lt.mpr hapos, compare_swap, hzero,
        (normal_ofNat_of_lt hapos ha).compare_zero]
      rfl
    · rw [Nat.compare_eq_gt.mpr hnpos, hzero, (normal_ofNat_of_lt hnpos hn).compare_zero]
    · have hcast : compare (n : ℚ) (a : ℚ) = compare n a := by
        rw [← cmp_eq_compare, ← cmp_eq_compare]
        exact Nat.strictMono_cast.cmp_map_eq n a
      rw [(normal_ofNat_of_lt hnpos hn).compare_eq (normal_ofNat_of_lt hapos ha), hcast]
  · rw [Nat.compare_eq_gt.mpr (by omega)]
    rcases Nat.eq_zero_or_pos a with rfl | hapos
    · rw [hzero, (coarse_ofNat hn).compare_zero]
    · exact (coarse_ofNat hn).compare_normal (normal_ofNat_of_lt hapos ha) ha

theorem ofNat_lt_small_iff {a : Nat} (ha : a < 2 ^ 53) (n : Nat) :
    Float.ofNat n < Float.ofNat a ↔ n < a := by
  rw [unpacked_lt, compare_ofNat ha, Option.some_inj, Nat.compare_eq_lt]

theorem small_lt_ofNat_iff {a : Nat} (ha : a < 2 ^ 53) (n : Nat) :
    Float.ofNat a < Float.ofNat n ↔ a < n := by
  rw [unpacked_lt, compare_swap, compare_ofNat ha, Option.map_some, Nat.compare_swap,
    Option.some_inj, Nat.compare_eq_lt]

end FieldRules.Decimal

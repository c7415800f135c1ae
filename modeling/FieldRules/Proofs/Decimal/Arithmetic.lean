/-
# `Proofs.Decimal.Arithmetic` — natural numbers in the arithmetic of doubles

`Carries v u` says that the unpacked number `u` is the natural number `v` itself, with all its bits, or
the infinity if `v` is beyond the range.  Adding and multiplying doubles that carry natural numbers
gives the one that carries the rounded sum or product (`Carries.add`, `Carries.mul`), and every natural
number becomes the double that carries it rounded (`carries_ofNat`).

All three come down to one lemma about rounding, `carries_round`: it takes a significand of 53 bits or
more, and after packing the rounded number is carried, in the range or beyond it.
-/
import FieldRules.Proofs.Decimal.Leading
import FieldRules.Proofs.Decimal.Order

namespace FieldRules.Decimal

open Float.Model (Format UnpackedFloat totalExponent)
open Float.Model.UnpackedFloat

/-- An unpacked number is a natural number, or the infinity if that number is beyond the range. -/
inductive Carries (v : Nat) : UnpackedFloat → Prop
  | zero (hv : v = 0) : Carries v (.zero .positive)
  | normal {u : UnpackedFloat} (h : Normal .positive v u) : Carries v u
  | infinity (hv : 2 ^ 1024 ≤ v) : Carries v (.infinity .positive)

/-! ## Numbers with all their bits -/

theorem Normal.pos {s : Sign} {v : Nat} {u : UnpackedFloat} (h : Normal s v u) : 0 < v := by
  obtain ⟨m, e, hm, -, -, -, -, hv⟩ := h
  have hpos : (0 : ℚ) < v := by
    rw [hv]
    positivity
  exact_mod_cast hpos

theorem Normal.lt_two_pow {s : Sign} {v : Nat} {u : UnpackedFloat} (h : Normal s v u) :
    v < 2 ^ 1024 := by
  obtain ⟨m, e, hm, -, hbits, -, hhigh, hv⟩ := h
  have hlt := mul_zpow_lt_of_exponent_lt (n := 2 ^ 52) hbits le_rfl (Int.lt_add_one_of_le hhigh)
  have hend : (2 : ℚ) ^ 52 * 2 ^ 972 = 2 ^ 1024 := by rw [← pow_add]
  rw [← hv, Nat.cast_pow, Nat.cast_ofNat, show (971 : Int) + 1 = (972 : Nat) from rfl, zpow_natCast,
    hend] at hlt
  exact_mod_cast hlt

theorem Normal.roundNat_eq {s : Sign} {v : Nat} {u : UnpackedFloat} (h : Normal s v u) :
    roundNat v = v := by
  obtain ⟨m, e, hm, -, hbits, -, -, hv⟩ := h
  have hround := roundNat_of_mul_zpow_eq hv.symm
  rw [roundNat_eq_self hbits.le, ← hv] at hround
  exact_mod_cast hround.symm

/-- What is carried is determined, but for the numbers beyond the range. -/
theorem Carries.eq_or_le {v w : Nat} {u : UnpackedFloat} (hv : Carries v u) (hw : Carries w u) :
    v = w ∨ (2 ^ 1024 ≤ v ∧ 2 ^ 1024 ≤ w) := by
  cases hv with
  | zero hv =>
      cases hw with
      | zero hw => exact .inl (hv.trans hw.symm)
      | normal h => cases h
  | infinity hv =>
      cases hw with
      | normal h => cases h
      | infinity hw => exact .inr ⟨hv, hw⟩
  | normal h =>
      cases hw with
      | zero hw => cases h
      | infinity hw => cases h
      | normal h' => exact .inl (by exact_mod_cast ((h.eq_iff h').mp rfl).2)

theorem Carries.eq_infinity {v : Nat} {u : UnpackedFloat} (h : Carries v u) (hv : 2 ^ 1024 ≤ v) :
    u = .infinity .positive := by
  cases h with
  | zero hzero =>
      have hpos : 0 < v := lt_of_lt_of_le (by positivity) hv
      exact absurd hzero hpos.ne'
  | normal h => exact absurd hv (Nat.not_le.mpr h.lt_two_pow)
  | infinity => rfl

/-! ## Rounding -/

/-- A number that is one or more has no exponent that takes all of its bits behind the point. -/
theorem neg_lt_exponent {m j : Nat} {e : Int} (hbits : m < 2 ^ j) (h : 1 ≤ (m : ℚ) * 2 ^ e) :
    -(j : Int) < e := by
  by_contra hle
  have hpow : (2 : ℚ) ^ e ≤ 2 ^ (-(j : Int)) := zpow_le_zpow_right₀ (by norm_num) (by omega)
  have hm : (m : ℚ) < 2 ^ j := by exact_mod_cast hbits
  have hlt : (m : ℚ) * 2 ^ e < 1 := by
    calc (m : ℚ) * 2 ^ e ≤ m * 2 ^ (-(j : Int)) := by gcongr
      _ < 2 ^ j * 2 ^ (-(j : Int)) := by gcongr
      _ = 1 := by rw [zpow_neg, zpow_natCast, mul_inv_cancel₀ (by positivity)]
  linarith

theorem one_le_of_eq_natCast {m n : Nat} {e : Int} (hm : 0 < m) (h : (m : ℚ) * 2 ^ e = n) :
    1 ≤ (m : ℚ) * 2 ^ e := by
  have hpos : 0 < (n : ℚ) := by
    rw [← h]
    positivity
  rw [h]
  exact_mod_cast hpos

/-- A number of 53 bits that is a natural number carries it, once it is packed. -/
theorem carries_unpack_pack {v r : Nat} {f : Int} (hr : 0 < r) (hleast : 2 ^ 52 ≤ r)
    (hbits : r < 2 ^ 53) (hv : (r : ℚ) * 2 ^ f = v) :
    Carries v (unpack .binary64 (pack .binary64 (.finite .positive r f hr))) := by
  have hlow := neg_lt_exponent hbits (one_le_of_eq_natCast hr hv)
  rcases le_or_gt f 971 with hrange | hhigh
  · have hnormal : Normal .positive v (.finite .positive r f hr) :=
      .intro r f hr hleast hbits (by omega) hrange hv.symm
    rw [hnormal.unpack_pack]
    exact .normal hnormal
  · rw [unpack_pack_of_high .positive hr hhigh]
    refine .infinity ?_
    have hcast : (2 : ℚ) ^ 1024 ≤ v := by
      have hr' : (2 : ℚ) ^ 52 ≤ r := by exact_mod_cast hleast
      have hpow : (2 : ℚ) ^ (972 : Int) ≤ 2 ^ f := zpow_le_zpow_right₀ (by norm_num) (by omega)
      calc (2 : ℚ) ^ 1024 = 2 ^ 52 * 2 ^ (972 : Int) := by
            rw [show (972 : Int) = (972 : Nat) from rfl, zpow_natCast, ← pow_add]
        _ ≤ (r : ℚ) * 2 ^ f := by gcongr
        _ = v := hv
    exact_mod_cast hcast

/-- Rounding a significand of 53 bits or more keeps the leading bits of the number. -/
theorem carries_roundWithAccuracy {n m : Nat} {e : Int} (hleast : 2 ^ 52 ≤ m)
    (hv : (m : ℚ) * 2 ^ e = n) :
    Carries (roundNat n)
      (unpack .binary64 (pack .binary64 (roundWithAccuracy .binary64 .positive m e .exact))) := by
  have hm : 0 < m := (Nat.two_pow_pos 52).trans_le hleast
  obtain ⟨k, hlog⟩ : ∃ k, m.log2 = 52 + k :=
    Nat.exists_eq_add_of_le ((Nat.le_log2 hm.ne').mpr hleast)
  have hlow : -((53 + k : Nat) : Int) < e :=
    neg_lt_exponent (lt_two_pow_of_log2_lt (by omega)) (one_le_of_eq_natCast hm hv)
  obtain ⟨r, f, hr, hrleast, hrbits, -, -, hvalue, heq⟩ :=
    roundWithAccuracy_eq_finite .positive hlog (e := e) (by omega)
  have hround : (r : ℚ) * 2 ^ f = roundNat n := by
    rw [← hvalue, ← roundNat_of_mul_zpow_eq hv, roundNat, lastBit, hlog, Nat.add_sub_cancel_left,
      zpow_add₀ (by norm_num), zpow_natCast]
    push_cast
    ring
  rw [heq]
  exact carries_unpack_pack hr hrleast hrbits hround

theorem decreaseExponent_eq (m : Nat) (e t : Int) :
    decreaseExponent m e t = (m * 2 ^ (e - t).toNat, e - (e - t).toNat) := by
  rw [decreaseExponent, Nat.shiftLeft_eq]

theorem decreaseExponent_value (m : Nat) (e t : Int) :
    ((decreaseExponent m e t).1 : ℚ) * 2 ^ (decreaseExponent m e t).2 = m * 2 ^ e := by
  rw [decreaseExponent_eq, zpow_sub₀ (by norm_num), zpow_natCast]
  push_cast
  field_simp

theorem le_decreaseExponent (m : Nat) (e t : Int) : m ≤ (decreaseExponent m e t).1 := by
  rw [decreaseExponent_eq]
  exact Nat.le_mul_of_pos_right m (Nat.two_pow_pos _)

theorem decreaseExponent_snd (m : Nat) {e t : Int} (h : t ≤ e) : (decreaseExponent m e t).2 = t := by
  rw [decreaseExponent_eq]
  omega

/-- The same with an exponent that is lowered first, if there is room for more bits. -/
theorem carries_normalize {n m : Nat} {e : Int} (hleast : 2 ^ 52 ≤ m) (hv : (m : ℚ) * 2 ^ e = n) :
    Carries (roundNat n)
      (unpack .binary64 (pack .binary64 (UnpackedFloat.normalize .binary64 m e .positive))) := by
  have hgt : compare (m : Int) 0 = .gt := Int.compare_eq_gt.mpr (by omega)
  unfold UnpackedFloat.normalize
  rw [hgt]
  unfold UnpackedFloat.round
  dsimp only
  rw [Int.toNat_natCast]
  exact carries_roundWithAccuracy (hleast.trans (le_decreaseExponent ..))
    ((decreaseExponent_value ..).trans hv)

/-! ## Multiplying and adding -/

theorem unpacked_mul (x y : Float) :
    unpacked (x * y)
      = unpack .binary64 (pack .binary64 (UnpackedFloat.mul .binary64 (unpacked x) (unpacked y))) := rfl

theorem unpacked_add (x y : Float) :
    unpacked (x + y)
      = unpack .binary64 (pack .binary64 (UnpackedFloat.add .binary64 (unpacked x) (unpacked y))) := rfl

theorem Carries.mul {a b : Nat} {x y : Float} (hx : Carries a (unpacked x))
    (hy : Normal .positive b (unpacked y)) : Carries (roundNat (a * b)) (unpacked (x * y)) := by
  have hb := hy.pos
  rw [unpacked_mul]
  generalize unpacked x = u at hx
  generalize unpacked y = w at hy
  obtain ⟨n, f, hn, hnleast, -, -, -, hw⟩ := hy
  cases hx with
  | zero ha =>
      have hproduct : UnpackedFloat.mul .binary64 (.zero .positive) (.finite .positive n f hn)
          = .zero .positive := rfl
      rw [ha, Nat.zero_mul, roundNat_zero, hproduct]
      exact .zero rfl
  | infinity ha =>
      have hproduct : UnpackedFloat.mul .binary64 (.infinity .positive) (.finite .positive n f hn)
          = .infinity .positive := rfl
      rw [hproduct]
      exact .infinity (two_pow_le_roundNat (ha.trans (Nat.le_mul_of_pos_right a hb)))
  | normal h =>
      obtain ⟨m, e, hm, hmleast, -, -, -, hu⟩ := h
      rw [mul_finite]
      refine carries_roundWithAccuracy (hmleast.trans (Nat.le_mul_of_pos_right m hn)) ?_
      rw [zpow_add₀ (by norm_num), Nat.cast_mul, Nat.cast_mul, hu, hw]
      ring

/-- The significands of two positive numbers are added at the smaller exponent. -/
theorem add_finite {m n : Nat} (e f : Int) (hm : 0 < m) (hn : 0 < n) :
    UnpackedFloat.add .binary64 (.finite .positive m e hm) (.finite .positive n f hn)
      = UnpackedFloat.normalize .binary64
          ((decreaseExponent m e (min e f)).1 + (decreaseExponent n f (min e f)).1 : Nat)
          (min e f) .positive := rfl

theorem Carries.add {a b : Nat} {x y : Float} (hx : Carries a (unpacked x))
    (hy : b = 0 ∧ unpacked y = .zero .positive ∨ Normal .positive b (unpacked y)) :
    Carries (roundNat (a + b)) (unpacked (x + y)) := by
  rw [unpacked_add]
  generalize unpacked x = u at hx
  generalize unpacked y = w at hy
  cases hx with
  | zero ha =>
      obtain ⟨rfl, rfl⟩ | h := hy
      · rw [ha, roundNat_zero]
        exact .zero rfl
      · have hsum : UnpackedFloat.add .binary64 (.zero .positive) w = w := by
          cases h
          rfl
        rw [ha, Nat.zero_add, h.roundNat_eq, hsum, h.unpack_pack]
        exact .normal h
  | infinity ha =>
      have hsum : UnpackedFloat.add .binary64 (.infinity .positive) w = .infinity .positive := by
        obtain ⟨-, rfl⟩ | h := hy
        · rfl
        · cases h
          rfl
      rw [hsum]
      exact .infinity (two_pow_le_roundNat (ha.trans (Nat.le_add_right a b)))
  | normal hu =>
      obtain ⟨rfl, rfl⟩ | hw := hy
      · have hsum : UnpackedFloat.add .binary64 u (.zero .positive) = u := by
          cases hu
          rfl
        rw [Nat.add_zero, hu.roundNat_eq, hsum, hu.unpack_pack]
        exact .normal hu
      · obtain ⟨m, e, hm, hmleast, -, -, -, hu⟩ := hu
        obtain ⟨n, f, hn, -, -, -, -, hw⟩ := hw
        rw [add_finite]
        have hm' := decreaseExponent_value m e (min e f)
        have hn' := decreaseExponent_value n f (min e f)
        rw [decreaseExponent_snd m (min_le_left e f)] at hm'
        rw [decreaseExponent_snd n (min_le_right e f)] at hn'
        refine carries_normalize ?_ ?_
        · exact (hmleast.trans (le_decreaseExponent ..)).trans (Nat.le_add_right _ _)
        · rw [Nat.cast_add, add_mul, hm', hn', Nat.cast_add, hu, hw]

/-! ## Doubles of natural numbers -/

theorem carries_ofNat (n : Nat) : Carries (roundNat n) (unpacked (Float.ofNat n)) := by
  rcases Nat.lt_or_ge n (2 ^ 53) with hsmall | hlarge
  · rw [roundNat_eq_self hsmall.le]
    rcases Nat.eq_zero_or_pos n with rfl | hn
    · exact .zero rfl
    · exact .normal (normal_ofNat_of_lt hn hsmall)
  · have hword : ¬(n < 2 ^ 53 ∧ 0 ≤ 22) := by omega
    have hpos : n ≠ 0 := by omega
    unfold Float.ofNat
    change Carries (roundNat n) (unpacked (Float.ofScientific n false 0))
    unfold Float.ofScientific
    rw [dif_neg hword]
    change Carries (roundNat n) (unpack .binary64 (pack .binary64 (ofScientific .binary64 n 0)))
    rw [ofScientific_eq_roundWithAccuracy hpos]
    refine carries_roundWithAccuracy (by omega) ?_
    rw [zpow_neg]
    push_cast
    field_simp

end FieldRules.Decimal

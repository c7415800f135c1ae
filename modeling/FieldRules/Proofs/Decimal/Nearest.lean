/-
# `Proofs.Decimal.Nearest` — the double nearest to a natural number

`IsNearest n x` is the rule: `x` is a double that no other one is nearer to `n` than, its last bit is
zero if another one is as near, and from half way between the greatest double and the next power of
two on it is the infinity.  The rule speaks of all doubles and of no arithmetic.

`isNearest_iff` joins it to the arithmetic: the double nearest to `n` is the one that carries
`roundNat n`.  `isNearest_append_iff` says what a double that has rounded a number away from the bits
behind it is still nearest to.
-/
import FieldRules.Proofs.Decimal.Arithmetic

namespace FieldRules.Decimal

open Float.Model (Format UnpackedFloat)
open Float.Model.UnpackedFloat

/-! ## The rule -/

/-- The rational number that an unpacked number is; NaN and the infinities are none. -/
def value? : UnpackedFloat → Option ℚ
  | .zero _ => some 0
  | .finite s m e _ => some ((s.apply m : Int) * 2 ^ e : ℚ)
  | _ => none

/-- The last bit of the significand is zero. -/
def EvenSignificand : UnpackedFloat → Prop
  | .finite _ m _ _ => m % 2 = 0
  | _ => True

/-- Rounding a natural number to nearest, ties to even, and to the infinity beyond the range. -/
inductive IsNearest (n : Nat) (x : Float) : Prop
  | finite {v : ℚ} (hrange : n < overflow) (hsign : HasSign .positive (unpacked x))
      (hx : value? (unpacked x) = some v)
      (hleast : ∀ (y : Float) (w : ℚ), value? (unpacked y) = some w → |(n : ℚ) - v| ≤ |(n : ℚ) - w|)
      (heven : ∀ (y : Float) (w : ℚ), value? (unpacked y) = some w → w ≠ v →
        |(n : ℚ) - w| = |(n : ℚ) - v| → EvenSignificand (unpacked x))
  | infinity (hrange : overflow ≤ n) (hx : unpacked x = .infinity .positive)

/-! ## What a double is -/

theorem exponent_bounds {b : BitVec 11} (htop : b ≠ -1#11) (hbottom : b ≠ 0#11) :
    0 < b.toNat ∧ b.toNat < 2047 := by
  have hlt := b.isLt
  have htop' : b.toNat ≠ 2047 := fun h => htop (BitVec.eq_of_toNat_eq h)
  have hbottom' : b.toNat ≠ 0 := fun h => hbottom (BitVec.eq_of_toNat_eq h)
  omega

theorem normal_or_low {x : Float} {s : Sign} {m : Nat} {e : Int} {hm : 0 < m}
    (h : unpacked x = .finite s m e hm) : (2 ^ 52 ≤ m ∧ -1074 ≤ e ∧ e ≤ 971) ∨ e = -1074 := by
  change unpack .binary64 _ = _ at h
  unfold unpack at h
  dsimp only at h
  split at h
  · split at h <;> cases h
  · next htop =>
    split at h
    · next hbottom =>
      split at h
      · cases h
      · injection h with _ _ he
        rw [hbottom] at he
        exact .inr he.symm
    · next hbottom =>
      injection h with _ hmantissa he
      have hleast : 2 ^ 52 ≤ m := by
        rw [← hmantissa, BitVec.toNat_append, ← Nat.shiftLeft_add_eq_or_of_lt (BitVec.isLt _)]
        exact Nat.le_add_right _ _
      obtain ⟨hlow, hhigh⟩ := exponent_bounds htop hbottom
      have hbias : ((Format.exponentBias .binary64 : Nat) : Int)
          + ((Format.mantissaBitsWithoutImplicit .binary64 : Nat) : Int) = 1075 := rfl
      rw [hbias] at he
      exact .inl ⟨hleast, by omega, by omega⟩

theorem abs_apply (s : Sign) (m : Nat) : |s.apply m| = m := by
  cases s <;> simp [Sign.apply]

theorem exists_of_value? {x : Float} {v : ℚ} (h : value? (unpacked x) = some v) :
    ∃ (a : Int) (e : Int), |a| < 2 ^ 53 ∧ v = a * 2 ^ e := by
  cases hu : unpacked x with
  | zero s =>
      rw [hu] at h
      cases h
      exact ⟨0, 0, by decide, by simp⟩
  | finite s m e hm =>
      rw [hu] at h
      cases h
      have hbits : m < 2 ^ 53 := mantissa_unpack_lt hu
      refine ⟨s.apply m, e, ?_, rfl⟩
      rw [abs_apply]
      exact_mod_cast hbits
  | infinity s =>
      rw [hu] at h
      cases h
  | notANumber =>
      rw [hu] at h
      cases h

theorem Normal.value?_eq {v : ℚ} {u : UnpackedFloat} (h : Normal .positive v u) :
    value? u = some v := by
  obtain ⟨m, e, hm, -, -, -, -, rfl⟩ := h
  rfl

theorem Carries.value?_eq {v : Nat} {u : UnpackedFloat} (h : Carries v u) (hv : v < 2 ^ 1024) :
    value? u = some (v : ℚ) := by
  cases h with
  | zero hzero =>
      rw [hzero, Nat.cast_zero]
      rfl
  | normal h => exact h.value?_eq
  | infinity hle => exact absurd hv (Nat.not_lt.mpr hle)

theorem Carries.hasSign {v : Nat} {u : UnpackedFloat} (h : Carries v u) : HasSign .positive u := by
  cases h with
  | zero => exact .zero
  | normal h =>
      cases h
      exact .finite ..
  | infinity => exact .infinity

theorem carries_of_value? {x : Float} {v : Nat} (hsign : HasSign .positive (unpacked x))
    (hx : value? (unpacked x) = some (v : ℚ)) : Carries v (unpacked x) := by
  generalize hu : unpacked x = u at hsign hx
  cases hsign with
  | zero =>
      have hv : (0 : ℚ) = v := Option.some.inj hx
      exact .zero (by exact_mod_cast hv.symm)
  | infinity => cases hx
  | finite m e hm =>
      have hv : (m : ℚ) * 2 ^ e = v := Option.some.inj hx
      have hbits : m < 2 ^ 53 := mantissa_unpack_lt hu
      rcases normal_or_low hu with ⟨hleast, hlow, hhigh⟩ | rfl
      · exact .normal (.intro m e hm hleast hbits hlow hhigh hv.symm)
      · exact absurd (neg_lt_exponent hbits (one_le_of_eq_natCast hm hv)) (by decide)

/-! ## The last bit -/

/-- Of two spellings of a number, the one with the greater exponent has the zeros of the other off. -/
theorem eq_mul_two_pow {m c k : Nat} {e : Int} (heq : (m : ℚ) * 2 ^ e = c * 2 ^ k) :
    (∃ j, m = c * 2 ^ j) ∨ ∃ j, c = m * 2 ^ (j + 1) := by
  rcases le_or_gt e k with hle | hgt
  · obtain ⟨j, hj⟩ : ∃ j : Nat, (k : Int) = e + j := ⟨(k - e).toNat, by omega⟩
    rw [← zpow_natCast, hj, zpow_add₀ (by norm_num), zpow_natCast, mul_comm _ ((2 : ℚ) ^ j),
      ← mul_assoc] at heq
    exact .inl ⟨j, by exact_mod_cast mul_right_cancel₀ (zpow_ne_zero e (by norm_num)) heq⟩
  · obtain ⟨j, rfl⟩ : ∃ j : Nat, e = (j + 1 : Nat) + k := ⟨(e - k - 1).toNat, by omega⟩
    rw [zpow_add₀ (by norm_num), zpow_natCast, zpow_natCast, ← mul_assoc] at heq
    exact .inr ⟨j, by exact_mod_cast (mul_right_cancel₀ (pow_ne_zero k (by norm_num)) heq).symm⟩

/-- A number of 53 bits that is an even multiple of a last bit has an even significand. -/
theorem even_of_mul_eq {m c k : Nat} {e : Int} (heq : (m : ℚ) * 2 ^ e = c * 2 ^ k)
    (heven : c % 2 = 0) (hleast : 2 ^ 52 ≤ m) (hmost : c ≤ 2 ^ 53) : m % 2 = 0 := by
  rcases eq_mul_two_pow heq with ⟨j, hm⟩ | ⟨j, hc⟩
  · rw [hm, Nat.mul_mod, heven, Nat.zero_mul, Nat.zero_mod]
  · -- only the carry of rounding up leads here
    have hpos := Nat.two_pow_pos j
    have hmul : m * 2 ≤ m * (2 * 2 ^ j) := Nat.mul_le_mul_left m (by omega)
    rw [hc, Nat.pow_succ'] at hmost
    omega

/-- A number of 53 bits that is an odd multiple of its last bit has an odd significand. -/
theorem odd_of_mul_eq {m c k : Nat} {e : Int} (heq : (m : ℚ) * 2 ^ e = c * 2 ^ k)
    (hodd : c % 2 = 1) (hleast : 2 ^ 52 ≤ c) (hbits : m < 2 ^ 53) : m % 2 = 1 := by
  rcases eq_mul_two_pow heq with ⟨_ | j, hm⟩ | ⟨j, hc⟩
  · rwa [hm, Nat.pow_zero, Nat.mul_one]
  · have hpos := Nat.two_pow_pos j
    have hmul : c * 2 ≤ c * (2 * 2 ^ j) := Nat.mul_le_mul_left c (by omega)
    rw [hm, Nat.pow_succ'] at hbits
    omega
  · rw [hc, Nat.pow_succ, ← Nat.mul_assoc, Nat.mul_mod_left] at hodd
    cases hodd

theorem roundNat_cast (n : Nat) :
    (roundNat n : ℚ) = halfEven n (lastBit n) * 2 ^ (n.log2 - 52) := by
  rw [roundNat, Nat.cast_mul, lastBit, Nat.cast_pow, Nat.cast_ofNat]

/-! ## The nearest double -/

theorem le_roundNat_of_overflow_le {n : Nat} (h : overflow ≤ n) : 2 ^ 1024 ≤ roundNat n :=
  Nat.not_lt.mp fun hlt => Nat.not_lt.mpr h ((roundNat_lt_iff n).mp hlt)

theorem Carries.isNearest {n : Nat} {x : Float} (h : Carries (roundNat n) (unpacked x)) :
    IsNearest n x := by
  rcases Nat.lt_or_ge n overflow with hrange | hrange
  · refine .finite hrange h.hasSign (h.value?_eq ((roundNat_lt_iff n).mpr hrange)) ?_ ?_
    · intro y w hw
      obtain ⟨a, e, ha, rfl⟩ := exists_of_value? hw
      rcases roundNat_nearest n ha e with hlt | heq | ⟨htie, -⟩
      · exact hlt.le
      · rw [heq]
      · exact htie.ge
    · intro y w hw hne htie
      obtain ⟨a, e, ha, rfl⟩ := exists_of_value? hw
      rcases roundNat_nearest n ha e with hlt | heq | ⟨-, heven, -⟩
      · exact absurd htie hlt.ne'
      · exact absurd heq hne
      · generalize unpacked x = u at h ⊢
        cases h with
        | zero => exact trivial
        | infinity => exact trivial
        | normal h =>
            obtain ⟨m, f, hm, hleast, -, -, -, hv⟩ := h
            rw [roundNat_cast] at hv
            exact even_of_mul_eq hv.symm heven hleast (halfEven_lastBit_le n)
  · exact .infinity hrange (h.eq_infinity (le_roundNat_of_overflow_le hrange))

theorem IsNearest.carries {n : Nat} {x : Float} (h : IsNearest n x) :
    Carries (roundNat n) (unpacked x) := by
  cases h with
  | infinity hrange hx =>
      rw [hx]
      exact .infinity (le_roundNat_of_overflow_le hrange)
  | @finite v hrange hsign hx hleast heven =>
      have hround := (carries_ofNat n).value?_eq ((roundNat_lt_iff n).mpr hrange)
      obtain ⟨a, e, ha, rfl⟩ := exists_of_value? hx
      by_cases hsame : (a : ℚ) * 2 ^ e = roundNat n
      · rw [hsame] at hx
        exact carries_of_value? hsign hx
      · rcases roundNat_nearest n ha e with hlt | heq | ⟨htie, -, c, hc, hodd, hcleast⟩
        · exact absurd (hleast _ _ hround) (not_le.mpr hlt)
        · exact absurd heq hsame
        · -- the even one of the two is the other one
          exfalso
          have hlast := heven _ _ hround (Ne.symm hsame) htie.symm
          rw [hc] at hx
          generalize hu : unpacked x = u at hsign hx hlast
          rw [lastBit, Nat.cast_pow, Nat.cast_ofNat] at hx
          cases hsign with
          | zero =>
              have hzero : (0 : ℚ) = c * 2 ^ (n.log2 - 52) := Option.some.inj hx
              have hpos : (0 : ℚ) < c := by exact_mod_cast (Nat.two_pow_pos 52).trans_le hcleast
              have := mul_pos hpos (pow_pos (show (0 : ℚ) < 2 by norm_num) (n.log2 - 52))
              linarith
          | infinity => cases hx
          | finite m f hm =>
              have hm1 := odd_of_mul_eq (Option.some.inj hx) hodd hcleast (mantissa_unpack_lt hu)
              have hm0 : m % 2 = 0 := hlast
              omega

/-- The double nearest to a number is the one that carries the rounded number. -/
theorem isNearest_iff {n : Nat} {x : Float} : IsNearest n x ↔ Carries (roundNat n) (unpacked x) :=
  ⟨IsNearest.carries, Carries.isNearest⟩

/-- A double that carries a number past `2 ^ 53` rounded, with zeros behind it, is nearest to the
number with digits in the place of the zeros, unless they break a tie that went down. -/
theorem isNearest_append_iff {n p t : Nat} {x : Float} (hn : 2 ^ 53 ≤ n) (ht : t < 2 ^ p)
    (hx : Carries (roundNat n * 2 ^ p) (unpacked x)) :
    IsNearest (n * 2 ^ p + t) x ↔ ¬(TiesDown n ∧ t ≠ 0 ∧ n * 2 ^ p + t < 2 ^ 1024) := by
  rw [isNearest_iff, roundNat_append hn ht]
  split_ifs with htie
  · have hlast : 0 < lastBit n * 2 ^ p :=
      Nat.mul_pos (lastBit_pos n) (Nat.two_pow_pos p)
    have habove : roundNat n * 2 ^ p ≤ (roundNat n + lastBit n) * 2 ^ p :=
      Nat.mul_le_mul_right _ (Nat.le_add_right _ _)
    constructor
    · rintro hcarries ⟨-, -, hrange⟩
      have hbelow : roundNat n * 2 ^ p ≤ n * 2 ^ p :=
        Nat.mul_le_mul_right _ (roundNat_le_of_tiesDown htie.1)
      rcases hx.eq_or_le hcarries with heq | ⟨hle, -⟩
      · rw [Nat.add_mul] at heq
        omega
      · exact absurd hrange (Nat.not_lt.mpr ((hle.trans hbelow).trans (Nat.le_add_right _ _)))
    · -- beyond the range there is no tie to break
      intro hnot
      have hbeyond : 2 ^ 1024 ≤ n * 2 ^ p + t :=
        Nat.not_lt.mp fun hlt => hnot ⟨htie.1, htie.2, hlt⟩
      have hround : 2 ^ 1024 ≤ roundNat n * 2 ^ p := by
        rw [← roundNat_mul_two_pow]
        refine two_pow_le_roundNat (le_mul_two_pow_of_le_append ?_ ht hbeyond)
        exact (Nat.two_pow_pos 53).trans_le hn
      rw [hx.eq_infinity hround]
      exact .infinity (hround.trans habove)
  · exact iff_of_true hx fun h => htie ⟨h.1, h.2.1⟩

end FieldRules.Decimal

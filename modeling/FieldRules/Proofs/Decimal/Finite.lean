/-
# `Proofs.Decimal.Finite` — no 64-bit integer is too large for a double

The doubles reach to about `2 ^ 1024`, and the conversion of an integer of 64 bits stays far below.
`Within top` is the bound that is carried through the conversion: rounding raises an exponent by at
most the bits of the significand that it rounds (`within_roundWithAccuracy`), and packing turns into
an infinity only what is above the range (`within_unpack_pack`).  A natural number is converted in
one of two ways, by way of a machine word if it is small and by way of a power of ten if it is not;
`isFinite_ofNat` is the result for both.
-/
import Mathlib

namespace FieldRules.Decimal

open Float.Model (Format UnpackedFloat totalExponent)
open Float.Model.UnpackedFloat

/-- Zero, or a number whose exponent is not above `top`. -/
inductive Within (top : Int) : UnpackedFloat → Prop where
  | zero (s : Sign) : Within top (.zero s)
  | finite (s : Sign) (m : Nat) {e : Int} (hm : 0 < m) (he : e ≤ top) :
      Within top (.finite s m e hm)

theorem Within.isFinite {u : UnpackedFloat} {top : Int} (h : Within top u) : u.isFinite = true := by
  cases h <;> rfl

theorem Within.neg {u : UnpackedFloat} {top : Int} (h : Within top u) : Within top u.neg := by
  cases h with
  | zero s => exact .zero _
  | finite s m hm he => exact .finite _ _ _ he

/-! ## Rounding -/

theorem log2_lt_of_lt {m k : Nat} (h : m < 2 ^ k) (hk : 0 < k) : m.log2 < k := by
  by_cases hm : m = 0
  · subst hm
    exact hk
  · exact (Nat.log2_lt hm).mpr h

theorem mantissa_shiftRight_le (em : ExtendedMantissa) (n : Nat) :
    (em >>> n).mantissa ≤ em.mantissa := by
  induction n with
  | zero => exact Nat.le_refl _
  | succ n ih => exact (Nat.div_le_self _ 2).trans ih

theorem roundedMantissa_le (em : ExtendedMantissa) : em.roundedMantissa ≤ em.mantissa + 1 := by
  obtain ⟨m, r, s⟩ := em
  have := Nat.mod_lt m (show 0 < 2 by decide)
  cases r <;> cases s <;>
    simp only [ExtendedMantissa.roundedMantissa, ExtendedMantissa.accuracy,
      Accuracy.roundToNearestEven] <;>
    omega

theorem mantissa_ofMantissaAndAccuracy (m : Nat) (a : Accuracy) :
    (ExtendedMantissa.ofMantissaAndAccuracy m a).mantissa = m := by
  cases a with
  | exact => rfl
  | inexact o => cases o <;> rfl

/-- Shifting drops digits of the significand and raises the exponent by at most their number. -/
theorem shiftToTargetExponent_le {m : Nat} {e top : Int} (a : Accuracy) (hm : m < 2 ^ 201)
    (he : e ≤ top) (htop : -1000 ≤ top) :
    (shiftToTargetExponent .binary64 m e a).1.mantissa ≤ m ∧
      (shiftToTargetExponent .binary64 m e a).2 ≤ top + 200 := by
  have hlog := log2_lt_of_lt hm (by decide)
  constructor
  · refine (mantissa_shiftRight_le _ _).trans_eq ?_
    exact mantissa_ofMantissaAndAccuracy m a
  · simp only [shiftToTargetExponent, shiftToExponent, Format.targetExponent, totalExponent,
      Format.mantissaBits, Format.minExponent]
    omega

/-- Rounding shifts, rounds up by at most one, and shifts once more. -/
theorem within_roundWithAccuracy (s : Sign) {m : Nat} {e : Int} (top : Int) (a : Accuracy)
    (hm : m < 2 ^ 200) (he : e ≤ top) (htop : -1000 ≤ top) :
    Within (top + 400) (roundWithAccuracy .binary64 s m e a) := by
  obtain ⟨hm₁, he₁⟩ := shiftToTargetExponent_le a (show m < 2 ^ 201 by omega) he htop
  have hround := roundedMantissa_le (shiftToTargetExponent .binary64 m e a).1
  obtain ⟨-, he₂⟩ :=
    shiftToTargetExponent_le (m := (shiftToTargetExponent .binary64 m e a).1.roundedMantissa)
      .exact (by omega) he₁ (by omega)
  unfold roundWithAccuracy
  dsimp only
  split
  · exact .zero s
  · exact .finite s _ _ (by omega)

theorem within_mul (s₁ s₂ : Sign) {m₁ m₂ : Nat} {e₁ e₂ : Int} (top : Int) (h₁ : 0 < m₁)
    (h₂ : 0 < m₂) (hm : m₁ * m₂ < 2 ^ 200) (he : e₁ + e₂ ≤ top) (htop : -1000 ≤ top) :
    Within (top + 400) (mul .binary64 (.finite s₁ m₁ e₁ h₁) (.finite s₂ m₂ e₂ h₂)) :=
  within_roundWithAccuracy (s₁ * s₂) top .exact hm he htop

theorem within_round (s : Sign) {m : Nat} (hm : m < 2 ^ 64) :
    Within 400 (round .binary64 s m 0) := by
  have hlog := log2_lt_of_lt hm (by decide)
  have hshift : (0 - Format.targetExponent .binary64 (totalExponent m 0)).toNat ≤ 53 := by
    simp only [Format.targetExponent, totalExponent, Format.mantissaBits, Format.minExponent]
    omega
  have hmantissa :
      m <<< (0 - Format.targetExponent .binary64 (totalExponent m 0)).toNat < 2 ^ 200 := by
    rw [Nat.shiftLeft_eq]
    calc m * 2 ^ (0 - Format.targetExponent .binary64 (totalExponent m 0)).toNat
        ≤ m * 2 ^ 53 := Nat.mul_le_mul_left m (Nat.pow_le_pow_right (by decide) hshift)
      _ < 2 ^ 200 := by omega
  exact within_roundWithAccuracy s 0 .exact hmantissa (by omega) (by decide)

theorem within_normalize {m : Nat} (hm : m < 2 ^ 64) :
    Within 400 (UnpackedFloat.normalize .binary64 m 0 .positive) := by
  unfold UnpackedFloat.normalize
  split
  · next hneg => exact absurd (Int.compare_eq_lt.mp hneg) (by omega)
  · exact .zero _
  · exact within_round .positive hm

/-! ## Packing -/

theorem mantissa_unpack_lt {b : BitVec (Format.numBits .binary64)} {s : Sign} {m : Nat} {e : Int}
    {hm : 0 < m} (h : unpack .binary64 b = .finite s m e hm) : m < 2 ^ 53 := by
  unfold unpack at h
  dsimp only at h
  split at h
  · split at h <;> cases h
  · split at h
    · split at h
      · cases h
      · injection h with _ hm
        rw [← hm]
        exact (BitVec.isLt _).trans (by decide)
    · injection h with _ hm
      rw [← hm]
      exact BitVec.isLt _

/-- Bits whose exponent is not the one of the infinities are those of a number. -/
theorem within_unpack_packComponents {top : Int} (s : Sign) {x : BitVec 11} (y : BitVec 52)
    (hx : x ≠ -1#11) (htop : (x.toNat : Int) - 1075 ≤ top) (hlow : -1074 ≤ top) :
    Within top (unpack .binary64 (packComponents .binary64 s x y)) := by
  simp only [unpack, unpackMantissa_packComponents, unpackExponent_packComponents]
  rw [if_neg hx]
  split
  · next hzero =>
    split
    · exact .zero _
    · subst hzero
      exact .finite _ _ _ hlow
  · exact .finite _ _ _ htop

theorem within_unpack_pack {u : UnpackedFloat} {top : Int} (h : Within top u) (hlow : -1074 ≤ top)
    (hhigh : top ≤ 971) : Within top (unpack .binary64 (pack .binary64 u)) := by
  cases h with
  | zero s => exact within_unpack_packComponents s _ (by decide) (by simp; omega) hlow
  | @finite s m e hm he =>
      have hbias : e + (Format.exponentBias .binary64 : Int) + ((52 : Nat) : Int) = e + 1075 := by
        show e + 1023 + 52 = _
        omega
      have hfits : ¬2 ^ 11 ≤ (e + 1075).toNat + 1 := by omega
      simp only [pack]
      rw [hbias, if_neg hfits]
      split
      · have hx : (BitVec.ofNat 11 (e + 1075).toNat).toNat = (e + 1075).toNat := by
          rw [BitVec.toNat_ofNat]
          omega
        refine within_unpack_packComponents s _ (fun heq => ?_) ?_ hlow
        · have := congrArg BitVec.toNat heq
          rw [hx] at this
          simp at this
          omega
        · rw [hx]
          omega
      · exact within_unpack_packComponents s _ (by decide) (by simp; omega) hlow

/-! ## Doubles of integers -/

def unpacked (x : Float) : UnpackedFloat := x.toModel.unpack

theorem isFinite_of_within {x : Float} {top : Int} (h : Within top (unpacked x)) :
    x.isFinite = true :=
  h.isFinite

/-- Even multiplying by one is bounded by rounding alone. -/
theorem within_mul_one {x : Float} (hx : Within 400 (unpacked x)) :
    Within 800 (unpacked (x * Float.ofBits 0x3FF0000000000000)) := by
  refine within_unpack_pack ?_ (by decide) (by decide)
  have hone : (Float.ofBits 0x3FF0000000000000).toModel.unpack
      = .finite .positive (2 ^ 52) (-52) (by decide) := rfl
  change Within 800 (mul .binary64 (unpacked x) (Float.ofBits 0x3FF0000000000000).toModel.unpack)
  rw [hone]
  cases hu : unpacked x with
  | infinity s => rw [hu] at hx; cases hx
  | notANumber => rw [hu] at hx; cases hx
  | zero s => exact .zero _
  | finite s m e hm =>
      have he : e ≤ 400 := by
        rw [hu] at hx
        cases hx
        assumption
      have hm := mantissa_unpack_lt hu
      exact within_mul s .positive 400 _ _ (by omega) (by omega) (by decide)

theorem within_ofNat {n : Nat} (hn : n < 2 ^ 64) : Within 800 (unpacked (Float.ofNat n)) := by
  unfold Float.ofNat
  change Within 800 (unpacked (Float.ofScientific n false 0))
  unfold Float.ofScientific
  split
  · refine within_mul_one (within_unpack_pack ?_ (by decide) (by decide))
    have hword : n.toUInt64.toNat = n := Nat.mod_eq_of_lt hn
    change Within 400 (UnpackedFloat.normalize .binary64 (n.toUInt64.toNat) 0 .positive)
    rw [hword]
    exact within_normalize hn
  · refine within_unpack_pack ?_ (by decide) (by decide)
    change Within 800 (ofScientific .binary64 n 0)
    unfold ofScientific
    split
    · exact .zero _
    · have hlow : ¬(0 : Int) < -((2 : Int) ^ 11 + n.log2) := by omega
      rw [if_neg (by decide), if_neg hlow, if_pos (by decide)]
      have hmul : n <<< Format.mantissaBits .binary64 * 10 ^ Int.toNat 0 < 2 ^ 200 := by
        rw [show Format.mantissaBits .binary64 = 53 from rfl, Nat.shiftLeft_eq, Int.toNat_zero,
          pow_zero]
        omega
      exact within_mul .positive .positive 400 _ _ hmul (by decide) (by decide)

theorem isFinite_ofNat {n : Nat} (hn : n < 2 ^ 64) : (Float.ofNat n).isFinite = true :=
  isFinite_of_within (within_ofNat hn)

theorem within_neg {x : Float} {top : Int} (hx : Within top (unpacked x)) (hlow : -1074 ≤ top)
    (hhigh : top ≤ 971) : Within top (unpacked x.neg) :=
  within_unpack_pack hx.neg hlow hhigh

theorem isFinite_ofInt {i : Int} (hi : i.natAbs < 2 ^ 64) : (Float.ofInt i).isFinite = true := by
  cases i with
  | ofNat n => exact isFinite_ofNat hi
  | negSucc n => exact isFinite_of_within (within_neg (within_ofNat hi) (by decide) (by decide))

end FieldRules.Decimal

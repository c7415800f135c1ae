/-
# `Proofs.Decimal.Rounding` — the double of an integer

A double has 53 bits for its digits, so an integer keeps its 53 leading bits and the others are
rounded away: `roundInt` is that rounding, in the arithmetic of integers.  Two integers of 64 bits
become equal doubles exactly if `roundInt` maps them to one integer (`ofInt_beq_iff`).

`Normal s v u` says that the unpacked number `u` has all its bits, the sign `s` and the magnitude
`v`.  It determines `u`, it is kept when `u` is packed and unpacked, and rounding establishes it
(`normal_roundWithAccuracy`); the three roundings on the way from an integer to its double are
instances of that one lemma.
-/
import FieldRules.Proofs.Decimal.Finite

namespace FieldRules.Decimal

open Float.Model (Format UnpackedFloat totalExponent)
open Float.Model.UnpackedFloat

/-! ## Rounding integers -/

/-- The natural number nearest to a quotient; of two that are equally near, the even one. -/
def halfEven (n d : Nat) : Nat :=
  match compare (2 * (n % d)) d with
  | .lt => n / d
  | .eq => n / d + n / d % 2
  | .gt => n / d + 1

/-- The weight of the last of the 53 leading bits. -/
def lastBit (n : Nat) : Nat := 2 ^ (n.log2 - 52)

/-- A natural number rounded to 53 bits. -/
def roundNat (n : Nat) : Nat := halfEven n (lastBit n) * lastBit n

/-- An integer rounded to 53 bits. -/
def roundInt (i : Int) : Int := i.sign * roundNat i.natAbs

theorem le_halfEven (n d : Nat) : n / d ≤ halfEven n d := by
  unfold halfEven
  split <;> omega

theorem halfEven_le (n d : Nat) : halfEven n d ≤ n / d + 1 := by
  unfold halfEven
  split <;> omega

theorem halfEven_mul (q : Nat) {d : Nat} (hd : 0 < d) : halfEven (q * d) d = q := by
  unfold halfEven
  rw [Nat.mul_mod_left, Nat.mul_zero, Nat.compare_eq_lt.mpr hd, Nat.mul_div_cancel _ hd]

theorem halfEven_mul_mul (n d : Nat) {c : Nat} (hc : 0 < c) :
    halfEven (n * c) (d * c) = halfEven n d := by
  have hcompare : compare (2 * (n % d) * c) (d * c) = compare (2 * (n % d)) d := by
    rw [Nat.compare_eq_ite_lt, Nat.compare_eq_ite_lt]
    simp only [Nat.mul_lt_mul_right hc]
  unfold halfEven
  rw [Nat.mul_mod_mul_right, ← Nat.mul_assoc, hcompare, Nat.mul_div_mul_right _ _ hc]

theorem roundNat_eq_self {n : Nat} (hn : n ≤ 2 ^ 53) : roundNat n = n := by
  unfold roundNat
  rcases hn.lt_or_eq with hlt | rfl
  · have hlog : n.log2 - 52 = 0 := by
      have := log2_lt_of_lt hlt (by decide)
      omega
    have hone := halfEven_mul n (d := 1) (by decide)
    rw [lastBit, hlog, pow_zero, Nat.mul_one]
    rwa [Nat.mul_one] at hone
  · rw [lastBit, Nat.log2_two_pow]
    rfl

/-! ## Shifting -/

/-- After a shift the digit behind the last one and whether anything follows it are known. -/
theorem shiftRight_succ (m k : Nat) :
    (⟨m, false, false⟩ : ExtendedMantissa) >>> (k + 1)
      = ⟨m / 2 ^ (k + 1), m / 2 ^ k % 2 != 0, m % 2 ^ k != 0⟩ := by
  induction k with
  | zero =>
      show ExtendedMantissa.shiftRightOne ⟨m, false, false⟩ = _
      simp [ExtendedMantissa.shiftRightOne, Nat.mod_one]
  | succ k ih =>
      have hsticky : (m / 2 ^ k % 2 != 0 || m % 2 ^ k != 0) = (m % 2 ^ (k + 1) != 0) := by
        rw [Nat.mod_pow_succ]
        rcases Nat.mod_two_eq_zero_or_one (m / 2 ^ k) with h | h <;> simp [h]
      show ExtendedMantissa.shiftRightOne ((⟨m, false, false⟩ : ExtendedMantissa) >>> (k + 1)) = _
      rw [ih, ExtendedMantissa.shiftRightOne, hsticky, Nat.div_div_eq_div_mul, ← Nat.pow_succ]

/-- Rounding what a shift leaves is rounding the quotient. -/
theorem roundedMantissa_shiftRight (m k : Nat) :
    ((⟨m, false, false⟩ : ExtendedMantissa) >>> k).roundedMantissa = halfEven m (2 ^ k) := by
  cases k with
  | zero =>
      have hone := halfEven_mul m (d := 1) (by decide)
      rw [Nat.mul_one] at hone
      exact hone.symm
  | succ k =>
      have hrest : m % 2 ^ (k + 1) = m % 2 ^ k + 2 ^ k * (m / 2 ^ k % 2) := Nat.mod_pow_succ
      have hlt : m % 2 ^ k < 2 ^ k := Nat.mod_lt _ (Nat.two_pow_pos k)
      have hpow : 2 ^ (k + 1) = 2 * 2 ^ k := Nat.pow_succ'
      rw [shiftRight_succ, halfEven]
      -- the digit behind the last one, and whether anything follows it
      rcases Nat.mod_two_eq_zero_or_one (m / 2 ^ k) with hround | hround <;>
        rw [hround] at hrest <;>
        rcases Nat.eq_zero_or_pos (m % 2 ^ k) with hsticky | hsticky
      · rw [Nat.compare_eq_lt.mpr (show 2 * (m % 2 ^ (k + 1)) < 2 ^ (k + 1) by omega), hround,
          hsticky]
        rfl
      · rw [Nat.compare_eq_lt.mpr (show 2 * (m % 2 ^ (k + 1)) < 2 ^ (k + 1) by omega), hround,
          bne_iff_ne.mpr hsticky.ne']
        rfl
      · rw [Nat.compare_eq_eq.mpr (show 2 * (m % 2 ^ (k + 1)) = 2 ^ (k + 1) by omega), hround,
          hsticky]
        rfl
      · rw [Nat.compare_eq_gt.mpr (show 2 ^ (k + 1) < 2 * (m % 2 ^ (k + 1)) by omega), hround,
          bne_iff_ne.mpr hsticky.ne']
        rfl

theorem shiftToTargetExponent_eq {m k : Nat} {e : Int} (hlog : m.log2 = 52 + k)
    (he : -1074 ≤ e + k) :
    shiftToTargetExponent .binary64 m e .exact
      = ((⟨m, false, false⟩ : ExtendedMantissa) >>> k, e + (k : Int)) := by
  have hshift : ((Format.targetExponent .binary64 (totalExponent m e)) - e).toNat = k := by
    simp only [Format.targetExponent, totalExponent, Format.mantissaBits, Format.minExponent, hlog]
    omega
  unfold shiftToTargetExponent shiftToExponent
  dsimp only
  rw [hshift]
  rfl

/-! ## Numbers with all their bits -/

/-- A number of 53 bits with a sign and a magnitude. -/
inductive Normal (s : Sign) (v : ℚ) : UnpackedFloat → Prop where
  | intro (m : Nat) (e : Int) (hm : 0 < m) (hleast : 2 ^ 52 ≤ m) (hbits : m < 2 ^ 53)
      (hlow : -1074 ≤ e) (hhigh : e ≤ 971) (hv : v = m * 2 ^ e) : Normal s v (.finite s m e hm)

/-- Rounding leaves 53 bits of a number that has as many.  The exponent rises by what is dropped, and
by one more if rounding up carries over. -/
theorem roundWithAccuracy_eq_finite (s : Sign) {m k : Nat} {e : Int} (hlog : m.log2 = 52 + k)
    (hlow : -1074 ≤ e + k) :
    ∃ (r : Nat) (f : Int) (hr : 0 < r), 2 ^ 52 ≤ r ∧ r < 2 ^ 53 ∧ e + k ≤ f ∧ f ≤ e + k + 1 ∧
      (halfEven m (2 ^ k) * 2 ^ (e + (k : Int)) : ℚ) = r * 2 ^ f ∧
      roundWithAccuracy .binary64 s m e .exact = .finite s r f hr := by
  have hm : m ≠ 0 := fun h => by
    rw [h, Nat.log2_zero] at hlog
    omega
  obtain ⟨hle, hlt⟩ := (Nat.log2_eq_iff hm).mp hlog
  have hfloor : 2 ^ 52 ≤ m / 2 ^ k := by
    rw [Nat.le_div_iff_mul_le (Nat.two_pow_pos k), ← Nat.pow_add]
    exact hle
  have hceil : m / 2 ^ k < 2 ^ 53 := by
    rw [Nat.div_lt_iff_lt_mul (Nat.two_pow_pos k), ← Nat.pow_add]
    rwa [show 52 + k + 1 = 53 + k by omega] at hlt
  have hleast := hfloor.trans (le_halfEven m (2 ^ k))
  have hmost := halfEven_le m (2 ^ k)
  unfold roundWithAccuracy
  rw [shiftToTargetExponent_eq hlog hlow]
  dsimp only
  rw [roundedMantissa_shiftRight]
  generalize halfEven m (2 ^ k) = r at *
  rcases (show r ≤ 2 ^ 53 by omega).lt_or_eq with hr | rfl
  · have hbits : r.log2 = 52 + 0 := (Nat.log2_eq_iff (by omega)).mpr ⟨hleast, hr⟩
    rw [shiftToTargetExponent_eq hbits (by omega)]
    have hpos : ((⟨r, false, false⟩ : ExtendedMantissa) >>> 0).mantissa ≠ 0 :=
      show r ≠ 0 by omega
    rw [dif_neg hpos]
    exact ⟨r, e + k + (0 : Nat), by omega, hleast, hr, by omega, by omega, by simp, rfl⟩
  · have hbits : (2 ^ 53).log2 = 52 + 1 := Nat.log2_two_pow
    rw [shiftToTargetExponent_eq hbits (by omega)]
    have hpos : ((⟨2 ^ 53, false, false⟩ : ExtendedMantissa) >>> 1).mantissa ≠ 0 := by decide
    rw [dif_neg hpos]
    refine ⟨2 ^ 52, e + k + 1, by decide, by decide, by decide, by omega, by omega, ?_, rfl⟩
    rw [zpow_add₀ (by norm_num) (e + (k : Int))]
    norm_num
    ring

theorem normal_roundWithAccuracy (s : Sign) {m k : Nat} {e : Int} (hlog : m.log2 = 52 + k)
    (hlow : -1074 ≤ e + k) (hhigh : e + k ≤ 970) :
    Normal s (halfEven m (2 ^ k) * 2 ^ (e + (k : Int)))
      (roundWithAccuracy .binary64 s m e .exact) := by
  obtain ⟨r, f, hr, hleast, hbits, hle, hge, hv, heq⟩ := roundWithAccuracy_eq_finite s hlog hlow
  rw [heq]
  exact .intro r f hr hleast hbits (by omega) (by omega) hv

theorem Normal.unpack_pack {s : Sign} {v : ℚ} {u : UnpackedFloat} (h : Normal s v u) :
    unpack .binary64 (pack .binary64 u) = u := by
  obtain ⟨m, e, hm, hleast, hbits, hlow, hhigh, -⟩ := h
  have hlog : m.log2 + 1 = Format.mantissaBits .binary64 := by
    rw [(Nat.log2_eq_iff hm.ne').mpr ⟨hleast, hbits⟩]
    rfl
  have hfits : ¬2 ^ 11 ≤ (e + 1023 + 52).toNat + 1 := by omega
  have hbiased : (BitVec.ofNat 11 (e + 1023 + 52).toNat).toNat = (e + 1023 + 52).toNat := by
    rw [BitVec.toNat_ofNat]
    omega
  have htop : BitVec.ofNat 11 (e + 1023 + 52).toNat ≠ -1#11 := fun heq => by
    have := congrArg BitVec.toNat heq
    rw [hbiased] at this
    change (e + 1023 + 52).toNat = 2047 at this
    omega
  have hbottom : BitVec.ofNat 11 (e + 1023 + 52).toNat ≠ 0#11 := fun heq => by
    have := congrArg BitVec.toNat heq
    rw [hbiased] at this
    change (e + 1023 + 52).toNat = 0 at this
    omega
  have hmantissa : (1#1 ++ BitVec.ofNat 52 m).toNat = m := by
    rw [BitVec.toNat_append, ← Nat.shiftLeft_add_eq_or_of_lt (BitVec.isLt _), BitVec.toNat_ofNat]
    show 1 <<< 52 + m % 2 ^ 52 = m
    omega
  have hpack : pack .binary64 (.finite s m e hm)
      = packComponents .binary64 s (BitVec.ofNat 11 (e + 1023 + 52).toNat) (BitVec.ofNat 52 m) := by
    have hbias : e + (Format.exponentBias .binary64 : Int) + ((52 : Nat) : Int) = e + 1023 + 52 := rfl
    simp only [pack]
    rw [hbias, if_neg hfits, if_pos hlog]
  rw [hpack]
  simp only [unpack, unpackMantissa_packComponents, unpackExponent_packComponents,
    unpackSign_packComponents, Sign.ofBitVec_toBitVec]
  rw [if_neg htop, if_neg hbottom]
  congr 1
  rw [hbiased]
  show ((e + 1023 + 52).toNat : Int) - (1023 + 52) = e
  omega

/-- Of two numbers with 53 bits the one with the smaller exponent is smaller. -/
theorem mul_zpow_lt_of_exponent_lt {m n : Nat} {e f : Int} (hm : m < 2 ^ 53) (hn : 2 ^ 52 ≤ n)
    (h : e < f) : (m : ℚ) * 2 ^ e < n * 2 ^ f := by
  have hpow : (2 : ℚ) ^ (e + 1) ≤ 2 ^ f := zpow_le_zpow_right₀ (by norm_num) (by omega)
  have hpos : (0 : ℚ) < 2 ^ e := zpow_pos (by norm_num) e
  have hm' : (m : ℚ) < 2 ^ 53 := by exact_mod_cast hm
  have hn' : (2 : ℚ) ^ 52 ≤ n := by exact_mod_cast hn
  calc (m : ℚ) * 2 ^ e < 2 ^ 53 * 2 ^ e := by gcongr
    _ = 2 ^ 52 * 2 ^ (e + 1) := by
      rw [zpow_add_one₀ (by norm_num)]
      ring
    _ ≤ n * 2 ^ f := by gcongr

theorem exponent_le {m n : Nat} {e f : Int} (hm : m < 2 ^ 53) (hn : 2 ^ 52 ≤ n)
    (h : (m : ℚ) * 2 ^ e = n * 2 ^ f) : f ≤ e :=
  Int.not_lt.mp fun hlt => (mul_zpow_lt_of_exponent_lt hm hn hlt).ne h

theorem Normal.eq_iff {s t : Sign} {v w : ℚ} {x y : UnpackedFloat} (hx : Normal s v x)
    (hy : Normal t w y) : x = y ↔ s = t ∧ v = w := by
  obtain ⟨m, e, hm, hmleast, hmbits, -, -, rfl⟩ := hx
  obtain ⟨n, f, hn, hnleast, hnbits, -, -, rfl⟩ := hy
  constructor
  · intro heq
    injection heq with hs hmn hef
    subst hmn hef
    exact ⟨hs, rfl⟩
  · rintro ⟨rfl, heq⟩
    obtain rfl : e = f :=
      le_antisymm (exponent_le hnbits hmleast heq.symm) (exponent_le hmbits hnleast heq)
    have hpos : (2 : ℚ) ^ e ≠ 0 := zpow_ne_zero e (by norm_num)
    obtain rfl : m = n := by exact_mod_cast mul_right_cancel₀ hpos heq
    rfl

theorem Normal.neg {s : Sign} {v : ℚ} {u : UnpackedFloat} (h : Normal s v u) :
    Normal (-s) v u.neg := by
  obtain ⟨m, e, hm, hleast, hbits, hlow, hhigh, hv⟩ := h
  exact .intro m e hm hleast hbits hlow hhigh hv

/-! ## Doubles of integers -/

theorem log2_mul_two_pow {n : Nat} (hn : n ≠ 0) (j : Nat) : (n * 2 ^ j).log2 = n.log2 + j := by
  obtain ⟨hle, hlt⟩ := (Nat.log2_eq_iff hn).mp rfl
  have hpos : 0 < 2 ^ j := Nat.two_pow_pos j
  refine (Nat.log2_eq_iff (Nat.mul_ne_zero hn hpos.ne')).mpr ⟨?_, ?_⟩
  · rw [Nat.pow_add]
    exact Nat.mul_le_mul_right _ hle
  · rw [Nat.add_right_comm, Nat.pow_add]
    exact Nat.mul_lt_mul_of_pos_right hlt hpos

/-- A number that fits is not changed by rounding, whatever zeros stand behind it. -/
theorem normal_roundWithAccuracy_of_fits (s : Sign) {m : Nat} (k : Nat) {e : Int}
    (hleast : 2 ^ 52 ≤ m) (hbits : m < 2 ^ 53) (hlow : -1074 ≤ e + k) (hhigh : e + k ≤ 970) :
    Normal s (m * 2 ^ (e + (k : Int))) (roundWithAccuracy .binary64 s (m * 2 ^ k) e .exact) := by
  have hm : m ≠ 0 := by omega
  have hlog : (m * 2 ^ k).log2 = 52 + k := by
    rw [log2_mul_two_pow hm, (Nat.log2_eq_iff hm).mpr ⟨hleast, hbits⟩]
  have h := normal_roundWithAccuracy s hlog hlow hhigh
  rwa [halfEven_mul m (Nat.two_pow_pos k)] at h

theorem normal_normalize {n : Nat} (hn : 0 < n) (hbits : n < 2 ^ 53) :
    Normal .positive n (UnpackedFloat.normalize .binary64 n 0 .positive) := by
  have hlog : n.log2 < 53 := log2_lt_of_lt hbits (by decide)
  have hgt : compare (n : Int) 0 = .gt := Int.compare_eq_gt.mpr (by omega)
  have hshift : (0 - Format.targetExponent .binary64 (totalExponent n 0)).toNat = 52 - n.log2 := by
    simp only [Format.targetExponent, totalExponent, Format.mantissaBits, Format.minExponent]
    omega
  have hround : UnpackedFloat.normalize .binary64 n 0 .positive
      = roundWithAccuracy .binary64 .positive (n * 2 ^ (52 - n.log2) * 2 ^ 0)
        (0 - (52 - n.log2 : Nat)) .exact := by
    unfold UnpackedFloat.normalize
    rw [hgt]
    unfold UnpackedFloat.round decreaseExponent
    dsimp only
    rw [Int.toNat_natCast, hshift, Nat.shiftLeft_eq, pow_zero, Nat.mul_one]
  have hfull : (n * 2 ^ (52 - n.log2)).log2 = 52 := by
    rw [log2_mul_two_pow hn.ne']
    omega
  obtain ⟨hleast, hmost⟩ :=
    (Nat.log2_eq_iff (Nat.mul_ne_zero hn.ne' (Nat.two_pow_pos _).ne')).mp hfull
  have hvalue : (n : ℚ) = (n * 2 ^ (52 - n.log2) : Nat) * 2 ^ (0 - (52 - n.log2 : Nat) + (0 : Nat) : Int) := by
    rw [Nat.cast_mul, Nat.cast_pow, Nat.cast_ofNat, Int.natCast_zero, add_zero, zero_sub, zpow_neg,
      zpow_natCast, mul_inv_cancel_right₀ (by positivity)]
  rw [hround, hvalue]
  exact normal_roundWithAccuracy_of_fits .positive 0 hleast hmost (by omega) (by omega)

theorem mul_finite (s t : Sign) (m n : Nat) (e f : Int) (hm : 0 < m) (hn : 0 < n) :
    mul .binary64 (.finite s m e hm) (.finite t n f hn)
      = roundWithAccuracy .binary64 (s * t) (m * n) (e + f) .exact := rfl

theorem normal_mul_one {n : Nat} {u : UnpackedFloat} (h : Normal .positive n u) (hn : n < 2 ^ 53) :
    Normal .positive n (mul .binary64 u (.finite .positive (2 ^ 52) (-52) (by decide))) := by
  obtain ⟨m, e, hm, hleast, hbits, hlow, hhigh, hv⟩ := h
  have he : e ≤ 0 := exponent_le hn hleast (e := 0) (by rwa [zpow_zero, mul_one])
  have hexponent : e = e + -52 + (52 : Nat) := by omega
  have h := normal_roundWithAccuracy_of_fits .positive 52 (e := e + -52) hleast hbits (by omega)
    (by omega)
  rw [← hexponent, ← hv] at h
  exact h

/-- An integer is widened by 53 bits before it is rounded. -/
theorem ofScientific_eq_roundWithAccuracy {n : Nat} (hn : n ≠ 0) :
    ofScientific .binary64 n 0
      = roundWithAccuracy .binary64 .positive (n * 2 ^ 53) (-53) .exact := by
  have hlow : ¬(0 : Int) < -((2 : Int) ^ 11 + n.log2) := by omega
  unfold ofScientific
  rw [dif_neg hn, if_neg (by decide), if_neg hlow, if_pos (by decide), mul_finite,
    show Format.mantissaBits .binary64 = 53 from rfl, Nat.shiftLeft_eq, Int.toNat_zero, pow_zero,
    Nat.mul_one]
  rfl

/-- A large integer loses what stands behind its leading bits. -/
theorem normal_ofScientific {n : Nat} (hn : 2 ^ 53 ≤ n) (hword : n < 2 ^ 64) :
    Normal .positive (roundNat n) (ofScientific .binary64 n 0) := by
  have hlog : n.log2 < 64 := log2_lt_of_lt hword (by decide)
  have hleast : 53 ≤ n.log2 := (Nat.le_log2 (by omega)).mpr hn
  have hpos : n ≠ 0 := by omega
  have hfull : (n * 2 ^ 53).log2 = 52 + (n.log2 - 52 + 53) := by
    rw [log2_mul_two_pow hpos]
    omega
  have h := normal_roundWithAccuracy .positive hfull (e := -53) (by omega) (by omega)
  have hvalue : (roundNat n : ℚ)
      = halfEven (n * 2 ^ 53) (2 ^ (n.log2 - 52 + 53)) * 2 ^ (-53 + (n.log2 - 52 + 53 : Nat) : Int) := by
    have hexponent : (-53 + (n.log2 - 52 + 53 : Nat) : Int) = (n.log2 - 52 : Nat) := by omega
    rw [Nat.pow_add, halfEven_mul_mul _ _ (Nat.two_pow_pos 53), hexponent, zpow_natCast, roundNat,
      lastBit, Nat.cast_mul, Nat.cast_pow, Nat.cast_ofNat]
  rwa [ofScientific_eq_roundWithAccuracy hpos, hvalue]

theorem normal_ofNat {n : Nat} (hn : 0 < n) (hword : n < 2 ^ 64) :
    Normal .positive (roundNat n) (unpacked (Float.ofNat n)) := by
  unfold Float.ofNat
  change Normal .positive (roundNat n) (unpacked (Float.ofScientific n false 0))
  unfold Float.ofScientific
  split
  · next h =>
    have hunpack : (Float.ofBits 0x3FF0000000000000).toModel.unpack
        = .finite .positive (2 ^ 52) (-52) (by decide) := rfl
    have hexact := normal_normalize hn h.1
    have hone := normal_mul_one hexact h.1
    have hsame : n.toUInt64.toNat = n := Nat.mod_eq_of_lt hword
    rw [roundNat_eq_self h.1.le]
    change Normal .positive n (unpack .binary64 (pack .binary64 (mul .binary64
      (unpack .binary64 (pack .binary64
        (UnpackedFloat.normalize .binary64 (n.toUInt64.toNat) 0 .positive)))
      (Float.ofBits 0x3FF0000000000000).toModel.unpack)))
    rw [hsame, hexact.unpack_pack, hunpack, hone.unpack_pack]
    exact hone
  · next h =>
    have hlarge := normal_ofScientific (by omega) hword
    change Normal .positive (roundNat n)
      (unpack .binary64 (pack .binary64 (ofScientific .binary64 n 0)))
    rwa [hlarge.unpack_pack]

theorem normal_ofNat_of_lt {n : Nat} (hn : 0 < n) (hbits : n < 2 ^ 53) :
    Normal .positive n (unpacked (Float.ofNat n)) := by
  have h := normal_ofNat hn (hbits.trans (by decide))
  rwa [roundNat_eq_self hbits.le] at h

/-- An unpacked number is an integer. -/
inductive Denotes : UnpackedFloat → Int → Prop where
  | zero : Denotes (.zero .positive) 0
  | normal {s : Sign} {n : Nat} {u : UnpackedFloat} (hn : 0 < n) (h : Normal s n u) :
      Denotes u (s.apply n)

theorem apply_inj {s t : Sign} {m n : Nat} (hm : 0 < m) :
    s.apply m = t.apply n ↔ s = t ∧ m = n := by
  cases s <;> cases t <;> simp [Sign.apply] <;> omega

theorem apply_ne_zero {s : Sign} {n : Nat} (hn : 0 < n) : s.apply n ≠ 0 := by
  cases s <;> simp [Sign.apply] <;> omega

theorem Normal.beq_zero {s t : Sign} {v : ℚ} {u : UnpackedFloat} (h : Normal s v u) :
    u.beq (.zero t) = false ∧ UnpackedFloat.beq (.zero t) u = false := by
  obtain ⟨m, e, hm, -⟩ := h
  cases s <;> exact ⟨rfl, rfl⟩

theorem Normal.beq_iff {s t : Sign} {v w : ℚ} {x y : UnpackedFloat} (hx : Normal s v x)
    (hy : Normal t w y) : x.beq y = true ↔ s = t ∧ v = w := by
  rw [← hx.eq_iff hy, beq_iff_ne_notANumber_and_eq]
  obtain ⟨m, e, hm, -⟩ := hx
  obtain ⟨n, f, hn, -⟩ := hy
  simp

theorem Denotes.beq_iff {u v : UnpackedFloat} {i j : Int} (hu : Denotes u i) (hv : Denotes v j) :
    u.beq v = true ↔ i = j := by
  cases hu with
  | zero =>
      cases hv with
      | zero => exact iff_of_true rfl rfl
      | normal hn h =>
          rw [h.beq_zero.2]
          exact iff_of_false Bool.false_ne_true (apply_ne_zero hn).symm
  | normal hm h =>
      cases hv with
      | zero =>
          rw [h.beq_zero.1]
          exact iff_of_false Bool.false_ne_true (apply_ne_zero hm)
      | normal _ h' => rw [h.beq_iff h', Nat.cast_inj, apply_inj hm]

theorem roundNat_pos {n : Nat} (hn : 0 < n) : 0 < roundNat n := by
  have hle : lastBit n ≤ n :=
    (Nat.pow_le_pow_right (by decide) (Nat.sub_le _ _)).trans (Nat.log2_self_le hn.ne')
  have hpos : 0 < lastBit n := Nat.two_pow_pos _
  exact Nat.mul_pos ((Nat.div_pos hle hpos).trans_le (le_halfEven _ _)) hpos

theorem denotes_ofInt {i : Int} (hi : i.natAbs < 2 ^ 64) :
    Denotes (unpacked (Float.ofInt i)) (roundInt i) := by
  match i with
  | .ofNat 0 => exact .zero
  | .ofNat (n + 1) =>
      have h := Denotes.normal (roundNat_pos n.succ_pos) (normal_ofNat n.succ_pos hi)
      rwa [show Sign.positive.apply (roundNat (n + 1)) = roundInt (.ofNat (n + 1)) from
        (Int.one_mul _).symm] at h
  | .negSucc n =>
      have hneg := (normal_ofNat n.succ_pos hi).neg
      have h := Denotes.normal (roundNat_pos n.succ_pos) hneg
      rw [← hneg.unpack_pack, show (-Sign.positive).apply (roundNat (n + 1)) = roundInt (.negSucc n)
        from (Int.neg_one_mul _).symm] at h
      exact h

/-- Two integers become equal doubles exactly if they are rounded to one integer. -/
theorem ofInt_beq_iff {i j : Int} (hi : i.natAbs < 2 ^ 64) (hj : j.natAbs < 2 ^ 64) :
    (Float.ofInt i == Float.ofInt j) = true ↔ roundInt i = roundInt j :=
  (denotes_ofInt hi).beq_iff (denotes_ofInt hj)

end FieldRules.Decimal

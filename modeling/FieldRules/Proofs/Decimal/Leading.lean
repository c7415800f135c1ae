/-
# `Proofs.Decimal.Leading` — laws of rounding to the 53 leading bits

`roundNat` keeps the 53 leading bits of a natural number.  Zeros behind the bits of a number are
nothing to it (`roundNat_mul_two_pow`), and so rounding twice is rounding once (`roundNat_roundNat`).

What stands behind a number counts only if the number alone is half way between its two neighbours
and goes to the lower one: `TiesDown` is that case, and `roundNat_append` says what becomes of a
number of more than 53 bits when `p` more bits are put behind it.

No number of 53 bits, with any exponent, is nearer than the one that `roundNat` gives, and if another
one is as near, the given one is the even one of the two (`roundNat_nearest`).
-/
import FieldRules.Proofs.Decimal.Rounding

namespace FieldRules.Decimal

/-! ## Zeros behind a number -/

theorem lastBit_pos (n : Nat) : 0 < lastBit n := Nat.two_pow_pos _

theorem lt_two_pow_of_log2_lt {n k : Nat} (h : n.log2 < k) : n < 2 ^ k := by
  rcases Nat.eq_zero_or_pos n with rfl | hn
  · exact Nat.two_pow_pos k
  · exact (Nat.log2_lt hn.ne').mp h

theorem roundNat_zero : roundNat 0 = 0 := roundNat_eq_self (Nat.zero_le _)

theorem roundNat_mul_two_pow (n j : Nat) : roundNat (n * 2 ^ j) = roundNat n * 2 ^ j := by
  rcases Nat.eq_zero_or_pos n with rfl | hn
  · rw [Nat.zero_mul, roundNat_zero, Nat.zero_mul]
  · have hlog : (n * 2 ^ j).log2 = n.log2 + j := log2_mul_two_pow hn.ne' j
    rcases Nat.lt_or_ge n.log2 52 with hsmall | hlarge
    · -- the number has room for some of the zeros, and the others are dropped
      have hn53 : n ≤ 2 ^ 53 :=
        (lt_two_pow_of_log2_lt hsmall).le.trans (Nat.pow_le_pow_right (by decide) (by decide))
      have hroom : n.log2 + j - 52 ≤ j := by omega
      have hsplit : n * 2 ^ j
          = n * 2 ^ (j - (n.log2 + j - 52)) * 2 ^ (n.log2 + j - 52) := by
        rw [Nat.mul_assoc, ← Nat.pow_add, Nat.sub_add_cancel hroom]
      rw [roundNat_eq_self hn53, roundNat, lastBit, hlog, hsplit,
        halfEven_mul _ (Nat.two_pow_pos _)]
    · have hbit : lastBit (n * 2 ^ j) = lastBit n * 2 ^ j := by
        rw [lastBit, lastBit, hlog, ← Nat.pow_add]
        congr 1
        omega
      rw [roundNat, hbit, halfEven_mul_mul _ _ (Nat.two_pow_pos j), roundNat, Nat.mul_assoc]

/-- The 53 leading bits, with one more if rounding up carries over. -/
theorem halfEven_lastBit_le (n : Nat) : halfEven n (lastBit n) ≤ 2 ^ 53 := by
  have hlt : n < 2 ^ 53 * lastBit n := by
    rw [lastBit, ← Nat.pow_add]
    refine lt_two_pow_of_log2_lt ?_
    omega
  have hquotient : n / lastBit n < 2 ^ 53 := (Nat.div_lt_iff_lt_mul (lastBit_pos n)).mpr hlt
  exact (halfEven_le n (lastBit n)).trans hquotient

theorem roundNat_of_mul_zpow_eq {m n : Nat} {e : Int} (h : (m : ℚ) * 2 ^ e = n) :
    (roundNat m : ℚ) * 2 ^ e = roundNat n := by
  obtain ⟨j, rfl | rfl⟩ := Int.eq_nat_or_neg e
  · rw [zpow_natCast] at h ⊢
    have hn : m * 2 ^ j = n := by exact_mod_cast h
    rw [← hn, roundNat_mul_two_pow]
    push_cast
    rfl
  · have hpos : (2 : ℚ) ^ j ≠ 0 := pow_ne_zero j (by norm_num)
    rw [zpow_neg, zpow_natCast, ← div_eq_mul_inv, div_eq_iff hpos] at h ⊢
    have hm : m = n * 2 ^ j := by exact_mod_cast h
    rw [hm, roundNat_mul_two_pow]
    push_cast
    rfl

theorem roundNat_roundNat (n : Nat) : roundNat (roundNat n) = roundNat n := by
  calc roundNat (roundNat n)
      = roundNat (halfEven n (lastBit n) * 2 ^ (n.log2 - 52)) := rfl
    _ = roundNat (halfEven n (lastBit n)) * 2 ^ (n.log2 - 52) := roundNat_mul_two_pow _ _
    _ = halfEven n (lastBit n) * lastBit n := by rw [roundNat_eq_self (halfEven_lastBit_le n), lastBit]

theorem two_pow_le_roundNat {n j : Nat} (h : 2 ^ j ≤ n) : 2 ^ j ≤ roundNat n := by
  have hn : n ≠ 0 := (Nat.lt_of_lt_of_le (Nat.two_pow_pos j) h).ne'
  have hj : j ≤ n.log2 := (Nat.le_log2 hn).mpr h
  rcases Nat.lt_or_ge n (2 ^ 53) with hsmall | hlarge
  · rwa [roundNat_eq_self hsmall.le]
  · have hlog : 53 ≤ n.log2 := (Nat.le_log2 hn).mpr hlarge
    have hleast : 2 ^ 52 ≤ n / lastBit n := by
      rw [Nat.le_div_iff_mul_le (lastBit_pos n), lastBit, ← Nat.pow_add,
        show 52 + (n.log2 - 52) = n.log2 by omega]
      exact Nat.log2_self_le hn
    calc 2 ^ j ≤ 2 ^ n.log2 := Nat.pow_le_pow_right (by decide) hj
      _ = 2 ^ 52 * lastBit n := by
        rw [lastBit, ← Nat.pow_add]
        congr 1
        omega
      _ ≤ halfEven n (lastBit n) * lastBit n :=
        Nat.mul_le_mul_right _ (hleast.trans (le_halfEven _ _))

/-! ## Bits behind a number -/

/-- A number is half way between two numbers of 53 bits, and the lower one is even. -/
def TiesDown (n : Nat) : Prop := 2 * (n % lastBit n) = lastBit n ∧ n / lastBit n % 2 = 0

instance (n : Nat) : Decidable (TiesDown n) := inferInstanceAs (Decidable (_ ∧ _))

theorem halfEven_of_lt {n d : Nat} (h : 2 * (n % d) < d) : halfEven n d = n / d := by
  rw [halfEven, Nat.compare_eq_lt.mpr h]

theorem halfEven_of_eq {n d : Nat} (h : 2 * (n % d) = d) : halfEven n d = n / d + n / d % 2 := by
  rw [halfEven, Nat.compare_eq_eq.mpr h]

theorem halfEven_of_gt {n d : Nat} (h : d < 2 * (n % d)) : halfEven n d = n / d + 1 := by
  rw [halfEven, Nat.compare_eq_gt.mpr h]

theorem halfEven_of_tiesDown {n : Nat} (h : TiesDown n) :
    halfEven n (lastBit n) = n / lastBit n := by
  rw [halfEven_of_eq h.1, h.2, Nat.add_zero]

/-- Where the divisor is even, what stands behind a number breaks a tie upwards and changes nothing
else. -/
theorem halfEven_append (n c : Nat) {p t : Nat} (ht : t < p) :
    halfEven (n * p + t) (2 * c * p) =
      if (2 * (n % (2 * c)) = 2 * c ∧ n / (2 * c) % 2 = 0) ∧ t ≠ 0 then n / (2 * c) + 1
      else halfEven n (2 * c) := by
  have hp : 0 < p := Nat.zero_lt_of_lt ht
  have hdiv : (n * p + t) / (2 * c * p) = n / (2 * c) := by
    rw [Nat.mul_comm (2 * c) p, ← Nat.div_div_eq_div_mul, Nat.add_comm, Nat.add_mul_div_right _ _ hp,
      Nat.div_eq_of_lt ht, Nat.zero_add]
  have hmod : (n * p + t) % (2 * c * p) = n % (2 * c) * p + t := by
    have hwhole := Nat.div_add_mod (n * p + t) (2 * c * p)
    have hexpand : n * p = 2 * c * p * (n / (2 * c)) + n % (2 * c) * p := by
      conv_lhs => rw [← Nat.div_add_mod n (2 * c)]
      ring
    rw [hdiv] at hwhole
    omega
  rcases Nat.lt_trichotomy (n % (2 * c)) c with hlt | heq | hgt
  · -- the divisor is even, so a remainder below the half is below it whatever follows
    have hbound : (n % (2 * c) + 1) * p ≤ c * p := Nat.mul_le_mul_right p hlt
    have hbelow : 2 * ((n * p + t) % (2 * c * p)) < 2 * c * p := by
      rw [hmod]
      linarith
    rw [halfEven_of_lt hbelow, halfEven_of_lt (show 2 * (n % (2 * c)) < 2 * c by omega), hdiv,
      if_neg (by omega)]
  · rcases Nat.eq_zero_or_pos t with rfl | hpos
    · have htie : 2 * ((n * p + 0) % (2 * c * p)) = 2 * c * p := by
        rw [hmod, heq]
        ring
      rw [halfEven_of_eq htie, halfEven_of_eq (show 2 * (n % (2 * c)) = 2 * c by omega), hdiv,
        if_neg (by omega)]
    · have habove : 2 * c * p < 2 * ((n * p + t) % (2 * c * p)) := by
        rw [hmod, heq]
        linarith
      rw [halfEven_of_gt habove, halfEven_of_eq (show 2 * (n % (2 * c)) = 2 * c by omega), hdiv]
      split_ifs with h
      · rfl
      · omega
  · have hbound : c * p < n % (2 * c) * p := Nat.mul_lt_mul_of_pos_right hgt hp
    have habove : 2 * c * p < 2 * ((n * p + t) % (2 * c * p)) := by
      rw [hmod]
      linarith
    rw [halfEven_of_gt habove, halfEven_of_gt (show 2 * c < 2 * (n % (2 * c)) by omega), hdiv,
      ite_self]

theorem log2_append {n p t : Nat} (hn : n ≠ 0) (ht : t < 2 ^ p) :
    (n * 2 ^ p + t).log2 = n.log2 + p := by
  obtain ⟨hle, hlt⟩ := (Nat.log2_eq_iff hn).mp rfl
  have hpos : n * 2 ^ p ≠ 0 := Nat.mul_ne_zero hn (Nat.two_pow_pos p).ne'
  refine (Nat.log2_eq_iff (by omega)).mpr ⟨?_, ?_⟩
  · rw [Nat.pow_add]
    exact (Nat.mul_le_mul_right _ hle).trans (Nat.le_add_right _ _)
  · calc n * 2 ^ p + t < n * 2 ^ p + 2 ^ p := Nat.add_lt_add_left ht _
      _ = (n + 1) * 2 ^ p := (Nat.succ_mul _ _).symm
      _ ≤ 2 ^ (n.log2 + 1) * 2 ^ p := Nat.mul_le_mul_right _ hlt
      _ = 2 ^ (n.log2 + p + 1) := by
        rw [← Nat.pow_add]
        congr 1
        omega

/-- A number of more than 53 bits with `p` more bits behind it. -/
theorem roundNat_append {n p t : Nat} (hn : 2 ^ 53 ≤ n) (ht : t < 2 ^ p) :
    roundNat (n * 2 ^ p + t) =
      if TiesDown n ∧ t ≠ 0 then (roundNat n + lastBit n) * 2 ^ p else roundNat n * 2 ^ p := by
  have hpos : n ≠ 0 := (Nat.lt_of_lt_of_le (Nat.two_pow_pos 53) hn).ne'
  have hlog : 53 ≤ n.log2 := (Nat.le_log2 hpos).mpr hn
  have hbit : lastBit (n * 2 ^ p + t) = lastBit n * 2 ^ p := by
    rw [lastBit, lastBit, log2_append hpos ht, ← Nat.pow_add]
    congr 1
    omega
  have heven : lastBit n = 2 * 2 ^ (n.log2 - 53) := by
    rw [lastBit, ← Nat.pow_succ']
    congr 1
    omega
  have hround : halfEven (n * 2 ^ p + t) (lastBit n * 2 ^ p) =
      if TiesDown n ∧ t ≠ 0 then n / lastBit n + 1 else halfEven n (lastBit n) := by
    have h := halfEven_append n (2 ^ (n.log2 - 53)) ht
    rwa [← heven] at h
  rw [roundNat, hbit, hround]
  split
  · next h =>
    rw [roundNat, halfEven_of_tiesDown h.1]
    ring
  · rw [roundNat, Nat.mul_assoc]

theorem not_tiesDown_of_roundNat_eq_self {n : Nat} (h : roundNat n = n) : ¬TiesDown n := by
  intro htie
  have hmod : n % lastBit n = 0 := Nat.mod_eq_zero_of_dvd ⟨_, h.symm.trans (Nat.mul_comm _ _)⟩
  have hbit := lastBit_pos n
  have := htie.1
  omega

theorem roundNat_le_of_tiesDown {n : Nat} (h : TiesDown n) : roundNat n ≤ n := by
  rw [roundNat, halfEven_of_tiesDown h]
  exact Nat.div_mul_le_self _ _

/-- Digits behind a number do not lead past the end of the range, if zeros do not. -/
theorem le_mul_two_pow_of_le_append {k n p t : Nat} (hn : 0 < n) (ht : t < 2 ^ p)
    (h : 2 ^ k ≤ n * 2 ^ p + t) : 2 ^ k ≤ n * 2 ^ p := by
  rcases Nat.le_total k p with hle | hle
  · exact (Nat.pow_le_pow_right (by decide) hle).trans (Nat.le_mul_of_pos_left _ hn)
  · obtain ⟨j, rfl⟩ := Nat.exists_eq_add_of_le' hle
    have hlt : 2 ^ j * 2 ^ p < (n + 1) * 2 ^ p := by
      rw [← Nat.pow_add, Nat.add_mul, Nat.one_mul]
      omega
    have hj : 2 ^ j ≤ n := Nat.lt_succ_iff.mp (Nat.lt_of_mul_lt_mul_right hlt)
    rw [Nat.pow_add]
    exact Nat.mul_le_mul_right _ hj

/-! ## The nearest number -/

/-- The rounded number is off by half of the divisor at most, and is even where it is off by half. -/
theorem halfEven_error (n : Nat) {d : Nat} (hd : 0 < d) :
    2 * |(n : Int) - halfEven n d * d| ≤ d ∧
      (2 * |(n : Int) - halfEven n d * d| = d → halfEven n d % 2 = 0) := by
  have hn : (n : Int) = (n / d : Nat) * d + (n % d : Nat) := by
    exact_mod_cast (Nat.div_add_mod' n d).symm
  have hrest : n % d < d := Nat.mod_lt n hd
  have hfloor : |(n : Int) - (n / d : Nat) * d| = (n % d : Nat) := by
    rw [abs_of_nonneg (by omega)]
    omega
  have hceil : |(n : Int) - ((n / d : Nat) + 1) * d| = d - (n % d : Nat) := by
    rw [abs_of_nonpos (by rw [Int.add_mul]; omega), Int.add_mul]
    omega
  rcases Nat.lt_trichotomy (2 * (n % d)) d with hlt | heq | hgt
  · rw [halfEven_of_lt hlt, hfloor]
    omega
  · rw [halfEven_of_eq heq]
    rcases Nat.mod_two_eq_zero_or_one (n / d) with hpar | hpar <;> rw [hpar]
    · rw [Nat.add_zero, hfloor]
      omega
    · rw [Nat.cast_add, Nat.cast_one, hceil]
      omega
  · rw [halfEven_of_gt hgt, Nat.cast_add, Nat.cast_one, hceil]
    omega

/-- No multiple is nearer than the one that rounding takes; one that is as near is the odd one of the
two multiples around the number. -/
theorem halfEven_nearest (n : Nat) {d : Nat} (hd : 0 < d) (a : Int) :
    |(n : Int) - halfEven n d * d| < |(n : Int) - a * d| ∨ a = halfEven n d ∨
      (|(n : Int) - a * d| = |(n : Int) - halfEven n d * d| ∧
        halfEven n d % 2 = 0 ∧ a % 2 = 1 ∧ (n / d : Nat) ≤ a) := by
  obtain ⟨herror, htie⟩ := halfEven_error n hd
  rcases eq_or_ne a (halfEven n d) with hsame | hother
  · exact .inr (.inl hsame)
  · -- two multiples are apart by the divisor at least
    have hapart : |(halfEven n d : Int) - a| * d = |halfEven n d * d - a * d| := by
      rw [← Int.sub_mul, abs_mul, Nat.abs_cast]
    have hsteps : 1 ≤ |(halfEven n d : Int) - a| := Int.one_le_abs (sub_ne_zero.mpr hother.symm)
    have hdistance : 1 * d ≤ |(halfEven n d : Int) - a| * d :=
      Int.mul_le_mul_of_nonneg_right hsteps (by omega)
    have htriangle := abs_sub_le (halfEven n d * d : Int) n (a * d)
    rw [abs_sub_comm (halfEven n d * d : Int) n] at htriangle
    rcases lt_or_ge |(n : Int) - halfEven n d * d| |(n : Int) - a * d| with hlt | hge
    · exact .inl hlt
    · have heven := htie (by omega)
      have hone : |(halfEven n d : Int) - a| * d < 2 * d := by omega
      have hnext := abs_lt.mp (lt_of_mul_lt_mul_right hone (by omega))
      refine .inr (.inr ⟨by omega, heven, by omega, ?_⟩)
      by_contra hbelow
      have hfloor : (a + 1) * d ≤ (n / d : Nat) * d :=
        Int.mul_le_mul_of_nonneg_right (by omega) (by omega)
      have hn : ((n / d : Nat) : Int) * d ≤ n := by exact_mod_cast Nat.div_mul_le_self n d
      have hfar := le_abs_self ((n : Int) - a * d)
      rw [Int.add_mul] at hfloor
      omega

theorem roundNat_nearest_multiple (n : Nat) (b : Int) :
    |(n : ℚ) - roundNat n| < |(n : ℚ) - b * lastBit n| ∨ (b : ℚ) * lastBit n = roundNat n ∨
      (|(n : ℚ) - b * lastBit n| = |(n : ℚ) - roundNat n| ∧ halfEven n (lastBit n) % 2 = 0 ∧
        b % 2 = 1 ∧ (n / lastBit n : Nat) ≤ b) := by
  rw [roundNat, Nat.cast_mul]
  rcases halfEven_nearest n (lastBit_pos n) b with hlt | rfl | ⟨htie, heven, hodd, hle⟩
  · exact .inl (by exact_mod_cast hlt)
  · exact .inr (.inl rfl)
  · exact .inr (.inr ⟨by exact_mod_cast htie, heven, hodd, hle⟩)

theorem lastBit_cast (n : Nat) : (lastBit n : ℚ) = 2 ^ ((n.log2 - 52 : Nat) : Int) := by
  rw [lastBit, Nat.cast_pow, Nat.cast_ofNat, zpow_natCast]

theorem two_pow_mul_lastBit_le {n : Nat} (hn : 2 ^ 53 ≤ n) : 2 ^ 52 * lastBit n ≤ n := by
  have hpos : n ≠ 0 := (Nat.lt_of_lt_of_le (Nat.two_pow_pos 53) hn).ne'
  have hlog : 53 ≤ n.log2 := (Nat.le_log2 hpos).mpr hn
  rw [lastBit, ← Nat.pow_add, show 52 + (n.log2 - 52) = n.log2 by omega]
  exact Nat.log2_self_le hpos

/-- A number of 53 bits whose last bit weighs less than that of a number of more than 53 bits is
smaller, and farther from it than the rounded one. -/
theorem abs_sub_roundNat_lt {n : Nat} (hn : 2 ^ 53 ≤ n) {a e : Int} (ha : |a| < 2 ^ 53)
    (he : e < (n.log2 - 52 : Nat)) : |(n : ℚ) - roundNat n| < |(n : ℚ) - a * 2 ^ e| := by
  have hleast : (2 : ℚ) ^ 52 * lastBit n ≤ n := by exact_mod_cast two_pow_mul_lastBit_le hn
  have hfine : (a : ℚ) * 2 ^ e < 2 ^ 52 * lastBit n := by
    have hbits : a.natAbs < 2 ^ 53 := by
      rw [Int.abs_eq_natAbs] at ha
      exact_mod_cast ha
    have hle : (a : ℚ) ≤ a.natAbs := by
      rw [Nat.cast_natAbs]
      exact_mod_cast le_abs_self a
    calc (a : ℚ) * 2 ^ e ≤ a.natAbs * 2 ^ e := by gcongr
      _ < (2 ^ 52 : Nat) * 2 ^ ((n.log2 - 52 : Nat) : Int) :=
        mul_zpow_lt_of_exponent_lt hbits le_rfl he
      _ = 2 ^ 52 * lastBit n := by rw [lastBit_cast, Nat.cast_pow, Nat.cast_ofNat]
  have hcoarse : |(n : ℚ) - roundNat n| ≤ |(n : ℚ) - 2 ^ 52 * lastBit n| := by
    have hmultiple := roundNat_nearest_multiple n (2 ^ 52)
    rw [Int.cast_pow, Int.cast_ofNat] at hmultiple
    rcases hmultiple with hlt | heq | ⟨htie, -⟩
    · exact hlt.le
    · rw [heq]
    · exact htie.ge
  refine hcoarse.trans_lt ?_
  rw [abs_of_nonneg (sub_nonneg.mpr hleast), abs_of_pos (sub_pos.mpr (hfine.trans_le hleast))]
  linarith

/-- No number of 53 bits, with any exponent, is nearer than the one that rounding gives.  Where one
is as near, the given one is the even one of the two. -/
theorem roundNat_nearest (n : Nat) {a : Int} (ha : |a| < 2 ^ 53) (e : Int) :
    |(n : ℚ) - roundNat n| < |(n : ℚ) - a * 2 ^ e| ∨ (a : ℚ) * 2 ^ e = roundNat n ∨
      (|(n : ℚ) - a * 2 ^ e| = |(n : ℚ) - roundNat n| ∧ halfEven n (lastBit n) % 2 = 0 ∧
        ∃ c : Nat, (a : ℚ) * 2 ^ e = c * lastBit n ∧ c % 2 = 1 ∧ 2 ^ 52 ≤ c) := by
  rcases Nat.lt_or_ge n (2 ^ 53) with hsmall | hlarge
  · -- the number is one of 53 bits itself
    rw [roundNat_eq_self hsmall.le, sub_self, abs_zero]
    rcases eq_or_ne ((a : ℚ) * 2 ^ e) n with heq | hne
    · exact .inr (.inl heq)
    · exact .inl (abs_pos.mpr (sub_ne_zero.mpr hne.symm))
  · rcases Int.lt_or_le e (n.log2 - 52 : Nat) with hfine | hcoarse
    · exact .inl (abs_sub_roundNat_lt hlarge ha hfine)
    · -- a multiple of the last bit
      obtain ⟨j, rfl⟩ : ∃ j : Nat, e = j + (n.log2 - 52 : Nat) :=
        ⟨(e - (n.log2 - 52 : Nat)).toNat, by omega⟩
      have hvalue : (a : ℚ) * 2 ^ ((j : Int) + (n.log2 - 52 : Nat))
          = (a * 2 ^ j : Int) * lastBit n := by
        rw [lastBit_cast, zpow_add₀ (by norm_num), zpow_natCast, ← mul_assoc]
        push_cast
        rfl
      rw [hvalue]
      rcases roundNat_nearest_multiple n (a * 2 ^ j) with hlt | heq | ⟨htie, heven, hodd, hfloor⟩
      · exact .inl hlt
      · exact .inr (.inl heq)
      · have hleast : 2 ^ 52 ≤ n / lastBit n :=
          (Nat.le_div_iff_mul_le (lastBit_pos n)).mpr (two_pow_mul_lastBit_le hlarge)
        obtain ⟨c, hc⟩ := Int.eq_ofNat_of_zero_le (show 0 ≤ a * 2 ^ j by omega)
        rw [hc] at hodd hfloor
        refine .inr (.inr ⟨htie, heven, c, ?_, by omega, by omega⟩)
        rw [hc, Int.cast_natCast]

/-! ## The end of the range -/

/-- Rounding stays below an even multiple up to half way from the multiple before it. -/
theorem halfEven_lt_iff {n d q : Nat} (hq : q % 2 = 0) (hd : 0 < d) :
    halfEven n d < q ↔ 2 * n + d < 2 * (q * d) := by
  have hn := Nat.div_add_mod' n d
  have hrest := Nat.mod_lt n hd
  rcases Nat.lt_or_ge (n / d + 1) q with hless | hmore
  · have hceil := halfEven_le n d
    have hmul : (n / d + 2) * d ≤ q * d := Nat.mul_le_mul_right d hless
    rw [Nat.add_mul] at hmul
    exact iff_of_true (by omega) (by omega)
  · rcases hmore.eq_or_lt with rfl | hmore
    · -- the multiple below is odd, and a tie goes up
      rw [Nat.add_mul, Nat.one_mul]
      rcases Nat.lt_trichotomy (2 * (n % d)) d with hbelow | htie | habove
      · rw [halfEven_of_lt hbelow]
        exact iff_of_true (by omega) (by omega)
      · rw [halfEven_of_eq htie]
        exact iff_of_false (by omega) (by omega)
      · rw [halfEven_of_gt habove]
        exact iff_of_false (by omega) (by omega)
    · have hfloor := le_halfEven n d
      have hmul : q * d ≤ n / d * d := Nat.mul_le_mul_right d (Nat.lt_succ_iff.mp hmore)
      exact iff_of_false (by omega) (by omega)

/-- Rounding reaches a power of two from half the weight of the last bit below it. -/
theorem roundNat_lt_two_pow_iff (n p : Nat) :
    roundNat n < 2 ^ (54 + p) ↔ n < 2 ^ (54 + p) - 2 ^ p := by
  have htop : 2 ^ (54 + p) = 2 ^ 53 * (2 * 2 ^ p) := by
    rw [← Nat.pow_succ', ← Nat.pow_add]
    congr 1
    omega
  have hhalf : 2 ^ (53 + p) = 2 ^ 53 * 2 ^ p := Nat.pow_add 2 53 p
  have hp := Nat.two_pow_pos p
  rcases Nat.lt_or_ge n (2 ^ (54 + p)) with hlt | hge
  · rcases Nat.lt_or_ge n (2 ^ (53 + p)) with hlow | hhigh
    · -- the last bit weighs no more than `2 ^ p`
      have hbit : lastBit n ≤ 2 ^ p := by
        have hlog := log2_lt_of_lt hlow (by omega)
        exact Nat.pow_le_pow_right (by decide) (by omega)
      have hround : roundNat n ≤ 2 ^ 53 * 2 ^ p := Nat.mul_le_mul (halfEven_lastBit_le n) hbit
      exact iff_of_true (by omega) (by omega)
    · have hpos : n ≠ 0 := (Nat.lt_of_lt_of_le (Nat.two_pow_pos _) hhigh).ne'
      have hlog : n.log2 = 53 + p := (Nat.log2_eq_iff hpos).mpr ⟨hhigh, by
        rwa [show 53 + p + 1 = 54 + p by omega]⟩
      have hbit : lastBit n = 2 * 2 ^ p := by
        rw [lastBit, hlog, ← Nat.pow_succ']
        congr 1
        omega
      rw [roundNat, hbit, htop, Nat.mul_lt_mul_right (by omega),
        halfEven_lt_iff (by decide) (by omega)]
      omega
  · have hround := two_pow_le_roundNat hge
    exact iff_of_false (by omega) (by omega)

/-- The least number that is nearer to `2 ^ 1024` than to any double, or as near. -/
def overflow : Nat := 2 ^ 1024 - 2 ^ 970

theorem roundNat_lt_iff (n : Nat) : roundNat n < 2 ^ 1024 ↔ n < overflow := by
  have h := roundNat_lt_two_pow_iff n 970
  rwa [show 54 + 970 = 1024 from rfl] at h

end FieldRules.Decimal

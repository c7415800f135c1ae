/-
# `Proofs.Decimal.Digits` — natural numbers and their digits

`natOfDigits` reads a run of digits and `digitsOf` writes one.  Reading what was written gives the
number back (`natOfDigits_digitsOf`), zeros in front count for nothing, and only zero is written with
a zero in front (`head_digitsOf_ne`).
-/
import FieldRules.Decimal.Layout
import FieldRules.Proofs.Decimal.Literal

namespace FieldRules.Decimal

/-! ## Reading -/

theorem natOfDigits_eq_ofDigitChars (ds : List Char) : natOfDigits ds = Nat.ofDigitChars 10 ds 0 := by
  have hstep : (fun n c => n * 10 + digitValue c) = fun n (c : Char) => 10 * n + (c.toNat - '0'.toNat) := by
    funext n c
    rw [Nat.mul_comm, digitValue]
  rw [natOfDigits, hstep, Nat.ofDigitChars_eq_foldl]

theorem natOfDigits_append (ds es : List Char) :
    natOfDigits (ds ++ es) = natOfDigits ds * 10 ^ es.length + natOfDigits es := by
  simp only [natOfDigits_eq_ofDigitChars]
  rw [Nat.ofDigitChars_append, Nat.ofDigitChars_eq_ofDigitChars_zero, Nat.mul_comm]

theorem natOfDigits_replicate (n : Nat) : natOfDigits (List.replicate n '0') = 0 := by
  rw [natOfDigits_eq_ofDigitChars, Nat.ofDigitChars_replicate_zero, Nat.mul_zero]

/-- Zeros in front count for nothing. -/
theorem natOfDigits_replicate_append (n : Nat) (ds : List Char) :
    natOfDigits (List.replicate n '0' ++ ds) = natOfDigits ds := by
  rw [natOfDigits_append, natOfDigits_replicate, Nat.zero_mul, Nat.zero_add]

/-- Zeros behind multiply. -/
theorem natOfDigits_append_replicate (ds : List Char) (n : Nat) :
    natOfDigits (ds ++ List.replicate n '0') = natOfDigits ds * 10 ^ n := by
  rw [natOfDigits_append, natOfDigits_replicate, List.length_replicate, Nat.add_zero]

/-! ## Writing -/

theorem mem_digits_of_isDigit {c : Char} (h : c.isDigit = true) : c ∈ digits := by
  refine isDigit_iff.mp ?_
  rw [Char.isDigit, Bool.and_eq_true, decide_eq_true_iff, decide_eq_true_iff] at h
  rw [isDigit, Bool.and_eq_true, decide_eq_true_iff, decide_eq_true_iff]
  exact h

theorem run_digitsOf (n : Nat) : Run digits (digitsOf n) :=
  ⟨Nat.toDigits_ne_nil, fun _ hc =>
    mem_digits_of_isDigit (Nat.isDigit_of_mem_toDigits (by decide) (by decide) hc)⟩

theorem natOfDigits_digitsOf (n : Nat) : natOfDigits (digitsOf n) = n := by
  rw [natOfDigits_eq_ofDigitChars, digitsOf, Nat.ofDigitChars_ten_toDigits]

/-- Only zero is written with a zero in front. -/
theorem head_digitsOf_ne {n : Nat} (hn : n ≠ 0) : ∀ c ∈ (digitsOf n).head?, c ≠ '0' := by
  induction n using Nat.strong_induction_on with
  | _ n ih =>
    unfold digitsOf
    rw [Nat.toDigits_eq_if (by decide)]
    split
    · next hlt =>
      intro c hc
      cases hc
      exact fun h => hn (Nat.digitChar_eq_zero.mp h)
    · next hge =>
      have hfirst := ih (n / 10) (by omega) (by omega)
      rwa [digitsOf, ← List.head?_append_of_ne_nil _ Nat.toDigits_ne_nil] at hfirst

end FieldRules.Decimal

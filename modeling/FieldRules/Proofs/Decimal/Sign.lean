/-
# `Proofs.Decimal.Sign` — numbers that are read are numbers

A literal is read by multiplying or dividing by a power of ten, and a run of digits by multiplying
and adding.  None of this leads out of `HasSign .positive`: zero, the positive numbers and the
infinity above them.  NaN only comes of a zero over a zero, of an infinity times zero or of an
infinity minus an infinity, and there is no operand here for any of the three, since a power of ten
and a radix are positive and finite.

Every operation on doubles is one on unpacked numbers whose result is packed into bits and unpacked
again, so each lemma on an operation is followed by `HasSign.unpack_pack`.
-/
import FieldRules.Proofs.Decimal.Finite

namespace FieldRules.Decimal

open Float.Model (Format UnpackedFloat)
open Float.Model.UnpackedFloat

/-- Zero, a number or an infinity of a sign. -/
inductive HasSign (s : Sign) : UnpackedFloat → Prop where
  | zero : HasSign s (.zero s)
  | finite (m : Nat) (e : Int) (hm : 0 < m) : HasSign s (.finite s m e hm)
  | infinity : HasSign s (.infinity s)

/-! ## Unpacked numbers -/

theorem HasSign.isNaN_eq_false {s : Sign} {u : UnpackedFloat} (h : HasSign s u) :
    u.isNaN = false := by
  cases h <;> rfl

theorem HasSign.neg {s : Sign} {u : UnpackedFloat} (h : HasSign s u) : HasSign (-s) u.neg := by
  cases h <;> constructor

theorem hasSign_roundWithAccuracy (s : Sign) (m : Nat) (e : Int) (a : Accuracy) :
    HasSign s (roundWithAccuracy .binary64 s m e a) := by
  unfold roundWithAccuracy
  dsimp only
  split
  · exact .zero
  · exact .finite ..

theorem hasSign_normalize {m : Int} (hm : 0 ≤ m) (e : Int) :
    HasSign .positive (UnpackedFloat.normalize .binary64 m e .positive) := by
  unfold UnpackedFloat.normalize
  split
  · next hneg => exact absurd (Int.compare_eq_lt.mp hneg) (by omega)
  · exact .zero
  · exact hasSign_roundWithAccuracy ..

theorem HasSign.add {u v : UnpackedFloat} (hu : HasSign .positive u) (hv : HasSign .positive v) :
    HasSign .positive (add .binary64 u v) := by
  cases hu with
  | zero => cases hv <;> constructor
  | infinity => cases hv <;> constructor
  | finite m e hm =>
      cases hv with
      | zero => constructor
      | infinity => constructor
      | finite n f hn =>
          exact hasSign_normalize (Int.add_nonneg (Int.natCast_nonneg _) (Int.natCast_nonneg _)) _

theorem HasSign.mul {u : UnpackedFloat} (hu : HasSign .positive u) {m : Nat} {e : Int}
    (hm : 0 < m) : HasSign .positive (mul .binary64 u (.finite .positive m e hm)) := by
  cases hu with
  | zero => exact .zero
  | infinity => exact .infinity
  | finite => exact hasSign_roundWithAccuracy ..

theorem HasSign.div {u : UnpackedFloat} (hu : HasSign .positive u) {m : Nat} {e : Int}
    (hm : 0 < m) : HasSign .positive (div .binary64 u (.finite .positive m e hm)) := by
  cases hu with
  | zero => exact .zero
  | infinity => exact .infinity
  | finite => exact hasSign_roundWithAccuracy ..

theorem hasSign_ofScientific (m : Nat) (e : Int) :
    HasSign .positive (ofScientific .binary64 m e) := by
  unfold ofScientific
  split
  · exact .zero
  · split
    · exact .infinity
    · split
      · exact .zero
      · split
        · exact (HasSign.finite ..).mul _
        · exact (HasSign.finite ..).div _

/-! ## Packed numbers -/

/-- Bits are those of NaN only if they have the exponent of the infinities. -/
theorem hasSign_unpack_packComponents (s : Sign) {x : BitVec 11} {y : BitVec 52}
    (h : x = -1#11 → y = 0#52) :
    HasSign s (unpack .binary64 (packComponents .binary64 s x y)) := by
  simp only [unpack, unpackMantissa_packComponents, unpackExponent_packComponents,
    unpackSign_packComponents, Sign.ofBitVec_toBitVec]
  split
  · next hx =>
    rw [if_pos (h hx)]
    exact .infinity
  · split
    · split
      · exact .zero
      · exact .finite ..
    · exact .finite ..

theorem HasSign.unpack_pack {s : Sign} {u : UnpackedFloat} (hu : HasSign s u) :
    HasSign s (unpack .binary64 (pack .binary64 u)) := by
  cases hu with
  | zero => exact hasSign_unpack_packComponents s fun _ => rfl
  | infinity => exact hasSign_unpack_packComponents s fun _ => rfl
  | finite m e hm =>
      simp only [pack]
      split
      · exact hasSign_unpack_packComponents s fun _ => rfl
      · next hfits =>
        have hexponent : (e + 1023 + 52).toNat + 1 < 2 ^ 11 := Nat.lt_of_not_le hfits
        split
        · refine hasSign_unpack_packComponents s fun hx => absurd (congrArg BitVec.toNat hx) ?_
          rw [BitVec.toNat_ofNat]
          change (e + 1023 + 52).toNat % 2 ^ 11 ≠ 2047
          omega
        · exact hasSign_unpack_packComponents s fun hx => absurd hx (by decide)

/-! ## Doubles -/

theorem exists_unpacked_powerOfTen : ∀ x ∈ Float.exactlyRepresentablePowersOfTen,
    ∃ m e, ∃ hm : 0 < m, unpacked x = .finite .positive m e hm := by
  rw [Float.exactlyRepresentablePowersOfTen]
  simp only [List.mem_toArray, List.forall_mem_cons, List.not_mem_nil, IsEmpty.forall_iff,
    implies_true, and_true]
  and_intros <;> exact ⟨_, _, _, rfl⟩

/-- A decimal is read to a number that is not negative. -/
theorem hasSign_unpacked_ofScientific (m : Nat) (s : Bool) (e : Nat) :
    HasSign .positive (unpacked (Float.ofScientific m s e)) := by
  unfold Float.ofScientific
  split
  · next h =>
    obtain ⟨n, f, hn, hpower⟩ := exists_unpacked_powerOfTen _
      (Array.getElem_mem (Nat.lt_succ_of_le h.2))
    have hword : HasSign .positive (unpacked m.toUInt64.toFloat) :=
      (hasSign_normalize (Int.natCast_nonneg _) _).unpack_pack
    cases s with
    | true =>
        have hquotient := (hword.div (e := f) hn).unpack_pack
        rw [← hpower] at hquotient
        exact hquotient
    | false =>
        have hproduct := (hword.mul (e := f) hn).unpack_pack
        rw [← hpower] at hproduct
        exact hproduct
  · exact (hasSign_ofScientific _ _).unpack_pack

theorem hasSign_unpacked_ofNat (n : Nat) : HasSign .positive (unpacked (Float.ofNat n)) :=
  hasSign_unpacked_ofScientific n false 0

theorem hasSign_unpacked_add {x y : Float} (hx : HasSign .positive (unpacked x))
    (hy : HasSign .positive (unpacked y)) : HasSign .positive (unpacked (x + y)) :=
  (hx.add hy).unpack_pack

theorem hasSign_unpacked_mul {x y : Float} {m : Nat} {e : Int} {hm : 0 < m}
    (hx : HasSign .positive (unpacked x)) (hy : unpacked y = .finite .positive m e hm) :
    HasSign .positive (unpacked (x * y)) := by
  have hproduct := (hx.mul (e := e) hm).unpack_pack
  rw [← hy] at hproduct
  exact hproduct

theorem hasSign_unpacked_neg {s : Sign} {x : Float} (hx : HasSign s (unpacked x)) :
    HasSign (-s) (unpacked (-x)) :=
  hx.neg.unpack_pack

theorem isNaN_of_hasSign {s : Sign} {x : Float} (h : HasSign s (unpacked x)) : x.isNaN = false :=
  h.isNaN_eq_false

end FieldRules.Decimal

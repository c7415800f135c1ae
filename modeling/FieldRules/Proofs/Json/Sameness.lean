/-
# `Proofs.Json.Sameness` — counting as one element is an equivalence

`Value.same` compares two numbers by their doubles and everything else structurally, and the
structural equality compares doubles, in turn, wherever they stand.  Doubles are not equal as Lean
compares them: zero has two of them, and NaN is none of its own equals.  But a JSON number has no
NaN for its double, and the doubles that are left are equal or both zero.  So equal doubles compare
alike with every third one, and this carries over from numbers to values, and from those to lists
and objects: each level has one lemma for comparing a thing with itself and one for comparing equal
things with a third.  An equivalence is the two together (`Value.same_equivalence`).
-/
import FieldRules.Json.Value
import FieldRules.Proofs.Decimal.Sign

namespace FieldRules.Json

/-! ## Numbers -/

theorem float_beq_congr {x y : Float} (h : (x == y) = true) (z : Float) : (x == z) = (y == z) := by
  rw [Bool.eq_iff_iff]
  grind [Float.beq_iff_ne_nan_and_eq]

theorem isNaN_of_isFinite {x : Float} (h : x.isFinite = true) : x.isNaN = false := by
  change (Decimal.unpacked x).isNaN = false
  change (Decimal.unpacked x).isFinite = true at h
  cases hx : Decimal.unpacked x with
  | notANumber =>
      rw [hx] at h
      cases h
  | _ => rfl

namespace Number

theorem isNaN_toFloat (n : Number) : n.toFloat.isNaN = false := by
  cases n with
  | float x finite => exact isNaN_of_isFinite finite
  | integer i =>
      cases i with
      | ofNat n => exact Decimal.isNaN_of_hasSign (Decimal.hasSign_unpacked_ofNat n)
      | negSucc n =>
          exact Decimal.isNaN_of_hasSign
            (Decimal.hasSign_unpacked_neg (Decimal.hasSign_unpacked_ofNat (n + 1)))

theorem toFloat_beq_self (n : Number) : (n.toFloat == n.toFloat) = true := by
  have h := n.isNaN_toFloat
  rw [Float.isNaN_eq_decide_eq_nan, decide_eq_false_iff_not] at h
  exact Float.beq_self_iff.mpr h

protected theorem beq_self (n : Number) : (n == n) = true := by
  cases n with
  | integer i => exact beq_self_eq_true i
  | float x finite => exact toFloat_beq_self (.float x finite)

protected theorem beq_congr {a b : Number} (h : (a == b) = true) (c : Number) :
    (a == c) = (b == c) := by
  match a, b, h with
  | .integer i, .integer j, h =>
      obtain rfl : i = j := eq_of_beq h
      rfl
  | .float x _, .float y _, h =>
      cases c with
      | integer k => rfl
      | float z _ => exact float_beq_congr h z

end Number

/-! ## Values -/

namespace Value

mutual

protected theorem beq_self : ∀ v : Value, v.beq v = true
  | .null => rfl
  | .bool b => beq_self_eq_true b
  | .number n => n.beq_self
  | .string s => beq_self_eq_true s
  | .array items => beqItems_self items
  | .object members => beqMembers_self members

theorem beqItems_self : ∀ items : List Value, beqItems items items = true
  | [] => rfl
  | v :: items => by rw [beqItems, Value.beq_self v, beqItems_self items, Bool.and_self]

theorem beqMembers_self : ∀ members : List (String × Value), beqMembers members members = true
  | [] => rfl
  | (key, v) :: members => by
      rw [beqMembers, beq_self_eq_true, Value.beq_self v, beqMembers_self members, Bool.and_self,
        Bool.and_self]

end

mutual

protected theorem beq_congr : ∀ {a b : Value}, a.beq b = true → ∀ c : Value, a.beq c = b.beq c
  | .null, .null, _, _ => rfl
  | .bool x, .bool y, h, c => by
      obtain rfl : x = y := eq_of_beq h
      rfl
  | .number x, .number y, h, c => by
      cases c with
      | number z => exact Number.beq_congr h z
      | _ => rfl
  | .string x, .string y, h, c => by
      obtain rfl : x = y := eq_of_beq h
      rfl
  | .array xs, .array ys, h, c => by
      cases c with
      | array zs => exact beqItems_congr h zs
      | _ => rfl
  | .object xs, .object ys, h, c => by
      cases c with
      | object zs => exact beqMembers_congr h zs
      | _ => rfl

theorem beqItems_congr : ∀ {xs ys : List Value}, beqItems xs ys = true →
    ∀ zs : List Value, beqItems xs zs = beqItems ys zs
  | [], [], _, _ => rfl
  | x :: xs, y :: ys, h, zs => by
      obtain ⟨hfirst, hrest⟩ := Bool.and_eq_true_iff.mp h
      cases zs with
      | nil => rfl
      | cons z zs => rw [beqItems, beqItems, Value.beq_congr hfirst z, beqItems_congr hrest zs]

theorem beqMembers_congr : ∀ {xs ys : List (String × Value)}, beqMembers xs ys = true →
    ∀ zs : List (String × Value), beqMembers xs zs = beqMembers ys zs
  | [], [], _, _ => rfl
  | (k, x) :: xs, (l, y) :: ys, h, zs => by
      obtain ⟨hfirst, hrest⟩ := Bool.and_eq_true_iff.mp h
      obtain ⟨hkey, hvalue⟩ := Bool.and_eq_true_iff.mp hfirst
      obtain rfl : k = l := eq_of_beq hkey
      match zs with
      | [] => rfl
      | (j, z) :: zs =>
          rw [beqMembers, beqMembers, Value.beq_congr hvalue z, beqMembers_congr hrest zs]

end

theorem same_self (v : Value) : v.same v = true := by
  cases v with
  | number n => exact n.toFloat_beq_self
  | _ => exact Value.beq_self _

/-- Values that count as one are the same elements. -/
theorem same_congr {a b : Value} (h : a.same b = true) (c : Value) : a.same c = b.same c := by
  cases a with
  | number x =>
      cases b with
      | number y =>
          cases c with
          | number z => exact float_beq_congr h z.toFloat
          | _ => rfl
      | _ => cases h
  | _ =>
      cases b with
      | number y => cases h
      | _ => exact Value.beq_congr h c

/-- Counting as one element is an equivalence on all values. -/
theorem same_equivalence : Equivalence fun a b : Value => a.same b = true where
  refl := same_self
  symm {a b} h := by rw [← same_congr h a]; exact same_self a
  trans {a b c} h h' := by rw [same_congr h c]; exact h'

end Value

end FieldRules.Json

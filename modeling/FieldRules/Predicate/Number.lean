/-
# `Predicate.Number` — tests of a number
-/
import FieldRules.Decimal.Shortest

namespace FieldRules.Predicate

open Decimal (Binary)

/-- Finite and without a fractional part. -/
def isInteger (x : Float) : Bool :=
  let magnitude := Binary.ofBits x.toBits
  x.isFinite && (0 ≤ magnitude.exponent
    || magnitude.significand % Nat.pow 2 (-magnitude.exponent).toNat == 0)

/-- The count of digits behind the point when the number is written with the fewest digits that read
back; a number that is not finite has none. -/
def decimalPlaces (x : Float) : Nat :=
  if x.isFinite then (-((Binary.ofBits x.toBits).shortest .upward).exponent).toNat else 0

/-- Whether at most `limit` digits stand behind the point. -/
def withinDecimalPlaces (x : Float) (limit : Nat) : Bool := decimalPlaces x ≤ limit

/-- A port number: an integer from 0 to 65535. -/
def isPort (x : Float) : Bool := isInteger x && 0.0 ≤ x && x ≤ 65535.0

end FieldRules.Predicate

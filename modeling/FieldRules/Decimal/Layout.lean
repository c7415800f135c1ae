/-
# `Decimal.Layout` — how a number is laid out

A `Layout` is the list of decisions that turn selected digits into text: where positional notation
ends, whether a whole number shows a point, how an exponent looks, and what stands for the values
that have no digits.  Each output format of the library is one value of this record, defined where
the format is written.
-/
import FieldRules.Decimal.Shortest

namespace FieldRules.Decimal

/-- The decisions of one number format. -/
structure Layout where
  /-- Whether a number whose leading digit has this decimal exponent is written positionally. -/
  positional : Int → Bool
  /-- A whole number written positionally ends in a point and a zero. -/
  pointZero : Bool
  /-- A non-negative exponent is written with a plus sign. -/
  exponentPlus : Bool
  /-- Whether negative zero keeps its sign. -/
  signedZero : Bool
  /-- Which of two equally near shortest decimals is written. -/
  tie : Tie
  /-- The text of a value that is not a number. -/
  nan : String
  /-- The text of positive infinity. -/
  infinity : String

/-- The decimal digits of a natural number, most significant first. -/
def digitsOf (n : Nat) : List Char := Nat.toDigits 10 n

/-- The decimal exponent of the leading digit. -/
def Scaled.leading (d : Scaled) : Int := d.exponent + ((digitsOf d.digits).length : Int) - 1

/-- Digits and a point, padded with the zeros that the exponent asks for. -/
def Layout.positionalText (l : Layout) (d : Scaled) : List Char :=
  let digits := digitsOf d.digits
  if 0 ≤ d.exponent then
    digits ++ List.replicate d.exponent.toNat '0' ++ (if l.pointZero then ['.', '0'] else [])
  else
    let places := (-d.exponent).toNat
    if places < digits.length then
      digits.take (digits.length - places) ++ '.' :: digits.drop (digits.length - places)
    else
      '0' :: '.' :: List.replicate (places - digits.length) '0' ++ digits

/-- One digit, the others after a point, and the exponent. -/
def Layout.exponentText (l : Layout) (d : Scaled) : List Char :=
  let mantissa := match digitsOf d.digits with
    | first :: second :: rest => first :: '.' :: second :: rest
    | short => short
  let power := d.leading
  let sign := if power < 0 then ['-'] else if l.exponentPlus then ['+'] else []
  mantissa ++ 'e' :: sign ++ digitsOf power.natAbs

def Layout.magnitude (l : Layout) (d : Scaled) : List Char :=
  if l.positional d.leading then l.positionalText d else l.exponentText d

def Layout.write (l : Layout) (x : Float) : String :=
  if x.isNaN then l.nan
  else
    let negative := (x.toBits >>> 63) == 1
    if x.isInf then (if negative then "-" ++ l.infinity else l.infinity)
    else
      let magnitude := Binary.ofBits x.toBits
      let sign := negative && (l.signedZero || magnitude.significand != 0)
      let text := l.magnitude (magnitude.shortest l.tie)
      String.ofList (if sign then '-' :: text else text)

/-- Every number with one digit before the point and a bare exponent. -/
def Layout.scientific : Layout where
  positional := fun _ => false
  pointZero := false
  exponentPlus := false
  signedZero := true
  tie := .upward
  nan := "NaN"
  infinity := "Infinity"

end FieldRules.Decimal

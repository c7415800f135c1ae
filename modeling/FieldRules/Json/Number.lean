/-
# `Json.Number` — numbers of a JSON value

A number is an integer, kept exactly, or a finite double; the two are different numbers even when
they denote the same quantity, and `Number.toFloat` is the view in which they are compared by value.
`Number.ofLiteral?` reads the number that a literal of a JSON text denotes.
-/
import FieldRules.Decimal.Literal

namespace FieldRules.Json

/-- A number of a JSON value.  Reading a text gives integers of the 64-bit ranges, signed and
unsigned; every other literal becomes a double. -/
inductive Number where
  | integer (value : Int)
  | float (value : Float) (finite : value.isFinite = true)

namespace Number

def ofFloat? (x : Float) : Option Number :=
  if h : x.isFinite = true then some (.float x h) else none

/-- The double nearest to the number. -/
def toFloat : Number → Float
  | .integer i => Float.ofInt i
  | .float x _ => x

def toNat? : Number → Option Nat
  | .integer i => if 0 ≤ i then some i.toNat else none
  | .float .. => none

/-- Structural equality: an integer never equals a double, and two doubles are equal when they
compare equal. -/
protected def beq : Number → Number → Bool
  | .integer i, .integer j => i == j
  | .float x _, .float y _ => x == y
  | _, _ => false

instance : BEq Number := ⟨Number.beq⟩

end Number

/-! ## Reading a literal

A literal in the 64-bit ranges without point and exponent is an integer.  Any other one is scaled in
double arithmetic: as many leading digits as fit in 64 bits form a significand, the digits after
them only count towards the exponent or are dropped, and the significand is multiplied or divided by
a power of ten.  The result is a neighbour of the exact value, not always the nearest double. -/

/-- The parts of a number as a JSON text writes it. -/
structure NumberLiteral where
  negative : Bool
  whole : List Char
  fraction : Option (List Char)
  exponent : Option (Bool × List Char)

namespace NumberLiteral

def significandLimit : Nat := 0xFFFFFFFFFFFFFFFF

/-- A significand under construction: its value, and the digits that no longer fitted. -/
structure Significand where
  value : Nat
  dropped : Nat

/-- Adds one digit, or counts it once a digit did not fit. -/
def Significand.push (s : Significand) (c : Char) : Significand :=
  if s.dropped = 0 ∧ s.value * 10 + Decimal.digitValue c ≤ significandLimit then
    ⟨s.value * 10 + Decimal.digitValue c, 0⟩
  else ⟨s.value, s.dropped + 1⟩

/-- The significand of a run of digits that continues one of value `start`. -/
def significand (start : Nat) (digits : List Char) : Significand :=
  digits.foldl Significand.push ⟨start, 0⟩

def powerLimit : Nat := 308

/-- `x * 10 ^ exponent` in double arithmetic; `none` if it leaves the range.  An exponent below the
powers at hand is divided out in steps. -/
def scale? (x : Float) (exponent : Int) : Option Float :=
  let power (n : Nat) : Float := Decimal.nearest 1 n
  if 0 ≤ exponent then
    if exponent ≤ powerLimit then
      let y := x * power exponent.toNat
      if y.isInf then none else some y
    else if x == 0 then some x else none
  else if (-exponent).toNat ≤ powerLimit then some (x / power (-exponent).toNat)
  else if x == 0 then some x
  else scale? (x / power powerLimit) (exponent + powerLimit)
termination_by exponent.natAbs
decreasing_by simp only [powerLimit] at *; omega

def exponentLimit : Nat := 0x7FFFFFFF

/-- The magnitude of a literal as a double; `none` if it is beyond the range. -/
def magnitude? (l : NumberLiteral) : Option Float :=
  let whole := significand 0 l.whole
  let fraction := l.fraction.getD []
  let all := significand whole.value fraction
  let shift : Int := (whole.dropped : Int) + all.dropped - fraction.length
  let significand := Float.ofNat all.value
  match l.exponent with
  | none => scale? significand shift
  | some (negative, digits) =>
    let power := Decimal.natOfDigits digits
    if power ≤ exponentLimit then
      scale? significand (if negative then shift - power else shift + power)
    else if all.value ≠ 0 ∧ !negative then none
    else some 0.0

/-- The integer that a literal denotes, if it has neither point nor exponent and lies in the signed
or the unsigned range.  Minus zero is no integer. -/
def integer? (l : NumberLiteral) : Option Int :=
  match l.fraction, l.exponent with
  | none, none =>
    let magnitude := Decimal.natOfDigits l.whole
    if l.negative then
      if 0 < magnitude ∧ magnitude ≤ 0x8000000000000000 then some (-(magnitude : Int)) else none
    else if magnitude ≤ significandLimit then some magnitude else none
  | _, _ => none

end NumberLiteral

/-- The number that a literal denotes; `none` if it is beyond the range of a double. -/
def Number.ofLiteral? (l : NumberLiteral) : Option Number :=
  match l.integer? with
  | some i => some (.integer i)
  | none => l.magnitude?.bind fun x => ofFloat? (if l.negative then -x else x)

end FieldRules.Json

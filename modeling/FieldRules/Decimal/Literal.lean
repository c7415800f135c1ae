/-
# `Decimal.Literal` — decimal literals

The grammar of a decimal number in text: an optional sign, digits with at most one point among or
around them and at least one digit in all, and an optional exponent.  A literal is read to the
nearest double, ties to even, and to an infinity beyond the range.
-/

namespace FieldRules.Decimal

def isDigit (c : Char) : Bool := '0' ≤ c && c ≤ '9'

def digitValue (c : Char) : Nat := c.toNat - '0'.toNat

def natOfDigits (digits : List Char) : Nat := digits.foldl (fun n c => n * 10 + digitValue c) 0

/-- The parts of a decimal literal. -/
structure Literal where
  negative : Bool
  whole : List Char
  fraction : List Char
  exponent : Int

/-- Splits an optional sign off; `true` stands for minus. -/
def splitSign : List Char → Bool × List Char
  | '-' :: rest => (true, rest)
  | '+' :: rest => (false, rest)
  | cs => (false, cs)

/-- The exponent part: nothing, or a mark, an optional sign and one or more digits to the end. -/
def readExponent? : List Char → Option Int
  | [] => some 0
  | mark :: rest =>
    if mark = 'e' ∨ mark = 'E' then
      let (negative, digits) := splitSign rest
      if digits ≠ [] ∧ digits.all isDigit then
        let power : Int := natOfDigits digits
        some (if negative then -power else power)
      else none
    else none

/-- Reads a whole text as a literal. -/
def Literal.read? (cs : List Char) : Option Literal :=
  let (negative, cs) := splitSign cs
  let whole := cs.takeWhile isDigit
  let rest := cs.dropWhile isDigit
  let (fraction, rest) := match rest with
    | '.' :: rest => (rest.takeWhile isDigit, rest.dropWhile isDigit)
    | rest => ([], rest)
  if whole = [] ∧ fraction = [] then none
  else (readExponent? rest).map fun exponent => ⟨negative, whole, fraction, exponent⟩

/-- The double nearest to `digits * 10 ^ exponent`. -/
def nearest (digits : Nat) (exponent : Int) : Float :=
  Float.ofScientific digits (exponent < 0) exponent.natAbs

/-- The double nearest to the number that the literal denotes. -/
def Literal.toFloat (l : Literal) : Float :=
  let magnitude := nearest (natOfDigits (l.whole ++ l.fraction)) (l.exponent - l.fraction.length)
  if l.negative then -magnitude else magnitude

end FieldRules.Decimal

/-
# `Yaml.Plain` — what a plain scalar means

A plain scalar is null, a truth value, a number or a text, and its spelling tells which.  An integer
is decimal, hexadecimal, octal or binary.  Digits behind a zero are a text, because another reader
might take them as octal.
-/
import FieldRules.Coercion

namespace FieldRules.Yaml

open Json (Value)

/-! ## Words -/

def isNullWord (s : String) : Bool := s == "null" || s == "Null" || s == "NULL" || s == "~"

def flagOfWord? (s : String) : Option Bool :=
  if s == "true" || s == "True" || s == "TRUE" then some true
  else if s == "false" || s == "False" || s == "FALSE" then some false
  else none

/-! ## Integers -/

/-- A digit zero with further digits behind it and a sign in front of it at most. -/
def isZeroPadded (cs : List Char) : Bool :=
  match (Decimal.splitSign cs).2 with
  | '0' :: c :: rest => (c :: rest).all Decimal.isDigit
  | _ => false

def natOfRadix? (radix : Nat) (digits : List Char) : Option Nat :=
  if digits = [] then none
  else (digits.mapM (Coercion.radixDigit? radix)).map (·.foldl (fun n d => n * radix + d) 0)

/-- The natural number that digits denote, a mark in front telling their radix. -/
def natOfMarked? : List Char → Option Nat
  | '0' :: 'x' :: digits => natOfRadix? 16 digits
  | '0' :: 'o' :: digits => natOfRadix? 8 digits
  | '0' :: 'b' :: digits => natOfRadix? 2 digits
  | digits => natOfRadix? 10 digits

def integer? (cs : List Char) : Option Int :=
  if isZeroPadded cs then none
  else
    match Decimal.splitSign cs with
    | (true, digits) => (natOfMarked? digits).map fun n => -(n : Int)
    | (false, digits) => (natOfMarked? digits).map Int.ofNat

/-- The integers that a value can hold: those of 64 bits, signed or unsigned. -/
def isShort (i : Int) : Bool := -0x8000000000000000 ≤ i && i ≤ 0xFFFFFFFFFFFFFFFF

/-- The integers that are taken as such, short or not: those of 128 bits, signed or unsigned. -/
def isLong (i : Int) : Bool :=
  -0x80000000000000000000000000000000 ≤ i && i ≤ 0xFFFFFFFFFFFFFFFFFFFFFFFFFFFFFFFF

/-! ## Doubles -/

def isInfinityWord (cs : List Char) : Bool :=
  cs == ".inf".toList || cs == ".Inf".toList || cs == ".INF".toList

/-- The double that a text denotes.  A literal beyond the range denotes none. -/
def double? (cs : List Char) : Option Float :=
  let (negative, magnitude) := Decimal.splitSign cs
  if isInfinityWord magnitude then
    some (if negative then -Coercion.infinity else Coercion.infinity)
  else if cs == ".nan".toList || cs == ".NaN".toList || cs == ".NAN".toList then
    some Coercion.notANumber
  else ((Decimal.Literal.read? cs).map (·.toFloat)).filter Float.isFinite

/-! ## Values -/

/-- The value of an integer; one that is not short has none. -/
def valueOfInteger? (i : Int) : Option Value :=
  if isShort i then some (.number (.integer i)) else none

/-- The value of a plain scalar; a double that is not finite becomes null. -/
def plainValue? (s : String) : Option Value :=
  let cs := s.toList
  if s.isEmpty || isNullWord s then some .null
  else
    match flagOfWord? s, (integer? cs).filter isLong, double? cs with
    | some b, _, _ => some (.bool b)
    | none, some i, _ => valueOfInteger? i
    | none, none, some x => some (if isZeroPadded cs then .string s else .ofFloat x)
    | none, none, none => some (.string s)

end FieldRules.Yaml

/-
# `Coercion` — coercion of raw inputs

A raw input is a JSON value of any type, and a field of type text or number converts it first, the
way a browser converts what was typed into a form: `text` never fails, and `number` answers NaN for
an input that denotes no number.  An input counts as not provided when it is null, the empty text or
the empty list.
-/
import FieldRules.Json.Value
import FieldRules.Decimal.Layout
import FieldRules.Text.Blank

namespace FieldRules.Coercion

open Json (Value Number)

/-! ## To text -/

/-- Numbers are written positionally from 0.000001 up to below 10 to the 21st, whole ones without a
point, and others with a signed exponent; zero has no sign. -/
def numberLayout : Decimal.Layout where
  positional := fun e => -6 ≤ e && e < 21
  pointZero := false
  exponentPlus := true
  signedZero := false
  tie := .upward
  nan := "NaN"
  infinity := "Infinity"

def textOfFloat (x : Float) : String := numberLayout.write x

def textOfNumber : Number → String
  | .integer i => toString i
  | .float x _ => textOfFloat x

mutual

/-- The text of an input.  A list is the texts of its elements with commas between them, null
elements being empty. -/
def text : Value → String
  | .null => "null"
  | .bool true => "true"
  | .bool false => "false"
  | .number n => textOfNumber n
  | .string s => s
  | .array items => ",".intercalate (elementTexts items)
  | .object _ => "[object Object]"

def elementTexts : List Value → List String
  | [] => []
  | .null :: rest => "" :: elementTexts rest
  | v :: rest => text v :: elementTexts rest

end

/-! ## To numbers -/

/-- The answer for an input that denotes no number. -/
def notANumber : Float := 0.0 / 0.0

def infinity : Float := 1.0 / 0.0

/-- The value of a digit of a radix of at most sixteen. -/
def radixDigit? (radix : Nat) (c : Char) : Option Nat :=
  let value? : Option Nat :=
    if '0' ≤ c ∧ c ≤ '9' then some (c.toNat - 48)
    else if 'a' ≤ c ∧ c ≤ 'f' then some (c.toNat - 87)
    else if 'A' ≤ c ∧ c ≤ 'F' then some (c.toNat - 55)
    else none
  value?.filter (· < radix)

/-- One more digit behind a number; the product and the sum are rounded one after the other. -/
def pushDigit (radix : Nat) (x : Float) (digit : Nat) : Float :=
  x * Float.ofNat radix + Float.ofNat digit

/-- The number that one or more digits of a radix denote, accumulated from the left. -/
def numberOfRadix (radix : Nat) (digits : List Char) : Float :=
  if digits = [] then notANumber
  else
    match digits.mapM (radixDigit? radix) with
    | some values => values.foldl (pushDigit radix) 0.0
    | none => notANumber

/-- The number that a text without white space around it denotes. -/
def numberOfTrimmed (cs : List Char) : Float :=
  if cs = [] then 0.0
  else if cs = "Infinity".toList ∨ cs = "+Infinity".toList then infinity
  else if cs = "-Infinity".toList then -infinity
  else
    match cs with
    | '0' :: 'x' :: digits | '0' :: 'X' :: digits => numberOfRadix 16 digits
    | '0' :: 'o' :: digits | '0' :: 'O' :: digits => numberOfRadix 8 digits
    | '0' :: 'b' :: digits | '0' :: 'B' :: digits => numberOfRadix 2 digits
    | _ =>
      match Decimal.Literal.read? cs with
      | some l => l.toFloat
      | none => notANumber

/-- The number that a text denotes; blank texts denote zero. -/
def numberOfText (s : String) : Float := numberOfTrimmed (Text.trim s.toList)

/-- The number of an input.  A list of one element counts as the text of that element. -/
def number : Value → Float
  | .null => 0.0
  | .bool true => 1.0
  | .bool false => 0.0
  | .number n => n.toFloat
  | .string s => numberOfText s
  | .array [] => 0.0
  | .array [item] => numberOfText (text item)
  | .array _ => notANumber
  | .object _ => notANumber

/-! ## Absence -/

/-- Whether an input counts as not provided. -/
def isEmpty : Value → Bool
  | .null => true
  | .string s => s.isEmpty
  | .array items => items.isEmpty
  | _ => false

end FieldRules.Coercion

/-
# `Json.Writer` — writing JSON

A value is written without blanks (`Value.compact`) or indented by two blanks a level
(`Value.pretty`).  The members of an object come in the order in which they are kept.  Only the
quote, the backslash and the control characters are escaped, so a compact text holds no line break.
-/
import FieldRules.Json.Value
import FieldRules.Decimal.Layout

namespace FieldRules.Json

/-- Doubles are written with the fewest digits that read back and at least one decimal: positionally
from 0.00001 up to below 10 to the 16th, otherwise with a signed exponent. -/
def numberLayout : Decimal.Layout where
  positional := fun e => -5 ≤ e && e < 16
  pointZero := true
  exponentPlus := true
  signedZero := true
  tie := .toEven
  nan := "null"
  infinity := "null"

def Number.write : Number → String
  | .integer i => toString i
  | .float x _ => numberLayout.write x

def hexDigit (n : Nat) : Char := if n < 10 then Char.ofNat (48 + n) else Char.ofNat (87 + n)

/-- A character as it stands inside a string. -/
def escape (c : Char) : List Char :=
  if c = '"' then ['\\', '"']
  else if c = '\\' then ['\\', '\\']
  else if c = '\n' then ['\\', 'n']
  else if c = '\r' then ['\\', 'r']
  else if c = '\t' then ['\\', 't']
  else if c.toNat = 8 then ['\\', 'b']
  else if c.toNat = 12 then ['\\', 'f']
  else if c.toNat < 32 then
    ['\\', 'u', '0', '0', hexDigit (c.toNat / 16), hexDigit (c.toNat % 16)]
  else [c]

def quote (s : String) : String := String.ofList ('"' :: s.toList.flatMap escape ++ ['"'])

namespace Value

mutual

/-- The text of a value without blanks. -/
def compact : Value → String
  | .null => "null"
  | .bool true => "true"
  | .bool false => "false"
  | .number n => n.write
  | .string s => quote s
  | .array items => "[" ++ ",".intercalate (compactItems items) ++ "]"
  | .object members => r"{" ++ ",".intercalate (compactMembers members) ++ r"}"

def compactItems : List Value → List String
  | [] => []
  | v :: rest => v.compact :: compactItems rest

def compactMembers : List (String × Value) → List String
  | [] => []
  | (k, v) :: rest => (quote k ++ ":" ++ v.compact) :: compactMembers rest

end

/-- A line break and the indentation of a level. -/
def newline (level : Nat) : String := String.ofList ('\n' :: List.replicate (2 * level) ' ')

/-- Lines between two brackets, one level further in; nothing stands between the brackets of an
empty list. -/
def bracket (level : Nat) (opening closing : String) (lines : List String) : String :=
  if lines.isEmpty then opening ++ closing
  else opening ++ newline (level + 1) ++ ("," ++ newline (level + 1)).intercalate lines
    ++ newline level ++ closing

mutual

/-- The indented text of a value that stands at a level. -/
def prettyAt (level : Nat) : Value → String
  | .array items => bracket level "[" "]" (prettyItems (level + 1) items)
  | .object members => bracket level r"{" r"}" (prettyMembers (level + 1) members)
  | scalar => scalar.compact

def prettyItems (level : Nat) : List Value → List String
  | [] => []
  | v :: rest => v.prettyAt level :: prettyItems level rest

def prettyMembers (level : Nat) : List (String × Value) → List String
  | [] => []
  | (k, v) :: rest => (quote k ++ ": " ++ v.prettyAt level) :: prettyMembers level rest

end

/-- The indented text of a value. -/
def pretty (v : Value) : String := v.prettyAt 0

end Value

end FieldRules.Json

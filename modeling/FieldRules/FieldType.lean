/-
# `FieldType` — types of fields

A field is declared as text, as a number or as a list.  The name of the type is the first segment of
the message keys that belong to it.
-/

namespace FieldRules

/-- The declared type of a field. -/
inductive FieldType where
  | string
  | number
  | array
deriving DecidableEq, Repr

namespace FieldType

def all : List FieldType := [.string, .number, .array]

/-- The name of the type in keys and documents. -/
def name : FieldType → String
  | .string => "string"
  | .number => "number"
  | .array => "array"

def ofName? (s : String) : Option FieldType := all.find? fun t => t.name = s

/-- What is reported for a name that no type has. -/
def unknownMessage (s : String) : String :=
  "unknown schema type '" ++ s ++ "'; expected one of: " ++ ", ".intercalate (all.map name)

def index : FieldType → Nat
  | .string => 0
  | .number => 1
  | .array => 2

/-- The key of the message for an input that is not of this type. -/
def typeMessageKey (t : FieldType) : String := "types." ++ t.name

end FieldType

end FieldRules

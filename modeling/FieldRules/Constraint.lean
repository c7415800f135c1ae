/-
# `Constraint` — the constraints of each type

A type of fields decides three things: what a raw input is converted to (`Carrier`), which inputs can
be converted (`coerce?`), and what a field may be constrained by (`Constraint`).  All that is built on
top of them is written once for every type.
-/
import FieldRules.Coercion
import FieldRules.Constraint.List
import FieldRules.Constraint.Number
import FieldRules.Constraint.Text
import FieldRules.FieldType

namespace FieldRules

open Json (Value)

namespace FieldType

/-- What inputs of the type are converted to. -/
abbrev Carrier : FieldType → Type
  | .string => String
  | .number => Float
  | .array => List Value

abbrev Constraint : FieldType → Type
  | .string => TextConstraint
  | .number => NumberConstraint
  | .array => ListConstraint

/-- Converts a raw input; `none` if it is not of the type.  Every input has a text, an input without
a number is no number, and only a list is a list. -/
def coerce? : (t : FieldType) → Value → Option t.Carrier
  | .string, v => some (Coercion.text v)
  | .number, v => if (Coercion.number v).isNaN then none else some (Coercion.number v)
  | .array, v => v.asArray?

def carrierText : (t : FieldType) → t.Carrier → String
  | .string, s => s
  | .number, x => Coercion.textOfFloat x
  | .array, items => Coercion.text (.array items)

end FieldType

namespace Constraint

/-- The name of a constraint in message keys. -/
def kind : {t : FieldType} → t.Constraint → String
  | .string, c => TextConstraint.kind c
  | .number, c => NumberConstraint.kind c
  | .array, c => ListConstraint.kind c

def params : {t : FieldType} → t.Constraint → Value
  | .string, c => TextConstraint.params c
  | .number, c => NumberConstraint.params c
  | .array, c => ListConstraint.params c

def test : {t : FieldType} → t.Constraint → t.Carrier → Bool
  | .string, c, s => TextConstraint.test s c
  | .number, c, x => NumberConstraint.test x c
  | .array, c, items => ListConstraint.test items c

end Constraint

end FieldRules

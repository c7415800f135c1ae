/-
# `Constraint.List` — constraints on lists

Two elements count as one if `Value.same` holds of them, so a number is the same element whether it
is written as an integer or as a decimal.
-/
import FieldRules.Json.Value

namespace FieldRules

open Json (Value)

/-- A constraint on a list.  Bounds are included. -/
inductive ListConstraint where
  | min (count : Nat)
  | max (count : Nat)
  | range (low high : Nat)
  | len (count : Nat)
  | includes (values : List Value)
  | excludes (values : List Value)
  | unique

namespace ListConstraint

def kind : ListConstraint → String
  | .min _ => "min"
  | .max _ => "max"
  | .range .. => "range"
  | .len _ => "len"
  | .includes _ => "includes"
  | .excludes _ => "excludes"
  | .unique => "unique"

/-- The parameters that fill a message; null if there are none.  A list of values is one
parameter. -/
def params : ListConstraint → Value
  | .min n | .max n | .len n => .ofNat n
  | .range low high => .array [.ofNat low, .ofNat high]
  | .includes values | .excludes values => .array [.array values]
  | .unique => .null

/-- Whether a value is an element of a list. -/
def holds (items : List Value) (v : Value) : Bool := items.any fun item => item.same v

/-- Whether no element is one of those before it, which are `seen`. -/
def distinctFrom (seen : List Value) : List Value → Bool
  | [] => true
  | v :: rest => !holds seen v && distinctFrom (v :: seen) rest

def test (items : List Value) : ListConstraint → Bool
  | .min n => n ≤ items.length
  | .max n => items.length ≤ n
  | .range low high => low ≤ items.length && items.length ≤ high
  | .len n => items.length == n
  | .includes values => values.all (holds items)
  | .excludes values => !values.any (holds items)
  | .unique => distinctFrom [] items

end ListConstraint

end FieldRules

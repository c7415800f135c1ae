/-
# `Constraint.Number` — constraints on numbers
-/
import FieldRules.Json.Value
import FieldRules.Predicate.Number

namespace FieldRules

open Json (Value)

/-- A constraint on a number.  Bounds of `min`, `max` and `range` are included. -/
inductive NumberConstraint where
  | min (bound : Float)
  | max (bound : Float)
  | range (low high : Float)
  | gt (bound : Float)
  | lt (bound : Float)
  | equal (value : Float)
  | integer
  | decimal (digits : Nat)
  | positive
  | negative
  | nonnegative
  | nonpositive
  | port

namespace NumberConstraint

def kind : NumberConstraint → String
  | .min _ => "min"
  | .max _ => "max"
  | .range .. => "range"
  | .gt _ => "gt"
  | .lt _ => "lt"
  | .equal _ => "equal"
  | .integer => "integer"
  | .decimal _ => "decimal"
  | .positive => "positive"
  | .negative => "negative"
  | .nonnegative => "nonnegative"
  | .nonpositive => "nonpositive"
  | .port => "port"

/-- The parameters that fill a message; null if there are none, and in place of a bound that is not
finite. -/
def params : NumberConstraint → Value
  | .min x | .max x | .gt x | .lt x | .equal x => .ofFloat x
  | .range low high => .array [.ofFloat low, .ofFloat high]
  | .decimal digits => .ofNat digits
  | .integer | .positive | .negative | .nonnegative | .nonpositive | .port => .null

def test (x : Float) : NumberConstraint → Bool
  | .min bound => bound ≤ x
  | .max bound => x ≤ bound
  | .range low high => low ≤ x && x ≤ high
  | .gt bound => bound < x
  | .lt bound => x < bound
  | .equal value => x == value
  | .integer => Predicate.isInteger x
  | .decimal digits => Predicate.withinDecimalPlaces x digits
  | .positive => 0.0 < x
  | .negative => x < 0.0
  | .nonnegative => 0.0 ≤ x
  | .nonpositive => x ≤ 0.0
  | .port => Predicate.isPort x

end NumberConstraint

end FieldRules

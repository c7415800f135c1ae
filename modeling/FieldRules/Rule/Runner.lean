/-
# `Rule.Runner` — running the rules of a field

A runner goes through the rules of a field in their order and reports the first failure.  Of a rule it
checks the declarative fields itself, and then calls the validator.  An empty input is checked for
being required only; any other for its type and its bounds, which are compared with the length of a
text or a list and with a number itself.
-/
import FieldRules.Rule.Form

namespace FieldRules

open Json (Value)
open Messages (Table)

/-! ## Declarative checks -/

/-- Whether an input is written as a type. -/
def FieldType.isOf (input : Value) : FieldType → Bool
  | .string => input.asString?.isSome
  | .number => input.asFloat?.isSome
  | .array => input.asArray?.isSome

/-- What bounds are compared with. -/
def measure? : Value → Option Float
  | .string s => some (Float.ofNat s.length)
  | .array items => some (Float.ofNat items.length)
  | .number n => some n.toFloat
  | _ => none

/-- Why an input fails the declarative fields of a rule. -/
inductive Shortfall where
  | missing
  | wrongType (expected : FieldType)
  | outOfBounds
deriving DecidableEq, Repr

def Shortfall.tableMessage (table : Table) : Shortfall → String
  | .missing => table.required
  | .wrongType expected => table.typeFailure expected
  | .outOfBounds => table.default

namespace Rule.Declaration

def outside (r : Declaration) (input : Value) : Bool :=
  (measure? input).any fun x => r.min.any (fun low => x < low) || r.max.any (fun high => high < x)

def shortfall? (r : Declaration) (input : Value) : Option Shortfall :=
  if Coercion.isEmpty input then
    if r.required = some true then some .missing else none
  else
    match r.type with
    | some t =>
      if !t.isOf input then some (.wrongType t)
      else if r.outside input then some .outOfBounds
      else none
    | none => if r.outside input then some .outOfBounds else none

/-- The message of a shortfall: the rule's own, unless it is empty. -/
def shortfallMessage (r : Declaration) (table : Table) (s : Shortfall) : String :=
  match r.message.filter fun text => !text.isEmpty with
  | some text => text
  | none => s.tableMessage table

end Rule.Declaration

/-! ## Running -/

/-- The rules of a field, and the place of the factory in whose table declarative checks look up a
message that the rule does not have.  The factory need not be that of the rules. -/
structure Runner (m : Type → Type) where
  rules : List (TriggerRule m)
  owner : Nat

namespace Runner

variable {m : Type → Type} [Monad m]

/-- What one rule reports; the validator runs unless the declarative fields fail. -/
def apply (r : Runner m) (tables : Tables) (input : Value) (rule : TriggerRule m) :
    m (Option RuleError) :=
  match rule.shortfall? input with
  | some s => pure (some ⟨rule.shortfallMessage (tables r.owner) s⟩)
  | none => rule.run tables input

/-- The first failure. -/
def validate (r : Runner m) (tables : Tables) (input : Value) : m (Option RuleError) :=
  r.rules.findSomeM? (r.apply tables input)

/-- Validates and hands the first failure, or that there is none, to a callback. -/
def run {n : Type → Type} [Monad n] [MonadLiftT m n] {α : Type} (r : Runner m) (tables : Tables)
    (input : Value) (callback : Option RuleError → n α) : n α := do
  callback (← r.validate tables input)

end Runner

/-! ## Outcomes -/

/-- How a validation ended. -/
inductive Outcome where
  | passed
  | failed (message : String)
deriving DecidableEq, Repr

namespace Outcome

def ofReport : Option String → Outcome
  | none => .passed
  | some message => .failed message

def ofError : Option RuleError → Outcome
  | none => .passed
  | some error => .failed error.message

def isFailure : Outcome → Bool
  | .passed => false
  | .failed _ => true

def message? : Outcome → Option String
  | .passed => none
  | .failed message => some message

def toValue : Outcome → Value
  | .passed => .object [("error", .bool false)]
  | .failed message => .object [("error", .bool true), ("message", .string message)]

end Outcome

end FieldRules

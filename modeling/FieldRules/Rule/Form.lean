/-
# `Rule.Form` — rules of a form

A form shows and runs rules.  A rule has declarative fields, which a form may check itself, and a
validator, which it calls.  A validator answers by reports: any number of them, each a failure or
that the input is right, and whoever runs it keeps the first.

There are two shapes of rules.  Validators of `FormRule`, the plain one, report messages.  A
`TriggerRule` also has the events that run it; its validator reports errors, and it may be told the
fields of the rule.

A validator is a group or a function.  Only groups look up messages in tables, each in that of its own
factory, so that a rule of one factory can be run between those of another.
-/
import FieldRules.Group
import FieldRules.Rule.Meta

namespace FieldRules

open Json (Value)

/-- What counts of the reports of a validator: the first, and without one the input is right. -/
def firstReport {ε : Type} (reports : List (Option ε)) : Option ε := reports.head?.join

/-! ## The plain shape -/

/-- What checks an input of a form: a group, or a validator that may report any number of times, a
message or that the input is right. -/
inductive Validator (m : Type → Type) where
  | group (g : Group m)
  | reporting (f : Value → m (List (Option String)))

namespace Validator

variable {m : Type → Type} [Monad m]

/-- The reports of a validator, in their order; a group reports once. -/
def reports (tables : Tables) (input : Value) : Validator m → m (List (Option String))
  | .group g => return [← g.evaluate tables input]
  | .reporting f => f input

/-- What a validator reports first. -/
def run (tables : Tables) (input : Value) : Validator m → m (Option String)
  | .group g => g.evaluate tables input
  | .reporting f => return firstReport (← f input)

end Validator

structure FormRule (m : Type → Type) extends Rule.Declaration where
  validator : Option (Validator m) := none

namespace FormRule

variable {m : Type → Type}

/-- The rule that an input is given. -/
def require (message : String) : FormRule m := { required := some true, message := some message }

/-- Runs the validator of the rule; a rule without one passes. -/
def run [Monad m] (tables : Tables) (input : Value) (r : FormRule m) : m (Option String) :=
  match r.validator with
  | some v => v.run tables input
  | none => pure none

/-- The fields that can be written down. -/
def declared (r : FormRule m) : Rule.Meta :=
  { r.toDeclaration with trigger := none, validator := r.validator.isSome }

end FormRule

/-- A rule of a form as a program writes it: its validator is a function. -/
structure GivenRule (m : Type → Type) extends Rule.Declaration where
  validator : Option (Value → m (List (Option String))) := none

def GivenRule.toForm {m : Type → Type} (r : GivenRule m) : FormRule m :=
  { r.toDeclaration with validator := r.validator.map .reporting }

/-! ## The shape with events -/

structure RuleError where
  message : String
deriving DecidableEq, Repr

/-- What checks an input in the shape with events: a group, a validator of the plain shape, each of
whose reports is passed on, or a function that is told the fields of its rule. -/
inductive TriggerValidator (m : Type → Type) where
  | group (g : Group m)
  | plain (v : Validator m)
  | told (f : Rule.Meta → Value → m (List (Option RuleError)))

/-- The reports of a validator, in their order; a message is passed on as an error. -/
def TriggerValidator.reports {m : Type → Type} [Monad m] (tables : Tables) (declared : Rule.Meta)
    (input : Value) : TriggerValidator m → m (List (Option RuleError))
  | .group g => return [(← g.evaluate tables input).map RuleError.mk]
  | .plain v => return (← v.reports tables input).map (Option.map RuleError.mk)
  | .told f => f declared input

/-- A rule of a form that names the events that run it. -/
structure TriggerRule (m : Type → Type) extends Rule.Declaration where
  trigger : Option Trigger := none
  validator : Option (TriggerValidator m) := none

namespace TriggerRule

variable {m : Type → Type}

def declared (r : TriggerRule m) : Rule.Meta :=
  { r.toDeclaration with trigger := r.trigger, validator := r.validator.isSome }

def run [Monad m] (tables : Tables) (input : Value) (r : TriggerRule m) : m (Option RuleError) :=
  match r.validator with
  | some v => return firstReport (← v.reports tables r.declared input)
  | none => pure none

end TriggerRule

end FieldRules

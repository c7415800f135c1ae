/-
# `Rule` — what a schema compiles to

A rule is a group of the schema's own constraints or a rule of a form that was taken in as it is.
Both are turned into either shape of a form's rules: a group becomes a rule without declarative
fields whose validator it is, and a rule of a form keeps its fields.  In the shape with events every
report of a validator is passed on, its message as an error.
-/
import FieldRules.Rule.Form

namespace FieldRules

inductive Rule (m : Type → Type) where
  | compiled (g : Group m)
  | raw (r : FormRule m)

namespace Rule

variable {m : Type → Type}

def isCompiled : Rule m → Bool
  | .compiled _ => true
  | .raw _ => false

def toForm : Rule m → FormRule m
  | .compiled g => { validator := some (.group g) }
  | .raw r => r

def toTrigger (trigger : Option Trigger) : Rule m → TriggerRule m
  | .compiled g => { trigger, validator := some (.group g) }
  | .raw r => { r.toDeclaration with trigger, validator := r.validator.map .plain }

/-- The outline of a rule, without what it runs. -/
inductive Shape where
  | compiled (type : FieldType) (size : Nat)
  | raw (fields : Meta)

def shape : Rule m → Shape
  | .compiled g => .compiled g.type g.size
  | .raw r => .raw r.declared

end Rule

end FieldRules

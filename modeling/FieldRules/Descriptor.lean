/-
# `Descriptor` — one constraint with its message

A descriptor is a constraint of the field's type, or a validator that reports its own messages.

Validators, extension methods and message functions are given by whoever builds a schema, and may do
more than compute: they act in a monad `m`.  With `Id` they are functions; with a monad of traces one
sees which of them run, and in which order.
-/
import FieldRules.Constraint
import FieldRules.Messages.Table
import FieldRules.Template

namespace FieldRules

open Json (Value)
open Messages (Table)

/-! ## Messages -/

/-- What a message function is told: the type of the field, and the kind and the parameters of the
constraint that failed. -/
structure Failure where
  type : FieldType
  kind : String
  params : Value

/-- A message in place of the one of the table. -/
inductive Override (m : Type → Type) where
  /-- Shown as it is. -/
  | literal (text : String)
  | computed (f : Failure → m String)

def Failure.tableMessage (table : Table) (f : Failure) : String :=
  Template.render (table.lookup f.type f.kind) f.params

/-- The message of a failure: an override decides, unless it is an empty text. -/
def Failure.message {m : Type → Type} [Monad m] (table : Table) (f : Failure) :
    Option (Override m) → m String
  | some (.computed g) => g f
  | some (.literal text) => pure (if text.isEmpty then f.tableMessage table else text)
  | none => pure (f.tableMessage table)

/-! ## Descriptors -/

inductive Descriptor (m : Type → Type) (t : FieldType) where
  | check (constraint : t.Constraint) (override : Option (Override m))
  /-- A validator is given the converted input and the raw one. -/
  | custom (validator : t.Carrier → Value → m (Option String))

def Constraint.failure {t : FieldType} (c : t.Constraint) : Failure :=
  ⟨t, Constraint.kind c, Constraint.params c⟩

/-- What a descriptor reports of an input: the message of a constraint that fails, or what a
validator reports, an empty message being none. -/
def Descriptor.report {m : Type → Type} [Monad m] {t : FieldType} (table : Table)
    (value : t.Carrier) (input : Value) : Descriptor m t → m (Option String)
  | .check c override =>
    if Constraint.test c value then pure none
    else return some (← (Constraint.failure c).message table override)
  | .custom validator => return (← validator value input).filter fun text => !text.isEmpty

end FieldRules

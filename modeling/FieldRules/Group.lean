/-
# `Group` — constraints that run as one

A group is a run of descriptors of one field, together with the inputs that are let through.  It
converts its input once, and the first descriptor that fails decides.

The messages are those of the factory that the group was made with, wherever it is run.  A group
holds the place of this factory and not its table, which is looked up when the group runs: the tables
are a parameter of everything that runs groups.
-/
import FieldRules.Descriptor

namespace FieldRules

open Json (Value)
open Messages (Table)

/-- Which raw inputs are let through unchecked. -/
inductive Exemption where
  | listed (values : List Value)
  | predicate (f : Value → Bool)

namespace Exemption

/-- The empty text and null. -/
def blank : Exemption := .listed [.string "", .null]

def covers (input : Value) : Exemption → Bool
  | .listed values => values.any fun v => v.same input
  | .predicate f => f input

end Exemption

/-- The tables of factories, by the places of the factories. -/
abbrev Tables := Nat → Table

/-- Descriptors that run as one, and the place of the factory that they were made with. -/
structure Group (m : Type → Type) where
  owner : Nat
  type : FieldType
  exemption : Option Exemption
  descriptors : List (Descriptor m type)

namespace Group

variable {m : Type → Type}

def size (g : Group m) : Nat := g.descriptors.length

/-- The message that a group reports of an input.  An exempt input passes, whatever it is; one that
cannot be converted fails before any descriptor runs. -/
def evaluate [Monad m] (tables : Tables) (input : Value) (g : Group m) : m (Option String) :=
  if g.exemption.any (·.covers input) then pure none
  else
    match g.type.coerce? input with
    | none => pure (some ((tables g.owner).typeFailure g.type))
    | some value => g.descriptors.findSomeM? (Descriptor.report (tables g.owner) value input)

end Group

end FieldRules

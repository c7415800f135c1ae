/-
# `Workspace` — named schemas and the factories they share

A workspace keeps factories, schemas and rules under names.  Two names may stand for one factory, and
what is built with a factory stays tied to it by its place: a merge into its table shows in every
message that is taken from the table later, whether the rule was compiled before or after, and whether
it is run alone or was taken in among the rules of another factory.
-/
import FieldRules.Document.Build

namespace FieldRules

open Json (Fields)
open Messages (Table)

/-- What is kept under a name. -/
inductive Holding (m : Type → Type) where
  | schema (s : AnySchema m)
  | rules (rules : List (Rule m))
  | formRules (rules : List (FormRule m))
  | triggerRules (rules : List (TriggerRule m))

/-- What is kept under a name, with the places of the factories that it was made with. -/
structure Slot (m : Type → Type) where
  makers : List Nat
  holding : Holding m

/-- Factories, the names of their places, and named slots. -/
structure Workspace (m : Type → Type) where
  factories : List (Factory m)
  names : Fields Nat
  slots : Fields (Slot m)

namespace Workspace

variable {m : Type → Type}

def start (name : String) (f : Factory m) : Workspace m := ⟨[f], [(name, 0)], []⟩

def addFactory (w : Workspace m) (name : String) (f : Factory m) : Workspace m :=
  { w with factories := w.factories ++ [f], names := w.names.insert name w.factories.length }

def share (w : Workspace m) (name copy : String) : Workspace m :=
  match w.names.get? name with
  | some place => { w with names := w.names.insert copy place }
  | none => w

def factory? (w : Workspace m) (name : String) : Option (Nat × Factory m) := do
  let place ← w.names.get? name
  return (place, ← w.factories[place]?)

def setFactory (w : Workspace m) (place : Nat) (f : Factory m) : Workspace m :=
  { w with factories := w.factories.set place f }

def put (w : Workspace m) (name : String) (makers : List Nat) (holding : Holding m) : Workspace m :=
  { w with slots := w.slots.insert name ⟨makers, holding⟩ }

def slot? (w : Workspace m) (name : String) : Option (Slot m) := w.slots.get? name

/-- The tables of the factories as they are now. -/
def tables (w : Workspace m) : Tables := fun place =>
  match w.factories[place]? with
  | some f => f.messages
  | none => Table.empty

end Workspace

namespace Holding

variable {m : Type → Type}

def compiled? : Holding m → Option (List (Rule m))
  | .schema s => some s.schema.rules
  | .rules compiled => some compiled
  | _ => none

/-- What is kept with other rules behind it: rules of a form behind a schema, and rules behind rules
of the same kind. -/
def append? : Holding m → Holding m → Option (Holding m)
  | .schema ⟨t, s⟩, .formRules rs => some (.schema ⟨t, s.concat rs⟩)
  | .rules rs, .rules others => some (.rules (rs ++ others))
  | .formRules rs, .formRules others => some (.formRules (rs ++ others))
  | .triggerRules rs, .triggerRules others => some (.triggerRules (rs ++ others))
  | _, _ => none

end Holding

end FieldRules

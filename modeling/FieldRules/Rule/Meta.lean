/-
# `Rule.Meta` — the declarative fields of a rule

`Declaration` is what a form checks itself.  `Meta` is the part of a rule that can be written down: what
a form shows of it without running it.
-/
import FieldRules.Rule.Trigger
import FieldRules.FieldType

namespace FieldRules

open Json (Value)

namespace Rule

/-- What a rule declares: the fields that a form checks itself. -/
structure Declaration where
  type : Option FieldType := none
  required : Option Bool := none
  message : Option String := none
  min : Option Float := none
  max : Option Float := none

structure Meta extends Declaration where
  trigger : Option Trigger := none
  /-- Whether the rule has a validator. -/
  validator : Bool

namespace Meta

/-- A member for a field that is present. -/
def member (name : String) : Option Value → List (String × Value)
  | some v => [(name, v)]
  | none => []

/-- The members of the written form, in the order of the fields; absent fields are left out, and a
bound that is not finite is null. -/
def members (m : Meta) : List (String × Value) :=
  member "type" (m.type.map fun t => .string t.name)
    ++ member "required" (m.required.map .bool)
    ++ member "message" (m.message.map .string)
    ++ member "min" (m.min.map .ofFloat)
    ++ member "max" (m.max.map .ofFloat)
    ++ member "trigger" (m.trigger.map Trigger.toValue)
    ++ [("validator", .bool m.validator)]

def toValue (m : Meta) : Value := .object (Json.Fields.ofList m.members)

def fieldNames : List String :=
  ["type", "required", "message", "min", "max", "trigger", "validator"]

/-- Reads the written form.  All fields but the last may be absent or null, and other members are
skipped; a list must hold every field. -/
def read? {σ : Type} [Source σ] (source : σ) : Option Meta := do
  match ← Source.record? fieldNames false fieldNames.length source with
  | [type, required, message, min, max, trigger, some validator] =>
    return {
      type := ← Source.optional? (fun s => (Source.name? s).bind FieldType.ofName?) type
      required := ← Source.optional? Source.flag? required
      message := ← Source.optional? Source.text? message
      min := ← Source.optional? Source.float? min
      max := ← Source.optional? Source.float? max
      trigger := ← Source.optional? (fun s => (Source.value? s).bind Trigger.ofValue?) trigger
      validator := ← Source.flag? validator }
  | _ => none

end Meta

end Rule

end FieldRules

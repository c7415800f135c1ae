/-
# `Document` — schemas as documents

A document writes down one schema: the type of the field, which inputs are let through, and rules in
the order of their priority.  `Document.read?` reads one from a JSON or a YAML text, strictly: a field
that is not known is refused, and so is one given twice.
-/
import FieldRules.FieldType
import FieldRules.Source

namespace FieldRules

open Json (Value)

/-! ## What a document holds -/

/-- Which inputs are let through: none or the blank ones, or those that are listed. -/
inductive OptionalSpec where
  | enabled (on : Bool)
  | values (values : List Value)

/-- One rule of a document: a constraint of some kind with its parameters, or, without a kind, a rule
of a form. -/
structure RuleSpec where
  kind : Option String
  value : Option Value
  message : Option String
  required : Option Bool
  min : Option Float
  max : Option Float
  type : Option FieldType

structure Document where
  type : FieldType
  optional : Option OptionalSpec
  rules : List RuleSpec

/-! ## Reading -/

namespace OptionalSpec

/-- Reads a truth value or a list. -/
def ofValue? : Value → Option OptionalSpec
  | .bool on => some (.enabled on)
  | .array items => some (.values items)
  | _ => none

end OptionalSpec

def FieldType.read? {σ : Type} [Source σ] (source : σ) : Option FieldType :=
  (Source.name? source).bind FieldType.ofName?

namespace RuleSpec

def fieldNames : List String := ["kind", "value", "message", "required", "min", "max", "type"]

/-- Reads a rule; every field may be left out. -/
def read? {σ : Type} [Source σ] (source : σ) : Option RuleSpec := do
  match ← Source.record? fieldNames true 0 source with
  | [kind, value, message, required, min, max, type] =>
    return {
      kind := ← Source.optional? Source.text? kind
      value := ← Source.optional? Source.value? value
      message := ← Source.optional? Source.text? message
      required := ← Source.optional? Source.flag? required
      min := ← Source.optional? Source.float? min
      max := ← Source.optional? Source.float? max
      type := ← Source.optional? FieldType.read? type }
  | _ => none

end RuleSpec

namespace Document

def fieldNames : List String := ["type", "optional", "rules"]

/-- Reads a document; all but its type may be left out. -/
def read? {σ : Type} [Source σ] (source : σ) : Option Document := do
  match ← Source.record? fieldNames true 1 source with
  | [some type, optional, rules] =>
    return {
      type := ← FieldType.read? type
      optional := ← Source.optional?
        (fun s => (Source.strictValue? s).bind OptionalSpec.ofValue?) optional
      rules := ← match rules with
        | none => some []
        | some source => (Source.list? source).bind (·.mapM RuleSpec.read?) }
  | _ => none

end Document

/-! ## Writing -/

def OptionalSpec.toValue : OptionalSpec → Value
  | .enabled on => .bool on
  | .values items => .array items

/-- The members of a written rule: the fields that were not left out. -/
def RuleSpec.members (r : RuleSpec) : List (String × Value) :=
  let member (name : String) (v : Option Value) : List (String × Value) :=
    v.toList.map fun v => (name, v)
  member "kind" (r.kind.map .string)
    ++ member "value" r.value
    ++ member "message" (r.message.map .string)
    ++ member "required" (r.required.map .bool)
    ++ member "min" (r.min.map .ofFloat)
    ++ member "max" (r.max.map .ofFloat)
    ++ member "type" (r.type.map fun t => .string t.name)

def RuleSpec.toValue (r : RuleSpec) : Value := .object (Json.Fields.ofList r.members)

/-- The members of a written document; the rules are always written. -/
def Document.members (d : Document) : List (String × Value) :=
  [("type", .string d.type.name), ("rules", .array (d.rules.map RuleSpec.toValue))]
    ++ d.optional.toList.map fun o => ("optional", o.toValue)

def Document.toValue (d : Document) : Value := .object (Json.Fields.ofList d.members)

end FieldRules

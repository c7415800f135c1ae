/-
# `Schema` — the constraints of one field

A schema lists the constraints of a field in the order in which they were declared, and between them
rules of a form that run as they are.  It is built by appending, and compiles to rules: each longest
run of descriptors becomes one group, and every other item stays where it is.

`Schema.evaluate` runs the descriptors alone, as one group.  `Schema.check` runs everything the way a
form does, by compiling and handing the rules to a runner.
-/
import FieldRules.Registry
import FieldRules.Rule
import FieldRules.Rule.Channel
import FieldRules.Rule.Runner

namespace FieldRules

open Json (Value)
open Messages (Table)

/-! ## Items -/

/-- One item of a schema: a constraint, or a rule of a form. -/
inductive Item (m : Type → Type) (t : FieldType) where
  | descriptor (d : Descriptor m t)
  | raw (r : FormRule m)

def Item.descriptor? {m : Type → Type} {t : FieldType} : Item m t → Option (Descriptor m t)
  | .descriptor d => some d
  | .raw _ => none

/-- A stretch of items: a run of descriptors, or one rule. -/
inductive Stretch (m : Type → Type) (t : FieldType) where
  | run (descriptors : List (Descriptor m t))
  | raw (r : FormRule m)

/-- Puts an item in front of stretches: a descriptor joins a run that comes first. -/
def Stretch.push {m : Type → Type} {t : FieldType} :
    Item m t → List (Stretch m t) → List (Stretch m t)
  | .raw r, rest => .raw r :: rest
  | .descriptor d, .run ds :: rest => .run (d :: ds) :: rest
  | .descriptor d, rest => .run [d] :: rest

def Stretch.ofItems {m : Type → Type} {t : FieldType} (items : List (Item m t)) :
    List (Stretch m t) :=
  items.foldr Stretch.push []

/-! ## Schemas -/

/-- The constraints of a field, and the place of the factory that made the schema. -/
structure Schema (m : Type → Type) (t : FieldType) where
  owner : Nat
  items : List (Item m t) := []
  exemption : Option Exemption := none

namespace Schema

variable {m : Type → Type} {t : FieldType}

/-! ### Building -/

def push (s : Schema m t) (item : Item m t) : Schema m t := { s with items := s.items ++ [item] }

/-- Appends a constraint, with a message in place of the table's. -/
def constrain (s : Schema m t) (c : t.Constraint) (override : Option (Override m) := none) :
    Schema m t :=
  s.push (.descriptor (.check c override))

def custom (s : Schema m t) (validator : t.Carrier → Value → m (Option String)) : Schema m t :=
  s.push (.descriptor (.custom validator))

def concat (s : Schema m t) (rules : List (FormRule m)) : Schema m t :=
  { s with items := s.items ++ rules.map .raw }

/-- Appends the rule that an input is given, with a text that is settled. -/
def require (s : Schema m t) (message : String) : Schema m t := s.push (.raw (.require message))

/-- The text of such a rule, which is settled when the rule is built. -/
def requiredText [Monad m] (table : Table) (t : FieldType) : Option (Override m) → m String
  | some (.literal text) => pure text
  | some (.computed f) => f ⟨t, "required", .null⟩
  | none => pure table.required

def required [Monad m] (s : Schema m t) (table : Table) (override : Option (Override m)) :
    m (Schema m t) :=
  return s.require (← requiredText table t override)

def exempt (s : Schema m t) (e : Exemption) : Schema m t := { s with exemption := some e }

/-- Appends a call of an added method; it is the method of that name at this moment. -/
def invoke (s : Schema m t) (registry : Registry m) (name : String) (args : List Value) :
    Except RegistryError (Schema m t) := do
  let extension ← registry.get t name
  return s.custom fun _ input => extension input args

/-! ### Compiling -/

def group (s : Schema m t) (descriptors : List (Descriptor m t)) : Group m :=
  ⟨s.owner, t, s.exemption, descriptors⟩

def ruleOf (s : Schema m t) : Stretch m t → Rule m
  | .run ds => .compiled (s.group ds)
  | .raw r => .raw r

/-- The rules that the schema compiles to. -/
def rules (s : Schema m t) : List (Rule m) := (Stretch.ofItems s.items).map s.ruleOf

def formRules (s : Schema m t) : List (FormRule m) := s.rules.map Rule.toForm

def triggerRules (s : Schema m t) (trigger : Option Trigger) : List (TriggerRule m) :=
  s.rules.map (Rule.toTrigger trigger)

/-! ### Running -/

variable [Monad m]

/-- The first failure among the descriptors, which run as one group. -/
def evaluate (tables : Tables) (input : Value) (s : Schema m t) : m (Option String) :=
  (s.group (s.items.filterMap Item.descriptor?)).evaluate tables input

/-- The first failure among all items, run the way a form runs them. -/
def check (tables : Tables) (input : Value) (s : Schema m t) : m (Option String) :=
  return (← Runner.validate ⟨s.triggerRules none, s.owner⟩ tables input).map RuleError.message

/-- How validation ends, as whoever waits for it receives it; what receives nothing has passed. -/
def validate (tables : Tables) (input : Value) (s : Schema m t) : m Outcome := do
  let received ← Channel.receive
    (Runner.run ⟨s.triggerRules none, s.owner⟩ tables input fun error =>
      Channel.send (Outcome.ofError error))
  return received.getD .passed

/-- How validation ends, which is also told: whether it failed, and the message if it did. -/
def validateWith {n : Type → Type} [Monad n] [MonadLiftT m n] (tables : Tables)
    (tell : Bool → Option String → n Unit) (input : Value) (s : Schema m t) : n Outcome := do
  let outcome ← (s.validate tables input : m Outcome)
  tell outcome.isFailure outcome.message?
  return outcome

end Schema

/-! ## Schemas of any type -/

structure AnySchema (m : Type → Type) where
  type : FieldType
  schema : Schema m type

namespace AnySchema

variable {m : Type → Type}

def asString? : AnySchema m → Option (Schema m .string)
  | ⟨.string, s⟩ => some s
  | _ => none

def rules (s : AnySchema m) : List (Rule m) := s.schema.rules

def evaluate [Monad m] (tables : Tables) (input : Value) (s : AnySchema m) : m (Option String) :=
  s.schema.evaluate tables input

def check [Monad m] (tables : Tables) (input : Value) (s : AnySchema m) : m (Option String) :=
  s.schema.check tables input

def validate [Monad m] (tables : Tables) (input : Value) (s : AnySchema m) : m Outcome :=
  s.schema.validate tables input

end AnySchema

/-- The schemas of the fields of a form. -/
abbrev FormSchema (m : Type → Type) := Json.Fields (AnySchema m)

namespace FormSchema

variable {m : Type → Type}

def formRules (f : FormSchema m) : Json.Fields (List (FormRule m)) :=
  f.map fun (field, s) => (field, s.schema.formRules)

def triggerRules (f : FormSchema m) (trigger : Option Trigger) :
    Json.Fields (List (TriggerRule m)) :=
  f.map fun (field, s) => (field, s.schema.triggerRules trigger)

end FormSchema

end FieldRules

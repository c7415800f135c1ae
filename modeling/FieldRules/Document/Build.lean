/-
# `Document.Build` — building a schema from a document

Rules are taken in their order, and the first that cannot be built ends the building.  A rule with a
kind may not have the fields of a form's rule.  The kinds `required` and `optional` and the built-in
constraints are known; any other kind calls an added method.
-/
import FieldRules.Document
import FieldRules.Document.Parameter
import FieldRules.Factory

namespace FieldRules

open Json (Value)

/-! ## Errors -/

namespace Document

inductive Error where
  /-- The text is no document. -/
  | unreadable
  | invalidParameter (type : FieldType) (kind reason : String)
  | invalidPattern (source : String)
  /-- The rule at a place says nothing. -/
  | emptyRule (place : Nat)
  | registry (cause : RegistryError)
deriving DecidableEq, Repr

def Error.message : Error → String
  | .unreadable => "cannot parse schema document:"
  | .invalidParameter t kind reason =>
    t.name ++ "." ++ kind ++ ": invalid parameter:" ++ (if reason.isEmpty then "" else " " ++ reason)
  | .invalidPattern source => "invalid regular expression '" ++ source ++ "':"
  | .emptyRule place => "rule #" ++ toString place ++ " has no kind and no raw-rule fields"
  | .registry cause => cause.message

/-- The text of an error with the part that it comes from in front. -/
def Error.report : Error → String
  | .registry cause => "extension registry error: " ++ cause.message
  | e => "schema document error: " ++ e.message

end Document

/-! ## Rules -/

namespace RuleSpec

variable {m : Type → Type} {t : FieldType}

/-- The fields of a form's rule that are given, the message left out. -/
def rawFields (r : RuleSpec) : List String :=
  [("required", r.required.isSome), ("min", r.min.isSome), ("max", r.max.isSome),
    ("type", r.type.isSome)].filterMap fun (name, given) => if given then some name else none

/-- Whether the rule says anything as a rule of a form. -/
def isRaw (r : RuleSpec) : Bool := r.message.isSome || !r.rawFields.isEmpty

def toForm (r : RuleSpec) : FormRule m where
  type := r.type
  required := r.required
  message := r.message
  min := r.min
  max := r.max

/-- The arguments of an added method: a list is spread, and a single value is one argument. -/
def args (r : RuleSpec) : List Value :=
  match r.value with
  | none => []
  | some (.array items) => items
  | some single => [single]

/-- The message in place of the table's. -/
def override (r : RuleSpec) : Option (Override m) := r.message.map .literal

end RuleSpec

/-- Sets which inputs are let through, unless the document names none. -/
def OptionalSpec.apply {m : Type → Type} {t : FieldType} (s : Schema m t) :
    OptionalSpec → Schema m t
  | .enabled true => s.exempt .blank
  | .enabled false => s
  | .values items => s.exempt (.listed items)

namespace RuleSpec

variable {m : Type → Type} {t : FieldType}

def badOptional : String := "data did not match any variant of untagged enum OptionalSpec"

/-- Applies a rule of the kind `optional`; without a value the blank inputs are let through. -/
def applyOptional (s : Schema m t) (r : RuleSpec) : Except Document.Error (Schema m t) :=
  match r.value with
  | none => .ok (OptionalSpec.apply s (.enabled true))
  | some v =>
    match OptionalSpec.ofValue? v with
    | some spec => .ok (spec.apply s)
    | none => .error (.invalidParameter t "optional" badOptional)

def applyConstraint (s : Schema m t) (kind : String) (r : RuleSpec) :
    Except Document.Error (Schema m t) :=
  match Document.constraint t kind r.value with
  | .ok c => .ok (s.constrain c r.override)
  | .error (.invalid reason) => .error (.invalidParameter t kind reason)
  | .error (.badPattern source) => .error (.invalidPattern source)

def applyMethod (factory : Factory m) (s : Schema m t) (kind : String) (r : RuleSpec) :
    Except Document.Error (Schema m t) :=
  match s.invoke factory.registry kind r.args with
  | .ok s => .ok s
  | .error e => .error (.registry e)

/-- Appends what the rule at a place says. -/
def apply (factory : Factory m) (place : Nat) (s : Schema m t) (r : RuleSpec) :
    Except Document.Error (Schema m t) :=
  match r.kind with
  | none => if r.isRaw then .ok (s.concat [r.toForm]) else .error (.emptyRule place)
  | some kind =>
    if r.rawFields ≠ [] then
      .error (.invalidParameter t kind
        (", ".intercalate r.rawFields ++ " cannot be combined with a kind"))
    else if kind = "required" then
      .ok (s.require (r.message.getD factory.messages.required))
    else if kind = "optional" then applyOptional s r
    else if t.isBuiltIn kind then applyConstraint s kind r
    else applyMethod factory s kind r

end RuleSpec

/-! ## Documents -/

namespace Document

variable {m : Type → Type}

def applyRules {t : FieldType} (factory : Factory m) (place : Nat) (s : Schema m t) :
    List RuleSpec → Except Error (Schema m t)
  | [] => .ok s
  | r :: rest =>
    match r.apply factory place s with
    | .ok s => applyRules factory (place + 1) s rest
    | .error e => .error e

/-- The schema of a document before its rules, of the factory at a place. -/
def header (owner : Nat) (d : Document) : Schema m d.type :=
  match d.optional with
  | some spec => spec.apply { owner }
  | none => { owner }

/-- The schema of a document, with the messages and the methods of the factory at a place. -/
def build (owner : Nat) (factory : Factory m) (d : Document) : Except Error (AnySchema m) :=
  match applyRules factory 0 (d.header owner) d.rules with
  | .ok s => .ok ⟨d.type, s⟩
  | .error e => .error e

end Document

end FieldRules

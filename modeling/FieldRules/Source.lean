/-
# `Source` — what a record is read from

The same records are read from a JSON text, from a YAML text and from a JSON value.  A `Source` is
what these have in common: each view of a source answers `none` when the source is not of that form.
A record is read from a mapping of its fields, or, where a source has such lists, from a list of them
in their order.
-/
import FieldRules.Json.Node

namespace FieldRules

open Json (Value)

/-- Views of a structured text or value. -/
class Source (σ : Type) where
  /-- Whether the source stands for an absent value. -/
  isNull? : σ → Option Bool
  /-- A text. -/
  text? : σ → Option String
  /-- A truth value. -/
  flag? : σ → Option Bool
  /-- A number, as a double. -/
  float? : σ → Option Float
  /-- The name of one of several alternatives. -/
  name? : σ → Option String
  /-- A JSON value. -/
  value? : σ → Option Value
  /-- A JSON value in whose mappings every key is a text as such. -/
  strictValue? : σ → Option Value
  /-- The elements of a list. -/
  list? : σ → Option (List σ)
  /-- The fields of a record that are written as a list. -/
  listedFields? : σ → Option (List σ)
  /-- The members of a mapping, in their order and with their repetitions. -/
  members? : σ → Option (List (String × σ))

namespace Source

variable {σ : Type}

/-- Assigns members to fields.  A field may be given once; a member that is no field is refused by a
strict reading and skipped by any other. -/
def assign (names : List String) (strict : Bool) :
    List (String × σ) → Option (List (String × σ))
  | [] => some []
  | (name, source) :: rest => do
    let assigned ← assign names strict rest
    if name ∈ names then
      if assigned.any (·.1 == name) then none else some ((name, source) :: assigned)
    else if strict then none
    else some assigned

/-- The fields of a record, in the order of `names`.  A list gives them by place, the first `needed`
of them at least. -/
def record? [Source σ] (names : List String) (strict : Bool) (needed : Nat) (source : σ) :
    Option (List (Option σ)) :=
  match listedFields? source with
  | some items =>
    if needed ≤ items.length ∧ items.length ≤ names.length then
      some (items.map some ++ List.replicate (names.length - items.length) none)
    else none
  | none => do
    let assigned ← assign names strict (← members? source)
    return names.map fun name => assigned.lookup name

/-- A field that may be absent or null. -/
def optional? [Source σ] {α : Type} (read : σ → Option α) : Option σ → Option (Option α)
  | none => some none
  | some source => do if ← isNull? source then some none else (read source).map some

end Source

/-! ## JSON values -/

/-- The name of an alternative: a text, or a mapping of that name to null. -/
def Json.Value.variant? : Value → Option String
  | .string s => some s
  | .object [(name, .null)] => some name
  | _ => none

instance : Source Value where
  isNull?
    | .null => some true
    | _ => some false
  text? := Value.asString?
  flag?
    | .bool b => some b
    | _ => none
  float? := Value.asFloat?
  name? := Value.variant?
  value? := some
  strictValue? := some
  list? := Value.asArray?
  listedFields? := Value.asArray?
  members? := Value.asObject?

/-! ## JSON texts -/

/-- A tree of a JSON text with the number of brackets that may still be opened inside it. -/
structure Json.Rooted where
  node : Json.Node
  levels : Nat

namespace Json.Rooted

def inside (r : Rooted) (nodes : List Node) : Option (List Rooted) :=
  if r.levels = 0 then none else some (nodes.map fun n => ⟨n, r.levels - 1⟩)

def list? (r : Rooted) : Option (List Rooted) :=
  match r.node with
  | .array items => r.inside items
  | _ => none

/-- The members of a mapping, if all of its names are texts. -/
def members? (r : Rooted) : Option (List (String × Rooted)) :=
  match r.node with
  | .object members => do
    let names ← members.mapM (·.1)
    return names.zip (← r.inside (members.map (·.2)))
  | _ => none

def text? (r : Rooted) : Option String :=
  match r.node with
  | .string s => s
  | _ => none

def isNull (r : Rooted) : Bool :=
  match r.node with
  | .null => true
  | _ => false

def name? (r : Rooted) : Option String :=
  match r.text?, r.members? with
  | some s, _ => some s
  | none, some [(name, value)] => if value.isNull then some name else none
  | _, _ => none

end Json.Rooted

instance : Source Json.Rooted where
  isNull? r := some r.isNull
  text? := Json.Rooted.text?
  flag? r :=
    match r.node with
    | .bool b => some b
    | _ => none
  float? r :=
    match r.node with
    | .number l => (Json.Number.ofLiteral? l).map Json.Number.toFloat
    | _ => none
  name? := Json.Rooted.name?
  value? r := r.node.value? r.levels
  strictValue? r := r.node.value? r.levels
  list? := Json.Rooted.list?
  listedFields? := Json.Rooted.list?
  members? := Json.Rooted.members?

def Json.Rooted.parse? (text : String) : Option Json.Rooted :=
  (Json.Node.parse? text).map fun node => ⟨node, Json.Node.depthLimit⟩

end FieldRules

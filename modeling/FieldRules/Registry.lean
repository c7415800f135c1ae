/-
# `Registry` — methods added to the types

An extension is a method that a program adds to a type of fields: it is given the raw input and the
arguments of the call.  The names of built-in methods are reserved for each type, in every spelling,
and a name is added once; replacing a method is a step of its own.
-/
import FieldRules.FieldType
import FieldRules.Json.Value

namespace FieldRules

open Json (Value Fields)

/-! ## Reserved names -/

def commonMethods : List String :=
  ["custom", "required", "optional", "optional_values", "optional_if", "concat", "invoke"]

def FieldType.methods : FieldType → List String
  | .string =>
    ["min", "max", "range", "len", "byte_len", "byteLen", "equal", "contain", "starts_with",
      "startsWith", "ends_with", "endsWith", "regex", "uppercase", "lowercase", "alphanumeric",
      "phone", "email", "url", "ip", "password"]
  | .number =>
    ["min", "max", "range", "gt", "gte", "lt", "lte", "equal", "integer", "decimal", "positive",
      "negative", "nonnegative", "nonpositive", "port"]
  | .array => ["min", "max", "range", "len", "includes", "excludes", "unique"]

def FieldType.isBuiltIn (t : FieldType) (name : String) : Bool :=
  commonMethods.contains name || t.methods.contains name

/-! ## Registries -/

/-- A method: it reports what is wrong with a raw input, given the arguments of the call. -/
abbrev Extension (m : Type → Type) := Value → List Value → m (Option String)

inductive RegistryError where
  | reservedName (type : FieldType) (name : String)
  | duplicateMethod (type : FieldType) (name : String)
  | unknownMethod (type : FieldType) (name : String)
deriving DecidableEq, Repr

def RegistryError.message : RegistryError → String
  | .reservedName t name =>
    "'" ++ name ++ "' is a built-in " ++ t.name ++ " method and cannot be redefined"
  | .duplicateMethod t name =>
    t.name ++ " method '" ++ name
      ++ "' is already registered; use replace_method to override it"
  | .unknownMethod t name => t.name ++ " schema has no method '" ++ name ++ "'"

/-- The methods of each type, in ascending order of their names. -/
structure Registry (m : Type → Type) where
  methods : FieldType → Fields (Extension m)

namespace Registry

variable {m : Type → Type}

def empty : Registry m := ⟨fun _ => []⟩

def find? (r : Registry m) (t : FieldType) (name : String) : Option (Extension m) :=
  (r.methods t).get? name

def contains (r : Registry m) (t : FieldType) (name : String) : Bool := (r.find? t name).isSome

def names (r : Registry m) (t : FieldType) : List String := (r.methods t).map Prod.fst

def put (r : Registry m) (t : FieldType) (name : String) (e : Extension m) : Registry m :=
  ⟨fun u => if u = t then (r.methods u).insert name e else r.methods u⟩

/-- Adds a method under a name that is neither reserved nor taken. -/
def add (r : Registry m) (t : FieldType) (name : String) (e : Extension m) :
    Except RegistryError (Registry m) :=
  if t.isBuiltIn name then .error (.reservedName t name)
  else if r.contains t name then .error (.duplicateMethod t name)
  else .ok (r.put t name e)

/-- Adds or replaces a method, and says whether one was replaced. -/
def replace (r : Registry m) (t : FieldType) (name : String) (e : Extension m) :
    Except RegistryError (Registry m × Bool) :=
  if t.isBuiltIn name then .error (.reservedName t name)
  else .ok (r.put t name e, r.contains t name)

/-- A method that is put into a registry: added, or put in place of what may be there. -/
inductive Installation (m : Type → Type) where
  | add (type : FieldType) (name : String) (e : Extension m)
  | replace (type : FieldType) (name : String) (e : Extension m)

/-- Puts a method into a registry.  A replacement also says whether there was one before. -/
def install (r : Registry m) : Installation m → Except RegistryError (Registry m × Option Bool)
  | .add t name e => do return (← r.add t name e, none)
  | .replace t name e => do
    let (r, before) ← r.replace t name e
    return (r, some before)

def get (r : Registry m) (t : FieldType) (name : String) : Except RegistryError (Extension m) :=
  match r.find? t name with
  | some e => .ok e
  | none => .error (.unknownMethod t name)

end Registry

end FieldRules

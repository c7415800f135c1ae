/-
# `Document.Parameter` — constraints of a document

The parameters of a constraint are one JSON value, whose form depends on the kind of the constraint.
-/
import FieldRules.Constraint

namespace FieldRules.Document

open Json (Value)
open Predicate (AddressVersion PasswordOptions)

inductive ParameterFault where
  | invalid (reason : String)
  | badPattern (source : String)
deriving DecidableEq, Repr

/-- The parameters of a constraint, if the document gives any. -/
abbrev Parameter := Option Value

namespace Parameter

def orInvalid {α : Type} (reason : String) : Option α → Except ParameterFault α
  | some a => .ok a
  | none => .error (.invalid reason)

def count (p : Parameter) : Except ParameterFault Nat :=
  orInvalid "expected a non-negative integer" (p.bind Value.asNat?)

def number (p : Parameter) : Except ParameterFault Float :=
  orInvalid "expected a number" (p.bind Value.asFloat?)

def text (p : Parameter) : Except ParameterFault String :=
  orInvalid "expected a string" (p.bind Value.asString?)

def pair (p : Parameter) : Except ParameterFault (Value × Value) :=
  match p.bind Value.asArray? with
  | some [low, high] => .ok (low, high)
  | _ => .error (.invalid "expected a [min, max] pair")

def countPair (p : Parameter) : Except ParameterFault (Nat × Nat) := do
  let (low, high) ← pair p
  let reason := "bounds must be non-negative integers"
  return (← orInvalid reason low.asNat?, ← orInvalid reason high.asNat?)

def numberPair (p : Parameter) : Except ParameterFault (Float × Float) := do
  let (low, high) ← pair p
  let reason := "bounds must be numbers"
  return (← orInvalid reason low.asFloat?, ← orInvalid reason high.asFloat?)

/-- Values: a list of them, or a single one. -/
def values : Parameter → Except ParameterFault (List Value)
  | some (.array items) => .ok items
  | some single => .ok [single]
  | none => .error (.invalid "expected a list of values")

/-- A version of addresses, by its number or its name; none is either version. -/
def addressVersion : Parameter → Except ParameterFault (Option AddressVersion)
  | none | some .null => .ok none
  | some v =>
    match v.asNat? with
    | some 4 => .ok (some .v4)
    | some 6 => .ok (some .v6)
    | _ => orInvalid "expected 4, 6, \"v4\", or \"v6\""
        ((v.variant?.bind AddressVersion.ofName?).map some)

/-- The minimums of a password; none are the default ones. -/
def passwordOptions : Parameter → Except ParameterFault PasswordOptions
  | none | some .null => .ok {}
  | some v => orInvalid "" (PasswordOptions.ofValue? v)

def pattern (p : Parameter) : Except ParameterFault Pattern := do
  let source ← text p
  match Pattern.ofText? source with
  | some pattern => return pattern
  | none => throw (.badPattern source)

end Parameter

/-! ## Constraints by kind -/

/-- What is said of a method that documents do not have. -/
def unsupported : ParameterFault := .invalid "not available in schema documents"

def textConstraint (kind : String) (p : Parameter) : Except ParameterFault TextConstraint :=
  match kind with
  | "min" => return .min (← p.count)
  | "max" => return .max (← p.count)
  | "range" => return let (low, high) := ← p.countPair; .range low high
  | "len" => return .len (← p.count)
  | "byteLen" | "byte_len" => return let (low, high) := ← p.countPair; .byteLen low high
  | "equal" => return .equal (← p.text)
  | "contain" => return .contain (← p.text)
  | "startsWith" | "starts_with" => return .startsWith (← p.text)
  | "endsWith" | "ends_with" => return .endsWith (← p.text)
  | "regex" => return .regex (← p.pattern)
  | "uppercase" => return .uppercase
  | "lowercase" => return .lowercase
  | "alphanumeric" => return .alphanumeric
  | "phone" => return .phone
  | "email" => return .email
  | "url" => return .url
  | "ip" => return .ip (← p.addressVersion)
  | "password" => return .password (← p.passwordOptions)
  | _ => throw unsupported

def numberConstraint (kind : String) (p : Parameter) : Except ParameterFault NumberConstraint :=
  match kind with
  | "min" | "gte" => return .min (← p.number)
  | "max" | "lte" => return .max (← p.number)
  | "range" => return let (low, high) := ← p.numberPair; .range low high
  | "gt" => return .gt (← p.number)
  | "lt" => return .lt (← p.number)
  | "equal" => return .equal (← p.number)
  | "integer" => return .integer
  | "decimal" => return .decimal (← p.count)
  | "positive" => return .positive
  | "negative" => return .negative
  | "nonnegative" => return .nonnegative
  | "nonpositive" => return .nonpositive
  | "port" => return .port
  | _ => throw unsupported

def listConstraint (kind : String) (p : Parameter) : Except ParameterFault ListConstraint :=
  match kind with
  | "min" => return .min (← p.count)
  | "max" => return .max (← p.count)
  | "range" => return let (low, high) := ← p.countPair; .range low high
  | "len" => return .len (← p.count)
  | "includes" => return .includes (← p.values)
  | "excludes" => return .excludes (← p.values)
  | "unique" => return .unique
  | _ => throw unsupported

def constraint : (t : FieldType) → (kind : String) → Parameter → Except ParameterFault t.Constraint
  | .string => textConstraint
  | .number => numberConstraint
  | .array => listConstraint

end FieldRules.Document

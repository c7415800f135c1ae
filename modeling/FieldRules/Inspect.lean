/-
# `Inspect` — listings for whoever debugs a schema

A listing names the parts of a value with their fields, on one line.  What cannot be looked into, such
as a validator, is written as two dots.
-/
import FieldRules.Document.Build
import FieldRules.Json.Writer
import FieldRules.Text.BinaryProperty
import FieldRules.Text.GeneralCategory

namespace FieldRules.Inspect

open Json (Value)

/-! ## Texts and numbers -/

/-- The characters that are written by their number: marks that would join what stands before them,
controls, blanks other than the space, and code points without a character. -/
def hidden : List Text.Ranges :=
  let named (tables : List (List String × String)) (names : List String) : List Text.Ranges :=
    (tables.filter fun entry => entry.1.any (names.contains ·)).map fun entry =>
      Text.Ranges.ofText entry.2
  named Text.binaryPropertyTables ["graphemeextend"]
    ++ named Text.categoryTables ["cc", "cf", "cs", "co", "zl", "zp", "zs"]

def assigned : List Text.Ranges := Text.categoryTables.map fun entry => Text.Ranges.ofText entry.2

def isPrintable (c : Char) : Bool :=
  (' ' ≤ c && c ≤ '~') || (!hidden.any (·.contains c) && assigned.any (·.contains c))

/-- The digits of a number in base 16, in lower case. -/
def hexadecimal (n : Nat) : String := String.ofList (Nat.toDigits 16 n)

def escape (c : Char) : String :=
  match c with
  | '\x00' => "\\0"
  | '\t' => "\\t"
  | '\r' => "\\r"
  | '\n' => "\\n"
  | '\\' => "\\\\"
  | '"' => "\\\""
  | c => if isPrintable c then c.toString else r"\u{" ++ hexadecimal c.toNat ++ r"}"

def text (s : String) : String := "\"" ++ String.join (s.toList.map escape) ++ "\""

/-- Doubles are written with the fewest digits that read back and at least one decimal, positionally
from 0.0001 up to below 10 to the 16th. -/
def floatLayout : Decimal.Layout where
  positional := fun e => -4 ≤ e && e < 16
  pointZero := true
  exponentPlus := false
  signedZero := true
  tie := .upward
  nan := "NaN"
  infinity := "inf"

def float (x : Float) : String := floatLayout.write x

/-! ## Shapes -/

/-- A name with parts in parentheses. -/
def tuple (name : String) (parts : List String) : String :=
  name ++ "(" ++ ", ".intercalate parts ++ ")"

/-- A name with fields in braces. -/
def record (name : String) (fields : List (String × String)) : String :=
  name ++ r" { " ++ ", ".intercalate (fields.map fun (k, v) => k ++ ": " ++ v) ++ r" }"

def list (items : List String) : String := "[" ++ ", ".intercalate items ++ "]"

def option : Option String → String
  | some s => tuple "Some" [s]
  | none => "None"

def flag (b : Bool) : String := if b then "true" else "false"

mutual

def value : Value → String
  | .null => "Null"
  | .bool b => tuple "Bool" [flag b]
  | .number n => tuple "Number" [n.write]
  | .string s => tuple "String" [text s]
  | .array items => "Array " ++ list (values items)
  | .object members => r"Object {" ++ ", ".intercalate (memberTexts members) ++ r"}"

def values : List Value → List String
  | [] => []
  | v :: rest => value v :: values rest

def memberTexts : List (String × Value) → List String
  | [] => []
  | (k, v) :: rest => (text k ++ ": " ++ value v) :: memberTexts rest

end

/-! ## Rules -/

def fieldType : FieldType → String
  | .string => "String"
  | .number => "Number"
  | .array => "Array"

def trigger : Trigger → String
  | .change => "Change"
  | .blur => "Blur"
  | .both => "Both"

section

variable {m : Type → Type}

/-- The fields of a rule, those of its events in front of the last. -/
def ruleFields (r : Rule.Declaration) (events : List (String × String)) (validator : Bool) :
    List (String × String) :=
  [("type", option (r.type.map fieldType)), ("required", option (r.required.map flag)),
    ("message", option (r.message.map text)), ("min", option (r.min.map float)),
    ("max", option (r.max.map float))] ++ events ++ [("validator", flag validator)]

/-- A rule in the plain shape. -/
def formRule (r : FormRule m) : String :=
  record "FormRule" (ruleFields r.toDeclaration [] r.validator.isSome)

/-- A rule in the shape with events. -/
def triggerRule (r : TriggerRule m) : String :=
  record "TriggerRule" (ruleFields r.toDeclaration [("trigger", option (r.trigger.map trigger))]
    r.validator.isSome)

def rule : Rule m → String
  | .compiled g =>
    tuple "Compiled" [r"CompiledRule { type: " ++ fieldType g.type ++ ", size: "
      ++ toString g.size ++ r", .. }"]
  | .raw r => tuple "Raw" [formRule r]

/-! ## Schemas -/

def addressVersion : Predicate.AddressVersion → String
  | .v4 => "V4"
  | .v6 => "V6"

def passwordOptions (o : Predicate.PasswordOptions) : String :=
  record "PasswordOptions"
    [("min_length", toString o.minLength), ("min_lowercase", toString o.minLowercase),
      ("min_uppercase", toString o.minUppercase), ("min_numbers", toString o.minNumbers),
      ("min_symbols", toString o.minSymbols)]

def textConstraint : TextConstraint → String
  | .min n => tuple "Min" [toString n]
  | .max n => tuple "Max" [toString n]
  | .range low high => tuple "Range" [toString low, toString high]
  | .len n => tuple "Len" [toString n]
  | .byteLen low high => tuple "ByteLen" [toString low, toString high]
  | .equal s => tuple "Equal" [text s]
  | .contain s => tuple "Contain" [text s]
  | .startsWith s => tuple "StartsWith" [text s]
  | .endsWith s => tuple "EndsWith" [text s]
  | .regex pattern => tuple "Regex" [tuple "Regex" [text pattern.source]]
  | .uppercase => "Uppercase"
  | .lowercase => "Lowercase"
  | .alphanumeric => "Alphanumeric"
  | .phone => "Phone"
  | .email => "Email"
  | .url => "Url"
  | .ip version => tuple "Ip" [option (version.map addressVersion)]
  | .password options => tuple "Password" [passwordOptions options]

def numberConstraint : NumberConstraint → String
  | .min x => tuple "Min" [float x]
  | .max x => tuple "Max" [float x]
  | .range low high => tuple "Range" [float low, float high]
  | .gt x => tuple "Gt" [float x]
  | .lt x => tuple "Lt" [float x]
  | .equal x => tuple "Equal" [float x]
  | .integer => "Integer"
  | .decimal digits => tuple "Decimal" [toString digits]
  | .positive => "Positive"
  | .negative => "Negative"
  | .nonnegative => "Nonnegative"
  | .nonpositive => "Nonpositive"
  | .port => "Port"

def listConstraint : ListConstraint → String
  | .min n => tuple "Min" [toString n]
  | .max n => tuple "Max" [toString n]
  | .range low high => tuple "Range" [toString low, toString high]
  | .len n => tuple "Len" [toString n]
  | .includes items => tuple "Includes" [list (values items)]
  | .excludes items => tuple "Excludes" [list (values items)]
  | .unique => "Unique"

def constraint : (t : FieldType) → t.Constraint → String
  | .string => textConstraint
  | .number => numberConstraint
  | .array => listConstraint

def override : Override m → String
  | .literal s => tuple "Literal" [text s]
  | .computed _ => "Func(..)"

def descriptor {t : FieldType} : Descriptor m t → String
  | .check c o =>
    record "Check" [("constraint", constraint t c), ("message", option (o.map override))]
  | .custom _ => "Custom(..)"

def item {t : FieldType} : Item m t → String
  | .descriptor d => descriptor d
  | .raw r => formRule r

def exemption : Exemption → String
  | .listed items => tuple "Whitelist" [list (values items)]
  | .predicate _ => "Predicate(..)"

def schema (s : AnySchema m) : String :=
  tuple (fieldType s.type)
    [record "Schema"
      [("type", fieldType s.type), ("items", list (s.schema.items.map item)),
        ("optional", option (s.schema.exemption.map exemption))]]

def registry (r : Registry m) : String :=
  let methods := FieldType.all.flatMap fun t =>
    (r.names t).map fun name => "(" ++ fieldType t ++ ", " ++ text name ++ ")"
  record "Extensions"
    [("inner", record "RwLock"
      [("data", record "ExtensionRegistry" [("methods", list methods)])])]

end

end FieldRules.Inspect

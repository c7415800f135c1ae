/-
# `Template` — message templates

A template holds placeholders, names in braces.  An object fills `{name}` from its members, and any
other value fills `{0}`, `{1}` and so on: a list from its elements, and a single value the first
place.  A placeholder without a parameter, or with a null one, stays as it is written, so rendering
never fails; what is filled in is not searched again.
-/
import FieldRules.Coercion
import FieldRules.Text.Word
import FieldRules.Text.Digit

namespace FieldRules.Template

open Json (Value)

def placeholder (name : List Char) : List Char := '{' :: name ++ ['}']

/-- One pass over a template.  `isName` says which characters form a name, and `fill` gives the text
for one.  While a brace is open, `pending` holds the name behind it, last character first. -/
def fillFrom (isName : Char → Bool) (fill : List Char → Option String) :
    Option (List Char) → List Char → List Char
  | none, [] => []
  | some pending, [] => '{' :: pending.reverse
  | none, c :: rest =>
    if c = '{' then fillFrom isName fill (some []) rest
    else c :: fillFrom isName fill none rest
  | some pending, c :: rest =>
    if isName c then fillFrom isName fill (some (c :: pending)) rest
    else if c = '}' ∧ pending ≠ [] then
      (match fill pending.reverse with
        | some text => text.toList
        | none => placeholder pending.reverse) ++ fillFrom isName fill none rest
    else if c = '{' then '{' :: pending.reverse ++ fillFrom isName fill (some []) rest
    else '{' :: pending.reverse ++ c :: fillFrom isName fill none rest

/-- The text of a parameter; null stands for none. -/
def parameterText? : Value → Option String
  | .null => none
  | v => some (Coercion.text v)

/-- The parameter at the place that a run of digits names.  Digits of other scripts name none. -/
def positional? (items : List Value) (name : List Char) : Option String :=
  if name.all Decimal.isDigit then (items[Decimal.natOfDigits name]?).bind parameterText?
  else none

def named? (members : Json.Fields Value) (name : List Char) : Option String :=
  (members.get? (String.ofList name)).bind parameterText?

/-- The template with its placeholders filled from `params`. -/
def render (template : String) (params : Value) : String :=
  String.ofList <|
    match params with
    | .object members => fillFrom Text.isWord (named? members) none template.toList
    | .array items => fillFrom Text.isDecimalDigit (positional? items) none template.toList
    | single => fillFrom Text.isDecimalDigit (positional? [single]) none template.toList

end FieldRules.Template

/-
# `Rule.Trigger` — the events that run a rule again
-/
import FieldRules.Source

namespace FieldRules

open Json (Value)

/-- The events of a form that run a rule again. -/
inductive Trigger where
  | change
  | blur
  | both
deriving DecidableEq, Repr

namespace Trigger

def events : Trigger → List String
  | .change => ["change"]
  | .blur => ["blur"]
  | .both => ["change", "blur"]

/-- The trigger of a list of event names: at least one, all of them known. -/
def ofEvents? (names : List String) : Option Trigger :=
  if names.all fun n => n == "change" || n == "blur" then
    match names.contains "change", names.contains "blur" with
    | true, true => some .both
    | true, false => some .change
    | false, true => some .blur
    | false, false => none
  else none

/-- A single event is written as its name, several as a list. -/
def toValue (t : Trigger) : Value :=
  match t.events with
  | [event] => .string event
  | events => .array (events.map .string)

def ofValue? : Value → Option Trigger
  | .string name => ofEvents? [name]
  | .array items => (items.mapM Value.asString?).bind ofEvents?
  | _ => none

end Trigger

end FieldRules

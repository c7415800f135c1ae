/-
# `Messages.Table` — message templates by key

A table is a tree of mappings with templates at its leaves.  Whatever is put into it is merged as
members (`Table.mergeFields`), and merging keeps the members of every mapping in order, so a table
holds one entry for a path and is what its entries are.
-/
import FieldRules.FieldType
import FieldRules.Messages.Mapping

namespace FieldRules.Messages

open Json (Value Fields)

/-! ## Tables -/

/-- Why no table could be read or merged. -/
inductive Error where
  /-- The text is not JSON. -/
  | json
  /-- The text is not YAML. -/
  | yaml
  /-- The root is no mapping, but a value of this JSON type. -/
  | notAMapping (found : String)
  /-- The file cannot be read, for this reason. -/
  | unreadable (path reason : String)
deriving DecidableEq, Repr

/-- The causes that an error names, outermost first. -/
def Error.chain : Error → List String
  | .json => ["invalid JSON message table:"]
  | .yaml => ["invalid YAML message table:"]
  | .notAMapping found => ["message table root must be a mapping, found " ++ found]
  | .unreadable path reason =>
    ["cannot read message file '" ++ path ++ "': " ++ reason, reason]

def Error.message (e : Error) : String := e.chain.headD ""

/-- A table of message templates: the members of a mapping, in order down to the leaves. -/
@[ext]
structure Table where
  entries : Fields Value
  ordered : Throughout Fields.Ascending entries

namespace Table

def empty : Table := ⟨[], .nil stable_ascending⟩

def same (a b : Table) : Bool := Value.beqMembers a.entries b.entries

def mergeFields (t : Table) (members : Fields Value) : Table :=
  ⟨mergeMembers members t.entries, t.ordered.mergeMembers stable_ascending members⟩

def mergeTable (t other : Table) : Table := t.mergeFields other.entries

def merge (t : Table) : Value → Except Error Table
  | .object members => .ok (t.mergeFields members)
  | other => .error (.notAMapping other.typeName)

def ofValue (v : Value) : Except Error Table := empty.merge v

def insert (t : Table) (key template : String) : Table := t.mergeFields [(key, .string template)]

def get? (t : Table) (key : String) : Option String :=
  (lookupPath (segments key) t.entries).bind Value.asString?

/-- The message for everything that has none of its own. -/
def default (t : Table) : String := (t.get? "default").getD ""

/-- The template for a constraint of a type, or the default message. -/
def lookup (t : Table) (type : FieldType) (kind : String) : String :=
  (t.get? (type.name ++ "." ++ kind)).getD t.default

/-- The message for a missing input, or the default message. -/
def required (t : Table) : String := (t.get? "required").getD t.default

/-- The message for an input that is not of a type, or the default message. -/
def typeFailure (t : Table) (type : FieldType) : String :=
  (t.get? type.typeMessageKey).getD t.default

/-- All leaves under their flat keys; of leaves that share one the last counts. -/
def flatten (t : Table) : Fields String := Fields.ofList (memberLeaves "" t.entries)

def toValue (t : Table) : Value := .object t.entries

end Table

end FieldRules.Messages

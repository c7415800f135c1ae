/-
# `Messages.Reading` — message tables as texts
-/
import FieldRules.Format
import FieldRules.Messages.Table

namespace FieldRules.Messages

open Json (Value)

def Error.ofFormat : Format → Error
  | .json => .json
  | .yaml => .yaml

namespace Table

def parse (format : Format) (text : String) : Except Error Table :=
  match Value.read? format text with
  | some v => ofValue v
  | none => .error (Error.ofFormat format)

def mergeText (t : Table) (format : Format) (text : String) : Except Error Table :=
  (parse format text).map t.mergeTable

/-- Merges what was read from a file into the table; the reading may have failed for a reason. -/
def mergeFile (t : Table) (path : String) : Except String String → Except Error Table
  | .ok text => t.mergeText (Format.ofPath path) text
  | .error reason => .error (.unreadable path reason)

end Table

/-- What is merged into a table: a value, another table, a text, or what was read from a file. -/
inductive Merge where
  | value (override : Value)
  | table (other : Table)
  | text (format : Format) (text : String)
  | file (path : String) (content : Except String String)

def Merge.into (t : Table) : Merge → Except Error Table
  | .value override => t.merge override
  | .table other => .ok (t.mergeTable other)
  | .text format written => t.mergeText format written
  | .file path content => t.mergeFile path content

end FieldRules.Messages

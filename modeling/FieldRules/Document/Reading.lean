/-
# `Document.Reading` — schema documents as texts
-/
import FieldRules.Document.Build
import FieldRules.Format

namespace FieldRules.Document

def parse? : Format → String → Option Document
  | .json, text => (Json.Rooted.parse? text).bind read?
  | .yaml, text => (Yaml.Node.parse? text).bind read?

def parse (format : Format) (text : String) : Except Error Document :=
  match parse? format text with
  | some d => .ok d
  | none => .error .unreadable

end FieldRules.Document

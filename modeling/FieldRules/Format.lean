/-
# `Format` — the formats of message files and schema documents

A text is JSON or YAML, and the name of a file tells which.
-/
import FieldRules.Yaml.Value
import FieldRules.Text.Split

namespace FieldRules

open Json (Value)

inductive Format where
  | json
  | yaml
deriving DecidableEq, Repr

namespace Format

/-- The extension of a file name: what follows the last dot, if anything precedes that dot. -/
def extension? (name : List Char) : Option (List Char) :=
  match (Text.splitAt '.' name).reverse with
  | extension :: before :: more => if before = [] ∧ more = [] then none else some extension
  | _ => none

/-- The steps of a path: what stands between slashes, empty steps and single dots left out. -/
def pathSteps (path : String) : List (List Char) :=
  (Text.splitAt '/' path.toList).filter fun step => step ≠ [] ∧ step ≠ ['.']

/-- The format of a file: JSON if its extension says so, and YAML otherwise. -/
def ofPath (path : String) : Format :=
  if (pathSteps path).getLast?.bind extension? = some "json".toList then .json else .yaml

end Format

def Json.Value.read? : Format → String → Option Value
  | .json, text => Value.parse? text
  | .yaml, text => do (← Yaml.Node.parse? text).value? false

end FieldRules

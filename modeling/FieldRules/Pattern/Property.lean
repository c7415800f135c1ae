/-
# `Pattern.Property` — characters by the name of a property

A pattern may name a binary property, a general category or a script, or the value of one of a few
other properties.  Names are compared without regard to case, blanks, hyphens and underscores, and a
leading `is` is left out.
-/
import FieldRules.Pattern.CharSet
import FieldRules.Text.Age
import FieldRules.Text.BinaryProperty
import FieldRules.Text.Break
import FieldRules.Text.GeneralCategory
import FieldRules.Text.Script
import FieldRules.Text.ScriptExtensions

namespace FieldRules.Pattern.Property

/-- The form in which names are compared. -/
def canonical (name : String) : String :=
  let folded := (name.toList.filter fun c => c.toNat < 128).map Char.toLower
  let kept := folded.filter fun c => c ≠ ' ' ∧ c ≠ '_' ∧ c ≠ '-'
  match folded, kept with
  | 'i' :: 's' :: _, ['i', 's', 'c'] => "isc"
  | 'i' :: 's' :: _, 'i' :: 's' :: rest => String.ofList rest
  | _, _ => String.ofList kept

def find? {α : Type} (tables : List (List String × α)) (name : String) : Option α :=
  (tables.find? fun entry => entry.1.contains name).map (·.2)

def unassigned : CharSet :=
  (CharSet.ofRanges (Text.categoryTables.flatMap fun entry =>
    (CharSet.ofTable entry.2).ranges)).complement

/-- The characters of a general category or of a group of categories. -/
def category? (name : String) : Option CharSet :=
  if name = "any" then some .all
  else if name = "ascii" then some (.range 0 0x7F)
  else if name = "assigned" then some unassigned.complement
  else if Text.unassignedNames.contains name then some unassigned
  else
    match find? Text.categoryTables name, find? Text.categoryGroups name with
    | some table, _ => some (.ofTable table)
    | none, some members =>
      let sets := members.map fun m => ((find? Text.categoryTables m).map CharSet.ofTable).getD .empty
      let sets := if name = "c" ∨ name = "other" then unassigned :: sets else sets
      some (.ofRanges (sets.flatMap CharSet.ranges))
    | none, none => none

def script? (name : String) : Option CharSet := (find? Text.scriptTables name).map .ofTable

/-- The characters that exist since a version or before it. -/
def age? (name : String) : Option CharSet :=
  let earlier := (Text.ageTables.reverse.dropWhile fun entry => !entry.1.contains name).map (·.2)
  if earlier = [] then none
  else some (.ofRanges (earlier.flatMap fun table => (CharSet.ofTable table).ranges))

/-- The characters that a single name selects: a binary property, a category or a script.  Two
abbreviations of categories are those of other properties too and mean the categories. -/
def named? (name : String) : Option CharSet :=
  let name := canonical name
  let binary := if name = "cf" ∨ name = "sc" ∨ name = "lc" then none
    else (find? Text.binaryPropertyTables name).map CharSet.ofTable
  binary.or ((category? name).or (script? name))

def valued? (name value : String) : Option CharSet :=
  let name := canonical name
  let value := canonical value
  if name = "generalcategory" ∨ name = "gc" then category? value
  else if name = "script" ∨ name = "sc" then script? value
  else if name = "scriptextensions" ∨ name = "scx" then
    (find? Text.scriptExtensionTables value).map .ofTable
  else if name = "age" then age? value
  else if name = "graphemeclusterbreak" ∨ name = "gcb" then
    (find? Text.clusterBreakTables value).map .ofTable
  else if name = "wordbreak" ∨ name = "wb" then (find? Text.wordBreakTables value).map .ofTable
  else if name = "sentencebreak" ∨ name = "sb" then
    (find? Text.sentenceBreakTables value).map .ofTable
  else none

end FieldRules.Pattern.Property

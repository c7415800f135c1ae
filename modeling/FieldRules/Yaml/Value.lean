/-
# `Yaml.Value` — what a node of a YAML text stands for

A node stands for a JSON value, and it is a source of records.  A plain scalar means what its spelling
says and any other scalar is a text, unless a tag of the format says what it has to be.  A tag that a
text makes up names an alternative, which a value has none of.
-/
import FieldRules.Source
import FieldRules.Yaml.Node
import FieldRules.Yaml.Plain

namespace FieldRules.Yaml

open Json (Value Fields)

/-! ## Tags -/

def flagTag : String := standardStart ++ "bool"

def integerTag : String := standardStart ++ "int"

def doubleTag : String := standardStart ++ "float"

def nullTag : String := standardStart ++ "null"

/-- The name that a tag gives, if a text makes it up: what follows the exclamation mark. -/
def localName? (tag : Option String) : Option String :=
  match tag.map String.toList with
  | some ['!'] => some "!"
  | some ('!' :: name) => some (String.ofList name)
  | _ => none

/-! ## Values -/

def scalarValue? (tag : Option String) (style : Style) (s : String) : Option Value :=
  match tag with
  | none => if style = .plain then plainValue? s else some (.string s)
  | some t =>
    if (localName? tag).isSome then none
    else if t = flagTag then (flagOfWord? s).map .bool
    else if t = integerTag then ((integer? s.toList).filter isLong).bind valueOfInteger?
    else if t = doubleTag then (double? s.toList).map .ofFloat
    else if t = nullTag then if isNullWord s then some .null else none
    else some (.string s)

/-- The name that a node gives to a member.  A strict reading wants a value that is a text, and any
other takes the text of a scalar. -/
def Node.key? (strict : Bool) : Node → Option String
  | .scalar tag style s => if strict then (scalarValue? tag style s).bind Value.asString? else some s
  | _ => none

mutual

def Node.value? (strict : Bool) : Node → Option Value
  | .scalar tag style s => scalarValue? tag style s
  | .sequence tag items =>
    if (localName? tag).isSome then none else (itemValues? strict items).map .array
  | .mapping tag members =>
    if (localName? tag).isSome then none
    else (memberValues? strict members).map fun ms => .object (Fields.ofList ms)

def itemValues? (strict : Bool) : List Node → Option (List Value)
  | [] => some []
  | item :: rest => do return (← item.value? strict) :: (← itemValues? strict rest)

def memberValues? (strict : Bool) : List (Node × Node) → Option (List (String × Value))
  | [] => some []
  | (key, value) :: rest => do
    return (← key.key? strict, ← value.value? strict) :: (← memberValues? strict rest)

end

/-! ## Views -/

namespace Node

/-- Whether the node is null.  One that is tagged so has to be spelled so. -/
def isNull? : Node → Option Bool
  | .scalar none .plain s => some (s.isEmpty || isNullWord s)
  | .scalar (some tag) .plain s =>
    if tag = nullTag then if isNullWord s then some true else none else some false
  | _ => some false

/-- The text of a scalar, whatever it means. -/
def text? : Node → Option String
  | .scalar _ _ s => some s
  | _ => none

/-- The text of a scalar that is plain, or a block with a given tag. -/
def bareText? (wanted : String) : Node → Option String
  | .scalar _ .plain s => some s
  | .scalar (some tag) .literal s => if tag = wanted then some s else none
  | _ => none

def isAbsent : Node → Bool
  | .scalar _ .plain s => s.isEmpty
  | _ => false

/-- The name of an alternative: the text of a scalar, or a tag with nothing behind it. -/
def name? : Node → Option String
  | .scalar tag style s =>
    match localName? tag with
    | none => some s
    | some name => if style = .plain && (s.isEmpty || isNullWord s) then some name else none
  | _ => none

/-- The items of a sequence; a node that is absent has none. -/
def list? : Node → Option (List Node)
  | .sequence _ items => some items
  | n => if n.isAbsent then some [] else none

/-- The members of a mapping; a node that is absent has none. -/
def members? : Node → Option (List (String × Node))
  | .mapping _ members => members.mapM fun (key, value) => key.text?.map fun k => (k, value)
  | n => if n.isAbsent then some [] else none

end Node

instance : Source Node where
  isNull? := Node.isNull?
  text? := Node.text?
  flag? n := (n.bareText? flagTag).bind flagOfWord?
  float? n := (n.bareText? doubleTag).bind fun s => double? s.toList
  name? := Node.name?
  value? := Node.value? false
  strictValue? := Node.value? true
  list? := Node.list?
  listedFields? _ := none
  members? := Node.members?

end FieldRules.Yaml

/-
# `Json.Node` — the tree of a JSON text

A `Node` is a JSON text after parsing and before its numbers and names are judged: members keep
their order and their repetitions, numbers their spelling, and nesting has no limit.  A reader that
skips a member therefore never looks inside it, and `Node.value?` is the reader that takes all of it.
-/
import FieldRules.Json.Token
import FieldRules.Json.Value

namespace FieldRules.Json

inductive Node where
  | null
  | bool (value : Bool)
  | number (literal : NumberLiteral)
  /-- A string; `none` if it holds an unpaired surrogate. -/
  | string (value : Option String)
  | array (items : List Node)
  | object (members : List (Option String × Node))

namespace Node

/-! ## From lexemes to the tree

The lexemes are read one by one against a stack of the brackets that are open. -/

/-- An open bracket with what stands behind it, last item first. -/
inductive Frame where
  | list (items : List Node)
  | members (members : List (Option String × Node)) (key : Option String)

/-- What may come next. -/
inductive Expect where
  | value
  | valueOrClose
  | key
  | keyOrClose
  | colon
  | separator
  | nothing

/-- The state of a reading: what may come next, the brackets that are open, and the tree once it is
complete. -/
structure Reading where
  expect : Expect
  frames : List Frame
  root : Node

/-- Puts a finished value into the innermost open bracket. -/
def Reading.finish (value : Node) : List Frame → Reading
  | [] => ⟨.nothing, [], value⟩
  | .list items :: frames => ⟨.separator, .list (value :: items) :: frames, .null⟩
  | .members members key :: frames =>
    ⟨.separator, .members ((key, value) :: members) none :: frames, .null⟩

def Reading.start (frames : List Frame) : Token → Option Reading
  | .null => some (finish .null frames)
  | .bool b => some (finish (.bool b) frames)
  | .number l => some (finish (.number l) frames)
  | .string s => some (finish (.string s) frames)
  | .openBracket => some ⟨.valueOrClose, .list [] :: frames, .null⟩
  | .openBrace => some ⟨.keyOrClose, .members [] none :: frames, .null⟩
  | _ => none

/-- Closes the innermost bracket, which must be of the kind of the lexeme. -/
def Reading.close : List Frame → Token → Option Reading
  | .list items :: frames, .closeBracket => some (finish (.array items.reverse) frames)
  | .members members _ :: frames, .closeBrace => some (finish (.object members.reverse) frames)
  | _, _ => none

def Reading.step (r : Reading) (token : Token) : Option Reading :=
  match r.expect, r.frames, token with
  | .value, frames, token => start frames token
  | .valueOrClose, frames, .closeBracket => close frames .closeBracket
  | .valueOrClose, frames, token => start frames token
  | .keyOrClose, frames, .closeBrace => close frames .closeBrace
  | .keyOrClose, .members done _ :: frames, .string key
  | .key, .members done _ :: frames, .string key =>
    some ⟨.colon, .members done key :: frames, .null⟩
  | .colon, frames, .colon => some ⟨.value, frames, .null⟩
  | .separator, .list items :: frames, .comma => some ⟨.value, .list items :: frames, .null⟩
  | .separator, .members members key :: frames, .comma =>
    some ⟨.key, .members members key :: frames, .null⟩
  | .separator, frames, token => close frames token
  | _, _, _ => none

/-- The tree of a text; `none` if the text is not JSON. -/
def parse? (text : String) : Option Node := do
  let tokens ← Token.tokens? text.toList
  let reading ← tokens.foldlM Reading.step ⟨.value, [], .null⟩
  match reading.expect with
  | .nothing => some reading.root
  | _ => none

/-! ## The value of a tree -/

def depthLimit : Nat := 127

mutual

/-- The value of a tree in which at most `levels` brackets lie one inside the other.  Numbers must
lie in the range of a double, and of the members of one name the last counts. -/
def value? (levels : Nat) : Node → Option Value
  | .null => some .null
  | .bool b => some (.bool b)
  | .number l => (Number.ofLiteral? l).map .number
  | .string s => s.map .string
  | .array items =>
    match levels with
    | 0 => none
    | levels + 1 => (values? levels items).map .array
  | .object members =>
    match levels with
    | 0 => none
    | levels + 1 => (memberValues? levels members).map fun pairs => .object (Fields.ofList pairs)

def values? (levels : Nat) : List Node → Option (List Value)
  | [] => some []
  | n :: rest => do return (← n.value? levels) :: (← values? levels rest)

def memberValues? (levels : Nat) : List (Option String × Node) → Option (List (String × Value))
  | [] => some []
  | (k, n) :: rest => do return ((← k), (← n.value? levels)) :: (← memberValues? levels rest)

end

end Node

def Value.parse? (text : String) : Option Value := do (← Node.parse? text).value? Node.depthLimit

end FieldRules.Json

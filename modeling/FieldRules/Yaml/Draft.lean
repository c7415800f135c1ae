/-
# `Yaml.Draft` — the tree of a YAML text, before aliases are followed

A draft is a scalar, a sequence or a mapping, with its tag, or an alias.  An anchor in front of a node
names it, and an alias gives the name of a node that has started before.

Names are kept as numbers.  A node that is named gets the number of names that stand so far, and the
name stands for that number from there on; a number stands for the last node that got it.  So a name
that is given once stands for its node, and a name that is given again for the later node, unless a
further name, which then gets the same number, follows.
-/
import FieldRules.Yaml.Token

namespace FieldRules.Yaml

/-- A node as it is written, where an alias is the number of a name. -/
inductive Draft where
  | alias (number : Nat)
  | scalar (tag : Option String) (style : Style) (text : String)
  | sequence (tag : Option String) (items : List Draft)
  | mapping (tag : Option String) (members : List (Draft × Draft))

/-- The scalar that is not written. -/
def Draft.empty (tag : Option String) : Draft := .scalar tag .plain ""

/-! ## Directives -/

def standardStart : String := "tag:yaml.org,2002:"

def resolveHandle? (directives : List (String × String)) (handle : String) : Option String :=
  match directives.lookup handle with
  | some start => some start
  | none => if handle = "!" then some "!" else if handle = "!!" then some standardStart else none

/-- Whether directives may stand together: one version of the format at most, and one meaning for a
handle. -/
def directivesFit : List Directive → Bool
  | [] => true
  | .version major minor :: rest =>
    major == 1 && (minor == 1 || minor == 2)
      && !rest.any (fun d => match d with | .version .. => true | .tag .. => false)
      && directivesFit rest
  | .tag handle _ :: rest =>
    !rest.any (fun d => match d with | .version .. => false | .tag other _ => other == handle)
      && directivesFit rest

/-! ## Anchors -/

/-- The anchors so far: the number that each name has now, the number that each named node got, the
latest first, and the finished ones by their places among the named nodes. -/
structure Anchors where
  numbers : List (String × Nat) := []
  given : List Nat := []
  finished : List (Nat × Draft) := []

namespace Anchors

def start (a : Anchors) (name : String) : Anchors :=
  { a with
    numbers := (name, a.numbers.length) :: a.numbers.filter (·.1 ≠ name)
    given := a.numbers.length :: a.given }

/-- Keeps a node that was named when as many others had been named before. -/
def finish (a : Anchors) (place : Nat) (d : Draft) : Anchors :=
  { a with finished := (place, d) :: a.finished }

def number? (a : Anchors) (name : String) : Option Nat := a.numbers.lookup name

def target? (a : Anchors) (number : Nat) : Option Draft := do
  let later ← a.given.findIdx? (· == number)
  a.finished.lookup (a.given.length - 1 - later)

end Anchors

/-! ## From lexemes to the tree -/

/-- What a reading of lexemes carries along: the lexemes that follow, and the anchors so far. -/
structure Reading where
  rest : List Token
  anchors : Anchors

def Reading.peek (r : Reading) : Option Token := r.rest.head?

def Reading.skip (r : Reading) : Reading := { r with rest := r.rest.drop 1 }

def Reading.named (r : Reading) (name : String) : Reading :=
  { r with anchors := r.anchors.start name }

/-- The anchor and the tag in front of a node, in either order. -/
def Reading.properties (r : Reading) : Option String × Option TagName × Reading :=
  match r.rest with
  | .anchor a :: .tag t :: rest => (some a, some t, { r with rest := rest })
  | .tag t :: .anchor a :: rest => (some a, some t, { r with rest := rest })
  | .anchor a :: rest => (some a, none, { r with rest := rest })
  | .tag t :: rest => (none, some t, { r with rest := rest })
  | _ => (none, none, r)

def fullTag? (directives : List (String × String)) : Option TagName → Option (Option String)
  | none => some none
  | some t =>
    if t.handle = "" then some (some t.suffix)
    else (resolveHandle? directives t.handle).map fun start => some (start ++ t.suffix)

/-- The tag that a scalar keeps: the mark alone says that it has none. -/
def scalarTag (tag : Option String) : Option String := tag.filter (· ≠ "!")

/-- Where a node stands, which decides what may follow it: in a block, in a block where the items of a
sequence need not be indented, or between brackets. -/
inductive Place where
  | block
  | indentless
  | flow
deriving DecidableEq

/-- Whether the lexeme that comes next is one of those that end an absent node. -/
def Reading.endsWith (r : Reading) (ends : List Token) : Bool := r.peek.any ends.contains

mutual

def readNode? (directives : List (String × String)) (place : Place) (r : Reading) :
    Nat → Option (Draft × Reading)
  | 0 => none
  | fuel + 1 =>
    match r.peek with
    | some (.alias name) => (r.anchors.number? name).map fun n => (.alias n, r.skip)
    | _ => do
      let (anchor, tagName, r) := r.properties
      let tag ← fullTag? directives tagName
      match anchor with
      | none => readContent? directives place tag tag.isNone r fuel
      | some name =>
        let count := r.anchors.given.length
        let (d, r) ← readContent? directives place tag false (r.named name) fuel
        return (d, { r with anchors := r.anchors.finish count d })

/-- Reads a node behind its properties; only a node that has some may be empty. -/
def readContent? (directives : List (String × String)) (place : Place) (tag : Option String)
    (bare : Bool) (r : Reading) : Nat → Option (Draft × Reading)
  | 0 => none
  | fuel + 1 =>
    match r.peek with
    | some .entry =>
      if place = .indentless then
        (readLooseItems? directives r fuel).map fun (items, r) => (.sequence tag items, r)
      else if bare then none
      else some (.empty tag, r)
    | some (.scalar text style) => some (.scalar (scalarTag tag) style text, r.skip)
    | some .sequenceStart =>
      (readFlowItems? directives true r.skip fuel).map fun (items, r) => (.sequence tag items, r)
    | some .mappingStart =>
      (readFlowMembers? directives true r.skip fuel).map fun (ms, r) => (.mapping tag ms, r)
    | some .blockSequenceStart =>
      if place ≠ .flow then
        (readItems? directives r.skip fuel).map fun (items, r) => (.sequence tag items, r)
      else if bare then none
      else some (.empty tag, r)
    | some .blockMappingStart =>
      if place ≠ .flow then
        (readMembers? directives r.skip fuel).map fun (ms, r) => (.mapping tag ms, r)
      else if bare then none
      else some (.empty tag, r)
    | _ => if bare then none else some (.empty tag, r)

/-- Reads a node that is empty if one of some lexemes comes next. -/
def readOptional? (directives : List (String × String)) (place : Place) (ends : List Token)
    (r : Reading) : Nat → Option (Draft × Reading)
  | 0 => none
  | fuel + 1 =>
    if r.endsWith ends then some (.empty none, r) else readNode? directives place r fuel

def readItems? (directives : List (String × String)) (r : Reading) :
    Nat → Option (List Draft × Reading)
  | 0 => none
  | fuel + 1 =>
    match r.peek with
    | some .blockEnd => some ([], r.skip)
    | some .entry => do
      let (item, r) ← readOptional? directives .block [.entry, .blockEnd] r.skip fuel
      let (items, r) ← readItems? directives r fuel
      return (item :: items, r)
    | _ => none

/-- Reads items that are not indented, up to the first lexeme that starts none. -/
def readLooseItems? (directives : List (String × String)) (r : Reading) :
    Nat → Option (List Draft × Reading)
  | 0 => none
  | fuel + 1 =>
    match r.peek with
    | some .entry => do
      let (item, r) ← readOptional? directives .block [.entry, .key, .value, .blockEnd] r.skip fuel
      let (items, r) ← readLooseItems? directives r fuel
      return (item :: items, r)
    | _ => some ([], r)

/-- Reads the value of a member of a block, which may be absent with its colon. -/
def readValue? (directives : List (String × String)) (r : Reading) : Nat → Option (Draft × Reading)
  | 0 => none
  | fuel + 1 =>
    match r.peek with
    | some .value => readOptional? directives .indentless [.key, .value, .blockEnd] r.skip fuel
    | _ => some (.empty none, r)

def readMembers? (directives : List (String × String)) (r : Reading) :
    Nat → Option (List (Draft × Draft) × Reading)
  | 0 => none
  | fuel + 1 =>
    match r.peek with
    | some .blockEnd => some ([], r.skip)
    | some .key => do
      let (key, r) ← readOptional? directives .indentless [.key, .value, .blockEnd] r.skip fuel
      let (value, r) ← readValue? directives r fuel
      let (members, r) ← readMembers? directives r fuel
      return ((key, value) :: members, r)
    | _ => none

def readFlowValue? (directives : List (String × String)) (closing : Token) (r : Reading) :
    Nat → Option (Draft × Reading)
  | 0 => none
  | fuel + 1 =>
    match r.peek with
    | some .value => readOptional? directives .flow [.comma, closing] r.skip fuel
    | _ => some (.empty none, r)

/-- Reads one item between square brackets; a member stands for a mapping of its own.  A member
without a key also takes the lexeme in the place of the key. -/
def readFlowItem? (directives : List (String × String)) (r : Reading) :
    Nat → Option (Draft × Reading)
  | 0 => none
  | fuel + 1 =>
    match r.peek with
    | some .key => do
      let r := r.skip
      let (key, r) ← if r.endsWith [.value, .comma, .sequenceEnd] then
          some (Draft.empty none, r.skip)
        else readNode? directives .flow r fuel
      let (value, r) ← readFlowValue? directives .sequenceEnd r fuel
      return (.mapping none [(key, value)], r)
    | _ => readNode? directives .flow r fuel

def readFlowItems? (directives : List (String × String)) (first : Bool) (r : Reading) :
    Nat → Option (List Draft × Reading)
  | 0 => none
  | fuel + 1 =>
    if r.peek = some .sequenceEnd then some ([], r.skip)
    else do
      let r ← if first then some r else if r.peek = some .comma then some r.skip else none
      if r.peek = some .sequenceEnd then return ([], r.skip)
      let (item, r) ← readFlowItem? directives r fuel
      let (items, r) ← readFlowItems? directives false r fuel
      return (item :: items, r)

def readFlowMembers? (directives : List (String × String)) (first : Bool) (r : Reading) :
    Nat → Option (List (Draft × Draft) × Reading)
  | 0 => none
  | fuel + 1 =>
    if r.peek = some .mappingEnd then some ([], r.skip)
    else do
      let r ← if first then some r else if r.peek = some .comma then some r.skip else none
      if r.peek = some .mappingEnd then return ([], r.skip)
      let (member, r) ← if r.peek = some .key then do
          let (key, r) ← readOptional? directives .flow [.value, .comma, .mappingEnd] r.skip fuel
          let (value, r) ← readFlowValue? directives .mappingEnd r fuel
          some ((key, value), r)
        else do
          let (key, r) ← readNode? directives .flow r fuel
          some ((key, Draft.empty none), r)
      let (members, r) ← readFlowMembers? directives false r fuel
      return (member :: members, r)

end

/-! ## Documents -/

def splitDirectives : List Token → List Directive × List Token
  | .directive d :: rest =>
    let (ds, rest) := splitDirectives rest
    (d :: ds, rest)
  | rest => ([], rest)

/-- Whether a document has no node: its end, another document or the end of the text comes next. -/
def isDocumentEnd : List Token → Bool
  | [] => true
  | .directive _ :: _ => true
  | .documentStart :: _ => true
  | .documentEnd :: _ => true
  | _ => false

/-- More than the number of steps that reading lexemes takes. -/
def fuelFor (tokens : List Token) : Nat := 8 * tokens.length + 8

/-- The root of the only document of a text, and its anchors. -/
def Draft.ofTokens? (tokens : List Token) : Option (Draft × Anchors) := do
  let (directives, rest) := splitDirectives tokens
  if !directivesFit directives then none
  let handles := directives.filterMap fun
    | .tag handle start => some (handle, start)
    | .version .. => none
  let reading (rest : List Token) : Reading := ⟨rest, {}⟩
  let (root, r) ← match rest with
    | .documentStart :: rest =>
      if isDocumentEnd rest then some (Draft.empty none, reading rest)
      else readNode? handles .block (reading rest) (fuelFor rest)
    | [] => if directives = [] then some (Draft.empty none, reading []) else none
    | rest =>
      if directives = [] then readNode? handles .block (reading rest) (fuelFor rest) else none
  if (r.rest.dropWhile (· = .documentEnd)) = [] then some (root, r.anchors) else none

end FieldRules.Yaml

/-
# `Yaml.Tag` — tags and directives

A tag says what a node is.  It is written out in angle brackets, or shortened by a handle, which a
directive at the start of the document explains.
-/
import FieldRules.Yaml.Cursor
import FieldRules.Json.Token

namespace FieldRules.Yaml

/-! ## Tags -/

/-- A tag as it is written: a handle and what follows it; a tag that is written out has an empty
handle. -/
structure TagName where
  handle : String
  suffix : String
deriving DecidableEq, Repr

/-- A character of a tag; commas and brackets belong to a tag in angle brackets only. -/
def isTagChar (verbatim : Bool) (c : Char) : Bool :=
  isWordChar c || ";/?:@&=+$.!~*'()".toList.contains c
    || (verbatim && (c == ',' || c == '[' || c == ']'))

def escapedByte? : List Char → Option UInt8
  | '%' :: a :: b :: _ => do
    return ((← Json.Token.hexValue? a) * 16 + (← Json.Token.hexValue? b)).toUInt8
  | _ => none

def encodedWidth? (first : UInt8) : Option Nat :=
  if first < 0x80 then some 1
  else if first &&& 0xE0 == 0xC0 then some 2
  else if first &&& 0xF0 == 0xE0 then some 3
  else if first &&& 0xF8 == 0xF0 then some 4
  else none

/-- The character that escaped bytes encode, and how many characters the escapes take. -/
def escapedChar? (cs : List Char) : Option (List Char × Nat) := do
  let width ← encodedWidth? (← escapedByte? cs)
  let bytes ← (List.range width).mapM fun i => escapedByte? (cs.drop (3 * i))
  return ((← String.fromUTF8? ⟨bytes.toArray⟩).toList, 3 * width)

def tagText? (verbatim : Bool) (cs : List Char) : Option (List Char × Nat) :=
  match cs with
  | [] => some ([], 0)
  | c :: rest =>
    if c == '%' then
      match escapedChar? (c :: rest) with
      | none => none
      | some (text, taken) =>
        (tagText? verbatim (rest.drop (taken - 1))).map fun (more, n) => (text ++ more, n + taken)
    else if isTagChar verbatim c then
      (tagText? verbatim rest).map fun (more, n) => (c :: more, n + 1)
    else some ([], 0)
termination_by cs.length
decreasing_by
  all_goals simp only [List.length_cons, List.length_drop]; omega

/-- Reads a handle: an exclamation mark, word characters, and a second mark if one comes next. -/
def tagHandle? : List Char → Option (List Char)
  | '!' :: rest =>
    let word := rest.takeWhile isWordChar
    if (rest.drop word.length).head? = some '!' then some ('!' :: word ++ ['!'])
    else some ('!' :: word)
  | _ => none

def isClosedHandle (handle : List Char) : Bool := 2 ≤ handle.length && handle.getLast? == some '!'

/-- Reads a tag.  A blank or a line end has to follow, or inside brackets a comma. -/
def readTag? (flow : Bool) (k : Cursor) : Option (TagName × Cursor) := do
  let (tag, next) ← if k.rest.drop 1 |>.head? |> (· == some '<') then
      let k := k.move 2
      let (text, taken) ← tagText? true k.rest
      let next := k.move taken
      if text = [] ∨ !next.sees (· == '>') then none
      else some (TagName.mk "" (String.ofList text), next.move 1)
    else
      let handle ← tagHandle? k.rest
      let next := k.move handle.length
      let (text, taken) ← tagText? false next.rest
      let next := next.move taken
      if isClosedHandle handle then
        if text = [] then none else some (⟨String.ofList handle, String.ofList text⟩, next)
      else
        let suffix := handle.drop 1 ++ text
        if suffix = [] then some (⟨"", "!"⟩, next) else some (⟨"!", String.ofList suffix⟩, next)
  if startsBlank next.rest || (flow && next.sees (· == ',')) then some (tag, next) else none

/-! ## Directives -/

/-- A line in front of a document. -/
inductive Directive where
  | version (major minor : Nat)
  | tag (handle : String) (start : String)
deriving DecidableEq, Repr

def versionNumber? (k : Cursor) : Option (Nat × Cursor) :=
  let (digits, next) := k.takeWhile Char.isDigit
  if digits = [] ∨ 9 < digits.length then none
  else some (digits.foldl (fun n c => n * 10 + (c.toNat - 48)) 0, next)

def versionDirective? (k : Cursor) : Option (Directive × Cursor) := do
  let (major, k) ← versionNumber? (k.skipWhile isBlank)
  if !k.sees (· == '.') then none
  let (minor, k) ← versionNumber? (k.move 1)
  return (.version major minor, k)

def tagDirective? (k : Cursor) : Option (Directive × Cursor) := do
  let k := k.skipWhile isBlank
  let handle ← tagHandle? k.rest
  if handle ≠ ['!'] ∧ !isClosedHandle handle then none
  let k := k.move handle.length
  if !k.sees isBlank then none
  let k := k.skipWhile isBlank
  let (start, taken) ← tagText? true k.rest
  let k := k.move taken
  if start = [] ∨ !startsBlank k.rest then none
  return (.tag (String.ofList handle) (String.ofList start), k)

/-- Reads a directive to the end of its line; there are no others than these two. -/
def readDirective? (k : Cursor) : Option (Directive × Cursor) := do
  let (name, k) := (k.move 1).takeWhile isWordChar
  if !startsBlank k.rest then none
  let (directive, k) ← match String.ofList name with
    | "YAML" => versionDirective? k
    | "TAG" => tagDirective? k
    | _ => none
  return (directive, ← k.finishLine?)

end FieldRules.Yaml

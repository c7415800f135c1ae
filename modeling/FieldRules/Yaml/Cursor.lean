/-
# `Yaml.Cursor` — places in a YAML text

Indentation means something in YAML, so a reader knows the column it stands at.  A line may end in a
carriage return, a line feed, both together, or one of three separators beyond ASCII; the last two of
those are kept as they are where others count as a line feed.
-/

namespace FieldRules.Yaml

/-! ## Characters -/

/-- A space or a tab. -/
def isBlank (c : Char) : Bool := c == ' ' || c == '\t'

def isBreak (c : Char) : Bool :=
  c == '\n' || c == '\r' || c.toNat == 0x85 || c.toNat == 0x2028 || c.toNat == 0x2029

/-- A letter, a digit, an underscore or a hyphen of the ASCII range. -/
def isWordChar (c : Char) : Bool := c.isAlphanum || c == '_' || c == '-'

/-- A character that may stand in a text: controls other than line ends and tabs may not. -/
def isAllowed (c : Char) : Bool :=
  let n := c.toNat
  n == 9 || n == 10 || n == 13 || (0x20 ≤ n && n ≤ 0x7E) || n == 0x85
    || (0xA0 ≤ n && n != 0xFFFE && n != 0xFFFF)

/-- Whether a stretch starts with a blank or a line end, or is empty. -/
def startsBlank : List Char → Bool
  | [] => true
  | c :: _ => isBlank c || isBreak c

def startsLineEnd : List Char → Bool
  | [] => true
  | c :: _ => isBreak c

/-! ## Places -/

/-- A place: what follows it, how many characters stand before it, and its line and column. -/
structure Cursor where
  rest : List Char
  index : Nat
  line : Nat
  column : Nat

namespace Cursor

def start (text : List Char) : Cursor := ⟨text, 0, 0, 0⟩

def sees (k : Cursor) (isKind : Char → Bool) : Bool := k.rest.head?.any isKind

/-- Moves over characters of one line. -/
def move (k : Cursor) (count : Nat) : Cursor :=
  ⟨k.rest.drop count, k.index + count, k.line, k.column + count⟩

/-- Moves over the characters of a kind that come next, which end no line, and gives them. -/
def takeWhile (k : Cursor) (isKind : Char → Bool) : List Char × Cursor :=
  let taken := k.rest.takeWhile isKind
  (taken, k.move taken.length)

def skipWhile (k : Cursor) (isKind : Char → Bool) : Cursor := (k.takeWhile isKind).2

/-- Moves over the end of a line, and gives the character that it counts as. -/
def takeBreak? (k : Cursor) : Option (Char × Cursor) :=
  match k.rest with
  | '\r' :: '\n' :: rest => some ('\n', ⟨rest, k.index + 2, k.line + 1, 0⟩)
  | c :: rest =>
    if isBreak c then
      let counted := if c.toNat == 0x2028 || c.toNat == 0x2029 then c else '\n'
      some (counted, ⟨rest, k.index + 1, k.line + 1, 0⟩)
    else none
  | [] => none

def skipBreak (k : Cursor) : Cursor := (k.takeBreak?.map (·.2)).getD k

def skipToBreak (k : Cursor) : Cursor := k.skipWhile fun c => !isBreak c

/-- Moves over blanks and a comment to the end of the line; `none` if anything else stands there. -/
def finishLine? (k : Cursor) : Option Cursor :=
  let k := k.skipWhile isBlank
  let k := if k.sees (· == '#') then k.skipToBreak else k
  if startsLineEnd k.rest then some k.skipBreak else none

/-- Whether a line starts here with three given characters and a blank behind them. -/
def atMark (k : Cursor) (c : Char) : Bool :=
  k.column == 0 && [c, c, c].isPrefixOf k.rest && startsBlank (k.rest.drop 3)

def atDocumentMark (k : Cursor) : Bool := k.atMark '-' || k.atMark '.'

end Cursor

end FieldRules.Yaml

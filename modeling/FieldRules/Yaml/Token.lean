/-
# `Yaml.Token` — lexemes of a YAML text

The lexemes of a text make its block structure explicit: a block opens where a line is indented
further, and closes where one is indented less.

A key of a mapping is known as such only by the colon behind it.  Where a key might start, a place is
kept free among the lexemes; the colon fills it, and a place that nothing fills is left out in the
end.
-/
import FieldRules.Yaml.Scalar
import FieldRules.Yaml.Tag

namespace FieldRules.Yaml

inductive Token where
  | directive (d : Directive)
  | documentStart
  | documentEnd
  | blockSequenceStart
  | blockMappingStart
  | blockEnd
  | sequenceStart
  | sequenceEnd
  | mappingStart
  | mappingEnd
  | entry
  | comma
  | key
  | value
  | alias (name : String)
  | anchor (name : String)
  | tag (t : TagName)
  | scalar (text : String) (style : Style)
deriving DecidableEq, Repr

/-! ## Free places -/

/-- What a free place holds in the end: nothing, or the sign of a key, which may open a mapping. -/
inductive Filling where
  | none
  | key
  | firstKey
deriving DecidableEq

/-- A lexeme, or the free place of a number. -/
inductive Entry where
  | token (t : Token)
  | place (number : Nat)

def Entry.tokens (fillings : Nat → Filling) : Entry → List Token
  | .token t => [t]
  | .place n =>
    match fillings n with
    | .none => []
    | .key => [.key]
    | .firstKey => [.blockMappingStart, .key]

/-- A key that may have started: the number of its place, where it stands, and whether there has to be
one. -/
structure PossibleKey where
  number : Nat
  index : Nat
  line : Nat
  column : Nat
  required : Bool

/-! ## Scanning -/

/-- The state of a scanner: the entries so far, last first, and what fills their places; the columns
of the blocks that are open, innermost first; for each bracket that is open, and for the blocks around
them, the key that may have started there, innermost first; and whether a key may start now. -/
structure Scanner where
  cursor : Cursor
  entries : List Entry
  places : Nat
  filled : List (Nat × Filling)
  columns : List Nat
  keys : List (Option PossibleKey)
  keyAllowed : Bool

namespace Scanner

def start (text : List Char) : Scanner := ⟨Cursor.start text, [], 0, [], [], [none], true⟩

def inFlow (s : Scanner) : Bool := 2 ≤ s.keys.length

/-- The least column of what stands inside the innermost block. -/
def least (s : Scanner) : Nat :=
  match s.columns with
  | [] => 0
  | column :: _ => column + 1

def emit (s : Scanner) (t : Token) : Scanner := { s with entries := .token t :: s.entries }

def goto (s : Scanner) (k : Cursor) : Scanner := { s with cursor := k }

def allow (s : Scanner) (allowed : Bool) : Scanner := { s with keyAllowed := allowed }

/-- Opens a block at a column, if it lies further in than those that are open. -/
def openBlock (s : Scanner) (column : Nat) (t : Token) : Scanner :=
  if !s.inFlow && s.least ≤ column then (s.emit t |> fun s => { s with columns := column :: s.columns })
  else s

/-- Closes blocks whose column a predicate rejects, from the innermost on. -/
def closeWhile (s : Scanner) (rejected : Nat → Bool) : Scanner :=
  if s.inFlow then s
  else
    let closed := s.columns.takeWhile rejected
    { s with
      entries := closed.map (fun _ => .token .blockEnd) ++ s.entries
      columns := s.columns.drop closed.length }

def closeBeyond (s : Scanner) (column : Nat) : Scanner := s.closeWhile (column < ·)

def closeAll (s : Scanner) : Scanner := s.closeWhile fun _ => true

/-! ### Keys -/

/-- The greatest number of characters between the start of a key and its colon. -/
def keyLimit : Nat := 1024

/-- Gives up keys that started on an earlier line or too far back; one that is required must not be
given up. -/
def expireKeys? (s : Scanner) : Option Scanner :=
  let expired (key : PossibleKey) : Bool :=
    key.line < s.cursor.line || key.index + keyLimit < s.cursor.index
  if s.keys.any fun key => key.any fun key => expired key && key.required then none
  else some { s with keys := s.keys.map fun key => key.filter fun key => !expired key }

def dropKey? (s : Scanner) : Option Scanner :=
  match s.keys with
  | some key :: keys => if key.required then none else some { s with keys := none :: keys }
  | _ => some s

/-- Keeps a place free where a key may start. -/
def markKey? (s : Scanner) : Option Scanner :=
  if s.keyAllowed then
    s.dropKey?.map fun s =>
      let k := s.cursor
      let required := !s.inFlow && s.columns.head? == some k.column
      let key : PossibleKey := ⟨s.places, k.index, k.line, k.column, required⟩
      { s with
        entries := .place s.places :: s.entries
        places := s.places + 1
        keys := some key :: s.keys.drop 1 }
  else some s

/-! ### Lexemes -/

def documentMark? (s : Scanner) (t : Token) : Option Scanner :=
  s.closeAll.dropKey?.map fun s => ((s.allow false).emit t).goto (s.cursor.move 3)

def directive? (s : Scanner) : Option Scanner := do
  let s ← s.closeAll.dropKey?
  let (d, k) ← readDirective? s.cursor
  return ((s.allow false).emit (.directive d)).goto k

def openFlow? (s : Scanner) (t : Token) : Option Scanner :=
  s.markKey?.map fun s =>
    (({ s with keys := none :: s.keys }.allow true).emit t).goto (s.cursor.move 1)

def closeFlow? (s : Scanner) (t : Token) : Option Scanner :=
  s.dropKey?.map fun s =>
    let keys := if s.inFlow then s.keys.drop 1 else s.keys
    (({ s with keys := keys }.allow false).emit t).goto (s.cursor.move 1)

def comma? (s : Scanner) : Option Scanner :=
  s.dropKey?.map fun s => ((s.allow true).emit .comma).goto (s.cursor.move 1)

def entry? (s : Scanner) : Option Scanner :=
  if !s.inFlow && !s.keyAllowed then none
  else
    (s.openBlock s.cursor.column .blockSequenceStart).dropKey?.map fun s =>
      ((s.allow true).emit .entry).goto (s.cursor.move 1)

def key? (s : Scanner) : Option Scanner :=
  if !s.inFlow && !s.keyAllowed then none
  else
    (s.openBlock s.cursor.column .blockMappingStart).dropKey?.map fun s =>
      ((s.allow !s.inFlow).emit .key).goto (s.cursor.move 1)

/-- A colon behind a key: it fills the place in front of the key, or follows a key that was marked. -/
def value? (s : Scanner) : Option Scanner :=
  match s.keys with
  | some key :: keys =>
    let opens := !s.inFlow && s.least ≤ key.column
    let s := { s with
      filled := (key.number, if opens then .firstKey else .key) :: s.filled
      columns := if opens then key.column :: s.columns else s.columns
      keys := none :: keys }
    some (((s.allow false).emit .value).goto (s.cursor.move 1))
  | _ =>
    if !s.inFlow && !s.keyAllowed then none
    else
      let s := s.openBlock s.cursor.column .blockMappingStart
      some (((s.allow !s.inFlow).emit .value).goto (s.cursor.move 1))

def name? (s : Scanner) (make : String → Token) : Option Scanner := do
  let s ← s.markKey?
  let (name, k) := (s.cursor.move 1).takeWhile isWordChar
  if name = [] ∨ !(startsBlank k.rest || k.sees (r"?:,]}%@`".toList.contains ·)) then none
  else return ((s.allow false).emit (make (String.ofList name))).goto k

def tag? (s : Scanner) : Option Scanner := do
  let s ← s.markKey?
  let (t, k) ← readTag? s.inFlow s.cursor
  return ((s.allow false).emit (.tag t)).goto k

def block? (s : Scanner) (style : Style) : Option Scanner := do
  let s ← s.dropKey?
  let (text, k) ← Yaml.block? (style == .folded) s.least (s.cursor.move 1)
  return ((s.allow true).emit (.scalar (String.ofList text) style)).goto k

def quoted? (s : Scanner) (quote : Char) : Option Scanner := do
  let s ← s.markKey?
  let (text, k) ← quotedFrom? quote [] (s.cursor.move 1)
  return ((s.allow false).emit (.scalar (String.ofList text) .quoted)).goto k

/-- A plain scalar; a key may start behind one that ends with a line. -/
def plain? (s : Scanner) : Option Scanner := do
  let s ← s.markKey?
  let (text, broken, k) ← plainFrom? s.inFlow s.least [] {} s.cursor
  return ((s.allow broken).emit (.scalar (String.ofList text) .plain)).goto k

/-- A character that starts no plain scalar. -/
def isIndicator (c : Char) : Bool := "-?:,[]{}#&*!|>'\"%@`".toList.contains c

def startsPlain (flow : Bool) (c : Char) (rest : List Char) : Bool :=
  !(isBlank c || isBreak c || isIndicator c)
    || (c == '-' && !rest.head?.any isBlank)
    || (!flow && (c == '?' || c == ':') && !startsBlank rest)

def lexeme? (s : Scanner) (c : Char) (rest : List Char) : Option Scanner :=
  let k := s.cursor
  let loose := s.inFlow || startsBlank rest
  if k.column == 0 && c == '%' then s.directive?
  else if k.atMark '-' then s.documentMark? .documentStart
  else if k.atMark '.' then s.documentMark? .documentEnd
  else if c == '[' then s.openFlow? .sequenceStart
  else if c == '{' then s.openFlow? .mappingStart
  else if c == ']' then s.closeFlow? .sequenceEnd
  else if c == '}' then s.closeFlow? .mappingEnd
  else if c == ',' then s.comma?
  else if c == '-' && startsBlank rest then s.entry?
  else if c == '?' && loose then s.key?
  else if c == ':' && loose then s.value?
  else if c == '*' then s.name? .alias
  else if c == '&' then s.name? .anchor
  else if c == '!' then s.tag?
  else if c == '|' && !s.inFlow then s.block? .literal
  else if c == '>' && !s.inFlow then s.block? .folded
  else if c == '\'' || c == '"' then s.quoted? c
  else if startsPlain s.inFlow c rest then s.plain?
  else none

/-- Moves to the next lexeme, over blanks, comments and line ends.  Tabs count as blanks where no key
may start; a mark of the byte order may stand at the very start. -/
def skipGap (s : Scanner) : Scanner :=
  let k := s.cursor
  let k := if k.index == 0 && k.sees (·.toNat == 0xFEFF) then k.move 1 else k
  let k := k.skipWhile fun c => c == ' ' || (c == '\t' && (s.inFlow || !s.keyAllowed))
  let k := if k.sees (· == '#') then k.skipToBreak else k
  match k.takeBreak? with
  | none => s.goto k
  | some (_, next) =>
    if next.rest.length < s.cursor.rest.length then
      skipGap ((if s.inFlow then s else s.allow true).goto next)
    else s.goto k
termination_by s.cursor.rest.length
decreasing_by
  split <;> simpa [goto, allow]

def run? (s : Scanner) : Option Scanner :=
  match s.skipGap.expireKeys? with
  | none => none
  | some next =>
    match next.cursor.rest with
    | [] => next.closeAll.dropKey?
    | c :: rest =>
      match (next.closeBeyond next.cursor.column).lexeme? c rest with
      | none => none
      | some next =>
        if next.cursor.rest.length < s.cursor.rest.length then run? next else none
termination_by s.cursor.rest.length

def tokens (s : Scanner) : List Token :=
  let filling (n : Nat) : Filling := (s.filled.lookup n).getD .none
  s.entries.reverse.flatMap (Entry.tokens filling)

end Scanner

/-- The lexemes of a text; `none` if the text has no YAML form. -/
def Token.scan? (text : String) : Option (List Token) :=
  if text.toList.all isAllowed then (Scanner.start text.toList).run?.map Scanner.tokens else none

end FieldRules.Yaml

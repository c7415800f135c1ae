/-
# `Yaml.Scalar` — reading scalars

A scalar is written plainly, in quotes, or as a block of lines.  Where a plain or quoted scalar runs
over a line end, a single one becomes a space, and of several the first is dropped.  A block keeps its
line ends, or folds those between lines that are not indented further.
-/
import FieldRules.Json.Token
import FieldRules.Yaml.Cursor

namespace FieldRules.Yaml

inductive Style where
  | plain
  | quoted
  | literal
  | folded
deriving DecidableEq, Repr

/-! ## Gaps

What stands between two words of a scalar. -/

/-- A gap: its blanks if it stays on a line; else the first line end, which an escape may hide, and
the others. -/
structure Gap where
  blanks : List Char := []
  broken : Bool := false
  first : Option Char := none
  later : List Char := []

namespace Gap

def fold (g : Gap) : List Char :=
  if !g.broken then g.blanks
  else
    match g.first with
    | some '\n' => if g.later = [] then [' '] else g.later
    | some c => c :: g.later
    | none => g.later

def addBreak (g : Gap) (c : Char) : Gap :=
  if g.broken then { g with later := g.later ++ [c] }
  else { g with broken := true, first := some c, blanks := [] }

/-- Reads a gap to its end.  On a line after the first a tab before the least column is an error. -/
def readFrom? (least : Nat) (g : Gap) (k : Cursor) : Option (Gap × Cursor) :=
  match _h : k.rest with
  | [] => some (g, k)
  | c :: rest =>
    if isBlank c then
      if g.broken && k.column < least && c == '\t' then none
      else
        let g := if g.broken then g else { g with blanks := g.blanks ++ [c] }
        readFrom? least g ⟨rest, k.index + 1, k.line, k.column + 1⟩
    else
      match k.takeBreak? with
      | some (c, next) =>
        if next.rest.length < k.rest.length then readFrom? least (g.addBreak c) next else none
      | none => some (g, k)
termination_by k.rest.length
decreasing_by
  · simp only [_h, List.length_cons]
    omega
  · assumption

end Gap

/-! ## Plain scalars -/

/-- A character that ends a plain scalar inside brackets. -/
def isFlowMark (c : Char) : Bool := ",[]{}".toList.contains c

/-- Reads a word of a plain scalar: up to a blank, a line end, a colon before a blank, or inside
brackets a mark.  A colon in front of a mark is an error there. -/
def plainWord? (flow : Bool) : List Char → Option (List Char)
  | [] => some []
  | c :: rest =>
    if isBlank c || isBreak c then some []
    else if flow && c == ':' && rest.head?.any (fun d => isFlowMark d || d == '?') then none
    else if (c == ':' && startsBlank rest) || (flow && isFlowMark c) then some []
    else (plainWord? flow rest).map (c :: ·)

/-- Reads a plain scalar on from a gap.  The answer tells whether a line ended behind it. -/
def plainFrom? (flow : Bool) (least : Nat) (text : List Char) (g : Gap) (k : Cursor) :
    Option (List Char × Bool × Cursor) :=
  if k.atDocumentMark || k.sees (· == '#') then some (text, g.broken, k)
  else
    match plainWord? flow k.rest with
    | none => none
    | some word =>
      let (text, g) := if word = [] then (text, g) else (text ++ g.fold ++ word, {})
      let behind := k.move word.length
      if !behind.sees (fun c => isBlank c || isBreak c) then some (text, g.broken, behind)
      else
        match Gap.readFrom? least g behind with
        | none => none
        | some (g, next) =>
          if !flow && next.column < least then some (text, g.broken, next)
          else if next.rest.length < k.rest.length then plainFrom? flow least text g next
          else none
termination_by k.rest.length

/-! ## Quoted scalars -/

def shortEscape? : Char → Option Char
  | '0' => some '\x00'
  | 'a' => some '\x07'
  | 'b' => some '\x08'
  | 't' | '\t' => some '\t'
  | 'n' => some '\n'
  | 'v' => some '\x0b'
  | 'f' => some '\x0c'
  | 'r' => some '\r'
  | 'e' => some '\x1b'
  | ' ' => some ' '
  | '"' => some '"'
  | '/' => some '/'
  | '\\' => some '\\'
  | 'N' => some '\u0085'
  | '_' => some '\u00a0'
  | 'L' => some '\u2028'
  | 'P' => some '\u2029'
  | _ => none

def escapeWidth? : Char → Option Nat
  | 'x' => some 2
  | 'u' => some 4
  | 'U' => some 8
  | _ => none

/-- The character of an escape whose backslash has been read, and how many characters it takes. -/
def escape? : List Char → Option (Char × Nat)
  | [] => none
  | c :: rest =>
    match shortEscape? c, escapeWidth? c with
    | some d, _ => some (d, 1)
    | none, some width => do
      let digits := rest.take width
      if digits.length < width then none
      else
        let n ← digits.foldlM (fun n d => (Json.Token.hexValue? d).map (n * 16 + ·)) 0
        if h : n.isValidChar then some (Char.ofNatAux n h, width + 1) else none
    | none, none => none

/-- Reads a word of a scalar in single quotes: up to a blank, a line end or the quote, a doubled quote
standing for itself. -/
def singleWord : List Char → List Char × Nat
  | '\'' :: '\'' :: rest =>
    let (word, taken) := singleWord rest
    ('\'' :: word, taken + 2)
  | '\'' :: _ => ([], 0)
  | c :: rest =>
    if isBlank c || isBreak c then ([], 0)
    else
      let (word, taken) := singleWord rest
      (c :: word, taken + 1)
  | [] => ([], 0)

/-- Reads a word of a scalar in double quotes: up to a blank, a line end, the quote, or a backslash
before a line end. -/
def doubleWord? (cs : List Char) : Option (List Char × Nat) :=
  match cs with
  | [] => some ([], 0)
  | c :: rest =>
    if isBlank c || isBreak c || c == '"' then some ([], 0)
    else if c == '\\' then
      if rest.head?.any isBreak then some ([], 0)
      else
        match escape? rest with
        | none => none
        | some (d, taken) =>
          (doubleWord? (rest.drop taken)).map fun (word, n) => (d :: word, n + taken + 1)
    else (doubleWord? rest).map fun (word, n) => (c :: word, n + 1)
termination_by cs.length
decreasing_by
  all_goals simp only [List.length_cons, List.length_drop]; omega

def quotedFrom? (quote : Char) (text : List Char) (k : Cursor) : Option (List Char × Cursor) :=
  if k.atDocumentMark || k.rest.isEmpty then none
  else
    match if quote == '"' then doubleWord? k.rest else some (singleWord k.rest) with
    | none => none
    | some (word, taken) =>
      let behind := k.move taken
      let hidden := behind.sees (· == '\\') && quote == '"'
      let behind := if hidden then (behind.move 1).skipBreak else behind
      if behind.sees (· == quote) then some (text ++ word, behind.move 1)
      else
        match Gap.readFrom? 0 { broken := hidden } behind with
        | none => none
        | some (g, next) =>
          if next.rest.length < k.rest.length then
            quotedFrom? quote (text ++ word ++ g.fold) next
          else none
termination_by k.rest.length

/-! ## Blocks -/

/-- What is done with the line ends at the end of a block. -/
inductive Chomp where
  | strip
  | clip
  | keep
deriving DecidableEq

def chompSign? : Char → Option Chomp
  | '-' => some .strip
  | '+' => some .keep
  | _ => none

/-- Reads the signs behind the mark of a block: what is done with the last line ends, and how far the
block is indented, in either order. -/
def blockSigns? (k : Cursor) : Option (Chomp × Option Nat × Cursor) :=
  let width? (k : Cursor) : Option (Option Nat × Cursor) :=
    match k.rest with
    | c :: _ =>
      if c == '0' then none
      else if c.isDigit then some (some (c.toNat - 48), k.move 1)
      else some (none, k)
    | [] => some (none, k)
  match k.rest.head?.bind chompSign? with
  | some chomp => (width? (k.move 1)).map fun (width, k) => (chomp, width, k)
  | none =>
    match width? k with
    | none => none
    | some (none, k) => some (.clip, none, k)
    | some (some width, k) =>
      match k.rest.head?.bind chompSign? with
      | some chomp => some (chomp, some width, k.move 1)
      | none => some (.clip, some width, k)

/-- Reads indentation and empty lines.  While the indentation of the block is not known, every space
counts as indentation; the answer has the line ends and the greatest column.  A tab in the place of
indentation is an error. -/
def blockBreaks? (indent : Option Nat) (breaks : List Char) (widest : Nat) (k : Cursor) :
    Option (List Char × Nat × Cursor) :=
  let inside (column : Nat) : Bool :=
    match indent with
    | none => true
    | some n => column < n
  let spaces := k.rest.takeWhile (· == ' ')
  let taken := match indent with
    | none => spaces.length
    | some n => Nat.min spaces.length (n - k.column)
  let k' := k.move taken
  let widest := Nat.max widest k'.column
  if inside k'.column && k'.sees (· == '\t') then none
  else
    match k'.takeBreak? with
    | none => some (breaks, widest, k')
    | some (c, next) =>
      if next.rest.length < k.rest.length then
        blockBreaks? indent (breaks ++ [c]) widest next
      else none
termination_by k.rest.length

/-- What precedes a line of a block: the end of the line before, the empty lines between, and whether
that line started with a blank. -/
structure BlockGap where
  first : List Char := []
  later : List Char := []
  blank : Bool := false

/-- What stands between two lines of a block.  A fold replaces a line end between two lines that do
not start with a blank. -/
def BlockGap.join (g : BlockGap) (folds startsBlank : Bool) : List Char :=
  if folds && g.first == ['\n'] && !g.blank && !startsBlank then
    if g.later = [] then [' '] else g.later
  else g.first ++ g.later

/-- Reads the lines of a block; the answer has its text and the gap behind it. -/
def blockLines? (folds : Bool) (indent : Nat) (text : List Char) (g : BlockGap) (k : Cursor) :
    Option (List Char × BlockGap × Cursor) :=
  if k.column = indent ∧ k.rest ≠ [] then
    let blank := k.sees isBlank
    let (line, behind) := k.takeWhile fun c => !isBreak c
    let text := text ++ g.join folds blank ++ line
    let (first, next) := match behind.takeBreak? with
      | some (c, next) => ([c], next)
      | none => ([], behind)
    match blockBreaks? (some indent) [] 0 next with
    | none => none
    | some (later, _, next) =>
      if next.rest.length < k.rest.length then
        blockLines? folds indent text ⟨first, later, blank⟩ next
      else none
  else some (text, g, k)
termination_by k.rest.length

/-- Reads a block behind its mark.  `least` is the least indentation that it may have. -/
def block? (folds : Bool) (least : Nat) (k : Cursor) : Option (List Char × Cursor) := do
  let (chomp, width, k) ← blockSigns? k
  let k ← k.finishLine?
  let known := width.map (least - 1 + ·)
  let (breaks, widest, k) ← blockBreaks? known [] 0 k
  let indent := known.getD (Nat.max (Nat.max widest least) 1)
  let (text, g, k) ← blockLines? folds indent [] { later := breaks } k
  let tail := match chomp with
    | .strip => []
    | .clip => g.first
    | .keep => g.first ++ g.later
  return (text ++ tail, k)

end FieldRules.Yaml

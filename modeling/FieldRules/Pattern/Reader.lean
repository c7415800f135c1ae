/-
# `Pattern.Reader` — reading a pattern

A pattern is read from left to right against a stack of the groups that are open.  Flags that are set
inside a group hold from there to its end, so an expression is built with the flags in force when its
last character is read, and no tree of the text is kept.

What the grammar refuses: look-around and references to groups, repetition of nothing, counts out of
order, an escape that means nothing, a class or group that is not closed, a name that no property or
flag has, a group name given twice, and nesting deeper than a limit.  While characters count as those
of ASCII only, a pattern may not match part of the encoding of another character.
-/
import FieldRules.Pattern.Property
import FieldRules.Pattern.Size
import FieldRules.Text.Blank
import FieldRules.Text.Digit
import FieldRules.Decimal.Literal
import FieldRules.Json.Token

namespace FieldRules.Pattern

/-! ## Flags -/

/-- What the letters in front of a group switch. -/
structure Flags where
  ignoreCase : Bool := false
  multiLine : Bool := false
  dotAll : Bool := false
  carriageReturn : Bool := false
  unicode : Bool := true
  extended : Bool := false

/-- Switches the flag of a letter; the letter for greed changes nothing that a test for a match can
show. -/
def Flags.set? (f : Flags) (letter : Char) (on : Bool) : Option Flags :=
  match letter with
  | 'i' => some { f with ignoreCase := on }
  | 'm' => some { f with multiLine := on }
  | 's' => some { f with dotAll := on }
  | 'R' => some { f with carriageReturn := on }
  | 'u' => some { f with unicode := on }
  | 'x' => some { f with extended := on }
  | 'U' => some f
  | _ => none

/-- Reads flag letters up to the colon or the bracket that ends them.  No letter may be repeated, nor
the minus sign, and a letter must follow the minus sign. -/
def readFlags? (f : Flags) (seen : List Char) : List Char → Option (Flags × List Char × List Char)
  | [] => none
  | c :: rest =>
    if c = ':' ∨ c = ')' then
      if seen.head? = some '-' then none else some (f, seen, c :: rest)
    else if seen.contains c then none
    else if c = '-' then readFlags? f (c :: seen) rest
    else
      match f.set? c (!seen.contains '-') with
      | some f => readFlags? f (c :: seen) rest
      | none => none

/-! ## Blanks

In the extended layout, white space and comments between the parts of a pattern mean nothing. -/

def skipLine (cs : List Char) : List Char := (cs.dropWhile (· ≠ '\n')).drop 1

theorem skipLine_length (cs : List Char) : (skipLine cs).length ≤ cs.length := by
  have h : (cs.dropWhile (· ≠ '\n')).length ≤ cs.length :=
    (List.dropWhile_sublist _).length_le
  simp only [skipLine, List.length_drop]
  omega

def skipExtended : List Char → List Char
  | [] => []
  | c :: rest =>
    if Text.isBlank c then skipExtended rest
    else if c = '#' then skipExtended (skipLine rest)
    else c :: rest
termination_by cs => cs.length
decreasing_by
  · simp
  · have := skipLine_length rest
    simp only [List.length_cons]
    omega

theorem skipExtended_length (cs : List Char) : (skipExtended cs).length ≤ cs.length := by
  fun_induction skipExtended cs with
  | case1 => simp
  | case2 c rest _ ih => simp only [List.length_cons]; omega
  | case3 rest _ ih =>
    have := skipLine_length rest
    simp only [List.length_cons]
    omega
  | case4 => simp

def Flags.skip (f : Flags) (cs : List Char) : List Char :=
  if f.extended then skipExtended cs else cs

theorem Flags.skip_length (f : Flags) (cs : List Char) : (f.skip cs).length ≤ cs.length := by
  unfold Flags.skip
  split
  · exact skipExtended_length cs
  · exact Nat.le_refl _

/-! ## Escapes -/

/-- A part of a pattern that stands for itself alone. -/
inductive Atom where
  /-- A character; `byte` if it is written as two hexadecimal digits. -/
  | literal (c : Char) (byte : Bool)
  | set (s : CharSet)
  | look (l : Look)
  | dot

/-- A character that a backslash leaves as it is. -/
def isEscapable (c : Char) : Bool :=
  c.toNat < 128 && !c.isAlphanum && c ≠ '<' && c ≠ '>'

def scalar? (n : Nat) : Option Char := if h : n.isValidChar then some (Char.ofNatAux n h) else none

def hexNumber? (digits : List Char) : Option Nat :=
  digits.foldlM (fun n c => (Json.Token.hexValue? c).map (n * 16 + ·)) 0

/-- Takes a number of characters, with what means nothing between them. -/
def takeSkipping (f : Flags) : Nat → List Char → Option (List Char × List Char)
  | 0, cs => some ([], cs)
  | n + 1, cs =>
    match cs with
    | [] => none
    | c :: rest =>
      (takeSkipping f n (f.skip rest)).map fun (taken, rest) => (c :: taken, rest)

def takeBraced (f : Flags) (cs : List Char) : Option (List Char × List Char) :=
  match _h : f.skip cs with
  | [] => none
  | c :: rest =>
    if c = '}' then some ([], rest)
    else (takeBraced f rest).map fun (taken, rest) => (c :: taken, rest)
termination_by cs.length
decreasing_by
  have := f.skip_length cs
  simp only [_h, List.length_cons] at this
  omega

def readHex? (f : Flags) (width : Nat) (cs : List Char) : Option (Char × Bool × List Char) := do
  let cs := f.skip cs
  match cs with
  | '{' :: rest =>
    let (digits, rest) ← takeBraced f rest
    if digits = [] then none
    else return (← (← hexNumber? digits) |> scalar?, false, f.skip rest)
  | cs =>
    let (digits, rest) ← takeSkipping f width cs
    return (← (← hexNumber? digits) |> scalar?, width == 2, rest)

/-- Cuts a text at the first occurrence of a mark. -/
def cutAt? (mark : List Char) : List Char → Option (List Char × List Char)
  | [] => none
  | c :: rest =>
    if mark.isPrefixOf (c :: rest) then some ([], (c :: rest).drop mark.length)
    else (cutAt? mark rest).map fun (before, after) => (c :: before, after)

/-- The set that the text between the braces of a property escape names, and whether it is turned
round. -/
def propertySet? (name : List Char) : Option (CharSet × Bool) :=
  let valued (p : List Char × List Char) := Property.valued? (String.ofList p.1) (String.ofList p.2)
  match cutAt? ['!', '='] name, cutAt? [':'] name, cutAt? ['='] name with
  | some p, _, _ => (valued p).map (·, true)
  | none, some p, _ => (valued p).map (·, false)
  | none, none, some p => (valued p).map (·, false)
  | none, none, none => (Property.named? (String.ofList name)).map (·, false)

def Flags.fold (f : Flags) (s : CharSet) : CharSet :=
  if f.ignoreCase then (if f.unicode then s.foldCase else s.foldAsciiCase) else s

/-- Adds the case variants if case is ignored, and turns the set round if asked to. -/
def Flags.foldAndNegate (f : Flags) (negated : Bool) (s : CharSet) : CharSet :=
  if negated then (f.fold s).complement else f.fold s

/-- A set that may be matched: while characters are those of ASCII, it may hold no others. -/
def Flags.admit? (f : Flags) (s : CharSet) : Option CharSet :=
  if f.unicode || s.isAscii then some s else none

def readProperty? (f : Flags) (negated : Bool) (cs : List Char) :
    Option (CharSet × List Char) := do
  if !f.unicode then none
  let (name, rest) ← match f.skip cs with
    | [] => none
    | '{' :: rest => takeBraced f rest
    | '\\' :: _ => none
    | c :: rest => some ([c], f.skip rest)
  let (set, turned) ← propertySet? name
  return (f.foldAndNegate (negated != turned) set, rest)

/-- The decimal digits, the white space or the word characters, of all scripts or of ASCII. -/
def letterClass (unicode : Bool) : Char → CharSet
  | 'd' => if unicode then .ofRanges Text.digitRanges.bounds.toList else .range 0x30 0x39
  | 's' =>
    if unicode then
      .ofTable "9-D 20 85 A0 1680 2000-200A 2028-2029 202F 205F 3000"
    else .ofTable "9-D 20"
  | _ =>
    if unicode then .ofRanges Text.wordRanges.bounds.toList else .ofTable "30-39 41-5A 5F 61-7A"

/-- The condition that a name in braces behind a boundary escape selects. -/
def boundaryName? (unicode : Bool) : List Char → Option Look
  | ['s', 't', 'a', 'r', 't'] => some (.wordStart unicode)
  | ['e', 'n', 'd'] => some (.wordFinish unicode)
  | ['s', 't', 'a', 'r', 't', '-', 'h', 'a', 'l', 'f'] => some (.wordStartHalf unicode)
  | ['e', 'n', 'd', '-', 'h', 'a', 'l', 'f'] => some (.wordFinishHalf unicode)
  | _ => none

def isBoundaryLetter (c : Char) : Bool := c.isAlpha || c == '-'

/-- What stands behind a boundary escape: a name in braces, or nothing that belongs to it. -/
def readBoundary? (f : Flags) (cs : List Char) : Option (Look × List Char) :=
  match cs with
  | '{' :: rest =>
    match f.skip rest with
    | [] => none
    | c :: inner =>
      if isBoundaryLetter c then do
        let (name, rest) ← takeBraced f (c :: inner)
        if name.all isBoundaryLetter then
          return (← boundaryName? f.unicode name, rest)
        else none
      else some (.wordBoundary f.unicode, cs)
  | cs => some (.wordBoundary f.unicode, cs)

def readEscape? (f : Flags) : List Char → Option (Atom × List Char)
  | [] => none
  | c :: rest =>
    match c with
    | 'x' => (readHex? f 2 rest).map fun (c, byte, rest) => (.literal c byte, rest)
    | 'u' => (readHex? f 4 rest).map fun (c, _, rest) => (.literal c false, rest)
    | 'U' => (readHex? f 8 rest).map fun (c, _, rest) => (.literal c false, rest)
    | 'p' => (readProperty? f false rest).map fun (s, rest) => (.set s, rest)
    | 'P' => (readProperty? f true rest).map fun (s, rest) => (.set s, rest)
    | 'd' | 's' | 'w' => some (.set (letterClass f.unicode c), rest)
    | 'D' | 'S' | 'W' => some (.set (letterClass f.unicode c.toLower).complement, rest)
    | 'a' => some (.literal '\x07' false, rest)
    | 'f' => some (.literal '\x0c' false, rest)
    | 't' => some (.literal '\t' false, rest)
    | 'n' => some (.literal '\n' false, rest)
    | 'r' => some (.literal '\r' false, rest)
    | 'v' => some (.literal '\x0b' false, rest)
    | 'A' => some (.look .start, rest)
    | 'z' => some (.look .finish, rest)
    | 'b' => (readBoundary? f rest).map fun (l, rest) => (.look l, rest)
    | 'B' => some (.look (.notWordBoundary f.unicode), rest)
    | '<' => some (.look (.wordStart f.unicode), rest)
    | '>' => some (.look (.wordFinish f.unicode), rest)
    | c => if isEscapable c then some (.literal c false, rest) else none

/-! ## Bracketed classes -/

/-- The ranges of a class that is written as a name between colons. -/
def namedClass? : List Char → Option String
  | ['a', 'l', 'n', 'u', 'm'] => some "30-39 41-5A 61-7A"
  | ['a', 'l', 'p', 'h', 'a'] => some "41-5A 61-7A"
  | ['a', 's', 'c', 'i', 'i'] => some "0-7F"
  | ['b', 'l', 'a', 'n', 'k'] => some "9 20"
  | ['c', 'n', 't', 'r', 'l'] => some "0-1F 7F"
  | ['d', 'i', 'g', 'i', 't'] => some "30-39"
  | ['g', 'r', 'a', 'p', 'h'] => some "21-7E"
  | ['l', 'o', 'w', 'e', 'r'] => some "61-7A"
  | ['p', 'r', 'i', 'n', 't'] => some "20-7E"
  | ['p', 'u', 'n', 'c', 't'] => some "21-2F 3A-40 5B-60 7B-7E"
  | ['s', 'p', 'a', 'c', 'e'] => some "9-D 20"
  | ['u', 'p', 'p', 'e', 'r'] => some "41-5A"
  | ['w', 'o', 'r', 'd'] => some "30-39 41-5A 5F 61-7A"
  | ['x', 'd', 'i', 'g', 'i', 't'] => some "30-39 41-46 61-66"
  | _ => none

def readNamedClass? (f : Flags) : List Char → Option (CharSet × List Char)
  | ':' :: rest =>
    let (negated, rest) := match rest with
      | '^' :: rest => (true, rest)
      | rest => (false, rest)
    match rest.dropWhile (· ≠ ':') with
    | ':' :: ']' :: after =>
      (namedClass? (rest.takeWhile (· ≠ ':'))).map fun table =>
        (f.foldAndNegate negated (.ofTable table), after)
    | _ => none
  | _ => none

inductive SetOp where
  | inter
  | diff
  | symmDiff

/-- Joins two sets; both take in their case variants before. -/
def SetOp.apply (f : Flags) (a b : CharSet) : SetOp → CharSet
  | .inter => (f.fold a).inter (f.fold b)
  | .diff => (f.fold a).diff (f.fold b)
  | .symmDiff => (f.fold a).symmDiff (f.fold b)

/-- A class that is being read: whether it is turned round, what was joined so far and how the next
set joins it, the sets of the current union, how many they are, and how deep the class is nested. -/
structure ClassFrame where
  negated : Bool
  joined : Option (CharSet × SetOp)
  union : List CharSet
  depth : Nat

def ClassFrame.current (k : ClassFrame) : CharSet := .ofRanges (k.union.flatMap CharSet.ranges)

/-- The nesting that the current union adds: a union of several sets counts one. -/
def ClassFrame.unionDepth (k : ClassFrame) : Nat :=
  k.depth + (if 2 ≤ k.union.length then 1 else 0)

/-- The set of the frame with the current union joined in. -/
def ClassFrame.close (f : Flags) (k : ClassFrame) : CharSet :=
  match k.joined with
  | some (set, op) => op.apply f set k.current
  | none => k.current

def ClassFrame.operate (f : Flags) (k : ClassFrame) (op : SetOp) : ClassFrame :=
  { k with joined := some (k.close f, op), union := [], depth := k.unionDepth + 1 }

def ClassFrame.add (k : ClassFrame) (s : CharSet) : ClassFrame := { k with union := s :: k.union }

def leadingHyphens (f : Flags) (k : ClassFrame) (cs : List Char) : ClassFrame × List Char :=
  match cs with
  | '-' :: rest =>
    leadingHyphens f (k.add (.single '-')) (f.skip rest)
  | cs => (k, cs)
termination_by cs.length
decreasing_by
  have := f.skip_length rest
  simp only [List.length_cons]
  omega

/-- Opens a class, whose bracket has been read: a circumflex turns it round, hyphens at its start
stand for themselves, and so does a closing bracket at its very start. -/
def openClass? (f : Flags) (cs : List Char) : Option (ClassFrame × List Char) :=
  let cs := f.skip cs
  let (negated, cs) := match cs with
    | '^' :: rest => (true, f.skip rest)
    | cs => (false, cs)
  let (k, cs) := leadingHyphens f ⟨negated, none, [], 0⟩ cs
  match k.union, cs with
  | [], ']' :: rest => some (k.add (.single ']'), f.skip rest)
  | _, [] => none
  | _, cs => some (k, cs)

/-- The set of one atom of a class; a condition or the dot has no place in one. -/
def Atom.classSet? (f : Flags) : Atom → Option CharSet
  | .literal c _ => f.admit? (.single c)
  | .set s => f.admit? s
  | .look _ => none
  | .dot => none

def readClassAtom? (f : Flags) : List Char → Option (Atom × List Char)
  | [] => none
  | '\\' :: rest => readEscape? f rest
  | c :: rest => some (.literal c false, rest)

def readClassRange? (f : Flags) (cs : List Char) : Option (CharSet × List Char) := do
  let (first, rest) ← readClassAtom? f cs
  let alone : Option (CharSet × List Char) := (first.classSet? f).map (·, f.skip rest)
  match f.skip rest with
  | [] => none
  | '-' :: after =>
    match f.skip after with
    | [] => none
    | ']' :: _ => alone
    | '-' :: _ => alone
    | after =>
      let (second, rest) ← readClassAtom? f after
      match first, second with
      | .literal a _, .literal b _ =>
        let _ ← first.classSet? f
        let _ ← second.classSet? f
        if a ≤ b then some (.range a.toNat b.toNat, rest) else none
      | _, _ => none
  | _ => alone

/-- Reads the inside of the innermost open class, up to the bracket that closes the outermost.  The
answer is the set, how deep the class is nested, and what follows. -/
def readClassFrom? (f : Flags) (k : ClassFrame) (outer : List ClassFrame) (cs : List Char) :
    Option (CharSet × Nat × List Char) :=
  let go (k : ClassFrame) (outer : List ClassFrame) (rest : List Char) :=
    if rest.length < cs.length then readClassFrom? f k outer rest else none
  match f.skip cs with
  | [] => none
  | '[' :: rest =>
    match readNamedClass? f rest with
    | some (set, rest) =>
      match f.admit? set with
      | some set => go (k.add set) outer rest
      | none => none
    | none =>
      match openClass? f rest with
      | some (inner, rest) => go inner (k :: outer) rest
      | none => none
  | ']' :: rest =>
    let depth := k.unionDepth + 1
    match f.admit? (f.foldAndNegate k.negated (k.close f)), outer with
    | none, _ => none
    | some set, [] => some (set, depth, rest)
    | some set, parent :: outer =>
      go { parent.add set with depth := Nat.max parent.depth depth } outer rest
  | '&' :: '&' :: rest => go (k.operate f .inter) outer rest
  | '-' :: '-' :: rest => go (k.operate f .diff) outer rest
  | '~' :: '~' :: rest => go (k.operate f .symmDiff) outer rest
  | cs =>
    match readClassRange? f cs with
    | some (set, rest) => go (k.add set) outer rest
    | none => none
termination_by cs.length

def readClass? (f : Flags) (cs : List Char) : Option (CharSet × Nat × List Char) := do
  let (k, rest) ← openClass? f cs
  readClassFrom? f k [] rest

/-! ## Expressions -/

/-- A finished part of a concatenation: an expression with the depth of its nesting, or a place where
flags were set, which nothing may repeat. -/
inductive Part where
  | flags
  | expr (e : Expr) (depth : Nat)

def Atom.expr? (f : Flags) : Atom → Option Expr
  | .literal c byte =>
    if f.unicode then some (.set (f.fold (.single c)))
    else if byte && 128 ≤ c.toNat then none
    else some (.set (f.fold (.single c)))
  | .set s => (f.admit? s).map .set
  | .look l => some (.look l)
  | .dot =>
    if !f.unicode then none
    else if f.dotAll then some (.set .all)
    else if f.carriageReturn then some (.set (CharSet.ofTable "A D").complement)
    else some (.set (CharSet.single '\n').complement)

/-- A group that is open: whether its stretch may be asked for, the flags in force outside it, the
branches before the current one and the parts of the current branch, last first. -/
structure Group where
  captures : Bool := false
  flags : Flags := {}
  branches : List (Expr × Nat) := []
  parts : List Part := []

def branch (parts : List Part) : Expr × Nat :=
  let exprs := parts.reverse.filterMap fun
    | .flags => none
    | .expr e depth => some (e, depth)
  match parts, exprs with
  | [_], [(e, depth)] => (e, depth)
  | [], _ => (.empty, 0)
  | [_], _ => (.empty, 0)
  | _, exprs => (.concat (exprs.map (·.1)), (exprs.map (·.2)).foldl Nat.max 0 + 1)

def Group.close (g : Group) : Expr × Nat :=
  let last := branch g.parts
  match g.branches with
  | [] => last
  | branches =>
    let all := (last :: branches).reverse
    (.alternatives (all.map (·.1)), (all.map (·.2)).foldl Nat.max 0 + 1)

/-- The state of a reading: the flags in force, the innermost group, the groups around it and the
names of groups that are taken. -/
structure Reading where
  flags : Flags
  group : Group
  outer : List Group
  names : List (List Char)

def Reading.push (r : Reading) (p : Part) : Reading :=
  { r with group := { r.group with parts := p :: r.group.parts } }

def Reading.repeatLast? (r : Reading) (least : Nat) (most : Option Nat) : Option Reading :=
  match r.group.parts with
  | .expr e depth :: parts =>
    some { r with group :=
      { r.group with parts := .expr (.repetition least most e) (depth + 1) :: parts } }
  | _ => none

def countLimit : Nat := 0xFFFFFFFF

/-- A count: decimal digits with white space around them. -/
def readCount (f : Flags) (cs : List Char) : Option Nat × List Char :=
  let cs := cs.dropWhile Text.isBlank
  let skipBlank (cs : List Char) := (f.skip cs).dropWhile Text.isBlank
  let digits := if f.extended then (cs.filter fun c => !Text.isBlank c).takeWhile Decimal.isDigit
    else cs.takeWhile Decimal.isDigit
  let rest := if f.extended then cs.dropWhile fun c => Decimal.isDigit c || Text.isBlank c
    else cs.dropWhile Decimal.isDigit
  let count := if digits = [] then none
    else if Decimal.natOfDigits digits ≤ countLimit then some (Decimal.natOfDigits digits) else none
  (count, skipBlank rest)

/-- The counts between braces, whose opening brace has been read. -/
def readCounts? (f : Flags) (cs : List Char) : Option (Nat × Option Nat × List Char) := do
  let (least, rest) := readCount f (f.skip cs)
  match rest with
  | ',' :: rest =>
    match f.skip rest with
    | '}' :: rest => return (← least, none, rest)
    | rest =>
      let least ← least
      let (most, rest) := readCount f rest
      let most ← most
      match rest with
      | '}' :: rest => if least ≤ most then some (least, some most, rest) else none
      | _ => none
  | '}' :: rest => return (← least, ← least, rest)
  | _ => none

def isNameStart (c : Char) : Bool := c == '_' || alphabetic.contains c
where
  alphabetic : CharSet := (Property.named? "alphabetic").getD .empty

def isNameChar (c : Char) : Bool :=
  isNameStart c || c == '.' || c == '[' || c == ']' || numeric.contains c
where
  numeric : CharSet := (Property.named? "number").getD .empty

/-- The name of a group, up to the angle bracket that ends it. -/
def readName? (cs : List Char) : Option (List Char × List Char) :=
  let name := cs.takeWhile (· ≠ '>')
  match name, cs.dropWhile (· ≠ '>') with
  | c :: more, _ :: rest => if isNameStart c ∧ more.all isNameChar then some (name, rest) else none
  | _, _ => none

def Reading.open (r : Reading) (captures : Bool) (inside : Flags) : Reading :=
  { r with
    flags := inside
    group := { captures, flags := r.flags }
    outer := r.group :: r.outer }

def Reading.openNamed? (r : Reading) (cs : List Char) : Option (Reading × List Char) := do
  let (name, rest) ← readName? cs
  if r.names.contains name then none
  else some ({ r.open true r.flags with names := name :: r.names }, rest)

/-- Opens a group, or sets flags, behind an opening bracket. -/
def Reading.openGroup? (r : Reading) (cs : List Char) : Option (Reading × List Char) :=
  match r.flags.skip cs with
  | '?' :: '=' :: _ | '?' :: '!' :: _ | '?' :: '<' :: '=' :: _ | '?' :: '<' :: '!' :: _ => none
  | '?' :: 'P' :: '<' :: rest | '?' :: '<' :: rest => r.openNamed? rest
  | '?' :: rest =>
    match readFlags? r.flags [] rest with
    | some (flags, _, ':' :: rest) => some (r.open false flags, rest)
    | some (flags, seen, ')' :: rest) =>
      if seen = [] then none else some ({ r.push .flags with flags := flags }, rest)
    | _ => none
  | cs => some (r.open true r.flags, cs)

def Reading.closeGroup? (r : Reading) : Option Reading :=
  match r.outer with
  | [] => none
  | parent :: outer =>
    let (e, depth) := r.group.close
    let e := if r.group.captures then .capture e else e
    some (Reading.push ⟨r.group.flags, parent, outer, r.names⟩ (.expr e (depth + 1)))

def Reading.alternate (r : Reading) : Reading :=
  { r with group := { r.group with branches := branch r.group.parts :: r.group.branches, parts := [] } }

/-- Skips the mark of a repetition that prefers few, which a test for a match cannot show. -/
def skipLazy : List Char → List Char
  | '?' :: rest => rest
  | cs => cs

def Reading.step? (r : Reading) : List Char → Option (Reading × List Char)
  | [] => none
  | c :: rest =>
    let repeated (least : Nat) (most : Option Nat) (rest : List Char) :=
      (r.repeatLast? least most).map (·, skipLazy rest)
    let atom (found : Option (Atom × List Char)) : Option (Reading × List Char) := do
      let (a, rest) ← found
      return (r.push (.expr (← a.expr? r.flags) 0), rest)
    match c with
    | '(' => r.openGroup? rest
    | ')' => r.closeGroup?.map (·, rest)
    | '|' => some (r.alternate, rest)
    | '[' =>
      (readClass? r.flags rest).map fun (set, depth, rest) => (r.push (.expr (.set set) depth), rest)
    | '?' => repeated 0 (some 1) rest
    | '*' => repeated 0 none rest
    | '+' => repeated 1 none rest
    | '{' => do
      let (least, most, rest) ← readCounts? r.flags rest
      repeated least most (r.flags.skip rest)
    | '\\' => atom (readEscape? r.flags rest)
    | '.' => atom (some (.dot, rest))
    | '^' =>
      let l := if r.flags.multiLine then .lineStart r.flags.carriageReturn else Look.start
      atom (some (.look l, rest))
    | '$' =>
      let l := if r.flags.multiLine then .lineFinish r.flags.carriageReturn else Look.finish
      atom (some (.look l, rest))
    | c => atom (some (.literal c false, rest))

def nestLimit : Nat := 250

def Reading.run? (r : Reading) (cs : List Char) : Option (Expr × Nat) :=
  match r.flags.skip cs with
  | [] => if r.outer.isEmpty then some r.group.close else none
  | c :: more =>
    match r.step? (c :: more) with
    | some (r, rest) => if rest.length < cs.length then r.run? rest else none
    | none => none
termination_by cs.length

/-- The expression of a pattern; `none` if it is refused. -/
def Expr.read? (pattern : String) : Option Expr := do
  let (e, depth) ← Reading.run? ⟨{}, {}, [], []⟩ pattern.toList
  if depth ≤ nestLimit ∧ e.isSmall then some e else none

end FieldRules.Pattern

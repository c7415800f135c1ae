/-
# `Pattern.Size` — how large a pattern is

A pattern is refused when a machine that a search builds for it is too large.  There are two of them.
One reads the bytes of a text from the front, and marks where groups begin and end; the other reads
them from the back.  A set of characters is as large as the sequences of ranges of bytes that it
consists of: from the back, sequences share what they have in common at their start, and from the
front, states that go on alike are one.  A repeated body is there once for every mandatory and every
optional time.
-/
import FieldRules.Pattern.Expr

namespace FieldRules.Pattern

/-! ## Sets of characters as sequences of bytes -/

def encode (n : Nat) : List Nat :=
  if n < 0x80 then [n]
  else if n < 0x800 then [0xC0 + n / 64, 0x80 + n % 64]
  else if n < 0x10000 then [0xE0 + n / 4096, 0x80 + n / 64 % 64, 0x80 + n % 64]
  else [0xF0 + n / 262144, 0x80 + n / 4096 % 64, 0x80 + n / 64 % 64, 0x80 + n % 64]

/-- The ranges of characters whose codes are of one length. -/
def lengthRanges : List (Nat × Nat) :=
  [(0, 0x7F), (0x80, 0x7FF), (0x800, 0xD7FF), (0xE000, 0xFFFF), (0x10000, 0x10FFFF)]

def clip (range within : Nat × Nat) : List (Nat × Nat) :=
  let low := Nat.max range.1 within.1
  let high := Nat.min range.2 within.2
  if low ≤ high then [(low, high)] else []

/-- Cuts a range into whole blocks of a size and what is left at either end. -/
def cutBlocks (block : Nat) (range : Nat × Nat) : List (Nat × Nat) :=
  let (low, high) := range
  if high < 0x80 ∨ low / block = high / block then [range]
  else
    let first := (low + block - 1) / block * block
    let after := (high + 1) / block * block
    (if low < first then [(low, first - 1)] else [])
      ++ (if first < after then [(first, after - 1)] else [])
      ++ (if after ≤ high then [(after, high)] else [])

/-- The sequences of ranges of bytes that a range of characters consists of, in ascending order. -/
def byteSequences (range : Nat × Nat) : List (List (Nat × Nat)) :=
  let pieces := ((lengthRanges.flatMap (clip range)).flatMap (cutBlocks 64)).flatMap (cutBlocks 4096)
  (pieces.flatMap (cutBlocks 262144)).map fun (low, high) => (encode low).zip (encode high)

/-- The length of what two sequences have in common at their start. -/
def sharedLength {α : Type} [DecidableEq α] : List α → List α → Nat
  | x :: xs, y :: ys => if x = y then sharedLength xs ys + 1 else 0
  | _, _ => 0

/-- The number of different starts of ascending sequences, behind one that came before. -/
def countStarts {α : Type} [DecidableEq α] (before : List α) : List (List α) → Nat
  | [] => 0
  | s :: rest => s.length - sharedLength before s + countStarts s rest

/-- Ascending sequences by their first ranges, each with what follows it. -/
def byFirst {α : Type} [DecidableEq α] : List (List α) → List (α × List (List α))
  | [] => []
  | [] :: rest => byFirst rest
  | (x :: xs) :: rest =>
    match byFirst rest with
    | (y, follow) :: more =>
      if x = y then (y, xs :: follow) :: more else (x, [xs]) :: (y, follow) :: more
    | [] => [(x, [xs])]

/-- The states that read ascending sequences up to a length, each as the sequences that it reads. -/
def readers {α : Type} [DecidableEq α] : Nat → List (List α) → List (List (List α))
  | 0, _ => []
  | n + 1, sequences =>
    let followed := (byFirst sequences).filter fun (_, follow) => follow ≠ [[]]
    sequences :: followed.flatMap fun (_, follow) =>
      readers n follow

/-! ## Sizes -/

/-- The end of a text that a machine begins at. -/
inductive Direction where
  | front
  | back
deriving DecidableEq, Repr

def stateSize : Nat := 32

/-- The size of a way from a state to another. -/
def linkSize : Nat := 4

def CharSet.size (d : Direction) (s : CharSet) : Nat :=
  match s.ranges with
  | [(low, high)] =>
    if low = high then stateSize * (encode low).length else rangesSize [(low, high)]
  | ranges => rangesSize ranges
where
  /-- The size of several characters: of ASCII, one state that knows its ranges. -/
  rangesSize (ranges : List (Nat × Nat)) : Nat :=
    if s.isAscii then 2 * stateSize + 2 * linkSize * ranges.length
    else
      let sequences := ranges.flatMap byteSequences
      match d with
      | .front =>
        (readers 4 sequences).eraseDups.foldl
          (fun size follow => size + (stateSize + 2 * linkSize * (byFirst follow).length)) stateSize
      | .back => (2 + countStarts [] sequences) * stateSize + linkSize * sequences.length

mutual

/-- Whether an expression matches the empty stretch only. -/
def Expr.isEmptyOnly : Expr → Bool
  | .empty => true
  | .set _ => false
  | .look _ => true
  | .concat parts => allEmptyOnly parts
  | .alternatives branches => allEmptyOnly branches
  | .repetition _ most body => most == some 0 || body.isEmptyOnly
  | .capture body => body.isEmptyOnly

def allEmptyOnly : List Expr → Bool
  | [] => true
  | e :: rest => e.isEmptyOnly && allEmptyOnly rest

end

mutual

def Expr.mayBeEmpty : Expr → Bool
  | .empty => true
  | .set _ => false
  | .look _ => true
  | .concat parts => allMayBeEmpty parts
  | .alternatives branches => someMayBeEmpty branches
  | .repetition least _ body => least == 0 || body.mayBeEmpty
  | .capture body => body.mayBeEmpty

def allMayBeEmpty : List Expr → Bool
  | [] => true
  | e :: rest => e.mayBeEmpty && allMayBeEmpty rest

def someMayBeEmpty : List Expr → Bool
  | [] => false
  | e :: rest => e.mayBeEmpty || someMayBeEmpty rest

end

/-- The size of the marks of the beginning and the end of a group. -/
def markSize : Direction → Nat
  | .front => 2 * stateSize
  | .back => 0

def forkSize : Nat := stateSize + 2 * linkSize

/-- The size of a repetition, given that of its body.  An endless repetition of a body that may be
empty needs a second fork, or it would go round without moving. -/
def repetitionSize (body : Nat) (mayBeEmpty : Bool) : Nat → Option Nat → Nat
  | 0, none => if mayBeEmpty then body + 2 * forkSize + stateSize else body + forkSize
  | least, none => body * least + forkSize
  | 0, some 1 => body + forkSize + stateSize
  | least, some most =>
    (if least = 0 then stateSize else body * least)
      + (if least < most then (body + forkSize) * (most - least) + stateSize else 0)

mutual

/-- The size of an expression.  A body that only matches the empty stretch is not repeated. -/
def Expr.size (d : Direction) : Expr → Nat
  | .empty => stateSize
  | .set chars => chars.size d
  | .look _ => stateSize
  | .concat parts => sizes d parts
  | .alternatives branches => sizes d branches + 2 * stateSize + linkSize * branches.length
  | .repetition least most body =>
    if body.isEmptyOnly then
      repetitionSize (body.size d) true (Nat.min least 1) (some (Nat.min (most.getD 1) 1))
    else repetitionSize (body.size d) body.mayBeEmpty least most
  | .capture body => markSize d + body.size d

def sizes (d : Direction) : List Expr → Nat
  | [] => 0
  | e :: rest => e.size d + sizes d rest

end

/-- The size of what surrounds every expression: a loop that skips characters in front of a match, the
marks of the match, and the state behind it. -/
def frameSize (d : Direction) : Nat := forkSize + 3 * stateSize + 2 * linkSize + markSize d

def sizeLimit : Nat := 10 * 1024 * 1024

def Expr.isSmall (e : Expr) : Bool :=
  [Direction.front, .back].all fun d => e.size d + frameSize d ≤ sizeLimit

end FieldRules.Pattern

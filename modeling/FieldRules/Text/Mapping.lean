/-
# `Text.Mapping` — tables that map characters to texts

A mapping replaces a code point by a list of code points.  The tables are written as text.  A word
`C0:41.300` maps one code point; `41-5A:61` maps a range to the range that starts at its target, and
`100~12E:101` does so for every second code point of a range.
-/
import FieldRules.Text.Ranges

namespace FieldRules.Text

/-- A row of a mapping: a range of code points, the distance between those of it that are mapped, and
the target of the first. -/
structure MappingRow where
  low : Nat
  high : Nat
  stride : Nat
  target : List Nat

/-- A mapping: its rows, in ascending order of their ranges. -/
structure Mapping where
  rows : Array MappingRow

namespace Mapping

def number (digits : List Char) : Nat := digits.foldl (fun n c => n * 16 + Ranges.digit c) 0

/-- Puts a character in front of the first piece, or starts a new piece at a mark. -/
def cut (isMark : Char → Bool) (c : Char) (pieces : List (List Char)) : List (List Char) :=
  if isMark c then [] :: pieces
  else
    match pieces with
    | [] => [[c]]
    | first :: others => (c :: first) :: others

def pieces (isMark : Char → Bool) (cs : List Char) : List (List Char) := cs.foldr (cut isMark) [[]]

def row (word : List Char) : MappingRow :=
  let source := word.takeWhile (· ≠ ':')
  let target := (pieces (· = '.') ((word.dropWhile (· ≠ ':')).drop 1)).map number
  match pieces (fun c => c = '-' ∨ c = '~') source with
  | [low, high] => ⟨number low, number high, if source.contains '~' then 2 else 1, target⟩
  | _ => ⟨number source, number source, 1, target⟩

def ofText (table : String) : Mapping :=
  ⟨(((pieces (fun c => c = ' ' ∨ c = '\n') table.toList).filter (· ≠ [])).map row).toArray⟩

def MappingRow.target? (r : MappingRow) (n : Nat) : Option (List Nat) :=
  if (n - r.low) % r.stride = 0 then
    match r.target with
    | [t] => some [t + (n - r.low)]
    | targets => some targets
  else none

/-- The target of a code point in one of the rows from `low` up to before `high`. -/
def getBetween? (m : Mapping) (n low high : Nat) : Option (List Nat) :=
  if low < high then
    let middle := (low + high) / 2
    match m.rows[middle]? with
    | none => none
    | some r =>
      if n < r.low then getBetween? m n low middle
      else if r.high < n then getBetween? m n (middle + 1) high
      else MappingRow.target? r n
  else none
termination_by high - low

def get? (m : Mapping) (n : Nat) : Option (List Nat) := m.getBetween? n 0 m.rows.size

end Mapping

end FieldRules.Text

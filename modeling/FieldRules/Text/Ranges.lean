/-
# `Text.Ranges` — sets of characters as ranges

A Unicode property is a set of code points, kept as ascending ranges and searched by halving.  The
tables are written as text, a range as `41-5A` and a single code point as `5F`, since text is read
faster than a list of that length elaborates.
-/

namespace FieldRules.Text

/-- A set of code points: ranges with both ends included, in ascending order. -/
structure Ranges where
  bounds : Array (Nat × Nat)

namespace Ranges

def digit (c : Char) : Nat := if c ≤ '9' then c.toNat - 48 else c.toNat - 55

/-- A list of words being read: the finished ranges, the lower end of the current one, and the
number behind it. -/
structure Reading where
  bounds : Array (Nat × Nat)
  low : Option Nat
  number : Option Nat

def Reading.flush (r : Reading) : Array (Nat × Nat) :=
  match r.number with
  | some n => r.bounds.push (r.low.getD n, n)
  | none => r.bounds

def Reading.step (r : Reading) (c : Char) : Reading :=
  if c = ' ' ∨ c = '\n' then ⟨r.flush, none, none⟩
  else if c = '-' then ⟨r.bounds, r.number, none⟩
  else ⟨r.bounds, r.low, some (r.number.getD 0 * 16 + digit c)⟩

def ofText (table : String) : Ranges :=
  ⟨(table.toList.foldl Reading.step ⟨#[], none, none⟩).flush⟩

/-- Whether one of the ranges at the places from `low` up to before `high` holds `n`. -/
def containsBetween (r : Ranges) (n low high : Nat) : Bool :=
  if low < high then
    let middle := (low + high) / 2
    match r.bounds[middle]? with
    | none => false
    | some (first, last) =>
      if n < first then containsBetween r n low middle
      else if last < n then containsBetween r n (middle + 1) high
      else true
  else false
termination_by high - low

def containsCode (r : Ranges) (n : Nat) : Bool := r.containsBetween n 0 r.bounds.size

def contains (r : Ranges) (c : Char) : Bool := r.containsCode c.toNat

end Ranges

end FieldRules.Text

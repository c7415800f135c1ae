/-
# `Pattern.CharSet` — sets of characters and their algebra

A set is a list of ranges of code points, ascending, disjoint and never touching, so that equal sets
are equal lists.  Every operation goes through `CharSet.ofRanges`, which brings any list of ranges
into that form, or through `CharSet.complement`, which keeps it.
-/
import FieldRules.Text.Ranges
import FieldRules.Text.CaseFold

namespace FieldRules.Pattern

/-- A set of code points as ranges with both ends included. -/
structure CharSet where
  ranges : List (Nat × Nat)
deriving DecidableEq, Repr

namespace CharSet

/-- The greatest code point. -/
def last : Nat := 0x10FFFF

def empty : CharSet := ⟨[]⟩

def all : CharSet := ⟨[(0, last)]⟩

/-- Joins ascending ranges from the left, the first of them being open at its upper end. -/
def joinFrom (low high : Nat) : List (Nat × Nat) → List (Nat × Nat)
  | [] => [(low, high)]
  | (low', high') :: rest =>
    if low' ≤ high + 1 then joinFrom low (Nat.max high high') rest
    else (low, high) :: joinFrom low' high' rest

def ofRanges (ranges : List (Nat × Nat)) : CharSet :=
  match ranges.mergeSort (fun a b => a.1 ≤ b.1) with
  | [] => empty
  | (low, high) :: rest => ⟨joinFrom low high rest⟩

def range (low high : Nat) : CharSet := ⟨[(low, high)]⟩

def single (c : Char) : CharSet := range c.toNat c.toNat

def ofTable (table : String) : CharSet := ofRanges (Text.Ranges.ofText table).bounds.toList

def contains (s : CharSet) (c : Char) : Bool :=
  s.ranges.any fun (low, high) => low ≤ c.toNat && c.toNat ≤ high

def isAscii (s : CharSet) : Bool := s.ranges.all fun (_, high) => high < 128

def union (a b : CharSet) : CharSet := ofRanges (a.ranges ++ b.ranges)

/-- The gaps of ascending ranges from a code point on. -/
def gaps (start : Nat) : List (Nat × Nat) → List (Nat × Nat)
  | [] => if start ≤ last then [(start, last)] else []
  | (low, high) :: rest =>
    if start < low then (start, low - 1) :: gaps (high + 1) rest else gaps (high + 1) rest

def complement (s : CharSet) : CharSet := ⟨gaps 0 s.ranges⟩

def inter (a b : CharSet) : CharSet := (a.complement.union b.complement).complement

def diff (a b : CharSet) : CharSet := a.inter b.complement

def symmDiff (a b : CharSet) : CharSet := (a.diff b).union (b.diff a)

/-- The set with all case variants of its characters. -/
def foldCase (s : CharSet) : CharSet :=
  ofRanges (s.ranges ++ s.ranges.flatMap Text.variantRanges)

/-- The set with the other case of its ASCII letters. -/
def foldAsciiCase (s : CharSet) : CharSet :=
  let lower := s.inter (range 0x61 0x7A)
  let upper := s.inter (range 0x41 0x5A)
  ofRanges (s.ranges ++ lower.ranges.map (fun (l, h) => (l - 32, h - 32))
    ++ upper.ranges.map (fun (l, h) => (l + 32, h + 32)))

end CharSet

end FieldRules.Pattern

/-
# `Text.Normalize` — the composed form of a text

Many characters can be written in several ways: as one character, or as a letter followed by marks in
some order.  The composed form is one of them: every character is decomposed, marks are put in the
order of their classes, and each letter is composed with the marks behind it as far as composites
exist.
-/
import FieldRules.Text.Composition

namespace FieldRules.Text

/-! ## Syllables of Hangul

A syllable is numbered by its lead consonant, its vowel and its tail consonant, which may be absent. -/

/-- The first syllable, lead, vowel, and the code point before the first tail. -/
def firstSyllable : Nat := 0xAC00
def firstLead : Nat := 0x1100
def firstVowel : Nat := 0x1161
def beforeTails : Nat := 0x11A7

/-- How many leads, vowels and tails there are, no tail counting as one. -/
def leadCount : Nat := 19
def vowelCount : Nat := 21
def tailCount : Nat := 28

def isSyllable (n : Nat) : Bool :=
  firstSyllable ≤ n && n < firstSyllable + leadCount * vowelCount * tailCount

def syllableParts (n : Nat) : List Nat :=
  let place := n - firstSyllable
  let lead := firstLead + place / (vowelCount * tailCount)
  let vowel := firstVowel + place / tailCount % vowelCount
  if place % tailCount = 0 then [lead, vowel] else [lead, vowel, beforeTails + place % tailCount]

/-- The syllable of a lead and a vowel, or of a syllable without tail and a tail. -/
def joinSyllable? (a b : Nat) : Option Nat :=
  if firstLead ≤ a ∧ a < firstLead + leadCount ∧ firstVowel ≤ b ∧ b < firstVowel + vowelCount then
    some (firstSyllable + ((a - firstLead) * vowelCount + (b - firstVowel)) * tailCount)
  else if isSyllable a ∧ (a - firstSyllable) % tailCount = 0 ∧ beforeTails < b
      ∧ b < beforeTails + tailCount then
    some (a + (b - beforeTails))
  else none

/-! ## Decomposing -/

/-- The class of a code point; letters and all that is no mark have class zero. -/
def combiningClass (n : Nat) : Nat :=
  match combiningClasses.find? fun entry => entry.2.containsCode n with
  | some entry => entry.1
  | none => 0

def decompose (n : Nat) : List Nat :=
  if isSyllable n then syllableParts n else (decompositions.get? n).getD [n]

/-- Puts a code point in front of ordered ones; it moves behind the marks of lower classes. -/
def insertMark (n : Nat) : List Nat → List Nat
  | [] => [n]
  | m :: rest =>
    if 0 < combiningClass m ∧ combiningClass m < combiningClass n then m :: insertMark n rest
    else n :: m :: rest

/-- The decomposed text with its marks in order. -/
def decomposed (ns : List Nat) : List Nat := (ns.flatMap decompose).foldr insertMark []

/-! ## Composing -/

def compose? (a b : Nat) : Option Nat :=
  (joinSyllable? a b).or ((composites.rows.find? fun r => r.target == [a, b]).map (·.low))

/-- Composes the marks behind a letter with it.  `kept` holds the marks that did not compose, last
first; a mark composes unless one before it that was kept has no lower class. -/
def composeFrom (letter : Nat) (kept : List Nat) : List Nat → List Nat
  | [] => letter :: kept.reverse
  | n :: rest =>
    let free := match kept with
      | [] => true
      | k :: _ => combiningClass k < combiningClass n
    match if free then compose? letter n else none with
    | some c => composeFrom c kept rest
    | none =>
      if combiningClass n = 0 then letter :: kept.reverse ++ composeFrom n [] rest
      else composeFrom letter (n :: kept) rest

/-- The composed form of ordered code points; marks that no letter precedes stay. -/
def composed : List Nat → List Nat
  | [] => []
  | n :: rest => if combiningClass n = 0 then composeFrom n [] rest else n :: composed rest

def normalize (cs : List Char) : List Char :=
  (composed (decomposed (cs.map Char.toNat))).map Char.ofNat

end FieldRules.Text

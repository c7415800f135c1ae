/-
# `Url.Domain` — domain names

A domain name may be written with letters of any script.  It is brought into one form, cut into
labels at its dots, and labels that are carried in ASCII are decoded; then every label must be one
that a registry could hold: only letters that the form leaves as they are, no mark at its start,
joiners only where a script needs them, and directions that do not mix.
-/
import FieldRules.Text.Direction
import FieldRules.Text.GeneralCategory
import FieldRules.Text.Normalize
import FieldRules.Text.Split
import FieldRules.Url.HostMapping
import FieldRules.Url.Punycode

namespace FieldRules.Url

open Text (DirectionClass directionClass combiningClass)

/-! ## One form -/

/-- The form of one character; `none` if it may not stand in a name. -/
def mapChar? (c : Char) : Option (List Char) :=
  if dropped.contains c then some []
  else
    match replaced.get? c.toNat with
    | some target => some (target.map Char.ofNat)
    | none => if disallowed.contains c then none else some [c]

def isSettled (c : Char) : Bool := mapChar? c == some [c]

def mapName? (cs : List Char) : Option (List Char) :=
  (cs.mapM mapChar?).map fun parts => Text.normalize parts.flatten

/-- An ASCII character that may not stand in a domain name. -/
def isForbidden (c : Char) : Bool :=
  c.toNat ≤ 0x20 || c.toNat == 0x7F || "%#/:<>?@[\\]^|".toList.contains c

/-! ## Marks and joiners -/

def marks : List Text.Ranges :=
  (Text.categoryTables.filter fun entry => entry.1.any (["mn", "mc", "me"].contains ·)).map
    fun entry => Text.Ranges.ofText entry.2

def isMark (c : Char) : Bool := marks.any (·.contains c)

/-- Whether the nearest character that joining does not look through is of a kind. -/
def joins (kinds : List Text.Ranges) (cs : List Char) : Bool :=
  (cs.dropWhile Text.transparentJoining.contains).head?.any fun c => kinds.any (·.contains c)

/-- Whether a joiner may stand between two stretches, of which the first is given backwards: behind a
sign that kills a vowel, and the one that separates also between letters that would join. -/
def joinerFits (joiner : Char) (before after : List Char) : Bool :=
  before.head?.any (fun c => combiningClass c.toNat == 9)
    || (joiner.toNat == 0x200C && joins [Text.leftJoining, Text.dualJoining] before
      && joins [Text.rightJoining, Text.dualJoining] after)

def joinersFit (before : List Char) : List Char → Bool
  | [] => true
  | c :: rest =>
    (!(c.toNat == 0x200C || c.toNat == 0x200D) || joinerFits c before rest)
      && joinersFit (c :: before) rest

/-! ## Directions -/

def classOf (c : Char) : DirectionClass := directionClass c.toNat

/-- Whether a character makes a name one of mixed directions. -/
def isRightward (c : Char) : Bool :=
  match classOf c with
  | .right | .arabicLetter | .arabicNumber => true
  | _ => false

/-- A class that may stand in a label of either direction. -/
def isNeutralClass : DirectionClass → Bool
  | .europeanNumber | .europeanSeparator | .commonSeparator | .europeanTerminator | .other
  | .boundaryNeutral | .nonspacingMark => true
  | _ => false

/-- Whether the directions of a label do not mix: it starts with a letter, holds only what goes with
the direction of that letter, ends in a letter or number, and has digits of one kind if it runs from
right to left. -/
def directionFits (label : List Char) : Bool :=
  match label.map classOf with
  | [] => true
  | first :: rest =>
    let rest := (rest.reverse.dropWhile (· == .nonspacingMark))
    let leftward := first == .left
    let starts := leftward || first == .right || first == .arabicLetter
    let ends := match rest.head? with
      | none => true
      | some .europeanNumber => true
      | some .left => leftward
      | some .right | some .arabicLetter | some .arabicNumber => !leftward
      | some _ => false
    let inner := rest.all fun k =>
      isNeutralClass k
        || (if leftward then k == .left
          else k == .right || k == .arabicLetter || k == .arabicNumber)
    let oneKind := leftward || !(rest.contains .europeanNumber && rest.contains .arabicNumber)
    starts && ends && inner && oneKind

/-! ## Labels -/

/-- The mark of a label that is carried in ASCII. -/
def carriedMark : List Char := ['x', 'n', '-', '-']

/-- The greatest length of a label carried in ASCII, without its mark. -/
def carriedLimit : Nat := 2000

/-- The greatest length of a label with other than ASCII characters. -/
def labelLimit : Nat := 1000

/-- The text of a label; `none` if it is carried in ASCII but wrongly. -/
def labelText? (label : List Char) : Option (List Char) :=
  if carriedMark.isPrefixOf label then do
    let carried := label.drop carriedMark.length
    let text ← Punycode.decode? carried
    if carried.getLast?.any (· ≠ '-') ∧ carried.length ≤ carriedLimit
        ∧ text.all isSettled ∧ Text.normalize text = text then some text
    else none
  else some label

/-- Whether a label with other than ASCII characters is one that a registry could hold. -/
def isLabel (label : List Char) : Bool :=
  label.all (fun c => c.toNat < 128)
    || (label.length ≤ labelLimit && !label.head?.any isMark && joinersFit [] label
      && !carriedMark.isPrefixOf label)

/-- The labels of a domain name; `none` if it is no domain name. -/
def labels? (name : List Char) : Option (List (List Char)) := do
  let mapped ← mapName? name
  if mapped.any isForbidden then none
  let labels ← (Text.splitAt '.' mapped).mapM labelText?
  if labels.all isLabel ∧ (labels.any (·.any isRightward) → labels.all directionFits) then
    some labels
  else none

end FieldRules.Url

/-
# `Url.Punycode` — names with other than ASCII letters

A label of a host name is carried in ASCII: its ASCII characters, then, behind the last hyphen, where
the others go.  The others are inserted in ascending order; a number of base 36 says how many places
and code points to move on, and the digit at which a number may end adapts to the numbers before.
-/

namespace FieldRules.Url.Punycode

def digitValue? (c : Char) : Option Nat :=
  if 'a' ≤ c ∧ c ≤ 'z' then some (c.toNat - 97)
  else if 'A' ≤ c ∧ c ≤ 'Z' then some (c.toNat - 65)
  else if '0' ≤ c ∧ c ≤ '9' then some (c.toNat - 22)
  else none

/-- The least digit with which a number goes on, at a place of weight `k`. -/
def threshold (k bias : Nat) : Nat := if k ≤ bias then 1 else if bias + 26 ≤ k then 26 else k - bias

def shrink (delta k : Nat) : Nat × Nat :=
  if 455 < delta then shrink (delta / 35) (k + 36) else (delta, k)
termination_by delta
decreasing_by exact Nat.div_lt_self (by omega) (by omega)

/-- The bias after a step, for a text that now has `count` characters. -/
def adapt (delta count : Nat) (first : Bool) : Nat :=
  let delta := if first then delta / 700 else delta / 2
  let (delta, k) := shrink (delta + delta / count) 0
  k + 36 * delta / (delta + 38)

/-- Where the reading of a label stands: the characters so far, the code point and the place reached,
and the bias. -/
structure Reading where
  text : List Char
  code : Nat
  place : Nat
  bias : Nat

/-- A number under way: its value so far, the weight of the next digit and the place of that digit. -/
structure Digits where
  value : Nat
  weight : Nat
  k : Nat

/-- Weights and values stay below this. -/
def limit : Nat := 0x100000000

/-- Inserts the character that a finished number selects. -/
def Reading.insert? (r : Reading) (value : Nat) : Option Reading :=
  let count := r.text.length + 1
  let total := r.place + value
  let code := r.code + total / count
  let place := total % count
  if h : code.isValidChar then
    some ⟨r.text.take place ++ Char.ofNatAux code h :: r.text.drop place, code, place + 1,
      adapt value count (r.place == 0)⟩
  else none

def decodeFrom (r : Reading) (d : Option Digits) : List Char → Option (List Char)
  | [] => if d.isNone then some r.text else none
  | c :: rest =>
    let d := d.getD ⟨0, 1, 36⟩
    match digitValue? c with
    | none => none
    | some digit =>
      let value := d.value + digit * d.weight
      let t := threshold d.k r.bias
      if limit ≤ r.place + value then none
      else if digit < t then
        match r.insert? value with
        | some r => decodeFrom r none rest
        | none => none
      else if limit ≤ d.weight * (36 - t) then none
      else decodeFrom r (some ⟨value, d.weight * (36 - t), d.k + 36⟩) rest

/-- The text of a label, whose mark has been taken off. -/
def decode? (label : List Char) : Option (List Char) :=
  let tail := (label.reverse.takeWhile (· ≠ '-')).reverse
  let head := label.take (label.length - tail.length - 1)
  if head.all fun c => c.toNat < 128 then decodeFrom ⟨head, 128, 0, 72⟩ none tail else none

end FieldRules.Url.Punycode

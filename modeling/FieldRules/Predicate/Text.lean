/-
# `Predicate.Text` — tests of a text
-/
import FieldRules.Decimal.Literal

namespace FieldRules.Predicate

/-- A mobile number: eleven digits of which the first is 1 and the second from 3 to 9. -/
def isPhone (s : String) : Bool :=
  match s.toList with
  | '1' :: second :: rest =>
    '3' ≤ second && second ≤ '9' && rest.length == 9 && rest.all Decimal.isDigit
  | _ => false

def isAsciiAlphanumeric (c : Char) : Bool :=
  ('a' ≤ c && c ≤ 'z') || ('A' ≤ c && c ≤ 'Z') || ('0' ≤ c && c ≤ '9')

/-- One or more letters and digits of the ASCII range. -/
def isAlphanumeric (s : String) : Bool := !s.isEmpty && s.toList.all isAsciiAlphanumeric

def charLength (s : String) : Nat := s.length

/-- Whether the length in bytes of the encoded text lies between two bounds, both included. -/
def byteLengthWithin (s : String) (min max : Nat) : Bool :=
  min ≤ s.utf8ByteSize && s.utf8ByteSize ≤ max

end FieldRules.Predicate

/-
# `Predicate.Email` — email addresses

An address is a mailbox, an at sign and a domain of at least two labels.  Letters count in either
case; the long s and the Kelvin sign are letters here, being case variants of `s` and `k`.
-/
import FieldRules.Text.Split

namespace FieldRules.Predicate

open Text (splitAt)

/-- A Latin letter in either case, with the two variants outside ASCII. -/
def isMailLetter (c : Char) : Bool :=
  ('a' ≤ c && c ≤ 'z') || ('A' ≤ c && c ≤ 'Z') || c.toNat == 0x17F || c.toNat == 0x212A

def isMailAlphanumeric (c : Char) : Bool := isMailLetter c || ('0' ≤ c && c ≤ '9')

def isMailboxEnd (c : Char) : Bool := isMailAlphanumeric c || c == '_' || c == '+' || c == '-'

def isMailboxChar (c : Char) : Bool := isMailboxEnd c || c == '\'' || c == '.'

/-- One or more characters of a mailbox; the last may be neither an apostrophe nor a dot. -/
def isMailbox (cs : List Char) : Bool :=
  cs.all isMailboxChar && cs.getLast?.any isMailboxEnd

/-- A label of a domain: it starts with a letter or digit and may go on with hyphens too. -/
def isMailLabel : List Char → Bool
  | [] => false
  | c :: rest => isMailAlphanumeric c && rest.all fun c => isMailAlphanumeric c || c == '-'

/-- The last label of a domain: two or more letters. -/
def isTopLabel (cs : List Char) : Bool := 2 ≤ cs.length && cs.all isMailLetter

/-- One or more labels and a last one, with dots between. -/
def isMailDomain (cs : List Char) : Bool :=
  let labels := splitAt '.' cs
  2 ≤ labels.length && labels.dropLast.all isMailLabel && labels.getLast?.any isTopLabel

def hasDoubleDot : List Char → Bool
  | '.' :: '.' :: _ => true
  | _ :: rest => hasDoubleDot rest
  | [] => false

/-- Whether a text is an email address: it neither starts with a dot nor has two in a row, and it is
a mailbox, an at sign and a domain. -/
def isEmail (s : String) : Bool :=
  let cs := s.toList
  cs.head? != some '.' && !hasDoubleDot cs &&
    match cs.dropWhile (· != '@') with
    | _ :: domain => isMailbox (cs.takeWhile (· != '@')) && isMailDomain domain
    | [] => false

end FieldRules.Predicate

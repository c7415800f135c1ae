/-
# `Predicate.Address` — network addresses

An address of version 4 is four decimal bytes with dots between.  An address of version 6 is eight
groups of up to four hexadecimal digits with colons between, of which one run of zeros may be left
out by a double colon, and whose last two groups may be written as an address of version 4.
-/
import FieldRules.Coercion
import FieldRules.Text.Split

namespace FieldRules.Predicate

open Text (splitAt)

inductive AddressVersion where
  | v4
  | v6
deriving DecidableEq, Repr

namespace AddressVersion

/-- The number of the version, as messages show it. -/
def number : AddressVersion → Nat
  | .v4 => 4
  | .v6 => 6

def ofName? : String → Option AddressVersion
  | "v4" => some .v4
  | "v6" => some .v6
  | _ => none

end AddressVersion

def isDecimalByte (cs : List Char) : Bool :=
  cs.all Decimal.isDigit && 1 ≤ cs.length && cs.length ≤ 3
    && (cs.length == 1 || cs.head? != some '0') && Decimal.natOfDigits cs ≤ 255

def isAddress4 (cs : List Char) : Bool :=
  let parts := splitAt '.' cs
  parts.length == 4 && parts.all isDecimalByte

def isGroup (cs : List Char) : Bool :=
  1 ≤ cs.length && cs.length ≤ 4 && cs.all fun c => (Coercion.radixDigit? 16 c).isSome

/-- The number of groups that pieces stand for; the last piece may be an address of version 4, which
counts for two. -/
def groupCount? : List (List Char) → Option Nat
  | [] => some 0
  | [last] => if isGroup last then some 1 else if isAddress4 last then some 2 else none
  | piece :: rest => if isGroup piece then (groupCount? rest).map (· + 1) else none

/-- The pieces between colons; an empty text has none. -/
def pieces (cs : List Char) : List (List Char) := if cs = [] then [] else splitAt ':' cs

def splitDoubleColon? : List Char → Option (List Char × List Char)
  | [] => none
  | ':' :: ':' :: rest => some ([], rest)
  | c :: rest => (splitDoubleColon? rest).map fun (head, tail) => (c :: head, tail)

/-- An address of version 6.  A double colon stands for at least one group. -/
def isAddress6 (cs : List Char) : Bool :=
  match splitDoubleColon? cs with
  | none => groupCount? (pieces cs) == some 8
  | some (head, tail) =>
    match groupCount? (pieces tail) with
    | none => false
    | some count => (pieces head).all isGroup && (pieces head).length + count ≤ 7

def isAddress (s : String) : Option AddressVersion → Bool
  | some .v4 => isAddress4 s.toList
  | some .v6 => isAddress6 s.toList
  | none => isAddress4 s.toList || isAddress6 s.toList

end FieldRules.Predicate

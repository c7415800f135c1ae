/-
# `Predicate.Password` — strong passwords

A password is strong when its length and the numbers of its lower-case letters, upper-case letters,
digits and symbols each reach a minimum.  Letters and digits are those of ASCII, and a character is
counted in one class at most.
-/
import FieldRules.Source

namespace FieldRules.Predicate

open Json (Value)

/-! ## Minimums -/

/-- The least counts that a password must reach. -/
structure PasswordOptions where
  minLength : Nat := 8
  minLowercase : Nat := 1
  minUppercase : Nat := 1
  minNumbers : Nat := 1
  minSymbols : Nat := 1
deriving DecidableEq, Repr

namespace PasswordOptions

def fieldNames : List String :=
  ["minLength", "minLowercase", "minUppercase", "minNumbers", "minSymbols"]

def counts (o : PasswordOptions) : List Nat :=
  [o.minLength, o.minLowercase, o.minUppercase, o.minNumbers, o.minSymbols]

def toValue (o : PasswordOptions) : Value :=
  .object (Json.Fields.ofList (fieldNames.zip (o.counts.map .ofNat)))

/-- Reads the written form.  A minimum that is left out has its default; other members are
skipped. -/
def ofValue? (v : Value) : Option PasswordOptions := do
  let count (field : Option Value) (default : Nat) : Option Nat :=
    match field with
    | none => some default
    | some v => v.asNat?
  match ← Source.record? fieldNames false 0 v with
  | [length, lowercase, uppercase, numbers, symbols] =>
    return {
      minLength := ← count length 8
      minLowercase := ← count lowercase 1
      minUppercase := ← count uppercase 1
      minNumbers := ← count numbers 1
      minSymbols := ← count symbols 1 }
  | _ => none

end PasswordOptions

/-! ## Counting -/

def passwordSymbols : List Char :=
  "-#!$@£%^&*()_+|~=`{}[]:\";'<>?,./\\ ".toList

inductive PasswordClass where
  | uppercase
  | lowercase
  | number
  | symbol
deriving DecidableEq, Repr

def PasswordClass.of? (c : Char) : Option PasswordClass :=
  if 'A' ≤ c ∧ c ≤ 'Z' then some .uppercase
  else if 'a' ≤ c ∧ c ≤ 'z' then some .lowercase
  else if '0' ≤ c ∧ c ≤ '9' then some .number
  else if c ∈ passwordSymbols then some .symbol
  else none

def PasswordClass.count (k : PasswordClass) (password : List Char) : Nat :=
  password.countP fun c => PasswordClass.of? c == some k

/-- Whether a password reaches every minimum. -/
def isStrongPassword (password : String) (options : PasswordOptions) : Bool :=
  let cs := password.toList
  options.minLength ≤ cs.length
    && options.minLowercase ≤ PasswordClass.lowercase.count cs
    && options.minUppercase ≤ PasswordClass.uppercase.count cs
    && options.minNumbers ≤ PasswordClass.number.count cs
    && options.minSymbols ≤ PasswordClass.symbol.count cs

end FieldRules.Predicate

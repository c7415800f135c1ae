/-
# `Constraint.Text` — constraints on texts

Lengths count characters, except where a constraint speaks of bytes.  Bounds are included.
-/
import FieldRules.Pattern
import FieldRules.Predicate.Address
import FieldRules.Predicate.Email
import FieldRules.Predicate.Password
import FieldRules.Predicate.Text
import FieldRules.Predicate.Url
import FieldRules.Text.LetterCase

namespace FieldRules

open Json (Value)
open Predicate (AddressVersion PasswordOptions)

inductive TextConstraint where
  | min (count : Nat)
  | max (count : Nat)
  | range (low high : Nat)
  | len (count : Nat)
  | byteLen (low high : Nat)
  | equal (text : String)
  | contain (text : String)
  | startsWith (text : String)
  | endsWith (text : String)
  | regex (pattern : Pattern)
  | uppercase
  | lowercase
  | alphanumeric
  | phone
  | email
  | url
  | ip (version : Option AddressVersion)
  | password (options : PasswordOptions)

namespace TextConstraint

def kind : TextConstraint → String
  | .min _ => "min"
  | .max _ => "max"
  | .range .. => "range"
  | .len _ => "len"
  | .byteLen .. => "byteLen"
  | .equal _ => "equal"
  | .contain _ => "contain"
  | .startsWith _ => "startsWith"
  | .endsWith _ => "endsWith"
  | .regex _ => "regex"
  | .uppercase => "uppercase"
  | .lowercase => "lowercase"
  | .alphanumeric => "alphanumeric"
  | .phone => "phone"
  | .email => "email"
  | .url => "url"
  | .ip _ => "ip"
  | .password _ => "password"

/-- The parameters that fill a message; null if there are none. -/
def params : TextConstraint → Value
  | .min n | .max n | .len n => .ofNat n
  | .range low high | .byteLen low high => .array [.ofNat low, .ofNat high]
  | .equal s | .contain s | .startsWith s | .endsWith s => .string s
  | .regex pattern => .string pattern.source
  | .ip version => (version.map fun v => Value.ofNat v.number).getD .null
  | .password options => options.toValue
  | .uppercase | .lowercase | .alphanumeric | .phone | .email | .url => .null

def occursIn (part : List Char) : List Char → Bool
  | [] => part.isEmpty
  | c :: rest => part.isPrefixOf (c :: rest) || occursIn part rest

def test (s : String) : TextConstraint → Bool
  | .min n => n ≤ Predicate.charLength s
  | .max n => Predicate.charLength s ≤ n
  | .range low high => low ≤ Predicate.charLength s && Predicate.charLength s ≤ high
  | .len n => Predicate.charLength s == n
  | .byteLen low high => Predicate.byteLengthWithin s low high
  | .equal text => s == text
  | .contain text => occursIn text.toList s.toList
  | .startsWith text => text.toList.isPrefixOf s.toList
  | .endsWith text => text.toList.isSuffixOf s.toList
  | .regex pattern => pattern.isMatch s
  | .uppercase => Text.isUppercase s
  | .lowercase => Text.isLowercase s
  | .alphanumeric => Predicate.isAlphanumeric s
  | .phone => Predicate.isPhone s
  | .email => Predicate.isEmail s
  | .url => Predicate.isUrl s
  | .ip version => Predicate.isAddress s version
  | .password options => Predicate.isStrongPassword s options

end TextConstraint

end FieldRules

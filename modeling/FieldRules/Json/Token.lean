/-
# `Json.Token` — lexemes of a JSON text

`tokens?` cuts a JSON text into its lexemes.  A number keeps its spelling, and a string is decoded
except that an escape may name half of a surrogate pair, which no text can hold: such a string has
no value.
-/
import FieldRules.Json.Number

namespace FieldRules.Json

inductive Token where
  | openBracket
  | closeBracket
  | openBrace
  | closeBrace
  | comma
  | colon
  | null
  | bool (value : Bool)
  | number (literal : NumberLiteral)
  /-- A string; `none` if it holds an unpaired surrogate. -/
  | string (value : Option String)

namespace Token

def isSpace (c : Char) : Bool := c = ' ' || c = '\n' || c = '\t' || c = '\r'

/-! ## Strings -/

def hexValue? (c : Char) : Option Nat :=
  if '0' ≤ c ∧ c ≤ '9' then some (c.toNat - 48)
  else if 'a' ≤ c ∧ c ≤ 'f' then some (c.toNat - 87)
  else if 'A' ≤ c ∧ c ≤ 'F' then some (c.toNat - 55)
  else none

/-- The 16-bit unit that four hexadecimal digits denote. -/
def unit? (a b c d : Char) : Option Nat := do
  return (((← hexValue? a) * 16 + (← hexValue? b)) * 16 + (← hexValue? c)) * 16 + (← hexValue? d)

/-- The character of an escape of one letter. -/
def shortEscape? : Char → Option Char
  | '"' => some '"'
  | '\\' => some '\\'
  | '/' => some '/'
  | 'b' => some '\x08'
  | 'f' => some '\x0c'
  | 'n' => some '\n'
  | 'r' => some '\r'
  | 't' => some '\t'
  | _ => none

/-- The code points of a string up to its closing quote, and what follows it.  Escapes may denote
surrogates here; a control character is refused. -/
def stringBody : List Char → Option (List Nat × List Char)
  | [] => none
  | '"' :: rest => some ([], rest)
  | '\\' :: 'u' :: a :: b :: c :: d :: rest => do
    let unit ← unit? a b c d
    let (units, rest) ← stringBody rest
    return (unit :: units, rest)
  | '\\' :: c :: rest => do
    let c ← shortEscape? c
    let (units, rest) ← stringBody rest
    return (c.toNat :: units, rest)
  | c :: rest =>
    if c.toNat < 32 ∨ c = '\\' then none
    else do
      let (units, rest) ← stringBody rest
      return (c.toNat :: units, rest)

def isHighSurrogate (n : Nat) : Bool := 0xD800 ≤ n && n < 0xDC00

def isLowSurrogate (n : Nat) : Bool := 0xDC00 ≤ n && n < 0xE000

/-- Joins the surrogate pairs; `none` if a surrogate has no partner. -/
def joinSurrogates : List Nat → Option (List Char)
  | [] => some []
  | n :: rest =>
    if isHighSurrogate n then
      match rest with
      | m :: rest =>
        if isLowSurrogate m then
          (joinSurrogates rest).map (Char.ofNat (0x10000 + (n - 0xD800) * 0x400 + (m - 0xDC00)) :: ·)
        else none
      | [] => none
    else if isLowSurrogate n then none
    else (joinSurrogates rest).map (Char.ofNat n :: ·)

/-! ## Numbers -/

/-- Digits after an exponent mark, with their sign. -/
def exponent? (cs : List Char) : Option ((Bool × List Char) × List Char) :=
  let (negative, cs) := Decimal.splitSign cs
  match cs.takeWhile Decimal.isDigit with
  | [] => none
  | digits => some ((negative, digits), cs.dropWhile Decimal.isDigit)

/-- An unsigned number: no leading zero before another digit, digits on both sides of a point, and
digits after an exponent mark. -/
def number? (negative : Bool) (cs : List Char) : Option (NumberLiteral × List Char) := do
  let whole := cs.takeWhile Decimal.isDigit
  match whole with
  | [] => none
  | '0' :: _ :: _ => none
  | _ =>
    let rest := cs.dropWhile Decimal.isDigit
    let (fraction, rest) ← match rest with
      | '.' :: rest =>
        match rest.takeWhile Decimal.isDigit with
        | [] => none
        | digits => some (some digits, rest.dropWhile Decimal.isDigit)
      | rest => some (none, rest)
    match rest with
    | 'e' :: rest | 'E' :: rest =>
      let (exponent, rest) ← exponent? rest
      return (⟨negative, whole, fraction, some exponent⟩, rest)
    | rest => return (⟨negative, whole, fraction, none⟩, rest)

/-! ## All lexemes -/

/-- The lexeme at the head of a text that does not start with white space, and what follows it. -/
def next? : List Char → Option (Token × List Char)
  | '[' :: rest => some (.openBracket, rest)
  | ']' :: rest => some (.closeBracket, rest)
  | '{' :: rest => some (.openBrace, rest)
  | '}' :: rest => some (.closeBrace, rest)
  | ',' :: rest => some (.comma, rest)
  | ':' :: rest => some (.colon, rest)
  | 'n' :: 'u' :: 'l' :: 'l' :: rest => some (.null, rest)
  | 't' :: 'r' :: 'u' :: 'e' :: rest => some (.bool true, rest)
  | 'f' :: 'a' :: 'l' :: 's' :: 'e' :: rest => some (.bool false, rest)
  | '"' :: rest => do
    let (units, rest) ← stringBody rest
    return (.string ((joinSurrogates units).map String.ofList), rest)
  | '-' :: rest => (number? true rest).map fun (l, rest) => (.number l, rest)
  | cs => (number? false cs).map fun (l, rest) => (.number l, rest)

/-- The lexemes of a text.  Each lexeme takes at least one character, which the guard records. -/
def tokens? (cs : List Char) : Option (List Token) :=
  match cs with
  | [] => some []
  | c :: rest =>
    if isSpace c then tokens? rest
    else
      match next? (c :: rest) with
      | none => none
      | some (token, after) =>
        if after.length < (c :: rest).length then (tokens? after).map (token :: ·) else none
termination_by cs.length
decreasing_by
  · simp
  · assumption

end Token

end FieldRules.Json

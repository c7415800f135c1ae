/-
# `Pattern.Expr` — expressions and where they match

An expression describes stretches of a text.  `Expr.reach` says it the way a search needs it: from a
set of places where a stretch may begin it gives the set of places where one may end.  Sets of places
make alternation a union, repetition an iteration, and a text of `n` characters has only `n + 1`
places, so every repetition settles.
-/
import FieldRules.Pattern.CharSet
import FieldRules.Text.Word

namespace FieldRules.Pattern

/-! ## Expressions -/

/-- A condition on the characters around a place. -/
inductive Look where
  | start
  | finish
  /-- The start of a line; `true` if a carriage return ends lines too. -/
  | lineStart (carriageReturn : Bool)
  | lineFinish (carriageReturn : Bool)
  /-- A boundary of a word; `true` if words are those of all scripts. -/
  | wordBoundary (unicode : Bool)
  | notWordBoundary (unicode : Bool)
  | wordStart (unicode : Bool)
  | wordFinish (unicode : Bool)
  | wordStartHalf (unicode : Bool)
  | wordFinishHalf (unicode : Bool)
deriving DecidableEq, Repr

inductive Expr where
  | empty
  | set (chars : CharSet)
  | look (condition : Look)
  | concat (parts : List Expr)
  | alternatives (branches : List Expr)
  /-- At least `least` times and at most `most` times, if there is a limit. -/
  | repetition (least : Nat) (most : Option Nat) (body : Expr)
  /-- A group whose stretch a search could ask for; whether a text matches does not depend on it. -/
  | capture (body : Expr)

/-! ## Places -/

/-- A text with its places counted from zero. -/
abbrev Subject := Array Char

/-- A set of places, in ascending order. -/
abbrev Places := List Nat

def Places.union : Places → Places → Places
  | [], ys => ys
  | xs, [] => xs
  | x :: xs, y :: ys =>
    if x < y then x :: Places.union xs (y :: ys)
    else if y < x then y :: Places.union (x :: xs) ys
    else x :: Places.union xs ys
termination_by xs ys => xs.length + ys.length

def Subject.before? (s : Subject) (p : Nat) : Option Char := if p = 0 then none else s[p - 1]?

/-- A word character of ASCII, or of all scripts. -/
def isWordIn (unicode : Bool) (c : Char) : Bool :=
  if unicode then Text.isWord c
  else ('a' ≤ c && c ≤ 'z') || ('A' ≤ c && c ≤ 'Z') || ('0' ≤ c && c ≤ '9') || c == '_'

def Look.holds (s : Subject) (p : Nat) : Look → Bool
  | .start => p == 0
  | .finish => p == s.size
  | .lineStart false => p == 0 || s.before? p == some '\n'
  | .lineFinish false => p == s.size || s[p]? == some '\n'
  | .lineStart true =>
    p == 0 || s.before? p == some '\n' || (s.before? p == some '\r' && s[p]? != some '\n')
  | .lineFinish true =>
    p == s.size || s[p]? == some '\r' || (s[p]? == some '\n' && s.before? p != some '\r')
  | .wordBoundary u => (s.before? p).any (isWordIn u) != s[p]?.any (isWordIn u)
  | .notWordBoundary u => (s.before? p).any (isWordIn u) == s[p]?.any (isWordIn u)
  | .wordStart u => !(s.before? p).any (isWordIn u) && s[p]?.any (isWordIn u)
  | .wordFinish u => (s.before? p).any (isWordIn u) && !s[p]?.any (isWordIn u)
  | .wordStartHalf u => !(s.before? p).any (isWordIn u)
  | .wordFinishHalf u => !s[p]?.any (isWordIn u)

/-! ## Matching -/

/-- Applies a step a number of times, stopping early where a further step changes nothing. -/
def iterate (step : Places → Places) : Nat → Places → Places
  | 0, places => places
  | n + 1, places =>
    let next := step places
    if next == places then places else iterate step n next

/-- The places reached from `found` by up to a number of further steps. -/
def upTo (step : Places → Places) : Nat → Places → Places
  | 0, found => found
  | n + 1, found =>
    let more := found.union (step found)
    if more == found then found else upTo step n more

mutual

/-- The places where a stretch may end that begins at one of the given places. -/
def Expr.reach (s : Subject) : Expr → Places → Places
  | .empty, places => places
  | .set chars, places =>
    places.filterMap fun p => if s[p]?.any chars.contains then some (p + 1) else none
  | .look condition, places => places.filter fun p => condition.holds s p
  | .concat parts, places => reachAll s parts places
  | .alternatives branches, places => reachAny s branches places
  | .repetition least most body, places =>
    let again := iterate (body.reach s) least places
    match most with
    | some most => upTo (body.reach s) (most - least) again
    | none => upTo (body.reach s) (s.size + 1) again
  | .capture body, places => body.reach s places

def reachAll (s : Subject) : List Expr → Places → Places
  | [], places => places
  | e :: rest, places => reachAll s rest (e.reach s places)

def reachAny (s : Subject) : List Expr → Places → Places
  | [], _ => []
  | e :: rest, places => (e.reach s places).union (reachAny s rest places)

end

def Expr.matchesIn (e : Expr) (text : String) : Bool :=
  let s : Subject := text.toList.toArray
  !(e.reach s (List.range (s.size + 1))).isEmpty

end FieldRules.Pattern

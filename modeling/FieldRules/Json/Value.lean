/-
# `Json.Value` — JSON values

A raw input, a message table and a constraint parameter are all JSON values.  The members of an
object are kept in ascending order of their keys, by code point, one member a key: `Fields.insert`
keeps that order, and every object that this library builds is made by it.
-/
import FieldRules.Json.Number

namespace FieldRules.Json

/-- Members of an object, in ascending order of the keys. -/
abbrev Fields (α : Type) := List (String × α)

namespace Fields

variable {α : Type}

/-- Sets the member `key`: a new key goes to its place in the order, a present one is overwritten. -/
def insert (key : String) (value : α) : Fields α → Fields α
  | [] => [(key, value)]
  | (k, v) :: rest =>
    if key < k then (key, value) :: (k, v) :: rest
    else if key = k then (key, value) :: rest
    else (k, v) :: insert key value rest

def get? (key : String) : Fields α → Option α
  | [] => none
  | (k, v) :: rest => if k = key then some v else get? key rest

/-- The members that a list of pairs leaves, the last pair of a key winning. -/
def ofList (pairs : List (String × α)) : Fields α :=
  pairs.foldl (fun fields p => fields.insert p.1 p.2) []

def Ascending (fields : Fields α) : Prop := (fields.map Prod.fst).Pairwise (· < ·)

end Fields

inductive Value where
  | null
  | bool (value : Bool)
  | number (value : Number)
  | string (value : String)
  | array (items : List Value)
  | object (members : List (String × Value))

instance : Inhabited Value := ⟨.null⟩

namespace Value

/-! ## Equality -/

mutual

/-- Structural equality; numbers compare as `Number.beq` says. -/
protected def beq : Value → Value → Bool
  | .null, .null => true
  | .bool a, .bool b => a == b
  | .number a, .number b => a == b
  | .string a, .string b => a == b
  | .array as, .array bs => beqItems as bs
  | .object as, .object bs => beqMembers as bs
  | _, _ => false

def beqItems : List Value → List Value → Bool
  | [], [] => true
  | a :: as, b :: bs => a.beq b && beqItems as bs
  | _, _ => false

def beqMembers : List (String × Value) → List (String × Value) → Bool
  | [], [] => true
  | (k, a) :: as, (l, b) :: bs => k == l && a.beq b && beqMembers as bs
  | _, _ => false

end

instance : BEq Value := ⟨Value.beq⟩

/-- Equality of two values in which two numbers compare by the doubles nearest to them, so that an
integer equals the double of the same quantity.  Numbers inside a list or an object compare
structurally. -/
def same : Value → Value → Bool
  | .number a, .number b => a.toFloat == b.toFloat
  | a, b => a == b

/-! ## Views -/

def typeName : Value → String
  | .null => "null"
  | .bool _ => "boolean"
  | .number _ => "number"
  | .string _ => "string"
  | .array _ => "array"
  | .object _ => "object"

def asString? : Value → Option String
  | .string s => some s
  | _ => none

def asFloat? : Value → Option Float
  | .number n => some n.toFloat
  | _ => none

def asNat? : Value → Option Nat
  | .number n => n.toNat?
  | _ => none

def asArray? : Value → Option (List Value)
  | .array items => some items
  | _ => none

def asObject? : Value → Option (Fields Value)
  | .object members => some members
  | _ => none

def ofNat (n : Nat) : Value := .number (.integer n)

/-- A double as a value; a double that is not finite has no number and becomes null. -/
def ofFloat (x : Float) : Value :=
  match Number.ofFloat? x with
  | some n => .number n
  | none => .null

def ofText? : Option String → Value
  | some s => .string s
  | none => .null

end Value

end FieldRules.Json

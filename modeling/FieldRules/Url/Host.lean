/-
# `Url.Host` — hosts

The host of a web address is an address in brackets, an address of version 4, or a domain name; a
name counts as an address of version 4 when its last label is a number.  Outside the web a host is
any text without certain characters.
-/
import FieldRules.Predicate.Address
import FieldRules.Url.Domain

namespace FieldRules.Url

/-! ## Bytes behind percent signs -/

/-- The bytes of a text in which two hexadecimal digits behind a percent sign stand for a byte. -/
def percentDecode : List UInt8 → List UInt8
  | 0x25 :: a :: b :: rest =>
    match hexValue? a, hexValue? b with
    | some x, some y => (x * 16 + y) :: percentDecode rest
    | _, _ => 0x25 :: percentDecode (a :: b :: rest)
  | byte :: rest => byte :: percentDecode rest
  | [] => []
termination_by bytes => bytes.length
where
  /-- The value of a hexadecimal digit. -/
  hexValue? (byte : UInt8) : Option UInt8 :=
    (Coercion.radixDigit? 16 (Char.ofNat byte.toNat)).map Nat.toUInt8

/-- The text that percent signs in a text spell; `none` if the bytes encode none. -/
def percentText? (cs : List Char) : Option (List Char) :=
  let bytes := percentDecode (String.ofList cs).toUTF8.toList
  (String.fromUTF8? ⟨bytes.toArray⟩).map String.toList

/-! ## Addresses of version 4

Up to four numbers, decimal, octal behind a zero or hexadecimal behind `0x`.  All but the last are
bytes, and the last fills what is left of the four bytes. -/

/-- The number of a label, in the base that its start tells; a mark of a base alone is zero. -/
def labelNumber? (label : List Char) : Option Nat :=
  let read (base : Nat) (digits : List Char) : Option Nat :=
    digits.foldlM (fun n c => (Coercion.radixDigit? base c).map (n * base + ·)) 0
  match label with
  | [] => none
  | '0' :: 'x' :: digits | '0' :: 'X' :: digits => read 16 digits
  | '0' :: c :: digits => read 8 (c :: digits)
  | digits => read 10 digits

/-- The labels without the empty one behind a final dot. -/
def significantLabels (labels : List (List Char)) : List (List Char) :=
  if labels.getLast? = some [] then labels.dropLast else labels

/-- Whether the last label is a number or looks like one. -/
def endsInNumber (labels : List (List Char)) : Bool :=
  match (significantLabels labels).getLast? with
  | none => false
  | some last => (last ≠ [] && last.all Decimal.isDigit) || (labelNumber? last).isSome

/-- Whether labels are an address of version 4. -/
def isNumericAddress (labels : List (List Char)) : Bool :=
  match (significantLabels labels).mapM labelNumber? with
  | none => false
  | some numbers =>
    match numbers.reverse with
    | [] => false
    | last :: bytes =>
      bytes.length ≤ 3 && bytes.all (· ≤ 255) && last < Nat.pow 256 (4 - bytes.length)

/-! ## Hosts -/

/-- An address of version 6 in brackets, whose opening bracket has been read. -/
def isBracketed (rest : List Char) : Bool :=
  rest.getLast? == some ']' && Predicate.isAddress6 rest.dropLast

def isWebHost (cs : List Char) : Bool :=
  match cs with
  | '[' :: rest => isBracketed rest
  | cs =>
    match (percentText? cs).bind labels? with
    | none => false
    | some labels => labels ≠ [[]] && (!endsInNumber labels || isNumericAddress labels)

def isForbiddenInHost (c : Char) : Bool := "\x00\t\n\r #/:<>?@[\\]^|".toList.contains c

/-- Whether a text is a host outside the web; it may be empty. -/
def isOpaqueHost (cs : List Char) : Bool :=
  match cs with
  | '[' :: rest => isBracketed rest
  | cs => !cs.any isForbiddenInHost

end FieldRules.Url

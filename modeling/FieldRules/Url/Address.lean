/-
# `Url.Address` — web addresses

An address is a scheme, a colon and what the scheme makes of the rest.  Only a host and a port can be
wrong: paths, queries and fragments take every character.  The schemes of the web always have a host,
the scheme of files may have one, and any other has one behind two slashes.
-/
import FieldRules.Url.Host

namespace FieldRules.Url

/-! ## Schemes -/

/-- What a scheme asks of the rest. -/
inductive SchemeKind where
  | web
  | file
  | other
deriving DecidableEq, Repr

/-- The kind of a scheme, which is given in lower case. -/
def SchemeKind.of (scheme : String) : SchemeKind :=
  if ["http", "https", "ws", "wss", "ftp"].contains scheme then .web
  else if scheme = "file" then .file
  else .other

def isSchemeChar (c : Char) : Bool := c.isAlphanum || c == '+' || c == '-' || c == '.'

/-- Reads a scheme, in lower case, and the colon behind it. -/
def readScheme? (cs : List Char) : Option (String × List Char) :=
  match cs.takeWhile isSchemeChar, cs.dropWhile isSchemeChar with
  | first :: more, ':' :: rest =>
    if first.isAlpha then some (String.ofList ((first :: more).map Char.toLower), rest) else none
  | _, _ => none

/-! ## Authorities -/

/-- A character that ends an authority; a backslash does so where it counts as a slash. -/
def endsAuthority (kind : SchemeKind) (c : Char) : Bool :=
  c == '/' || c == '?' || c == '#' || (kind != .other && c == '\\')

/-- The text behind the last occurrence of a character, and the text before it if there is one. -/
def cutAtLast (mark : Char) (cs : List Char) : Option (List Char) × List Char :=
  let after := (cs.reverse.takeWhile (· ≠ mark)).reverse
  if after.length = cs.length then (none, cs)
  else (some (cs.take (cs.length - after.length - 1)), after)

/-- Cuts an authority behind its host; a colon inside brackets belongs to the host. -/
def cutHost (bracketed : Bool) : List Char → List Char × List Char
  | [] => ([], [])
  | c :: rest =>
    if c = ':' ∧ !bracketed then ([], c :: rest)
    else
      let (host, port) := cutHost (c == '[' || (bracketed && c != ']')) rest
      (c :: host, port)

/-- Whether a text is empty or a port behind its colon.  The port may be left out; outside the web a
backslash ends it. -/
def isPortPart : List Char → Bool
  | [] => true
  | _ :: digits =>
    let port := digits.takeWhile (· ≠ '\\')
    port.all Decimal.isDigit && Decimal.natOfDigits port ≤ 65535

/-- Whether a user is named in front of the host: a single colon names none. -/
def namesUser (user : Option (List Char)) : Bool :=
  match user with
  | none | some [] | some [':'] => false
  | some _ => true

/-- Whether the text behind two slashes starts with an authority that is right.  An empty host is
right outside the web only, without user and without port, and an at sign in front of nothing but a
path is wrong. -/
def isAuthority (kind : SchemeKind) (cs : List Char) : Bool :=
  let authority := cs.takeWhile fun c => !endsAuthority kind c
  let (user, hostPort) := cutAtLast '@' authority
  let (host, port) := cutHost false hostPort
  let endsThere := hostPort.isEmpty && authority.length < cs.length
  if kind = .other then
    isOpaqueHost host && isPortPart port
      && !(host.isEmpty && (!port.isEmpty || namesUser user || (user == some [] && endsThere)))
  else !host.isEmpty && isWebHost host && isPortPart port

/-! ## Files -/

def isDrive : List Char → Bool
  | [letter, sign] => letter.isAlpha && (sign == ':' || sign == '|')
  | _ => false

/-- Whether what follows the scheme of files is right: only a host behind two slashes can be
wrong. -/
def isFileRest : List Char → Bool
  | first :: second :: rest =>
    let isSlash (c : Char) : Bool := c == '/' || c == '\\'
    if isSlash first && isSlash second then
      let host := rest.takeWhile fun c => !endsAuthority .file c
      host.isEmpty || isDrive host || isWebHost host
    else true
  | _ => true

/-! ## Addresses -/

/-- Whether a text is an absolute address.  Blanks and controls around it and line breaks and tabs
inside it mean nothing. -/
def isAbsolute (s : String) : Bool :=
  let isEdge (c : Char) : Bool := c.toNat ≤ 0x20
  let trimmed := ((s.toList.dropWhile isEdge).reverse.dropWhile isEdge).reverse
  let cs := trimmed.filter fun c => c ≠ '\t' ∧ c ≠ '\n' ∧ c ≠ '\r'
  match readScheme? cs with
  | none => false
  | some (scheme, rest) =>
    match SchemeKind.of scheme with
    | .web => isAuthority .web (rest.dropWhile fun c => c == '/' || c == '\\')
    | .file => isFileRest rest
    | .other =>
      match rest with
      | '/' :: '/' :: rest => isAuthority .other rest
      | _ => true

end FieldRules.Url

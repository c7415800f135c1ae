/-
# `CommandLine.Arguments` — reading the arguments of the program

The program has options of its own and three commands, each with options.  The options of the program
may stand before a command or behind it.  An option is long or a cluster of letters, and its value is
the next argument or follows an equals sign.

Arguments are read from the left.  A request for help or for the version ends the reading at once, as
does the first argument that is not understood.
-/
import FieldRules.Rule.Trigger
import FieldRules.Text.Split

namespace FieldRules.CommandLine

/-! ## What may be given -/

inductive Verb where
  | check
  | rules
  | messages
deriving DecidableEq, Repr

def Verb.ofName? : String → Option Verb
  | "check" => some .check
  | "rules" => some .rules
  | "messages" => some .messages
  | _ => none

/-- An option without a value. -/
inductive Switch where
  | verbose
  | help
  | version
  | json
  | flat
deriving DecidableEq, Repr

/-- An option with a value. -/
inductive Key where
  | messages
  | schema
  | input
  | trigger
deriving DecidableEq, Repr

/-- Where options stand: before the command, or behind it. -/
abbrev Level := Option Verb

def Level.switch? : Level → String → Option Switch
  | _, "verbose" => some .verbose
  | _, "help" => some .help
  | none, "version" => some .version
  | some .check, "json" => some .json
  | some .messages, "flat" => some .flat
  | _, _ => none

def Level.letter? : Level → Char → Option Switch
  | _, 'v' => some .verbose
  | _, 'h' => some .help
  | none, 'V' => some .version
  | _, _ => none

def Level.key? : Level → String → Option Key
  | _, "messages" => some .messages
  | some .check, "schema" => some .schema
  | some .check, "input" => some .input
  | some .rules, "schema" => some .schema
  | some .rules, "trigger" => some .trigger
  | _, _ => none

/-! ## What is given -/

/-- Why reading ends before the arguments do. -/
inductive Stop where
  | help
  | version
  | misuse
deriving DecidableEq, Repr

/-- The options that are given at one level. -/
structure Given where
  verbosity : Nat := 0
  messages : Option String := none
  schema : Option String := none
  inputs : List String := []
  trigger : Option Trigger := none
  json : Bool := false
  flat : Bool := false
deriving DecidableEq, Repr

namespace Given

/-- Takes a switch; only the first may be repeated. -/
def turnOn (g : Given) : Switch → Except Stop Given
  | .verbose => .ok { g with verbosity := g.verbosity + 1 }
  | .help => .error .help
  | .version => .error .version
  | .json => if g.json then .error .misuse else .ok { g with json := true }
  | .flat => if g.flat then .error .misuse else .ok { g with flat := true }

def turnAllOn (g : Given) (level : Level) : List Char → Except Stop Given
  | [] => .ok g
  | c :: rest =>
    match level.letter? c with
    | some s => do turnAllOn (← g.turnOn s) level rest
    | none => .error .misuse

/-- Takes the path of a file, which is not empty and not given before. -/
def path (before : Option String) (value : String) : Except Stop (Option String) :=
  if before.isSome || value.isEmpty then .error .misuse else .ok (some value)

def triggerOfName? : String → Option Trigger
  | "change" => some .change
  | "blur" => some .blur
  | "both" => some .both
  | _ => none

/-- Takes an option with its value; only inputs may be repeated. -/
def set (g : Given) (key : Key) (value : String) : Except Stop Given :=
  match key with
  | .messages => do return { g with messages := ← path g.messages value }
  | .schema => do return { g with schema := ← path g.schema value }
  | .input => .ok { g with inputs := g.inputs ++ [value] }
  | .trigger =>
    match g.trigger, triggerOfName? value with
    | none, some t => .ok { g with trigger := some t }
    | _, _ => .error .misuse

end Given

/-! ## Reading -/

/-- An argument by its form. -/
inductive Form where
  /-- Two hyphens alone, which end the options. -/
  | ending
  /-- A long option with the value behind an equals sign, if there is one. -/
  | long (name : String) (value : Option String)
  /-- A cluster of letters. -/
  | letters (letters : List Char)
  | plain (text : String)

def Form.ofText (text : String) : Form :=
  match text.toList with
  | ['-', '-'] => .ending
  | '-' :: '-' :: rest =>
    let name := rest.takeWhile (· ≠ '=')
    let value := match rest.dropWhile (· ≠ '=') with
      | _ :: value => some (String.ofList value)
      | [] => none
    .long (String.ofList name) value
  | '-' :: c :: rest => .letters (c :: rest)
  | _ => .plain text

/-- Whether an argument can be the value of the option before it. -/
def isValue (text : String) : Bool :=
  match Form.ofText text with
  | .plain _ => true
  | _ => false

/-- Reads options up to an argument that is none; the answer has that argument and what follows. -/
def readOptions (level : Level) (g : Given) : List String → Except Stop (Given × List String)
  | [] => .ok (g, [])
  | arg :: rest =>
    match Form.ofText arg with
    | .ending => if rest = [] then .ok (g, []) else .error .misuse
    | .letters cs => do readOptions level (← g.turnAllOn level cs) rest
    | .plain _ => .ok (g, arg :: rest)
    | .long name value =>
      match level.switch? name, level.key? name, value with
      | some s, _, none => do readOptions level (← g.turnOn s) rest
      | none, some key, some value => do readOptions level (← g.set key value) rest
      | none, some key, none =>
        match rest with
        | value :: rest =>
          if isValue value then do readOptions level (← g.set key value) rest else .error .misuse
        | [] => .error .misuse
      | _, _, _ => .error .misuse

/-- What is to be done. -/
inductive Command where
  | check (schema : String) (inputs : List String) (json : Bool)
  | rules (schema : String) (trigger : Option Trigger)
  | messages (flat : Bool)
deriving DecidableEq, Repr

/-- The command of options; some options have to be given. -/
def Verb.command (v : Verb) (g : Given) : Except Stop Command :=
  match v, g.schema with
  | .check, some schema => .ok (.check schema g.inputs g.json)
  | .rules, some schema => .ok (.rules schema g.trigger)
  | .messages, _ => .ok (.messages g.flat)
  | _, none => .error .misuse

/-- A command with the file of messages to be merged. -/
structure Invocation where
  messages : Option String
  command : Command
deriving DecidableEq, Repr

/-- Chooses the file of messages: one given behind the command, or else before it, or else the
standing one.  Where a level names no file, the standing one must have a name. -/
def chooseMessages (standing before behind : Option String) : Except Stop (Option String) :=
  if standing = some "" ∧ (before.isNone ∨ behind.isNone) then .error .misuse
  else .ok (behind.or (before.or standing))

/-- Reads the arguments of a request for help: the names of commands. -/
def readHelp : List String → Stop
  | [] => .help
  | [name] => if name = "help" ∨ (Verb.ofName? name).isSome then .help else .misuse
  | _ => .misuse

/-- Reads arguments, given the standing file of messages. -/
def Invocation.read (standing : Option String) (args : List String) : Except Stop Invocation := do
  let (before, rest) ← readOptions none {} args
  match rest with
  | [] => throw .misuse
  | name :: rest =>
    match Verb.ofName? name with
    | none => throw (if name = "help" then readHelp rest else .misuse)
    | some verb =>
      let (behind, rest) ← readOptions (some verb) {} rest
      if rest ≠ [] then throw .misuse
      let command ← verb.command behind
      return ⟨← chooseMessages standing before.messages behind.messages, command⟩

end FieldRules.CommandLine

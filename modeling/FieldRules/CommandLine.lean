/-
# `CommandLine` — the program

The program checks inputs against a schema document, lists the rules that such a document compiles to,
or prints the table of messages.  It ends with zero, with one if an input failed, and with two if it
could not do what was asked.

What it reads comes from an `Environment`, so that it runs on real files and on given ones alike.
-/
import FieldRules.CommandLine.Arguments
import FieldRules.Document.Reading
import FieldRules.Messages.Reading

namespace FieldRules.CommandLine

open Json (Value)

/-! ## Around the program -/

/-- What the program can read: files by their path, which gives a text or a reason why there is none,
the standard input, and the standing file of messages. -/
structure Environment (m : Type → Type) where
  fileText : String → m (Except String String)
  inputText : m String
  messages : Option String

/-- Why the program could not do what was asked. -/
inductive Failure where
  | messages (path : String) (cause : Messages.Error)
  | missing (path reason : String)
  | unreadable (path : String) (cause : Document.Error)
  | unbuildable (path : String) (cause : Document.Error)
deriving DecidableEq, Repr

/-- The causes of a failure, outermost first. -/
def Failure.chain : Failure → List String
  | .messages path cause => ("failed to load messages from " ++ path) :: cause.chain
  | .missing path reason => ["failed to read schema document: " ++ path, reason]
  | .unreadable path cause => ["invalid schema document: " ++ path, cause.message]
  | .unbuildable path cause =>
    ["cannot build schema from " ++ path, cause.report, cause.message]

def Failure.message (f : Failure) : String := ": ".intercalate f.chain

/-- What the program prints and how it ends. -/
structure Answer where
  code : UInt8
  output : String
  failure : Option Failure := none

namespace Answer

/-- The answer of an input that failed or of inputs that all passed. -/
def ofChecks (lines : List String) (failed : Bool) : Answer where
  code := if failed then 1 else 0
  output := String.join (lines.map (· ++ "\n"))

def ofText (text : String) : Answer := { code := 0, output := text ++ "\n" }

def ofFailure (f : Failure) : Answer := { code := 2, output := "", failure := some f }

end Answer

/-! ## Inputs -/

/-- An input: a JSON value, or else the text itself. -/
def readInput (text : String) : Value := (Value.parse? text).getD (.string text)

/-- A line without the carriage return at its end. -/
def dropReturn (line : List Char) : List Char :=
  if line.getLast? = some '\r' then line.dropLast else line

/-- The lines of a text.  A line ends with a line feed, before which a carriage return may stand; the
last one may do without. -/
def lines (text : String) : List String :=
  let pieces := Text.splitAt '\n' text.toList
  let last := pieces.getLast?.getD []
  (pieces.dropLast.map dropReturn ++ if last = [] then [] else [last]).map String.ofList

/-! ## Commands -/

/-- The line for an input, given its failure: the failure alone, or a JSON object. -/
def checkLine (json : Bool) (input : Value) (message : Option String) : String :=
  if json then
    (Value.object [("error", .bool message.isSome), ("input", input),
      ("message", Value.ofText? message)]).compact
  else message.getD "ok"

def check {m : Type → Type} [Monad m] (tables : Tables) (schema : AnySchema m)
    (inputs : List Value) (json : Bool) : m Answer := do
  let messages ← inputs.mapM (schema.schema.check tables)
  let lines := (inputs.zip messages).map fun (input, message) => checkLine json input message
  return .ofChecks lines (messages.any Option.isSome)

/-- What is told of a rule: where it comes from, its size, and its declarative fields, in this
order. -/
def ruleReport {m : Type → Type} (trigger : Option Trigger) (r : Rule m) : Value :=
  let origin := match r with
    | .compiled g => [("source", Value.string "compiled"), ("size", .ofNat g.size)]
    | .raw _ => [("source", .string "raw")]
  .object (origin ++ (r.toTrigger trigger).declared.members)

def listRules {m : Type → Type} (schema : AnySchema m) (trigger : Option Trigger) : Answer :=
  .ofText (Value.array (schema.schema.rules.map (ruleReport trigger))).pretty

/-- Prints a table, as one object or as a line for each template. -/
def printMessages (table : Messages.Table) (flat : Bool) : Answer :=
  .ofText (if flat then
    "\n".intercalate (table.flatten.map fun (key, template) => key ++ " = " ++ template)
  else table.toValue.pretty)

/-! ## Running -/

variable {m : Type → Type} [Monad m]

/-- The factory with the messages of a file merged into its table. -/
def loadFactory (env : Environment m) : Option String → m (Except Failure (Factory m))
  | none => return .ok {}
  | some path => do
    match Messages.Table.builtIn.mergeFile path (← env.fileText path) with
    | .ok table => return .ok { messages := table }
    | .error e => return .error (.messages path e)

/-- The schema of a file, of the one factory that there is. -/
def loadSchema (env : Environment m) (factory : Factory m) (path : String) :
    m (Except Failure (AnySchema m)) := do
  match ← env.fileText path with
  | .error reason => return .error (.missing path reason)
  | .ok text =>
    match Document.parse (Format.ofPath path) text with
    | .error e => return .error (.unreadable path e)
    | .ok document => return (document.build 0 factory).mapError (.unbuildable path)

/-- Does what a command says; inputs that are not given are the lines of the standard input. -/
def execute (env : Environment m) (factory : Factory m) : Command → m Answer
  | .check path inputs json => do
    match ← loadSchema env factory path with
    | .error f => return .ofFailure f
    | .ok schema =>
      let texts ← if inputs = [] then lines <$> env.inputText else pure inputs
      check (fun _ => factory.messages) schema (texts.map readInput) json
  | .rules path trigger => do
    match ← loadSchema env factory path with
    | .error f => return .ofFailure f
    | .ok schema => return listRules schema trigger
  | .messages flat => return printMessages factory.messages flat

def usage : String :=
  "Usage: valr [-v] [--messages <MESSAGES>] <COMMAND>\n\n"
    ++ "Commands:\n"
    ++ "  check --schema <SCHEMA> [--input <JSON>]... [--json]\n"
    ++ "  rules --schema <SCHEMA> [--trigger <change|blur|both>]\n"
    ++ "  messages [--flat]\n"

def run (env : Environment m) (args : List String) : m Answer := do
  match Invocation.read env.messages args with
  | .error .version => return .ofText "valr 0.1.0"
  | .error .help => return { code := 0, output := usage }
  | .error .misuse => return { code := 2, output := "" }
  | .ok invocation =>
    match ← loadFactory env invocation.messages with
    | .error f => return .ofFailure f
    | .ok factory => execute env factory invocation.command

end FieldRules.CommandLine

/-
# `Main` — the program on real files
-/
import FieldRules.CommandLine

open FieldRules.CommandLine

/-- Why a file cannot be read: the words of the system and their number. -/
def FieldRules.CommandLine.reasonOf : IO.Error → String
  | .noFileOrDirectory .. => "No such file or directory (os error 2)"
  | .permissionDenied .. => "Permission denied (os error 13)"
  | .inappropriateType _ code _ =>
    if code = 21 then "Is a directory (os error 21)" else "Not a directory (os error 20)"
  | e => toString e

/-- The files, the standard input and the environment of the process. -/
def FieldRules.CommandLine.Environment.ofProcess (messages : Option String) : Environment IO where
  fileText path := do
    match ← (IO.FS.readFile path).toBaseIO with
    | .ok text => return .ok text
    | .error e => return .error (reasonOf e)
  inputText := do (← IO.getStdin).readToEnd
  messages := messages

def main (args : List String) : IO UInt32 := do
  let answer ← run (Environment.ofProcess (← IO.getEnv "VALR_MESSAGES")) args
  IO.print answer.output
  match answer.failure with
  | some f => IO.eprintln ("error: " ++ f.message)
  | none => pure ()
  return answer.code.toUInt32

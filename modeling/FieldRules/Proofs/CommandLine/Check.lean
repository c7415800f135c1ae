/-
# `Proofs.CommandLine.Check` — checking inputs from the command line

A run that checks inputs against a document says the same of them three times over: in the code with
which it ends, in the lines that it prints for people, and in the lines that it prints for programs.
All three come from the verdicts of the schema on the inputs, one after the other (`run_check`).

The lines for programs are one for each input because nothing that is written into one can break it:
whatever the input and the message hold, a compact text has no control character in it
(`Json.Value.printable_compact`).  Each of them is read back as what was written into it
(`Json.Node.parse?_compact`).
-/
import FieldRules.CommandLine
import FieldRules.Proofs.Json.Reading

namespace FieldRules.CommandLine

open Json (Value Node Printable)

/-! ## Lines -/

theorem splitAt_append {mark : Char} {piece : List Char} (h : mark ∉ piece) (rest : List Char) :
    Text.splitAt mark (piece ++ mark :: rest) = piece :: Text.splitAt mark rest := by
  induction piece with
  | nil => rw [List.nil_append, Text.splitAt, if_pos rfl]
  | cons c piece ih =>
      obtain ⟨hne, hpiece⟩ := not_or.mp (List.mem_cons.not.mp h)
      rw [List.cons_append, Text.splitAt, if_neg (Ne.symm hne), ih hpiece]

theorem splitAt_join {lines : List String} (h : ∀ line ∈ lines, '\n' ∉ line.toList) :
    Text.splitAt '\n' (String.join (lines.map (· ++ "\n"))).toList
      = lines.map String.toList ++ [[]] := by
  induction lines with
  | nil => rfl
  | cons line lines ih =>
      obtain ⟨hline, hlines⟩ := List.forall_mem_cons.mp h
      have htext : (String.join ((line :: lines).map (· ++ "\n"))).toList
          = line.toList ++ '\n' :: (String.join (lines.map (· ++ "\n"))).toList := by
        simp [String.toList_join]
      rw [htext, splitAt_append hline, ih hlines]
      rfl

theorem newline_not_mem {cs : List Char} (h : Printable cs) : '\n' ∉ cs := fun hmem =>
  absurd (Json.printable_iff.mp h '\n' hmem) (by decide)

/-- The object that the line of an input says. -/
def outcome (input : Value) (message : Option String) : Value :=
  .object [("error", .bool message.isSome), ("input", input), ("message", Value.ofText? message)]

/-- A line is a JSON object that says of an input whether it was rejected, and why. -/
def Tells (input : Value) (message : Option String) (line : List Char) : Prop :=
  Printable line ∧
    ∃ node, Node.parse? (String.ofList line) = some node ∧ node.Denotes (outcome input message)

theorem tells_checkLine (input : Value) (message : Option String) :
    Tells input message (checkLine true input message).toList := by
  refine ⟨Value.printable_compact _, ?_⟩
  rw [String.ofList_toList]
  exact Node.parse?_compact (outcome input message)

/-! ## The run -/

theorem ofChecks_eq (json : Bool) (inputs : List Value) (f : Value → Option String) :
    Answer.ofChecks
        ((inputs.zip (inputs.map f)).map fun (input, message) => checkLine json input message)
        ((inputs.map f).any Option.isSome)
      = .ofChecks (inputs.map fun input => checkLine json input (f input))
        (inputs.any fun input => (f input).isSome) := by
  have hlines : (inputs.zip (inputs.map f)).map
        (fun (input, message) => checkLine json input message)
      = inputs.map fun input => checkLine json input (f input) := by
    induction inputs with
    | nil => rfl
    | cons input inputs ih => exact congrArg (_ :: ·) ih
  rw [hlines, List.any_map]
  rfl

/-- The lines and the code come from the same verdicts. -/
theorem check_eq (tables : Tables) (schema : AnySchema Id) (inputs : List Value) (json : Bool) :
    check tables schema inputs json =
      .ofChecks (inputs.map fun input => checkLine json input (schema.check tables input))
        (inputs.any fun input => (schema.check tables input).isSome) := by
  have hverdicts : inputs.mapM (schema.schema.check tables) = inputs.map (schema.check tables) :=
    List.mapM_pure
  unfold check
  rw [hverdicts]
  exact ofChecks_eq json inputs (schema.check tables)

theorem run_eq (env : Environment Id) {args : List String} {messages : Option String}
    {path : String} {inputs : List String} {json : Bool} {factory : Factory Id}
    {schema : AnySchema Id}
    (hread : Invocation.read env.messages args = .ok ⟨messages, .check path inputs json⟩)
    (hfactory : loadFactory env messages = .ok factory)
    (hschema : loadSchema env factory path = .ok schema) :
    run env args = check (fun _ => factory.messages) schema
      ((if inputs = [] then lines env.inputText else inputs).map readInput) json := by
  unfold run
  rw [hread]
  dsimp only
  rw [hfactory]
  show execute env factory (.check path inputs json) = _
  unfold execute
  dsimp only
  rw [hschema]
  split_ifs <;> rfl

/-- A run that checks inputs against a document ends with one if the schema of the document rejects
an input and with zero if it rejects none.  It prints a line for each input, in their order: the
message of the input or `ok`, or an object that says of the input whether it was rejected and why. -/
theorem run_check (env : Environment Id) {args : List String} {messages : Option String}
    {path : String} {inputs : List String} {json : Bool} {factory : Factory Id}
    {schema : AnySchema Id}
    (hread : Invocation.read env.messages args = .ok ⟨messages, .check path inputs json⟩)
    (hfactory : loadFactory env messages = .ok factory)
    (hschema : loadSchema env factory path = .ok schema) :
    let texts := if inputs = [] then lines env.inputText else inputs
    let verdict : String → Option String := fun text =>
      schema.check (fun _ => factory.messages) (readInput text)
    let answer := run env args
    answer.failure = none ∧
      answer.code = (if texts.any fun text => (verdict text).isSome then 1 else 0) ∧
      if json then
        ∃ printed, Text.splitAt '\n' answer.output.toList = printed ++ [[]] ∧
          List.Forall₂ (fun text => Tells (readInput text) (verdict text)) texts printed
      else answer.output = String.join (texts.map fun text => (verdict text).getD "ok" ++ "\n") := by
  intro texts verdict answer
  have hanswer : answer = .ofChecks (texts.map fun text => checkLine json (readInput text) (verdict text))
      (texts.any fun text => (verdict text).isSome) := by
    rw [show answer = _ from run_eq env hread hfactory hschema, check_eq, List.map_map, List.any_map]
    rfl
  refine ⟨by rw [hanswer]; rfl, by rw [hanswer]; rfl, ?_⟩
  rw [hanswer]
  cases json with
  | false =>
      rw [if_neg Bool.false_ne_true]
      show String.join ((texts.map fun text => (verdict text).getD "ok").map (· ++ "\n")) = _
      rw [List.map_map]
      rfl
  | true =>
      rw [if_pos rfl]
      refine ⟨_, splitAt_join ?_, ?_⟩
      · intro line hline
        obtain ⟨text, -, rfl⟩ := List.mem_map.mp hline
        exact newline_not_mem (tells_checkLine (readInput text) (verdict text)).1
      · rw [List.map_map]
        refine List.forall₂_map_right_iff.mpr (List.forall₂_same.mpr fun text _ => ?_)
        exact tells_checkLine (readInput text) (verdict text)

/-- The only file is a document that asks for three characters. -/
def threeCharacters : Environment Id where
  fileText _ := .ok
    r#"{"type":"string","rules":[{"kind":"min","value":3}]}"#
  inputText := "abc\nab\n"
  messages := none

/-- The first input has three characters, a line break among them, and the second has two. -/
theorem run_check_of_two_inputs :
    let answer := run threeCharacters
      ["check", "--schema", "rules.json", "--json", "--input", "a\nb", "--input", "ab"]
    ∃ schema, loadSchema threeCharacters {} "rules.json" = .ok schema ∧
      answer.failure = none ∧ answer.code = 1 ∧
      ∃ first second, Text.splitAt '\n' answer.output.toList = [first, second, []] := by
  have hread : Invocation.read threeCharacters.messages
      ["check", "--schema", "rules.json", "--json", "--input", "a\nb", "--input", "ab"]
      = .ok ⟨none, .check "rules.json" ["a\nb", "ab"] true⟩ := rfl
  have hloaded : (match loadSchema threeCharacters {} "rules.json" with
      | .ok _ => true
      | .error _ => false) = true := by decide +kernel
  cases hschema : loadSchema threeCharacters {} "rules.json" with
  | error f =>
      rw [hschema] at hloaded
      cases hloaded
  | ok schema =>
      obtain ⟨hfailure, -, printed, hprinted, hlines⟩ := run_check threeCharacters hread rfl hschema
      refine ⟨schema, rfl, hfailure, by decide +kernel, ?_⟩
      match printed, hlines.length_eq with
      | [first, second], _ => exact ⟨first, second, hprinted⟩

end FieldRules.CommandLine

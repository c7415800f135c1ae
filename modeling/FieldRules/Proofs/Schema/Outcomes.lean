/-
# `Proofs.Schema.Outcomes` — one check, told in several ways

A schema is checked directly, by a form's runner over its rules with events, through a wrapper that
forgets its type, by a validation that is waited for, and by one that also tells a callback.  Each
way has steps of its own: events that the rules carry, a callback that the runner is given, a channel
between the callback and whoever waits, an outcome in place of a report.  `check_told_alike` says
that none of these steps loses a failure, makes one up or tells one twice.

A channel that was never used would end as a validation that passed (`Channel.receive`), so the
point is that the runner does use it, with each input and once (`Channel.receive_run`).
-/
import FieldRules.Proofs.Schema.Reports

namespace FieldRules

open Json (Value)

variable {m : Type → Type} {t : FieldType}

/-! ## Callbacks and channels -/

def note {α : Type} [Monad m] (a : α) : StateT (List α) m Unit := modify (· ++ [a])

variable [Monad m] [LawfulMonad m]

/-- A runner gives its callback one thing: what validating finds. -/
theorem Runner.run_note (r : Runner m) (tables : Tables) (input : Value)
    (noted : List (Option RuleError)) :
    (r.run tables input (note (m := m))).run noted
      = (fun error => ((), noted ++ [error])) <$> r.validate tables input := by
  unfold Runner.run
  rw [StateT.run_bind, StateT.run_monadLift, bind_assoc, map_eq_pure_bind]
  refine bind_congr fun error => ?_
  rw [pure_bind]
  rfl

/-- What is received from a runner's callback is what validating finds. -/
theorem Channel.receive_run {α : Type} (r : Runner m) (tables : Tables) (input : Value)
    (tell : Option RuleError → α) :
    Channel.receive (r.run tables input fun error => Channel.send (m := m) (tell error))
      = (fun error => some (tell error)) <$> r.validate tables input := by
  unfold Channel.receive Runner.run
  rw [StateT.run_bind, StateT.run_monadLift, bind_assoc, bind_assoc, map_eq_pure_bind]
  refine bind_congr fun error => ?_
  rw [pure_bind]
  exact pure_bind _ _

/-- A runner over the rules with events of a schema checks the schema, whatever the events are. -/
theorem map_message_validate_triggerRules (s : Schema m t) (tables : Tables) (input : Value)
    (trigger : Option Trigger) :
    Option.map RuleError.message <$> Runner.validate ⟨s.triggerRules trigger, s.owner⟩ tables input
      = s.check tables input := by
  unfold Schema.check Schema.triggerRules
  rw [Runner.validate_map_toTrigger, Runner.validate_map_toTrigger]
  exact (bind_pure_comp _ _).symm

/-! ## Outcomes -/

namespace Outcome

theorem ofError_eq (error : Option RuleError) :
    ofError error = ofReport (error.map RuleError.message) := by
  cases error <;> rfl

theorem views_ofReport (report : Option String) :
    (ofReport report).isFailure = report.isSome ∧ (ofReport report).message? = report := by
  cases report <;> exact ⟨rfl, rfl⟩

end Outcome

namespace Schema

/-- Who waits for a validation receives the outcome of a check. -/
theorem validate_eq_map_check (s : Schema m t) (tables : Tables) (input : Value) :
    s.validate tables input = Outcome.ofReport <$> s.check tables input := by
  rw [validate, Channel.receive_run, bind_map_left, ← map_message_validate_triggerRules s tables
    input none, Functor.map_map, map_eq_pure_bind]
  refine bind_congr fun error => ?_
  rw [← Outcome.ofError_eq]
  rfl

/-- A callback that notes what it is told is told once, what the outcome shows. -/
theorem validateWith_note (s : Schema m t) (tables : Tables) (input : Value)
    (told : List (Bool × Option String)) :
    (s.validateWith tables (fun failed message => note (m := m) (failed, message)) input).run told
      = (fun o => (o, told ++ [(o.isFailure, o.message?)])) <$> s.validate tables input := by
  unfold validateWith
  rw [StateT.run_bind, StateT.run_monadLift, bind_assoc, map_eq_pure_bind]
  refine bind_congr fun outcome => ?_
  rw [pure_bind, StateT.run_bind]
  exact pure_bind _ _

/-- A check, a form's runner over the rules with events, whatever these are, and a check through the
wrapper that forgets the type report the same; a runner that has a callback gives it the one thing
that it finds.  A validation that is waited for ends with the outcome of that report: it failed with a
message just when the report is this message, and passed just when there is no report.  With a
callback it ends the same way, and the callback is told once, by the two values that the outcome
shows. -/
theorem check_told_alike (s : Schema m t) (tables : Tables) (input : Value) :
    (∀ trigger, Option.map RuleError.message <$>
        Runner.validate ⟨s.triggerRules trigger, s.owner⟩ tables input = s.check tables input) ∧
    (∀ trigger noted,
      (Runner.run ⟨s.triggerRules trigger, s.owner⟩ tables input (note (m := m))).run noted
        = (fun error => ((), noted ++ [error])) <$>
          Runner.validate ⟨s.triggerRules trigger, s.owner⟩ tables input) ∧
    AnySchema.check tables input ⟨t, s⟩ = s.check tables input ∧
    AnySchema.validate tables input ⟨t, s⟩ = s.validate tables input ∧
    s.validate tables input = Outcome.ofReport <$> s.check tables input ∧
    (∀ report,
      (∀ text, (Outcome.ofReport report).isFailure = true ∧
        (Outcome.ofReport report).message? = some text ↔ report = some text) ∧
      (Outcome.ofReport report = .passed ↔ report = none)) ∧
    ∀ told,
      (s.validateWith tables (fun failed message => note (m := m) (failed, message)) input).run told
        = (fun o => (o, told ++ [(o.isFailure, o.message?)])) <$> s.validate tables input := by
  refine ⟨map_message_validate_triggerRules s tables input,
    fun trigger => Runner.run_note ⟨s.triggerRules trigger, s.owner⟩ tables input, rfl, rfl,
    s.validate_eq_map_check tables input, fun report => ?_, s.validateWith_note tables input⟩
  cases report with
  | none => exact ⟨fun text => ⟨nofun, nofun⟩, ⟨fun _ => rfl, fun _ => rfl⟩⟩
  | some message =>
      exact ⟨fun text => ⟨fun h => h.2, fun h => ⟨rfl, h⟩⟩, ⟨nofun, nofun⟩⟩

/-- A list passes a raw rule and fails at a constraint: all ways tell that one failure, and the
callback is told once. -/
theorem check_told_alike_of_repeated_element :
    let s : Schema Id .array :=
      { owner := 0, items := [.raw (.require "give"), .descriptor (.check .unique none)] }
    let tables : Tables := fun _ => Messages.Table.empty.insert "default" "twice"
    let input : Value := .array [.bool true, .bool true]
    Id.run (s.check tables input) = some "twice" ∧
      Option.map RuleError.message
        (Id.run (Runner.validate ⟨s.triggerRules (some .both), s.owner⟩ tables input)) = some "twice" ∧
      Id.run (AnySchema.validate tables input ⟨.array, s⟩) = .failed "twice" ∧
      Id.run ((s.validateWith tables (fun failed message => note (m := Id) (failed, message))
        input).run []) = (.failed "twice", [(true, some "twice")]) := by
  intro s tables input
  obtain ⟨hrunner, -, -, hwrapped, hvalidate, -, hwith⟩ := check_told_alike s tables input
  have hcheck : Id.run (s.check tables input) = some "twice" := by decide +kernel
  have hended : s.validate tables input = .failed "twice" := by
    rw [hvalidate]
    exact congrArg Outcome.ofReport hcheck
  refine ⟨hcheck, ?_, hwrapped.trans hended, ?_⟩
  · exact (hrunner (some .both)).trans hcheck
  · refine (hwith []).trans ?_
    rw [hended]
    rfl

end Schema

end FieldRules

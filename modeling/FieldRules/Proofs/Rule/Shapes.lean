/-
# `Proofs.Rule.Shapes` — the two shapes of a rule agree

The rules of a schema are handed to forms in two shapes.  Each shape is made on its own: the plain
one takes a group or a rule of a form as it is, the one with events calls it from a validator of its
own, which wraps every single report.  `run_toTrigger` says that running both comes to the same
first failure, however many reports there are, and in every lawful monad: the validators behind the
two shapes also act alike.  `formRules_agree_triggerRules` is this for all rules of a schema, and
for the fields of a form.
-/
import FieldRules.Schema
import FieldRules.Proofs.Json.Fields

namespace FieldRules

open Json (Value)

variable {m : Type → Type}

/-! ## First reports -/

/-- Wrapping every report wraps the one that counts. -/
theorem firstReport_map {ε δ : Type} (f : ε → δ) (reports : List (Option ε)) :
    firstReport (reports.map (Option.map f)) = (firstReport reports).map f := by
  cases reports with
  | nil => rfl
  | cons first rest => rfl

/-- Running a validator keeps the first of its reports, of which a group has one. -/
theorem Validator.run_eq_firstReport [Monad m] [LawfulMonad m] (tables : Tables) (input : Value)
    (v : Validator m) : v.run tables input = firstReport <$> v.reports tables input := by
  cases v with
  | group g =>
      show g.evaluate tables input = firstReport <$> (g.evaluate tables input >>= fun r => pure [r])
      rw [map_bind]
      simp only [map_pure]
      exact (bind_pure _).symm
  | reporting f => exact bind_pure_comp _ _

/-! ## One rule -/

namespace Rule

/-- What both shapes of a rule declare: a group only that it has a validator, a rule of a form its
own fields. -/
def declared : Rule m → Meta
  | .compiled _ => { validator := true }
  | .raw r => r.declared

theorem declared_toForm (r : Rule m) : r.toForm.declared = r.declared := by
  cases r <;> rfl

theorem declared_toTrigger (r : Rule m) (trigger : Option Trigger) :
    (r.toTrigger trigger).declared = { r.declared with trigger := trigger } := by
  cases r with
  | compiled g => rfl
  | raw q =>
      show ({ q.toDeclaration with trigger := trigger, validator := (q.validator.map _).isSome } :
        Meta) = _
      rw [Option.isSome_map]
      rfl

variable [Monad m] [LawfulMonad m]

/-- Both shapes of a rule report the same failure, one as a message and one as an error. -/
theorem run_toTrigger (r : Rule m) (trigger : Option Trigger) (tables : Tables) (input : Value) :
    (r.toTrigger trigger).run tables input
      = Option.map RuleError.mk <$> r.toForm.run tables input := by
  cases r with
  | compiled g =>
      show ((g.evaluate tables input >>= fun report => pure [report.map RuleError.mk]) >>=
          fun reports => pure (firstReport reports))
        = Option.map RuleError.mk <$> g.evaluate tables input
      rw [bind_assoc, map_eq_pure_bind]
      simp only [pure_bind]
      rfl
  | raw q =>
      cases hv : q.validator with
      | none =>
          simp only [toTrigger, toForm, TriggerRule.run, FormRule.run, hv, Option.map_none,
            map_pure]
      | some v =>
          have hevents : (toTrigger trigger (.raw q)).run tables input
              = (v.reports tables input >>= fun reports =>
                  pure (reports.map (Option.map RuleError.mk))) >>= fun reports =>
                  pure (firstReport reports) := by
            simp only [toTrigger, TriggerRule.run, hv, Option.map_some, TriggerValidator.reports]
          have hplain : (toForm (.raw q)).run tables input
              = firstReport <$> v.reports tables input := by
            simp only [toForm, FormRule.run, hv, v.run_eq_firstReport]
          rw [hevents, hplain, bind_assoc, map_eq_pure_bind, map_eq_pure_bind, bind_assoc]
          refine bind_congr fun reports => ?_
          rw [pure_bind, pure_bind, firstReport_map]

end Rule

/-! ## All rules -/

namespace FormSchema

theorem map_fst_formRules (f : FormSchema m) : f.formRules.map Prod.fst = f.map Prod.fst := by
  rw [formRules, List.map_map]
  rfl

theorem map_fst_triggerRules (f : FormSchema m) (trigger : Option Trigger) :
    (f.triggerRules trigger).map Prod.fst = f.map Prod.fst := by
  rw [triggerRules, List.map_map]
  rfl

end FormSchema

namespace Schema

variable [Monad m] [LawfulMonad m] {t : FieldType}

/-- The rules of a schema agree place by place in both shapes: each pair is one rule of the schema,
which declares the same fields in both and has its events in one, and both report the same first
failure.  A rule of a form without a validator passes, and of the reports of one that has a
validator the first counts.  A form hands out these rules for each of its fields and for no other. -/
theorem formRules_agree_triggerRules (s : Schema m t) (f : FormSchema m)
    (trigger : Option Trigger) :
    (s.formRules.length = (s.triggerRules trigger).length ∧
      ∀ (i : Nat) (a : FormRule m) (b : TriggerRule m),
        s.formRules[i]? = some a → (s.triggerRules trigger)[i]? = some b →
        (∀ tables input, b.run tables input = Option.map RuleError.mk <$> a.run tables input) ∧
        ∃ r : Rule m, s.rules[i]? = some r ∧
          a.declared = r.declared ∧ b.declared = { r.declared with trigger := trigger } ∧
          (∀ q : FormRule m, r = .raw q → q.validator = none →
            ∀ tables input, a.run tables input = pure none) ∧
          ∀ (q : FormRule m) (v : Value → m (List (Option String))),
            r = .raw q → q.validator = some (.reporting v) →
            ∀ tables input, a.run tables input = (fun
              | [] => none
              | first :: _ => first) <$> v input) ∧
    (f.formRules.map Prod.fst = f.map Prod.fst ∧
      (f.triggerRules trigger).map Prod.fst = f.map Prod.fst ∧
      ∀ field : String,
        f.formRules.get? field = (f.get? field).map (·.schema.formRules) ∧
        (f.triggerRules trigger).get? field
          = (f.get? field).map (·.schema.triggerRules trigger)) := by
  refine ⟨⟨?_, ?_⟩, f.map_fst_formRules, f.map_fst_triggerRules trigger, fun field => ⟨?_, ?_⟩⟩
  · rw [formRules, triggerRules, List.length_map, List.length_map]
  · intro i a b ha hb
    rw [formRules, List.getElem?_map] at ha
    rw [triggerRules, List.getElem?_map] at hb
    obtain ⟨r, hr, rfl⟩ := Option.map_eq_some_iff.mp ha
    rw [hr] at hb
    cases hb
    refine ⟨r.run_toTrigger trigger, r, hr, r.declared_toForm, r.declared_toTrigger trigger, ?_, ?_⟩
    · rintro q rfl hq tables input
      simp only [Rule.toForm, FormRule.run, hq]
    · rintro q v rfl hq tables input
      have hrun : (Rule.toForm (.raw q)).run tables input = firstReport <$> v input := by
        simp only [Rule.toForm, FormRule.run, hq, Validator.run_eq_firstReport, Validator.reports]
      rw [hrun]
      congr 1
      funext reports
      cases reports <;> rfl
  · exact Json.Fields.get?_map (fun s : AnySchema m => s.schema.formRules) field f
  · exact Json.Fields.get?_map (fun s : AnySchema m => s.schema.triggerRules trigger) field f

/-- A rule that first reports success and then a failure passes in both shapes, between groups that
fail. -/
theorem formRules_agree_triggerRules_of_late_failure :
    let fails : Item Id .string := .descriptor (.custom fun value _ => some (value ++ "!"))
    let late : FormRule Id :=
      { min := some 1, validator := some (.reporting fun _ => [none, some "late"]) }
    let s : Schema Id .string := { owner := 0, items := [fails, .raw late, fails] }
    let b := (Rule.raw late).toTrigger (some .blur)
    s.formRules[1]? = some late ∧ (s.triggerRules (some .blur))[1]? = some b ∧
      (∀ tables input, Id.run (b.run tables input) = none) ∧
      b.declared = { late.declared with trigger := some .blur } := by
  intro fails late s b
  obtain ⟨⟨_, hplaces⟩, _⟩ := formRules_agree_triggerRules s [] (some .blur)
  obtain ⟨hrun, r, hr, _, hdeclared, _, hfirst⟩ := hplaces 1 late b rfl rfl
  cases hr
  refine ⟨rfl, rfl, fun tables input => ?_, hdeclared⟩
  rw [hrun tables input, hfirst late _ rfl rfl tables input]
  rfl

end Schema

end FieldRules

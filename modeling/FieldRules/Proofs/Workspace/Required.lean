/-
# `Proofs.Workspace.Required` — when the text for a missing input is settled

The rule that an input is given takes its text when it is declared: from a message, from what a
function says, or from the table of that moment.  The rule keeps the text, and what happens to the
schema and to factories afterwards — merges, installations, further names, further edits — does not
change it.  `snd_run_steps` says so of any sequence of such steps: what they add to a schema they add
behind its items, and it does not depend on these.

What a check reports is another matter.  A runner takes an empty text for none and looks into the
table of the factory at that moment.  So the text that was settled is the one that is reported if and
only if it is not empty (`check_required_after_steps`).
-/
import FieldRules.Proofs.Document.Locality
import FieldRules.Proofs.Schema.Reports
import FieldRules.Proofs.Workspace.Bindings

namespace FieldRules

open Json (Value)
open Messages (Table)

variable {m : Type → Type} {t : FieldType}

/-! ## Edits -/

theorem Schema.followedBy_assoc (s part more : Schema m t) :
    (s.followedBy part).followedBy more = s.followedBy (part.followedBy more) := by
  simp only [followedBy, List.append_assoc, Option.or_assoc]

theorem Schema.followedBy_empty (s : Schema m t) (owner : Nat) : s.followedBy { owner } = s := by
  simp only [followedBy, List.append_nil, Option.none_or]

section

variable [Monad m] [LawfulMonad m]

/-- An edit does not look at the schema: it puts behind it what it would make of none. -/
theorem Edit.apply_eq (f : Factory m) (s : Schema m t) (owner : Nat) (e : Edit m t) :
    e.apply f s = Except.map s.followedBy <$> e.apply f { owner } := by
  cases e with
  | exempt exemption =>
      simp [Edit.apply, Except.map, Schema.followedBy, Schema.exempt]
  | required override =>
      simp only [Edit.apply, Schema.required, bind_pure_comp, Functor.map_map, Except.map,
        Schema.require, Schema.push, Schema.followedBy, List.nil_append, Option.none_or]
  | invoke name args =>
      simp only [Edit.apply, Schema.invoke, map_pure]
      cases f.registry.get t name <;> rfl
  | _ =>
      simp [Edit.apply, Except.map, Schema.followedBy, Schema.constrain, Schema.custom,
        Schema.concat, Schema.push]

/-- What an edit adds to a schema of the factory at a place; one that is refused adds nothing. -/
def Edit.part (owner : Nat) (f : Factory m) (e : Edit m t) : m (Schema m t) :=
  (fun part => part.toOption.getD { owner }) <$> e.apply f { owner }

end

/-! ## Steps -/

namespace Workspace

/-- What may happen around a schema that is kept: a call on factories, or an edit of the schema. -/
inductive Step (m : Type → Type) (t : FieldType) where
  | call (c : FactoryCall m)
  | edit (e : Edit m t)

namespace Step

def operation (target : String) : Step m t → Operation m
  | .call c => c.operation
  | .edit e => .edit target t e target

def call? : Step m t → Option (FactoryCall m)
  | .call c => some c
  | .edit _ => none

end Step

/-- What steps add to a schema of the factory at a place.  An edit finds the factory as the calls
before it left it. -/
def additions [Monad m] (w : Workspace m) (owner : Nat) : List (Step m t) → m (Schema m t)
  | [] => pure { owner }
  | .call c :: rest => (w.after c).additions owner rest
  | .edit e :: rest => do
    let part ← match w.factories[owner]? with
      | some f => e.part owner f
      | none => pure { owner }
    let more ← w.additions owner rest
    return part.followedBy more

theorem put_put (w : Workspace m) (target : String) (makers others : List Nat)
    (kept holding : Holding m) :
    (w.put target others kept).put target makers holding = w.put target makers holding :=
  congrArg (fun slots => { w with slots := slots }) (Json.Fields.insert_insert_self target _ _ w.slots)

variable [Monad m] [LawfulMonad m]

theorem snd_run_cons (w : Workspace m) (op : Operation m) (rest : List (Operation m)) :
    Prod.snd <$> w.run (op :: rest)
      = (Prod.snd <$> w.apply op) >>= fun w => Prod.snd <$> w.run rest := by
  rw [run, map_bind, bind_map_left]
  refine bind_congr fun applied => ?_
  simp only [bind_pure_comp, Functor.map_map]

theorem answerAfter_eq_bind (w : Workspace m) (ops : List (Operation m)) (question : Operation m) :
    w.answerAfter ops question
      = (Prod.snd <$> w.run ops) >>= fun w => Prod.fst <$> w.apply question := by
  rw [answerAfter, bind_map_left]
  refine bind_congr fun ran => ?_
  exact bind_pure_comp _ _

section

variable {w : Workspace m} {makers : List Nat} {s : Schema m t} {f : Factory m}
  (howner : w.factories[s.owner]? = some f)

include howner

/-- An edit keeps what it makes of the schema, and nothing if it is refused. -/
theorem snd_apply_edit {source : String}
    (hslot : w.slot? source = some ⟨makers, .schema ⟨t, s⟩⟩) (e : Edit m t) (target : String) :
    Prod.snd <$> w.apply (.edit source t e target)
      = (fun made => match made with
          | .ok s => w.put target makers (.schema ⟨t, s⟩)
          | .error _ => w) <$> e.apply f s := by
  show Prod.snd <$> w.editSchema source e target = _
  unfold editSchema
  rw [hslot]
  dsimp only
  rw [howner]
  dsimp only
  rw [dif_pos rfl, map_bind, map_eq_pure_bind]
  refine bind_congr fun made => ?_
  cases made with
  | ok s => rw [map_pure]
  | error cause => rw [map_pure]

theorem snd_apply_required {source : String}
    (hslot : w.slot? source = some ⟨makers, .schema ⟨t, s⟩⟩) (override : Option (Override m))
    (target : String) :
    Prod.snd <$> w.apply (.edit source t (.required override) target)
      = (fun text => w.put target makers (.schema ⟨t, s.require text⟩)) <$>
          Schema.requiredText f.messages t override := by
  rw [snd_apply_edit howner hslot]
  simp only [Edit.apply, Schema.required, bind_pure_comp, Functor.map_map]

theorem snd_apply_edit_of_put (target : String) (e : Edit m t) :
    Prod.snd <$> (w.put target makers (.schema ⟨t, s⟩)).apply (.edit target t e target)
      = (fun part => w.put target makers (.schema ⟨t, s.followedBy part⟩)) <$>
          e.part s.owner f := by
  have howner' : (w.put target makers (.schema ⟨t, s⟩)).factories[s.owner]? = some f := howner
  rw [snd_apply_edit howner' (slot?_put_self w target makers _), Edit.apply_eq f s s.owner, Edit.part,
    Functor.map_map, Functor.map_map]
  congr 1
  funext made
  cases made with
  | ok part => exact put_put w target makers makers _ _
  | error cause =>
      show w.put target makers (.schema ⟨t, s⟩)
        = w.put target makers (.schema ⟨t, s.followedBy { owner := s.owner }⟩)
      rw [s.followedBy_empty]

end

/-- Steps add to a schema that is kept, whatever it is, and change the workspace by their calls. -/
theorem snd_run_steps (target : String) {makers : List Nat} (steps : List (Step m t)) :
    ∀ {w : Workspace m} (s : Schema m t) {f : Factory m}, w.factories[s.owner]? = some f →
      Prod.snd <$> (w.put target makers (.schema ⟨t, s⟩)).run (steps.map (Step.operation target))
        = (fun part => (w.afterAll (steps.filterMap Step.call?)).put target makers
            (.schema ⟨t, s.followedBy part⟩)) <$> w.additions s.owner steps := by
  induction steps with
  | nil =>
      intro w s f _
      rw [List.map_nil, run, additions, map_pure, map_pure, s.followedBy_empty]
      rfl
  | cons step rest ih =>
      intro w s f howner
      rw [List.map_cons, snd_run_cons]
      cases step with
      | call c =>
          obtain ⟨answer, hcall⟩ := (w.put target makers (.schema ⟨t, s⟩)).apply_operation c
          have howner' : (w.after c).factories[s.owner]?
              = some (f.afterAll (w.changeAt s.owner c).toList) := by
            rw [factories_after, howner]
            rfl
          show (Prod.snd <$> (w.put target makers (.schema ⟨t, s⟩)).apply c.operation) >>= _ = _
          rw [hcall, map_pure, pure_bind, put_after, ih s howner']
          rfl
      | edit e =>
          show (Prod.snd <$> (w.put target makers (.schema ⟨t, s⟩)).apply (.edit target t e target))
            >>= _ = _
          rw [snd_apply_edit_of_put howner, bind_map_left, additions, howner, map_bind]
          refine bind_congr fun part => ?_
          rw [ih (s.followedBy part) howner, map_bind, map_eq_pure_bind]
          refine bind_congr fun more => ?_
          rw [map_pure, s.followedBy_assoc]
          rfl

/-! ## Reports -/

theorem fst_apply_check {w : Workspace m} {source : String} {makers : List Nat} {s : AnySchema m}
    (hslot : w.slot? source = some ⟨makers, .schema s⟩) (input : Value) :
    Prod.fst <$> w.apply (.check source input) = Answer.report <$> s.check w.tables input := by
  show Prod.fst <$> (w.askSchema source _ >>= fun answer => pure (answer, w)) = _
  rw [fst_apply_question, askSchema_of_slot hslot, bind_pure_comp]

omit [LawfulMonad m] in
/-- The rule that an input is given reports its text of an empty input, and without a text what the
table says then. -/
theorem report_require (tables : Tables) (owner : Nat) {input : Value}
    (hempty : Coercion.isEmpty input = true) (text : String) :
    (FormRule.require text : FormRule m).report tables owner input
      = pure (some (if text = "" then (tables owner).required else text)) := by
  have hmissing : (FormRule.require text : FormRule m).shortfall? input = some .missing := by
    rw [Rule.Declaration.shortfall?, if_pos hempty]
    exact if_pos rfl
  have hmessage : (FormRule.require text : FormRule m).shortfallMessage (tables owner) .missing
      = if text = "" then (tables owner).required else text := by
    by_cases htext : text = ""
    · subst htext
      rfl
    · have hshown : (some text).filter (fun text => !text.isEmpty) = some text := by
        simp [Option.filter, htext]
      rw [if_neg htext]
      simp only [Rule.Declaration.shortfallMessage, FormRule.require, hshown]
  rw [FormRule.report, hmissing]
  dsimp only
  rw [hmessage]

/-- A check of an empty input comes to the rule at the latest. -/
theorem check_require_followedBy (s more : Schema m t) (tables : Tables) {input : Value}
    (hempty : Coercion.isEmpty input = true) (text : String) :
    ((s.require text).followedBy more).check tables input
      = (fun earlier =>
          some (earlier.getD (if text = "" then (tables s.owner).required else text))) <$>
          ({ s with exemption := more.exemption.or s.exemption } : Schema m t).check tables input := by
  have hitems : (s.require text).followedBy more
      = ⟨s.owner, s.items ++ .raw (.require text) :: more.items,
          more.exemption.or s.exemption⟩ := by
    simp [Schema.require, Schema.push, Schema.followedBy]
  rw [hitems]
  refine Schema.check_of_report_eq ?_ s.items more.items
  exact report_require tables s.owner hempty text

omit [Monad m] [LawfulMonad m] in
/-- A merge may put any text in place of the one for a missing input. -/
theorem required_after_merge (table : Table) (text : String) :
    (table.after (.value (.object [("required", .string text)]))).required = text := by
  have hsegments : Messages.segments "required" = ["required"] := by decide +kernel
  have hentries : (table.after (.value (.object [("required", .string text)]))).entries
      = Json.Fields.insert "required" (.string text) table.entries := by
    show Messages.mergeMembers [("required", .string text)] table.entries = _
    rw [Messages.mergeMembers, Messages.mergeMembers, hsegments]
    rfl
  have hget : (table.after (.value (.object [("required", .string text)]))).get? "required"
      = some text := by
    rw [Table.get?, hsegments, hentries, Messages.lookupPath, Json.Fields.get?_insert_self]
    rfl
  rw [Table.required, hget, Option.getD_some]

/-- The text of a missing input is taken when the rule is declared, with the table of that moment.
After any further steps, calls on factories and edits of the schema, it is what a check reports of an
empty input, unless the schema reports something else before it comes to the rule — and unless the
text is empty: then it is what the table says after the steps.

So no merge changes what the rule reports if and only if the text is not empty. -/
theorem check_required_after_steps (w : Workspace m) (steps : List (Step m t)) {source : String}
    {makers : List Nat} {s : Schema m t} {f : Factory m}
    (hslot : w.slot? source = some ⟨makers, .schema ⟨t, s⟩⟩)
    (howner : w.factories[s.owner]? = some f) (override : Option (Override m)) (target : String)
    {input : Value} (hempty : Coercion.isEmpty input = true) :
    let told (table : Table) (text : String) : String := if text = "" then table.required else text
    (w.answerAfter (.edit source t (.required override) target :: steps.map (Step.operation target))
        (.check target input) = do
      let text ← Schema.requiredText f.messages t override
      let more ← w.additions s.owner steps
      let calls := steps.filterMap Step.call?
      let earlier ← ({ s with exemption := more.exemption.or s.exemption } : Schema m t).check
        (w.mergedTables calls) input
      return .report (some (earlier.getD (told (w.mergedTable calls s.owner f) text)))) ∧
    ∀ text, (∀ merges : List Messages.Merge,
      told (merges.foldl Table.after f.messages) text = told f.messages text) ↔ text ≠ "" := by
  intro told
  refine ⟨?_, fun text => ⟨fun hsame htext => ?_, fun htext merges => ?_⟩⟩
  · rw [answerAfter_eq_bind, snd_run_cons, snd_apply_required howner hslot, bind_map_left, bind_assoc]
    refine bind_congr fun text => ?_
    rw [snd_run_steps target steps (s.require text) howner, bind_map_left]
    refine bind_congr fun more => ?_
    have htables : ((w.afterAll (steps.filterMap Step.call?)).put target makers
        (.schema ⟨t, (s.require text).followedBy more⟩)).tables
          = w.mergedTables (steps.filterMap Step.call?) := w.tables_afterAll _
    have hown : w.mergedTables (steps.filterMap Step.call?) s.owner
        = w.mergedTable (steps.filterMap Step.call?) s.owner f := by
      rw [mergedTables, howner]
    rw [fst_apply_check (slot?_put_self _ target makers _), htables]
    show Answer.report <$> ((s.require text).followedBy more).check _ input = _
    rw [check_require_followedBy s more _ hempty, hown, Functor.map_map, map_eq_pure_bind]
  · -- a merge that makes the text of the table longer is noticed
    subst htext
    have hlonger := hsame [.value (.object [("required", .string (f.messages.required ++ "!"))])]
    simp only [told, List.foldl_cons, List.foldl_nil, if_true, required_after_merge] at hlonger
    have hlength := congrArg String.length hlonger
    rw [String.length_append] at hlength
    exact absurd hlength (by simp)
  · simp only [told, if_neg htext]

/-- The text of the table stays, although another one is merged before the schema is edited again and
checked. -/
theorem check_required_after_steps_of_merge :
    let w : Workspace Id := (start "main" {}).put "s" [0] (.schema ⟨.string, { owner := 0 }⟩)
    let steps : List (Step Id .string) :=
      [.call (.change "main" (.merge (.value (.object [("required", .string "later")])))),
        .edit (.constrain (.min 3) none)]
    let f : Factory Id := {}
    w.slot? "s" = some ⟨[0], .schema ⟨.string, { owner := 0 }⟩⟩ ∧ w.factories[0]? = some f ∧
      Coercion.isEmpty (.string "") = true ∧
      Id.run (w.answerAfter (.edit "s" .string (.required none) "s"
        :: steps.map (Step.operation "s")) (.check "s" (.string ""))) = .report (some "必填") := by
  intro w steps f
  have hslot : w.slot? "s" = some ⟨[0], .schema ⟨.string, { owner := 0 }⟩⟩ := rfl
  have howner : w.factories[0]? = some f := rfl
  have hanswer := (check_required_after_steps w steps hslot howner none "s"
    (show Coercion.isEmpty (.string "") = true from rfl)).1
  refine ⟨hslot, howner, rfl, ?_⟩
  rw [hanswer]
  decide +kernel

/-- A table without texts, of which the rule takes the empty one: a merge behind changes the
report. -/
theorem required_report_changes_of_empty_text :
    let w : Workspace Id :=
      (start "main" { messages := .empty }).put "s" [0] (.schema ⟨.string, { owner := 0 }⟩)
    let required : Operation Id := .edit "s" .string (.required none) "s"
    let merge : Operation Id :=
      .change "main" (.merge (.value (.object [("required", .string "later")])))
    Id.run (w.answerAfter [required] (.check "s" (.string ""))) = .report (some "") ∧
      Id.run (w.answerAfter [required, merge] (.check "s" (.string "")))
        = .report (some "later") := by
  intro w required merge
  exact ⟨by decide +kernel, by decide +kernel⟩

end Workspace

end FieldRules

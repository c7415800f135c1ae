/-
# `Proofs.Workspace.Bindings` — what a schema binds when

A schema takes a method at the moment of its call, the inputs that it lets through when it is
compiled, and a text of the table when something is reported.  `reports_after_calls` says what this
comes to when the factory is changed in between: the rules of a schema are the same whether they are
made before the changes or after them, and run with the tables of that time, each group with that of
its own factory; and methods that are added or replaced change no report of what there is already.

The last is shown by running two workspaces side by side, one of which is spared the installations.
They differ in their registries only (`SameTables`), and no report looks there.
-/
import FieldRules.Proofs.Schema.Outcomes
import FieldRules.Proofs.Workspace.Calls

namespace FieldRules

open Json (Value)
open Messages (Table)

variable {m : Type → Type}

def Operation.asksReport : Operation m → Bool
  | .evaluate .. | .check .. | .validate .. | .run .. | .runner .. => true
  | _ => false

namespace Workspace

/-! ## Making rules -/

/-- Making something before calls or after them comes to the same workspace. -/
theorem derive_afterAll (w : Workspace m) (calls : List (FactoryCall m)) (source target : String)
    (make : Holding m → Option (Holding m)) :
    ((w.afterAll calls).derive source target make).2
      = (w.derive source target make).2.afterAll calls := by
  have hslot : (w.afterAll calls).slot? source = w.slot? source := by
    rw [slot?, slot?, slots_afterAll]
  unfold derive
  rw [hslot]
  cases w.slot? source with
  | none => rfl
  | some slot =>
      dsimp only
      cases make slot.holding with
      | none => rfl
      | some holding => exact (w.put_afterAll target slot.makers holding calls).symm

/-! ## Tables -/

def tableAt (w : Workspace m) (place : Nat) : Option Table :=
  (w.factories[place]?).map Factory.messages

theorem tables_eq (w : Workspace m) : w.tables = fun place => (w.tableAt place).getD Table.empty := by
  funext place
  unfold tables tableAt
  cases w.factories[place]? <;> rfl

theorem map_fst_factory? (w : Workspace m) (name : String) :
    (w.factory? name).map Prod.fst
      = (w.names.get? name).filter fun place => (w.tableAt place).isSome := by
  unfold factory?
  cases w.names.get? name with
  | none => rfl
  | some place =>
      show ((w.factories[place]?).bind fun f => some (place, f)).map Prod.fst
        = (some place).filter fun place => ((w.factories[place]?).map Factory.messages).isSome
      cases hf : w.factories[place]? <;> simp [Option.filter, hf]

theorem map_messages_map_afterAll (cs : List (Factory.Change m)) (found : Option (Factory m)) :
    (found.map fun f => f.afterAll cs).map Factory.messages
      = (found.map Factory.messages).map
          ((cs.filterMap Factory.Change.merge?).foldl Table.after) := by
  cases found with
  | none => rfl
  | some f => exact congrArg some (f.messages_afterAll cs)

theorem tableAt_after (w : Workspace m) (call : FactoryCall m) (place : Nat) :
    (w.after call).tableAt place = (w.tableAt place).map
      (((w.changeAt place call).toList.filterMap Factory.Change.merge?).foldl Table.after) := by
  rw [tableAt, factories_after, map_messages_map_afterAll]
  rfl

/-- The table after calls is what their merges make of it, one after the other. -/
theorem tableAt_afterAll (w : Workspace m) (calls : List (FactoryCall m)) (place : Nat) :
    (w.afterAll calls).tableAt place = (w.tableAt place).map
      (((w.changesAt place calls).filterMap Factory.Change.merge?).foldl Table.after) := by
  rw [tableAt, factories_afterAll, map_messages_map_afterAll]
  rfl

/-- The table of a factory at a place after calls. -/
def mergedTable (w : Workspace m) (calls : List (FactoryCall m)) (place : Nat) (f : Factory m) :
    Table :=
  ((w.changesAt place calls).filterMap Factory.Change.merge?).foldl Table.after f.messages

theorem tableAt_afterAll_of_factory {w : Workspace m} {place : Nat} {f : Factory m}
    (h : w.factories[place]? = some f) (calls : List (FactoryCall m)) :
    (w.afterAll calls).tableAt place = some (w.mergedTable calls place f) := by
  rw [tableAt_afterAll, tableAt, h]
  rfl

def mergedTables (w : Workspace m) (calls : List (FactoryCall m)) : Tables := fun place =>
  match w.factories[place]? with
  | some f => w.mergedTable calls place f
  | none => Table.empty

theorem tables_afterAll (w : Workspace m) (calls : List (FactoryCall m)) :
    (w.afterAll calls).tables = w.mergedTables calls := by
  rw [tables_eq]
  funext place
  rw [tableAt_afterAll, tableAt, mergedTables]
  cases w.factories[place]? <;> rfl

/-! ## Workspaces with the same tables -/

/-- Two workspaces that differ at most in the methods of their factories. -/
structure SameTables (w v : Workspace m) : Prop where
  names : w.names = v.names
  slots : w.slots = v.slots
  tables : w.tableAt = v.tableAt

namespace SameTables

variable {w v : Workspace m}

theorem refl (w : Workspace m) : SameTables w w := ⟨rfl, rfl, rfl⟩

theorem after (h : SameTables w v) (call : FactoryCall m) :
    SameTables (w.after call) (v.after call) := by
  have hnames : (w.after call).names = (v.after call).names := by
    cases call with
    | share name copy => rw [names_after_share, names_after_share, h.names]
    | change name c => rw [names_after_change, names_after_change, h.names]
  refine ⟨hnames, ?_, ?_⟩
  · rw [slots_after, slots_after, h.slots]
  · funext place
    have hchange : w.changeAt place call = v.changeAt place call := by
      unfold changeAt
      rw [h.names]
    rw [tableAt_after, tableAt_after, h.tables, hchange]

/-- An installation on one side keeps the tables the same. -/
theorem after_of_installs (h : SameTables w v) {call : FactoryCall m}
    (hcall : call.installs = true) : SameTables (w.after call) v := by
  cases call with
  | share name copy => cases hcall
  | change name c =>
      cases c with
      | merge c => cases hcall
      | install i =>
          refine ⟨?_, ?_, ?_⟩
          · rw [names_after_change, h.names]
          · rw [slots_after, h.slots]
          · funext place
            rw [tableAt_after, changeAt, ← h.tables]
            -- whether the call reaches the place or not, there is no merge
            split <;> exact Option.map_id'

theorem afterAll_filter (h : SameTables w v) (calls : List (FactoryCall m)) :
    SameTables (w.afterAll calls) (v.afterAll (calls.filter fun call => !call.installs)) := by
  induction calls generalizing w v with
  | nil => exact h
  | cons call rest ih =>
      cases hcall : call.installs with
      | true =>
          have hdrop : (call :: rest).filter (fun c => !c.installs)
              = rest.filter fun c => !c.installs :=
            List.filter_cons_of_neg (by rw [hcall]; exact Bool.false_ne_true)
          rw [hdrop]
          exact ih (h.after_of_installs hcall)
      | false =>
          have hkeep : (call :: rest).filter (fun c => !c.installs)
              = call :: rest.filter fun c => !c.installs :=
            List.filter_cons_of_pos (by rw [hcall]; rfl)
          rw [hkeep]
          exact ih (h.after call)

theorem slot?_eq (h : SameTables w v) (source : String) : w.slot? source = v.slot? source := by
  rw [slot?, slot?, h.slots]

theorem tables_eq (h : SameTables w v) : w.tables = v.tables := by
  rw [w.tables_eq, v.tables_eq, h.tables]

theorem schema?_eq (h : SameTables w v) (source : String) :
    w.schema? source = v.schema? source := by
  simp only [schema?, h.slot?_eq source]

end SameTables

/-! ## Reports -/

variable [Monad m]

theorem runForm_eq (w : Workspace m) (factory source : String) (input : Value) :
    w.runForm factory source input
      = match (w.names.get? factory).filter fun place => (w.tableAt place).isSome, w.slot? source with
        | some place, some slot =>
          match slot.holding with
          | .triggerRules rules => do
            let error ← Runner.validate ⟨rules, place⟩ w.tables input
            return .report (error.map RuleError.message)
          | _ => return .unknown
        | _, _ => return .unknown := by
  unfold runForm
  rw [← map_fst_factory?]
  cases w.factory? factory <;> cases w.slot? source <;> rfl

variable [LawfulMonad m]

/-- Asking for a report changes nothing. -/
theorem fst_apply_question (w : Workspace m) (answer : m Answer) :
    Prod.fst <$> (answer >>= fun a => pure (a, w)) = answer := by
  rw [map_bind]
  simp only [map_pure]
  exact bind_pure answer

theorem fst_apply_congr {w v : Workspace m} {question : Operation m} {a b : m Answer}
    (hw : w.apply question = a >>= fun answer => pure (answer, w))
    (hv : v.apply question = b >>= fun answer => pure (answer, v)) (h : a = b) :
    Prod.fst <$> w.apply question = Prod.fst <$> v.apply question := by
  rw [hw, hv, fst_apply_question, fst_apply_question, h]

/-- Reports do not depend on the methods of factories. -/
theorem SameTables.fst_apply_eq {w v : Workspace m} (h : SameTables w v) {question : Operation m}
    (hq : question.asksReport = true) :
    Prod.fst <$> w.apply question = Prod.fst <$> v.apply question := by
  cases question with
  | evaluate source input =>
      refine fst_apply_congr rfl rfl ?_
      rw [askSchema, askSchema, h.schema?_eq, h.tables_eq]
  | check source input =>
      refine fst_apply_congr rfl rfl ?_
      rw [askSchema, askSchema, h.schema?_eq, h.tables_eq]
  | validate source input =>
      refine fst_apply_congr rfl rfl ?_
      rw [askSchema, askSchema, h.schema?_eq, h.tables_eq]
  | run source input =>
      refine fst_apply_congr rfl rfl ?_
      simp only [runRules, h.slot?_eq, h.tables_eq]
  | runner factory source input =>
      refine fst_apply_congr rfl rfl ?_
      simp only [runForm_eq, h.names, h.tables, h.slot?_eq, h.tables_eq]
  | _ => cases hq

/-! ## Answers after operations -/

def answerAfter (w : Workspace m) (ops : List (Operation m)) (question : Operation m) :
    m Answer := do
  let (_, w) ← w.run ops
  let (answer, _) ← w.apply question
  return answer

theorem answerAfter_of_run {w v : Workspace m} {ops : List (Operation m)} {answers : List Answer}
    (h : w.run ops = pure (answers, v)) (question : Operation m) :
    w.answerAfter ops question = Prod.fst <$> v.apply question := by
  rw [answerAfter, h, pure_bind]
  exact bind_pure_comp _ _

theorem answerAfter_operations (w : Workspace m) (calls : List (FactoryCall m))
    (question : Operation m) :
    w.answerAfter (calls.map FactoryCall.operation) question
      = Prod.fst <$> (w.afterAll calls).apply question := by
  obtain ⟨answers, hrun⟩ := w.run_operations calls
  exact answerAfter_of_run hrun question

theorem answerAfter_cons_operations {w v : Workspace m} {op : Operation m} {answer : Answer}
    (h : w.apply op = pure (answer, v)) (calls : List (FactoryCall m)) (question : Operation m) :
    w.answerAfter (op :: calls.map FactoryCall.operation) question
      = Prod.fst <$> (v.afterAll calls).apply question := by
  obtain ⟨answers, hrun⟩ := v.run_operations calls
  have hcons : w.run (op :: calls.map FactoryCall.operation)
      = pure (answer :: answers, v.afterAll calls) := by
    rw [run, h, pure_bind]
    dsimp only
    rw [hrun, pure_bind]
  exact answerAfter_of_run hcons question

theorem answerAfter_operations_append {w v : Workspace m} {calls : List (FactoryCall m)}
    {op : Operation m} {answer : Answer} (h : (w.afterAll calls).apply op = pure (answer, v))
    (question : Operation m) :
    w.answerAfter (calls.map FactoryCall.operation ++ [op]) question
      = Prod.fst <$> v.apply question := by
  obtain ⟨answers, hrun⟩ := w.run_operations calls
  have hlast : (w.afterAll calls).run [op] = pure ([answer], v) := by
    rw [run, h, pure_bind]
    dsimp only
    rw [run, pure_bind]
  have happend : w.run (calls.map FactoryCall.operation ++ [op])
      = pure (answers ++ [answer], v) := by
    rw [run_append, hrun, pure_bind, hlast, pure_bind]
  exact answerAfter_of_run happend question

/-- Making something before calls or after them: whatever is asked then is answered alike. -/
theorem answerAfter_derive {op : Operation m} {source target : String}
    {make : Holding m → Option (Holding m)}
    (hop : ∀ w : Workspace m, w.apply op = pure (w.derive source target make)) (w : Workspace m)
    (calls : List (FactoryCall m)) (question : Operation m) :
    w.answerAfter (op :: calls.map FactoryCall.operation) question
      = w.answerAfter (calls.map FactoryCall.operation ++ [op]) question := by
  have hbefore : w.apply op
      = pure ((w.derive source target make).1, (w.derive source target make).2) := hop w
  have hafter : (w.afterAll calls).apply op
      = pure (((w.afterAll calls).derive source target make).1,
          ((w.afterAll calls).derive source target make).2) := hop (w.afterAll calls)
  rw [answerAfter_cons_operations hbefore, answerAfter_operations_append hafter, derive_afterAll]

/-! ## Reports of what is kept -/

section OfSlot

variable {w : Workspace m} {source : String} {makers : List Nat}

omit [LawfulMonad m] in
theorem askSchema_of_slot {s : AnySchema m} (hslot : w.slot? source = some ⟨makers, .schema s⟩)
    (question : AnySchema m → m Answer) : w.askSchema source question = question s := by
  rw [askSchema, schema?, hslot]
  rfl

theorem runRules_of_slot {holding : Holding m} (hslot : w.slot? source = some ⟨makers, holding⟩)
    (input : Value) :
    w.runRules source input = match holding.reports w.tables input with
      | some reports => Answer.reports <$> reports
      | none => pure .unknown := by
  rw [runRules, hslot]
  dsimp only
  cases holding.reports w.tables input with
  | none => rfl
  | some reports => exact bind_pure_comp _ _

theorem runForm_of_slot {rules : List (TriggerRule m)} {factory : String} {place : Nat}
    {table : Table} (hslot : w.slot? source = some ⟨makers, .triggerRules rules⟩)
    (hname : w.names.get? factory = some place) (htable : w.tableAt place = some table)
    (input : Value) :
    w.runForm factory source input = (fun error => Answer.report (error.map RuleError.message)) <$>
      Runner.validate ⟨rules, place⟩ w.tables input := by
  have hfound : (w.names.get? factory).filter (fun place => (w.tableAt place).isSome)
      = some place := by
    rw [hname, Option.filter_some, htable]
    rfl
  rw [runForm_eq, hfound, hslot]
  exact bind_pure_comp _ _

end OfSlot

omit [Monad m] [LawfulMonad m] in
theorem slot?_put_self (w : Workspace m) (target : String) (makers : List Nat)
    (holding : Holding m) : (w.put target makers holding).slot? target = some ⟨makers, holding⟩ :=
  Json.Fields.get?_insert_self target _ w.slots

/-! ## What is made of a schema -/

section OfSchema

variable {w : Workspace m} {source : String} {makers : List Nat} {t : FieldType} {s : Schema m t}
  (hslot : w.slot? source = some ⟨makers, .schema ⟨t, s⟩⟩) (target : String)

include hslot

omit [LawfulMonad m] in
theorem apply_compile : w.apply (.compile source target)
    = pure (.done, w.put target makers (.rules s.rules)) := by
  show pure (w.derive source target _) = _
  rw [derive, hslot]
  rfl

omit [LawfulMonad m] in
theorem apply_toTrigger (trigger : Option Trigger) :
    w.apply (.toTrigger source trigger target)
      = pure (.done, w.put target makers (.triggerRules (s.triggerRules trigger))) := by
  show pure (w.derive source target _) = _
  rw [derive, hslot]
  rfl

theorem apply_invoke {f : Factory m} (howner : w.factories[s.owner]? = some f) {name : String}
    {e : Extension m} (he : f.registry.find? t name = some e) (args : List Value) :
    w.apply (.edit source t (.invoke name args) target)
      = pure (.done, w.put target makers
          (.schema ⟨t, s.custom fun _ input => e input args⟩)) := by
  have hinvoke : s.invoke f.registry name args = .ok (s.custom fun _ input => e input args) := by
    rw [Schema.invoke, Registry.get, he]
    rfl
  show w.editSchema source (Edit.invoke name args) target = _
  unfold editSchema
  rw [hslot]
  dsimp only
  rw [howner]
  dsimp only
  rw [dif_pos rfl]
  show (pure (s.invoke f.registry name args) >>= _) = _
  rw [pure_bind, hinvoke]

end OfSchema

/-! ## What calls do to reports -/

/-- A schema, and calls on its factory or on others, under whatever names.

Rules made of the schema before the calls are those made after them: any question is answered
alike.  A form's runner over rules with events that were made before the calls says after them what
checking the schema says after them.  Whatever was made when, each message that is looked up comes
from the table that the merges into it leave, those that are refused left out.  Installations change
no report, and a call of a method stays with the method that was there when the call was added. -/
theorem reports_after_calls (w : Workspace m) (calls : List (FactoryCall m)) {source : String}
    {makers : List Nat} {t : FieldType} {s : Schema m t} {f : Factory m}
    (hslot : w.slot? source = some ⟨makers, .schema ⟨t, s⟩⟩)
    (howner : w.factories[s.owner]? = some f) (trigger : Option Trigger) (target : String)
    (input : Value) :
    let ops := calls.map FactoryCall.operation
    let tables := w.mergedTables calls
    (∀ op ∈ [Operation.compile source target, .toForm source target,
        .toTrigger source trigger target],
      ∀ question, w.answerAfter (op :: ops) question = w.answerAfter (ops ++ [op]) question) ∧
    (∀ factory, (w.afterAll calls).names.get? factory = some s.owner →
      w.answerAfter (.toTrigger source trigger target :: ops) (.runner factory target input)
        = w.answerAfter ops (.check source input)) ∧
    (∀ place g, w.factories[place]? = some g →
      tables place = ((w.changesAt place calls).filterMap Factory.Change.merge?).foldl Table.after
        g.messages) ∧
    w.answerAfter (.compile source target :: ops) (.run target input)
      = Answer.reports <$> s.rules.mapM (fun r => r.toForm.run tables input) ∧
    w.answerAfter ops (.check source input) = Answer.report <$> s.check tables input ∧
    w.answerAfter ops (.evaluate source input) = Answer.report <$> s.evaluate tables input ∧
    w.answerAfter ops (.validate source input) = Answer.outcome <$> s.validate tables input ∧
    (∀ kept slot, w.slot? kept = some slot →
      w.answerAfter ops (.run kept input) = match slot.holding.reports tables input with
        | some reports => Answer.reports <$> reports
        | none => pure .unknown) ∧
    (∀ question, question.asksReport = true →
      w.answerAfter ops question
        = w.answerAfter ((calls.filter fun call => !call.installs).map FactoryCall.operation)
            question) ∧
    ∀ name args e, f.registry.find? t name = some e →
      w.answerAfter (.edit source t (.invoke name args) target :: ops) (.check target input)
        = Answer.report <$> (s.custom fun _ input => e input args).check tables input := by
  intro ops tables
  have htable : (w.afterAll calls).tableAt s.owner = some (w.mergedTable calls s.owner f) :=
    tableAt_afterAll_of_factory howner calls
  have htables : (w.afterAll calls).tables = tables := w.tables_afterAll calls
  have hkept : ∀ kept, (w.afterAll calls).slot? kept = w.slot? kept := fun kept => by
    rw [slot?, slot?, slots_afterAll]
  have hsource := (hkept source).trans hslot
  have hput : ∀ holding, ((w.afterAll calls).put target makers holding).tables = tables :=
    fun _ => htables
  -- after the calls a question is asked of the same slots, with the merged tables
  have hasked : ∀ (question : Operation m) (answer : m Answer),
      (w.afterAll calls).apply question = answer >>= (fun a => pure (a, w.afterAll calls)) →
      w.answerAfter ops question = answer := fun question answer h => by
    rw [answerAfter_operations, h, fst_apply_question]
  have hcheck : w.answerAfter ops (.check source input)
      = Answer.report <$> s.check tables input := by
    rw [hasked _ _ rfl, askSchema_of_slot hsource, htables]
    exact bind_pure_comp _ _
  refine ⟨?_, ?_, ?_, ?_, hcheck, ?_, ?_, ?_, ?_, ?_⟩
  · intro op hop question
    simp only [List.mem_cons, List.not_mem_nil, or_false] at hop
    obtain rfl | rfl | rfl := hop
    · exact answerAfter_derive (fun _ => rfl) w calls question
    · exact answerAfter_derive (fun _ => rfl) w calls question
    · exact answerAfter_derive (fun _ => rfl) w calls question
  · intro factory hname
    rw [hcheck, answerAfter_cons_operations (apply_toTrigger hslot target trigger), put_afterAll,
      ← map_message_validate_triggerRules s tables input trigger, Functor.map_map]
    refine (fst_apply_question _ _).trans ?_
    rw [runForm_of_slot (slot?_put_self _ target makers _) hname htable, hput]
  · intro place g hplace
    show w.mergedTables calls place = _
    rw [mergedTables, hplace]
    rfl
  · rw [answerAfter_cons_operations (apply_compile hslot target), put_afterAll]
    refine (fst_apply_question _ _).trans ?_
    rw [runRules_of_slot (slot?_put_self _ target makers (.rules s.rules)), hput]
    rfl
  · rw [hasked _ _ rfl, askSchema_of_slot hsource, htables]
    exact bind_pure_comp _ _
  · rw [hasked _ _ rfl, askSchema_of_slot hsource, htables]
    exact bind_pure_comp _ _
  · intro kept slot hheld
    rw [hasked _ _ rfl, runRules_of_slot ((hkept kept).trans hheld), htables]
  · intro question hq
    rw [answerAfter_operations, answerAfter_operations]
    exact ((SameTables.refl w).afterAll_filter calls).fst_apply_eq hq
  · intro name args e he
    rw [answerAfter_cons_operations (apply_invoke hslot target howner he args), put_afterAll]
    refine (fst_apply_question _ _).trans ?_
    rw [askSchema_of_slot (slot?_put_self _ target makers (.schema _)), hput]
    exact bind_pure_comp _ _

/-- Under one name of a factory a message is merged and a method is replaced; under another a merge
and an addition are refused.  Rules of before show the new message, and a call of the method the old
failure. -/
theorem reports_after_calls_under_two_names :
    let s : Schema Id .string := { owner := 0, items := [.descriptor (.check (.min 2) none)] }
    let f : Factory Id := {
      messages := Messages.Table.empty.insert "default" "no"
      registry := Registry.empty.put .string "word" fun _ _ => some "odd" }
    let w : Workspace Id :=
      ⟨[f], [("copy", 0), ("main", 0)], [("name", ⟨[0], .schema ⟨.string, s⟩⟩)]⟩
    let calls : List (FactoryCall Id) := [
      .change "copy" (.merge (.value (.object [("string.min", .string "short")]))),
      .change "main" (.merge (.value .null)),
      .change "main" (.install (.add .string "min" fun _ _ => none)),
      .change "copy" (.install (.replace .string "word" fun _ _ => none))]
    let ops := calls.map FactoryCall.operation
    w.slot? "name" = some ⟨[0], .schema ⟨.string, s⟩⟩ ∧ w.factories[0]? = some f ∧
      Id.run (w.answerAfter (.toTrigger "name" (some .blur) "rules" :: ops)
        (.runner "main" "rules" (.string "a"))) = .report (some "short") ∧
      Id.run (w.answerAfter (.edit "name" .string (.invoke "word" []) "more" :: ops)
        (.check "more" (.string "ab"))) = .report (some "odd") := by
  intro s f w calls ops
  have hslot : w.slot? "name" = some ⟨[0], .schema ⟨.string, s⟩⟩ := rfl
  obtain ⟨_, hrunner, _, _, hcheck, _⟩ :=
    reports_after_calls w calls hslot rfl (some .blur) "rules" (.string "a")
  obtain ⟨_, _, _, _, _, _, _, _, _, hinvoke⟩ :=
    reports_after_calls w calls hslot rfl none "more" (.string "ab")
  refine ⟨hslot, rfl, ?_, ?_⟩
  · rw [hrunner "main" (by decide +kernel), hcheck]
    decide +kernel
  · rw [hinvoke "word" [] _ rfl]
    decide +kernel

end Workspace

end FieldRules

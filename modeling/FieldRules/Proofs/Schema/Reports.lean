/-
# `Proofs.Schema.Reports` — what a schema reports, item by item

A schema runs by stretches: a group converts its input once, lets exempt inputs through once, and a
runner goes from rule to rule.  `report` says what one item reports when it stands alone.
`check_eq_findSomeM?` and `evaluate_eq_findSomeM?` say that a run is the first report of the items,
so that nothing in it depends on where the stretches are cut.

The statements hold in every lawful monad: the items also act in the same order, and none acts
behind the first report.
-/
import FieldRules.Proofs.Rule.Shapes
import FieldRules.Proofs.Schema.Stretches

namespace FieldRules

open Json (Value)

variable {m : Type → Type} {t : FieldType}

/-! ## First reports of lists -/

section FirstReport

variable {α β γ : Type} [Monad m]

theorem findSomeM?_map (f : β → m (Option γ)) (g : α → β) (xs : List α) :
    (xs.map g).findSomeM? f = xs.findSomeM? fun x => f (g x) := by
  induction xs with
  | nil => rfl
  | cons x xs ih => rw [List.map_cons, List.findSomeM?_cons, List.findSomeM?_cons, ih]

theorem findSomeM?_congr {f g : α → m (Option β)} {xs : List α} (h : ∀ x ∈ xs, f x = g x) :
    xs.findSomeM? f = xs.findSomeM? g := by
  induction xs with
  | nil => rfl
  | cons x xs ih =>
      rw [List.findSomeM?_cons, List.findSomeM?_cons, h x List.mem_cons_self,
        ih fun y hy => h y (List.mem_cons_of_mem _ hy)]

variable [LawfulMonad m]

theorem findSomeM?_none (xs : List α) :
    xs.findSomeM? (fun _ => (pure none : m (Option β))) = pure none := by
  induction xs with
  | nil => rfl
  | cons x xs ih => rw [List.findSomeM?_cons, pure_bind, ih]

theorem findSomeM?_append (f : α → m (Option β)) (xs ys : List α) :
    (xs ++ ys).findSomeM? f = xs.findSomeM? f >>= fun
      | some b => pure (some b)
      | none => ys.findSomeM? f := by
  induction xs with
  | nil => rw [List.nil_append, List.findSomeM?_nil, pure_bind]
  | cons x xs ih =>
      rw [List.cons_append, List.findSomeM?_cons, List.findSomeM?_cons, bind_assoc]
      refine bind_congr fun r => ?_
      cases r with
      | none => exact ih
      | some b => rw [pure_bind]

theorem findSomeM?_singleton (f : α → m (Option β)) (x : α) : [x].findSomeM? f = f x := by
  have hpure : [x].findSomeM? f = f x >>= pure := by
    rw [List.findSomeM?_cons]
    refine bind_congr fun r => ?_
    cases r <;> rfl
  rw [hpure, bind_pure]

theorem findSomeM?_flatMap (f : β → m (Option γ)) (g : α → List β) (xs : List α) :
    (xs.flatMap g).findSomeM? f = xs.findSomeM? fun x => (g x).findSomeM? f := by
  induction xs with
  | nil => rfl
  | cons x xs ih =>
      rw [List.flatMap_cons, findSomeM?_append, List.findSomeM?_cons, ih]
      rfl

theorem findSomeM?_map_report (g : β → γ) (f : α → m (Option β)) (xs : List α) :
    xs.findSomeM? (fun x => Option.map g <$> f x) = Option.map g <$> xs.findSomeM? f := by
  induction xs with
  | nil => simp only [List.findSomeM?_nil, map_pure, Option.map_none]
  | cons x xs ih =>
      rw [List.findSomeM?_cons, List.findSomeM?_cons, map_bind, ih, bind_map_left]
      refine bind_congr fun r => ?_
      cases r with
      | none => rfl
      | some b => simp only [Option.map_some, map_pure]

end FirstReport

/-! ## Reports of single items -/

/-- A rule that declares nothing leaves a runner nothing to check itself. -/
theorem Rule.Declaration.shortfall?_default (input : Value) :
    ({} : Rule.Declaration).shortfall? input = none := by
  have hout : ({} : Rule.Declaration).outside input = false := by
    unfold outside
    cases measure? input <;> rfl
  unfold shortfall?
  rw [hout]
  cases Coercion.isEmpty input <;> rfl

variable [Monad m]

/-- What a raw rule reports among those of the factory at a place: its declarative fields first, with
the messages of this factory, then its validator. -/
def FormRule.report (tables : Tables) (owner : Nat) (input : Value) (r : FormRule m) :
    m (Option String) :=
  match r.shortfall? input with
  | some s => pure (some (r.shortfallMessage (tables owner) s))
  | none => r.run tables input

/-- A runner reports of a rule with events what the plain shape reports, as an error. -/
theorem Runner.apply_toTrigger [LawfulMonad m] (rules : List (TriggerRule m)) (owner : Nat)
    (tables : Tables) (input : Value) (trigger : Option Trigger) (r : Rule m) :
    Runner.apply ⟨rules, owner⟩ tables input (r.toTrigger trigger)
      = Option.map RuleError.mk <$> r.toForm.report tables owner input := by
  have hdeclared : (r.toTrigger trigger).toDeclaration = r.toForm.toDeclaration := by
    cases r <;> rfl
  unfold Runner.apply FormRule.report
  rw [hdeclared]
  cases r.toForm.shortfall? input with
  | some s => simp only [map_pure, Option.map_some]
  | none => exact r.run_toTrigger trigger tables input

theorem Runner.validate_map_toTrigger [LawfulMonad m] (rules : List (Rule m)) (owner : Nat)
    (tables : Tables) (input : Value) (trigger : Option Trigger) :
    Runner.validate ⟨rules.map (Rule.toTrigger trigger), owner⟩ tables input
      = Option.map RuleError.mk <$>
          rules.findSomeM? fun r => r.toForm.report tables owner input := by
  unfold Runner.validate
  rw [findSomeM?_map, ← findSomeM?_map_report]
  exact findSomeM?_congr fun r _ => Runner.apply_toTrigger _ owner tables input trigger r

namespace Schema

/-- What a descriptor of the schema reports when it stands alone. -/
def descriptorReport (s : Schema m t) (tables : Tables) (input : Value) (d : Descriptor m t) :
    m (Option String) :=
  if s.exemption.any (·.covers input) then pure none
  else
    match t.coerce? input with
    | none => pure (some ((tables s.owner).typeFailure t))
    | some value => d.report (tables s.owner) value input

def report (s : Schema m t) (tables : Tables) (input : Value) : Item m t → m (Option String)
  | .descriptor d => s.descriptorReport tables input d
  | .raw r => r.report tables s.owner input

/-- The other items count for nothing in it. -/
theorem report_eq (owner : Nat) (items : List (Item m t)) (exemption : Option Exemption)
    (tables : Tables) (input : Value) :
    (⟨owner, items, exemption⟩ : Schema m t).report tables input
      = (⟨owner, [], exemption⟩ : Schema m t).report tables input := by
  funext item
  cases item <;> rfl

section

variable {s : Schema m t} {input : Value} (tables : Tables) (d : Descriptor m t)

theorem descriptorReport_of_exempt (h : s.exemption.any (·.covers input) = true) :
    s.descriptorReport tables input d = pure none := if_pos h

theorem descriptorReport_of_coerce?_eq_none (h : s.exemption.any (·.covers input) = false)
    (hco : t.coerce? input = none) :
    s.descriptorReport tables input d = pure (some ((tables s.owner).typeFailure t)) := by
  rw [descriptorReport, h, hco]
  rfl

theorem descriptorReport_of_coerce?_eq_some (h : s.exemption.any (·.covers input) = false)
    {value : t.Carrier} (hco : t.coerce? input = some value) :
    s.descriptorReport tables input d = d.report (tables s.owner) value input := by
  rw [descriptorReport, h, hco]
  rfl

end

/-! ## Runs -/

variable [LawfulMonad m]

/-- A group that is not empty lets through, converts and checks what its descriptors would alone. -/
theorem evaluate_group (s : Schema m t) (tables : Tables) (input : Value)
    {ds : List (Descriptor m t)} (hds : ds ≠ []) :
    (s.group ds).evaluate tables input = ds.findSomeM? (s.descriptorReport tables input) := by
  cases hex : s.exemption.any (·.covers input) with
  | true =>
      rw [findSomeM?_congr fun d _ => descriptorReport_of_exempt tables d hex, findSomeM?_none]
      exact if_pos hex
  | false =>
      cases hco : t.coerce? input with
      | some value =>
          rw [findSomeM?_congr fun d _ => descriptorReport_of_coerce?_eq_some tables d hex hco]
          simp only [Group.evaluate, group, hex, hco, Bool.false_eq_true, if_false]
      | none =>
          -- every descriptor would report the same failure, and the first one does
          obtain ⟨d, ds, rfl⟩ := List.exists_cons_of_ne_nil hds
          rw [List.findSomeM?_cons, descriptorReport_of_coerce?_eq_none tables d hex hco, pure_bind]
          simp only [Group.evaluate, group, hex, hco, Bool.false_eq_true, if_false]

theorem report_toForm_ruleOf (s : Schema m t) (tables : Tables) (input : Value) {a : Stretch m t}
    (ha : ∀ ds, a = .run ds → ds ≠ []) :
    (s.ruleOf a).toForm.report tables s.owner input = a.items.findSomeM? (s.report tables input) := by
  cases a with
  | raw r =>
      show r.report tables s.owner input = [Item.raw r].findSomeM? (s.report tables input)
      rw [findSomeM?_singleton]
      rfl
  | run ds =>
      have hgroup : (s.ruleOf (.run ds)).toForm.report tables s.owner input
          = (s.group ds).evaluate tables input := by
        unfold FormRule.report
        rw [show (s.ruleOf (.run ds)).toForm.toDeclaration = {} from rfl,
          Rule.Declaration.shortfall?_default]
        rfl
      rw [hgroup, evaluate_group s tables input (ha ds rfl)]
      exact (findSomeM?_map (s.report tables input) .descriptor ds).symm

/-- A check is the first report of the items. -/
theorem check_eq_findSomeM? (s : Schema m t) (tables : Tables) (input : Value) :
    s.check tables input = s.items.findSomeM? (s.report tables input) := by
  have hparted := Stretch.parted_ofItems s.items
  calc s.check tables input
      = s.rules.findSomeM? fun r => r.toForm.report tables s.owner input := by
        unfold check triggerRules
        rw [Runner.validate_map_toTrigger, bind_pure_comp, Functor.map_map]
        simp only [Option.map_map, Function.comp_def, Option.map_id', id_map']
    _ = (Stretch.ofItems s.items).findSomeM? fun a =>
          (s.ruleOf a).toForm.report tables s.owner input := by
        rw [rules, findSomeM?_map]
    _ = (Stretch.ofItems s.items).findSomeM? fun a => a.items.findSomeM? (s.report tables input) :=
        findSomeM?_congr fun a ha => report_toForm_ruleOf s tables input fun ds h =>
          hparted.nonempty ds (h ▸ ha)
    _ = ((Stretch.ofItems s.items).flatMap Stretch.items).findSomeM? (s.report tables input) :=
        (findSomeM?_flatMap _ _ _).symm
    _ = s.items.findSomeM? (s.report tables input) := by rw [Stretch.flatMap_items_ofItems]

theorem check_append (tables : Tables) (input : Value) (owner : Nat)
    (before behind : List (Item m t)) (exemption : Option Exemption) :
    (⟨owner, before ++ behind, exemption⟩ : Schema m t).check tables input
      = (⟨owner, before, exemption⟩ : Schema m t).check tables input >>= fun
          | some text => pure (some text)
          | none => (⟨owner, behind, exemption⟩ : Schema m t).check tables input := by
  simp only [check_eq_findSomeM?, report_eq owner _ exemption]
  refine (findSomeM?_append _ before behind).trans (bind_congr fun r => ?_)
  cases r <;> rfl

/-- Where an item is sure to report, a check reports it, unless an item in front reports earlier. -/
theorem check_of_report_eq {tables : Tables} {input : Value} {item : Item m t} {owner : Nat}
    {exemption : Option Exemption} {text : String}
    (h : (⟨owner, [], exemption⟩ : Schema m t).report tables input item = pure (some text))
    (before behind : List (Item m t)) :
    (⟨owner, before ++ item :: behind, exemption⟩ : Schema m t).check tables input
      = (fun earlier => some (earlier.getD text)) <$>
          (⟨owner, before, exemption⟩ : Schema m t).check tables input := by
  have hitem : (⟨owner, item :: behind, exemption⟩ : Schema m t).check tables input
      = pure (some text) := by
    rw [check_eq_findSomeM?, report_eq, List.findSomeM?_cons, h, pure_bind]
  rw [check_append, map_eq_pure_bind]
  refine bind_congr fun earlier => ?_
  cases earlier with
  | some earlier => rfl
  | none => exact hitem

/-- The evaluation of a schema with descriptors is their first report. -/
theorem evaluate_eq_findSomeM? (s : Schema m t) (tables : Tables) (input : Value)
    (h : s.items.filterMap Item.descriptor? ≠ []) :
    s.evaluate tables input
      = (s.items.filterMap Item.descriptor?).findSomeM? (s.descriptorReport tables input) :=
  evaluate_group s tables input h

end Schema

end FieldRules

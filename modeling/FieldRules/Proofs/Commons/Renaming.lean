/-
# `Proofs.Commons.Renaming` — rules whose factories have other places

A group holds the place of its factory, and a schema that of its own.  `owners` lists the places
that are held; `rename ρ` puts `ρ place` for each of them.  Nothing compares places or computes one,
so what makes schemas and rules commutes with renaming (`append?_rename`, `Document.build_rename`,
`Edit.apply_natural` and their like).  And what commutes with renaming holds no places but those that
it was given: rename the others only, and what is made stays as it is (`subset_of_fixed`).

Reports look up tables by these places.  With tables `U` what is renamed reports what was reported
with tables `T`, if `U (ρ place)` is `T place` for each place that is held.  It would be no use to ask
this of all places, since `ρ` may take a place to that of another factory.
-/
import FieldRules.Proofs.Schema.Reports
import FieldRules.Workspace.Operation

namespace FieldRules

open Json (Value)

variable {m : Type → Type} {t : FieldType}

/-! ## Renaming -/

section Rename

variable (ρ : Nat → Nat)

def Group.rename (g : Group m) : Group m := { g with owner := ρ g.owner }

def Validator.rename : Validator m → Validator m
  | .group g => .group (g.rename ρ)
  | .reporting f => .reporting f

def FormRule.rename (r : FormRule m) : FormRule m :=
  { r with validator := r.validator.map (Validator.rename ρ) }

def TriggerValidator.rename : TriggerValidator m → TriggerValidator m
  | .group g => .group (g.rename ρ)
  | .plain v => .plain (v.rename ρ)
  | .told f => .told f

def TriggerRule.rename (r : TriggerRule m) : TriggerRule m :=
  { r with validator := r.validator.map (TriggerValidator.rename ρ) }

def Rule.rename : Rule m → Rule m
  | .compiled g => .compiled (g.rename ρ)
  | .raw r => .raw (r.rename ρ)

def Item.rename : Item m t → Item m t
  | .descriptor d => .descriptor d
  | .raw r => .raw (r.rename ρ)

def Stretch.rename : Stretch m t → Stretch m t
  | .run ds => .run ds
  | .raw r => .raw (r.rename ρ)

def Schema.rename (s : Schema m t) : Schema m t :=
  ⟨ρ s.owner, s.items.map (Item.rename ρ), s.exemption⟩

def AnySchema.rename (s : AnySchema m) : AnySchema m := ⟨s.type, s.schema.rename ρ⟩

def Holding.rename : Holding m → Holding m
  | .schema s => .schema (s.rename ρ)
  | .rules rs => .rules (rs.map (Rule.rename ρ))
  | .formRules rs => .formRules (rs.map (FormRule.rename ρ))
  | .triggerRules rs => .triggerRules (rs.map (TriggerRule.rename ρ))

end Rename

/-! ## The places that are held -/

/-- The place of the factory of a validator that is a group. -/
def Validator.owner? : Validator m → Option Nat
  | .group g => some g.owner
  | .reporting _ => none

def FormRule.owner? (r : FormRule m) : Option Nat := r.validator.bind Validator.owner?

def TriggerValidator.owner? : TriggerValidator m → Option Nat
  | .group g => some g.owner
  | .plain v => v.owner?
  | .told _ => none

def TriggerRule.owner? (r : TriggerRule m) : Option Nat := r.validator.bind TriggerValidator.owner?

def Rule.owner? : Rule m → Option Nat
  | .compiled g => some g.owner
  | .raw r => r.owner?

def Item.owner? : Item m t → Option Nat
  | .descriptor _ => none
  | .raw r => r.owner?

/-- The place of the schema's own factory, and those of the groups that it took in. -/
def Schema.owners (s : Schema m t) : List Nat := s.owner :: s.items.filterMap Item.owner?

def Holding.owners : Holding m → List Nat
  | .schema s => s.schema.owners
  | .rules rs => rs.filterMap Rule.owner?
  | .formRules rs => rs.filterMap FormRule.owner?
  | .triggerRules rs => rs.filterMap TriggerRule.owner?

section

variable {ρ : Nat → Nat}

theorem Validator.owner?_rename (v : Validator m) : (v.rename ρ).owner? = v.owner?.map ρ := by
  cases v <;> rfl

theorem FormRule.owner?_rename (r : FormRule m) : (r.rename ρ).owner? = r.owner?.map ρ := by
  unfold FormRule.owner? FormRule.rename
  cases r.validator with
  | none => rfl
  | some v => exact v.owner?_rename

theorem TriggerRule.owner?_rename (r : TriggerRule m) : (r.rename ρ).owner? = r.owner?.map ρ := by
  unfold TriggerRule.owner? TriggerRule.rename
  cases r.validator with
  | none => rfl
  | some v =>
      cases v with
      | plain v => exact v.owner?_rename
      | _ => rfl

theorem Rule.owner?_rename (r : Rule m) : (r.rename ρ).owner? = r.owner?.map ρ := by
  cases r with
  | compiled g => rfl
  | raw r => exact r.owner?_rename

theorem Item.owner?_rename (i : Item m t) : (i.rename ρ).owner? = i.owner?.map ρ := by
  cases i with
  | descriptor d => rfl
  | raw r => exact r.owner?_rename

theorem filterMap_owner?_map_rename {α : Type} {rename : α → α} {owner? : α → Option Nat}
    (h : ∀ a, owner? (rename a) = (owner? a).map ρ) (as : List α) :
    (as.map rename).filterMap owner? = (as.filterMap owner?).map ρ := by
  rw [List.filterMap_map, List.map_filterMap]
  exact List.filterMap_congr fun a _ => h a

theorem Schema.owners_rename (s : Schema m t) : (s.rename ρ).owners = s.owners.map ρ :=
  congrArg (ρ s.owner :: ·) (filterMap_owner?_map_rename Item.owner?_rename s.items)

theorem Holding.owners_rename (h : Holding m) : (h.rename ρ).owners = h.owners.map ρ := by
  cases h with
  | schema s => exact s.schema.owners_rename
  | rules rs => exact filterMap_owner?_map_rename Rule.owner?_rename rs
  | formRules rs => exact filterMap_owner?_map_rename FormRule.owner?_rename rs
  | triggerRules rs => exact filterMap_owner?_map_rename TriggerRule.owner?_rename rs

end

/-! ## Renaming other places -/

section Fixed

variable {ρ : Nat → Nat}

theorem Validator.rename_of_fixed {v : Validator m} (h : ∀ place ∈ v.owner?, ρ place = place) :
    v.rename ρ = v := by
  cases v with
  | group g => exact congrArg (fun place => Validator.group { g with owner := place }) (h _ rfl)
  | reporting f => rfl

theorem FormRule.rename_of_fixed {r : FormRule m} (h : ∀ place ∈ r.owner?, ρ place = place) :
    r.rename ρ = r := by
  obtain ⟨declaration, validator⟩ := r
  cases validator with
  | none => rfl
  | some v =>
      exact congrArg (fun v => FormRule.mk declaration (some v)) (Validator.rename_of_fixed h)

theorem TriggerRule.rename_of_fixed {r : TriggerRule m} (h : ∀ place ∈ r.owner?, ρ place = place) :
    r.rename ρ = r := by
  obtain ⟨declaration, trigger, validator⟩ := r
  cases validator with
  | none => rfl
  | some v =>
      refine congrArg (fun v => TriggerRule.mk declaration trigger (some v)) ?_
      cases v with
      | group g =>
          exact congrArg (fun place => TriggerValidator.group { g with owner := place }) (h _ rfl)
      | plain v => exact congrArg TriggerValidator.plain (Validator.rename_of_fixed h)
      | told f => rfl

theorem Rule.rename_of_fixed {r : Rule m} (h : ∀ place ∈ r.owner?, ρ place = place) :
    r.rename ρ = r := by
  cases r with
  | compiled g => exact congrArg (fun place => Rule.compiled { g with owner := place }) (h _ rfl)
  | raw r => exact congrArg Rule.raw (FormRule.rename_of_fixed h)

theorem Item.rename_of_fixed {i : Item m t} (h : ∀ place ∈ i.owner?, ρ place = place) :
    i.rename ρ = i := by
  cases i with
  | descriptor d => rfl
  | raw r => exact congrArg Item.raw (FormRule.rename_of_fixed h)

theorem map_rename_of_fixed {α : Type} {rename : α → α} {owner? : α → Option Nat} {as : List α}
    (hrename : ∀ {a}, (∀ place ∈ owner? a, ρ place = place) → rename a = a)
    (h : ∀ place ∈ as.filterMap owner?, ρ place = place) : as.map rename = as := by
  refine (List.map_congr_left fun a ha => ?_).trans (List.map_id as)
  exact hrename fun place hplace => h place (List.mem_filterMap.mpr ⟨a, ha, hplace⟩)

theorem Schema.rename_of_fixed {s : Schema m t} (h : ∀ place ∈ s.owners, ρ place = place) :
    s.rename ρ = s := by
  obtain ⟨howner, hitems⟩ := List.forall_mem_cons.mp h
  unfold rename
  rw [howner, map_rename_of_fixed Item.rename_of_fixed hitems]

theorem Holding.rename_of_fixed {h : Holding m} (hfixed : ∀ place ∈ h.owners, ρ place = place) :
    h.rename ρ = h := by
  cases h with
  | schema s =>
      exact congrArg (fun schema => Holding.schema ⟨s.type, schema⟩) (Schema.rename_of_fixed hfixed)
  | rules rs => exact congrArg Holding.rules (map_rename_of_fixed Rule.rename_of_fixed hfixed)
  | formRules rs =>
      exact congrArg Holding.formRules (map_rename_of_fixed FormRule.rename_of_fixed hfixed)
  | triggerRules rs =>
      exact congrArg Holding.triggerRules (map_rename_of_fixed TriggerRule.rename_of_fixed hfixed)

/-- Places that stay when others are renamed are none of the others. -/
theorem subset_of_fixed {given made : List Nat}
    (h : ∀ ρ : Nat → Nat, (∀ place ∈ given, ρ place = place) → made.map ρ = made) :
    made ⊆ given := by
  intro place hplace
  by_contra hother
  have hmap := h (fun p => if p ∈ given then p else p + 1) fun p hp => if_pos hp
  have hfixed : (if place ∈ given then place else place + 1) = place :=
    List.map_inj_left.mp (hmap.trans (List.map_id made).symm) place hplace
  rw [if_neg hother] at hfixed
  omega

end Fixed

/-! ## Making rules -/

/-- What makes things that are kept of others, and looks at no places. -/
def Holding.Natural (make : Holding m → Option (Holding m)) : Prop :=
  ∀ (ρ : Nat → Nat) (h : Holding m), make (h.rename ρ) = (make h).map (Holding.rename ρ)

/-- What changes schemas, and looks at no places. -/
def Schema.Natural {ε : Type} (change : Schema m t → Except ε (Schema m t)) : Prop :=
  ∀ (ρ : Nat → Nat) (s : Schema m t), change (s.rename ρ) = (change s).map (Schema.rename ρ)

theorem Holding.Natural.owners_subset {make : Holding m → Option (Holding m)} (h : Natural make)
    {k made : Holding m} (hmade : make k = some made) : made.owners ⊆ k.owners := by
  refine subset_of_fixed fun ρ hfixed => ?_
  have hrenamed := h ρ k
  rw [rename_of_fixed hfixed, hmade, Option.map_some] at hrenamed
  rw [← made.owners_rename, ← Option.some.inj hrenamed]

theorem Schema.Natural.owners_subset {ε : Type} {change : Schema m t → Except ε (Schema m t)}
    (h : Natural change) {s changed : Schema m t} (hchanged : change s = .ok changed) :
    changed.owners ⊆ s.owners := by
  refine subset_of_fixed fun ρ hfixed => ?_
  have hrenamed := h ρ s
  rw [rename_of_fixed hfixed, hchanged] at hrenamed
  rw [← changed.owners_rename, ← Except.ok.inj hrenamed]

section Making

variable {ρ : Nat → Nat}

theorem Rule.toForm_rename (r : Rule m) : (r.rename ρ).toForm = r.toForm.rename ρ := by
  cases r <;> rfl

theorem Rule.owner?_toForm (r : Rule m) : r.toForm.owner? = r.owner? := by
  cases r <;> rfl

theorem Rule.toTrigger_rename (trigger : Option Trigger) (r : Rule m) :
    (r.rename ρ).toTrigger trigger = (r.toTrigger trigger).rename ρ := by
  cases r with
  | compiled g => rfl
  | raw r =>
      simp only [rename, toTrigger, TriggerRule.rename, FormRule.rename, Option.map_map]
      rfl

theorem Stretch.ofItems_rename (items : List (Item m t)) :
    ofItems (items.map (Item.rename ρ)) = (ofItems items).map (Stretch.rename ρ) := by
  induction items with
  | nil => rfl
  | cons item rest ih =>
      show push (item.rename ρ) (ofItems (rest.map (Item.rename ρ))) = _
      rw [ih]
      show _ = (push item (ofItems rest)).map (Stretch.rename ρ)
      cases item with
      | raw r => rfl
      | descriptor d =>
          cases ofItems rest with
          | nil => rfl
          | cons stretch more => cases stretch <;> rfl

namespace Schema

theorem rules_rename (s : Schema m t) : (s.rename ρ).rules = s.rules.map (Rule.rename ρ) := by
  unfold rules
  rw [show (s.rename ρ).items = s.items.map (Item.rename ρ) from rfl, Stretch.ofItems_rename,
    List.map_map, List.map_map]
  refine List.map_congr_left fun stretch _ => ?_
  cases stretch <;> rfl

theorem triggerRules_rename (s : Schema m t) (trigger : Option Trigger) :
    (s.rename ρ).triggerRules trigger = (s.triggerRules trigger).map (TriggerRule.rename ρ) := by
  unfold triggerRules
  rw [rules_rename, List.map_map, List.map_map]
  exact List.map_congr_left fun r _ => r.toTrigger_rename trigger

theorem push_rename (s : Schema m t) (item : Item m t) :
    (s.rename ρ).push (item.rename ρ) = (s.push item).rename ρ := by
  simp [push, rename]

theorem concat_rename (s : Schema m t) (rules : List (FormRule m)) :
    (s.rename ρ).concat (rules.map (FormRule.rename ρ)) = (s.concat rules).rename ρ := by
  simp [concat, rename, Function.comp_def, Item.rename]

end Schema

theorem GivenRule.toForm_rename (r : GivenRule m) : r.toForm.rename ρ = r.toForm := by
  simp only [GivenRule.toForm, FormRule.rename, Option.map_map]
  rfl

namespace Holding

theorem compiled?_rename (h : Holding m) :
    (h.rename ρ).compiled? = h.compiled?.map (List.map (Rule.rename ρ)) := by
  cases h with
  | schema s => exact congrArg some s.schema.rules_rename
  | _ => rfl

theorem append?_rename (h k : Holding m) :
    (h.rename ρ).append? (k.rename ρ) = (h.append? k).map (Holding.rename ρ) := by
  cases h with
  | schema s =>
      cases k with
      | formRules rs =>
          exact congrArg (fun schema => some (Holding.schema ⟨s.type, schema⟩))
            (s.schema.concat_rename rs)
      | _ => rfl
  | rules rs =>
      cases k with
      | rules others => simp [rename, append?]
      | _ => rfl
  | formRules rs =>
      cases k with
      | formRules others => simp [rename, append?]
      | _ => rfl
  | triggerRules rs =>
      cases k with
      | triggerRules others => simp [rename, append?]
      | _ => rfl

theorem owners_append?_subset {h k both : Holding m} (hboth : h.append? k = some both) :
    both.owners ⊆ h.owners ++ k.owners := by
  refine subset_of_fixed fun ρ hfixed => ?_
  obtain ⟨hleft, hright⟩ := List.forall_mem_append.mp hfixed
  have hrenamed : (h.rename ρ).append? (k.rename ρ) = _ := append?_rename h k
  rw [rename_of_fixed hleft, rename_of_fixed hright, hboth, Option.map_some] at hrenamed
  rw [← both.owners_rename, ← Option.some.inj hrenamed]

theorem natural_some : Natural (some : Holding m → Option (Holding m)) := fun _ _ => rfl

theorem natural_compiled? {make : List (Rule m) → Holding m}
    (h : ∀ (ρ : Nat → Nat) rs, make (rs.map (Rule.rename ρ)) = (make rs).rename ρ) :
    Natural fun k : Holding m => k.compiled?.map make := by
  intro ρ k
  dsimp only
  rw [compiled?_rename, Option.map_map, Option.map_map]
  exact congrArg (k.compiled?.map ·) (funext (h ρ))

theorem natural_compile : Natural fun k : Holding m => k.compiled?.map .rules :=
  natural_compiled? fun _ _ => rfl

theorem natural_toForm :
    Natural fun k : Holding m => k.compiled?.map fun rs => .formRules (rs.map Rule.toForm) :=
  natural_compiled? fun ρ rs => congrArg Holding.formRules (by
    rw [List.map_map, List.map_map]
    exact List.map_congr_left fun r _ => r.toForm_rename)

theorem natural_toTrigger (trigger : Option Trigger) :
    Natural fun k : Holding m =>
      k.compiled?.map fun rs => .triggerRules (rs.map (Rule.toTrigger trigger)) :=
  natural_compiled? fun ρ rs => congrArg Holding.triggerRules (by
    rw [List.map_map, List.map_map]
    exact List.map_congr_left fun r _ => r.toTrigger_rename trigger)

end Holding

/-! ### Documents and edits -/

theorem Schema.invoke_rename (s : Schema m t) (registry : Registry m) (name : String)
    (args : List Value) :
    (s.rename ρ).invoke registry name args = (s.invoke registry name args).map (rename ρ) := by
  unfold invoke
  cases registry.get t name with
  | error e => rfl
  | ok extension => exact congrArg Except.ok (s.push_rename (.descriptor _))

theorem RuleSpec.apply_rename (f : Factory m) (place : Nat) (s : Schema m t) (r : RuleSpec) :
    r.apply f place (s.rename ρ) = (r.apply f place s).map (Schema.rename ρ) := by
  unfold apply
  cases r.kind with
  | none =>
      dsimp only
      split
      · exact congrArg Except.ok (s.push_rename (.raw r.toForm))
      · rfl
  | some kind =>
      dsimp only
      split
      · rfl
      · split
        · exact congrArg Except.ok (s.push_rename (.raw (.require _)))
        · split
          · unfold applyOptional
            cases r.value with
            | none => rfl
            | some v =>
                dsimp only
                cases OptionalSpec.ofValue? v with
                | none => rfl
                | some spec =>
                    cases spec with
                    | enabled on => cases on <;> rfl
                    | values items => rfl
          · split
            · unfold applyConstraint
              cases Document.constraint t kind r.value with
              | ok c => exact congrArg Except.ok (s.push_rename (.descriptor _))
              | error fault => cases fault <;> rfl
            · unfold applyMethod
              rw [Schema.invoke_rename]
              cases s.invoke f.registry kind r.args <;> rfl

namespace Document

theorem applyRules_rename (f : Factory m) (place : Nat) (s : Schema m t) (rs : List RuleSpec) :
    applyRules f place (s.rename ρ) rs = (applyRules f place s rs).map (Schema.rename ρ) := by
  induction rs generalizing place s with
  | nil => rfl
  | cons r rest ih =>
      unfold applyRules
      rw [RuleSpec.apply_rename]
      cases r.apply f place s with
      | error e => rfl
      | ok applied => exact ih (place + 1) applied

theorem build_rename (owner : Nat) (f : Factory m) (d : Document) :
    d.build (ρ owner) f = (d.build owner f).map (AnySchema.rename ρ) := by
  have hheader : (d.header (ρ owner) : Schema m d.type) = (d.header owner).rename ρ := by
    unfold header
    cases d.optional with
    | none => rfl
    | some spec =>
        cases spec with
        | enabled on => cases on <;> rfl
        | values items => rfl
  unfold build
  rw [hheader, applyRules_rename]
  cases applyRules f 0 (d.header owner) d.rules <;> rfl

/-- What is built with a factory holds its place alone. -/
theorem owners_build_subset {owner : Nat} {f : Factory m} {d : Document} {s : AnySchema m}
    (h : d.build owner f = .ok s) : s.schema.owners ⊆ [owner] := by
  refine subset_of_fixed fun ρ hfixed => ?_
  have hrenamed : d.build (ρ owner) f = _ := build_rename owner f d
  rw [hfixed owner List.mem_cons_self, h] at hrenamed
  rw [← s.schema.owners_rename]
  exact congrArg (fun s : AnySchema m => s.schema.owners) (Except.ok.inj hrenamed).symm

end Document

/-- An edit looks at no places: it makes a schema of the edited one alone, or of this and of a text
that is computed first. -/
theorem Edit.apply_natural [Monad m] [LawfulMonad m] (e : Edit m t) (f : Factory m) :
    (∃ change : Schema m t → Except RegistryError (Schema m t), Schema.Natural change ∧
        ∀ s, e.apply f s = pure (change s)) ∨
      ∃ (program : m String) (change : String → Schema m t → Schema m t),
        (∀ text, Schema.Natural fun s => (.ok (change text s) : Except RegistryError _)) ∧
          ∀ s, e.apply f s = program >>= fun text => pure (.ok (change text s)) := by
  cases e with
  | constrain c override =>
      exact .inl ⟨fun s => .ok (s.constrain c override),
        fun ρ s => congrArg Except.ok (s.push_rename (.descriptor _)), fun _ => rfl⟩
  | custom validator =>
      exact .inl ⟨fun s => .ok (s.custom validator),
        fun ρ s => congrArg Except.ok (s.push_rename (.descriptor _)), fun _ => rfl⟩
  | exempt e => exact .inl ⟨fun s => .ok (s.exempt e), fun ρ s => rfl, fun _ => rfl⟩
  | concat rules =>
      refine .inl ⟨fun s => .ok (s.concat (rules.map GivenRule.toForm)),
        fun ρ s => congrArg Except.ok ?_, fun _ => rfl⟩
      rw [← s.concat_rename, List.map_map]
      exact congrArg (s.rename ρ).concat (List.map_congr_left fun r _ => r.toForm_rename.symm)
  | invoke name args => exact .inl ⟨_, fun ρ s => s.invoke_rename _ _ _, fun _ => rfl⟩
  | required override =>
      refine .inr ⟨Schema.requiredText f.messages t override, fun text s => s.require text,
        fun text ρ s => congrArg Except.ok (s.push_rename (.raw (.require text))), fun s => ?_⟩
      simp [Edit.apply, Schema.required]

theorem Edit.run_apply_rename (e : Edit Id t) (f : Factory Id) (s : Schema Id t) :
    (e.apply f (s.rename ρ)).run = ((e.apply f s).run).map (Schema.rename ρ) := by
  obtain ⟨change, hnatural, happly⟩ | ⟨program, change, hnatural, happly⟩ := e.apply_natural f
  · rw [happly, happly]
    exact hnatural ρ s
  · rw [happly, happly]
    exact hnatural program.run ρ s

end Making

/-! ## Reports -/

section Reports

variable [Monad m] {ρ : Nat → Nat} {T U : Tables} (input : Value)

theorem Group.evaluate_rename (g : Group m) (h : U (ρ g.owner) = T g.owner) :
    (g.rename ρ).evaluate U input = g.evaluate T input := by
  unfold evaluate
  dsimp only [rename]
  rw [h]
  cases g.type.coerce? input <;> rfl

namespace Validator

variable {v : Validator m}

theorem reports_rename (h : ∀ place ∈ v.owner?, U (ρ place) = T place) :
    (v.rename ρ).reports U input = v.reports T input := by
  cases v with
  | group g =>
      simp only [rename, reports, g.evaluate_rename input (h g.owner rfl)]
  | reporting f => rfl

theorem run_rename (h : ∀ place ∈ v.owner?, U (ρ place) = T place) :
    (v.rename ρ).run U input = v.run T input := by
  cases v with
  | group g => exact g.evaluate_rename input (h g.owner rfl)
  | reporting f => rfl

end Validator

theorem FormRule.run_rename (r : FormRule m) (h : ∀ place ∈ r.owner?, U (ρ place) = T place) :
    (r.rename ρ).run U input = r.run T input := by
  obtain ⟨declaration, validator⟩ := r
  cases validator with
  | none => rfl
  | some v => exact v.run_rename input h

omit [Monad m] in
theorem TriggerRule.declared_rename (r : TriggerRule m) : (r.rename ρ).declared = r.declared := by
  simp [declared, rename]

theorem TriggerRule.run_rename (r : TriggerRule m)
    (h : ∀ place ∈ r.owner?, U (ρ place) = T place) :
    (r.rename ρ).run U input = r.run T input := by
  have hdeclared : (r.rename ρ).declared = _ := r.declared_rename
  obtain ⟨declaration, trigger, validator⟩ := r
  unfold run
  rw [hdeclared]
  cases validator with
  | none => rfl
  | some v =>
      cases v with
      | group g =>
          simp only [rename, Option.map_some, TriggerValidator.rename, TriggerValidator.reports,
            g.evaluate_rename input (h g.owner rfl)]
      | plain v =>
          simp only [rename, Option.map_some, TriggerValidator.rename, TriggerValidator.reports,
            v.reports_rename input h]
      | told f => rfl

theorem Runner.validate_rename {rules : List (TriggerRule m)} {owner : Nat}
    (howner : U (ρ owner) = T owner)
    (h : ∀ place ∈ rules.filterMap TriggerRule.owner?, U (ρ place) = T place) :
    validate ⟨rules.map (TriggerRule.rename ρ), ρ owner⟩ U input
      = validate ⟨rules, owner⟩ T input := by
  unfold validate
  rw [findSomeM?_map]
  refine findSomeM?_congr fun r hr => ?_
  have hrun := r.run_rename input fun place hplace =>
    h place (List.mem_filterMap.mpr ⟨r, hr, hplace⟩)
  unfold apply
  rw [howner, hrun]
  rfl

namespace Schema

variable {s : Schema m t}

theorem evaluate_rename (h : ∀ place ∈ s.owners, U (ρ place) = T place) :
    (s.rename ρ).evaluate U input = s.evaluate T input := by
  have hdescriptors : (s.rename ρ).items.filterMap Item.descriptor?
      = s.items.filterMap Item.descriptor? := by
    rw [show (s.rename ρ).items = s.items.map (Item.rename ρ) from rfl, List.filterMap_map]
    refine List.filterMap_congr fun item _ => ?_
    cases item <;> rfl
  unfold evaluate
  rw [hdescriptors]
  exact (s.group (s.items.filterMap Item.descriptor?)).evaluate_rename input
    (h s.owner List.mem_cons_self)

theorem validate_triggerRules_rename (h : ∀ place ∈ s.owners, U (ρ place) = T place)
    (trigger : Option Trigger) :
    Runner.validate ⟨(s.rename ρ).triggerRules trigger, ρ s.owner⟩ U input
      = Runner.validate ⟨s.triggerRules trigger, s.owner⟩ T input := by
  rw [s.triggerRules_rename]
  refine Runner.validate_rename input (h s.owner List.mem_cons_self) fun place hplace => ?_
  have hnatural : Holding.Natural fun k : Holding m =>
      k.compiled?.map fun rs => .triggerRules (rs.map (Rule.toTrigger trigger)) :=
    Holding.natural_toTrigger trigger
  exact h place (hnatural.owners_subset (k := .schema ⟨t, s⟩) rfl hplace)

theorem check_rename (h : ∀ place ∈ s.owners, U (ρ place) = T place) :
    (s.rename ρ).check U input = s.check T input := by
  unfold check
  rw [show (s.rename ρ).owner = ρ s.owner from rfl, s.validate_triggerRules_rename input h]

theorem validate_rename (h : ∀ place ∈ s.owners, U (ρ place) = T place) :
    (s.rename ρ).validate U input = s.validate T input := by
  unfold validate Runner.run
  rw [show (s.rename ρ).owner = ρ s.owner from rfl, s.validate_triggerRules_rename input h]

end Schema

theorem mapM_map_rename [LawfulMonad m] {α β : Type} {rename : α → α} {owner? : α → Option Nat}
    {run run' : α → m β} {as : List α}
    (hrun : ∀ a, (∀ place ∈ owner? a, U (ρ place) = T place) → run' (rename a) = run a)
    (h : ∀ place ∈ as.filterMap owner?, U (ρ place) = T place) :
    (as.map rename).mapM run' = as.mapM run := by
  induction as with
  | nil => rfl
  | cons a as ih =>
      rw [List.map_cons, List.mapM_cons, List.mapM_cons]
      rw [hrun a fun place hplace => h place
        (List.mem_filterMap.mpr ⟨a, List.mem_cons_self, hplace⟩)]
      rw [ih fun place hplace => by
        obtain ⟨b, hb, hplace⟩ := List.mem_filterMap.mp hplace
        exact h place (List.mem_filterMap.mpr ⟨b, List.mem_cons_of_mem _ hb, hplace⟩)]

theorem Holding.reports_rename [LawfulMonad m] {k : Holding m}
    (h : ∀ place ∈ k.owners, U (ρ place) = T place) :
    (k.rename ρ).reports U input = k.reports T input := by
  cases k with
  | schema s => rfl
  | rules rs =>
      refine congrArg some (mapM_map_rename (fun r hr => ?_) h)
      rw [r.toForm_rename]
      refine r.toForm.run_rename input fun place hplace => hr place ?_
      rw [← r.owner?_toForm]
      exact hplace
  | formRules rs => exact congrArg some (mapM_map_rename (fun r => r.run_rename input) h)
  | triggerRules rs =>
      refine congrArg some (mapM_map_rename (fun r hr => ?_) h)
      rw [r.run_rename input hr]

end Reports

end FieldRules

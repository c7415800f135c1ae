/-
# `Proofs.Commons.Alike` — what does not depend on a table

Two factories with the same methods may have different tables.  Changing them, building documents
with them and editing schemas with them succeeds for both or for neither, and what comes of it is
alike again: a factory with the same methods, a schema of the same type, rules of the same shape.  A
table decides texts only.  And where the tables are the same too, everything is.

`Together` is this for results, and a flag says whether the tables may differ.
-/
import FieldRules.Proofs.Commons.Renaming
import FieldRules.Workspace.Commons

namespace FieldRules

open Json (Value)
open Messages (Table)

variable {m : Type → Type}

/-! ## Results -/

/-- Two results are a success both, with values in a relation, or a failure both, for the same cause
unless that may differ. -/
inductive Together {ε α β : Type} (differ : Bool) (related : α → β → Prop) :
    Except ε α → Except ε β → Prop where
  | ok {a : α} {b : β} : related a b → Together differ related (.ok a) (.ok b)
  | error {e e' : ε} : (differ = false → e' = e) → Together differ related (.error e) (.error e')

theorem Together.errors {ε α β : Type} {related : α → β → Prop} (e e' : ε) :
    Together true related (.error e : Except ε α) (.error e') :=
  .error fun hdiffer => by cases hdiffer

theorem Together.ok_or_error {ε α β : Type} {differ : Bool} {related : α → β → Prop}
    {x : Except ε α} {y : Except ε β} (h : Together differ related x y) :
    (∃ a b, x = .ok a ∧ y = .ok b ∧ related a b) ∨
      ∃ e e', x = .error e ∧ y = .error e' ∧ (differ = false → e' = e) := by
  cases h with
  | @ok a b hab => exact .inl ⟨a, b, rfl, rfl, hab⟩
  | @error e e' hcause => exact .inr ⟨e, e', rfl, rfl, hcause⟩

/-! ## Factories -/

/-- Two factories have the same methods, and the same table unless that may differ. -/
structure Factory.Alike (differ : Bool) (f g : Factory m) : Prop where
  registry : g.registry = f.registry
  messages : differ = false → g.messages = f.messages

namespace Factory

variable {differ : Bool} {f g : Factory m}

theorem Alike.eq (h : Alike differ f g) (hdiffer : differ = false) : g = f := by
  obtain ⟨messages, registry⟩ := f
  obtain ⟨messages', registry'⟩ := g
  obtain ⟨rfl, hmessages⟩ := h
  cases hmessages hdiffer
  rfl

theorem Alike.mono {differ' : Bool} (h : Alike differ f g) (hle : differ' = false → differ = false) :
    Alike differ' f g :=
  ⟨h.registry, fun hdiffer => h.messages (hle hdiffer)⟩

/-- Whether a merge is refused does not depend on the table. -/
theorem together_into (t u : Table) (merge : Messages.Merge) :
    Together true (fun _ _ => True) (merge.into t) (merge.into u) := by
  have hvalue : ∀ t u : Table, ∀ v, Together true (fun _ _ => True) (t.merge v) (u.merge v) := by
    intro t u v
    cases v with
    | object members => exact .ok trivial
    | _ => exact .errors _ _
  have htext : ∀ format text, Together true (fun _ _ => True) (t.mergeText format text)
      (u.mergeText format text) := by
    intro format text
    unfold Table.mergeText
    cases Table.parse format text with
    | error e => exact .errors _ _
    | ok other => exact .ok trivial
  cases merge with
  | value override => exact hvalue t u override
  | table other => exact .ok trivial
  | text format written => exact htext format written
  | file path content =>
      cases content with
      | error reason => exact .errors _ _
      | ok text => exact htext (Format.ofPath path) text

theorem Alike.change (h : Alike differ f g) (change : Change m) :
    Together differ (fun p q => Alike differ p.1 q.1 ∧ q.2 = p.2) (f.change change)
      (g.change change) := by
  cases differ with
  | false =>
      have heq := h.eq rfl
      subst heq
      cases g.change change with
      | ok changed => exact .ok ⟨⟨rfl, fun _ => rfl⟩, rfl⟩
      | error e => exact .error fun _ => rfl
  | true =>
      cases change with
      | merge merge =>
          have hinto := together_into f.messages g.messages merge
          unfold Factory.change
          dsimp only
          generalize merge.into f.messages = merged at hinto ⊢
          generalize merge.into g.messages = merged' at hinto ⊢
          cases hinto with
          | ok _ => exact .ok ⟨⟨h.registry, nofun⟩, rfl⟩
          | error _ => exact .errors _ _
      | install installation =>
          unfold Factory.change
          dsimp only
          rw [h.registry]
          cases f.registry.install installation with
          | ok installed => exact .ok ⟨⟨rfl, nofun⟩, rfl⟩
          | error e => exact .errors _ _

end Factory

/-! ## What is kept -/

/-- The shape of what is kept under a name, and the factory of a schema. -/
inductive Holding.Kind where
  | schema (type : FieldType) (owner : Nat)
  | rules
  | formRules
  | triggerRules

namespace Holding

def kind : Holding m → Kind
  | .schema s => .schema s.type s.schema.owner
  | .rules _ => .rules
  | .formRules _ => .formRules
  | .triggerRules _ => .triggerRules

theorem exists_of_kind_eq_schema {h : Holding m} {type : FieldType} {owner : Nat}
    (hkind : h.kind = .schema type owner) :
    ∃ s : Schema m type, h = .schema ⟨type, s⟩ ∧ s.owner = owner := by
  cases h with
  | schema s =>
      obtain ⟨type', s⟩ := s
      cases hkind
      exact ⟨s, rfl, rfl⟩
  | _ => cases hkind

/-- Whether something of a shape compiles to rules. -/
def Kind.compiles : Kind → Bool
  | .schema _ _ | .rules => true
  | _ => false

theorem isSome_compiled? (h : Holding m) : h.compiled?.isSome = h.kind.compiles := by
  cases h <;> rfl

/-- The shape of what is kept with something behind it. -/
def Kind.append? : Kind → Kind → Option Kind
  | .schema t owner, .formRules => some (.schema t owner)
  | .rules, .rules => some .rules
  | .formRules, .formRules => some .formRules
  | .triggerRules, .triggerRules => some .triggerRules
  | _, _ => none

theorem kind_append? (h k : Holding m) : (h.append? k).map kind = h.kind.append? k.kind := by
  cases h <;> cases k <;> rfl

/-- Two things that are kept have the same shape, and are the same unless they may differ, where the
second has the places of the first renamed. -/
structure Alike (differ : Bool) (ρ : Nat → Nat) (h k : Holding m) : Prop where
  kind : k.kind = (h.rename ρ).kind
  eq : differ = false → k = h.rename ρ

namespace Alike

variable {differ : Bool} {ρ : Nat → Nat} {h k : Holding m}

theorem renamed (differ : Bool) (ρ : Nat → Nat) (h : Holding m) : Alike differ ρ h (h.rename ρ) :=
  ⟨rfl, fun _ => rfl⟩

theorem owner_eq {type : FieldType} {s s' : Schema m type}
    (halike : Alike differ ρ (.schema ⟨type, s⟩) (.schema ⟨type, s'⟩)) : s'.owner = ρ s.owner := by
  injection halike.kind

theorem option {x y : Option (Holding m)}
    (hkind : y.map Holding.kind = (x.map (rename ρ)).map Holding.kind)
    (heq : differ = false → y = x.map (rename ρ)) : Option.Rel (Alike differ ρ) x y := by
  cases x with
  | none =>
      cases y with
      | none => exact .none
      | some k => cases hkind
  | some h =>
      cases y with
      | none => cases hkind
      | some k => exact .some ⟨Option.some.inj hkind, fun hdiffer => Option.some.inj (heq hdiffer)⟩

theorem together {ε α : Type} {x y : Except ε α} {keep : α → Holding m} (renameMade : α → α)
    (hkeep : ∀ a, keep (renameMade a) = (keep a).rename ρ)
    (hkind : Together true (fun a b => (keep b).kind = ((keep a).rename ρ).kind) x y)
    (heq : differ = false → y = x.map renameMade) :
    Together differ (fun a b => Alike differ ρ (keep a) (keep b)) x y := by
  cases hkind with
  | ok hkind =>
      refine .ok ⟨hkind, fun hdiffer => ?_⟩
      rw [← hkeep, ← Except.ok.inj (heq hdiffer)]
  | error _ => exact .error fun hdiffer => Except.error.inj (heq hdiffer)

theorem compiled? (hk : Alike differ ρ h k) {make : List (Rule m) → Holding m}
    (hkind : ∀ rs rs', (make rs').kind = ((make rs).rename ρ).kind)
    (hnatural : Natural fun k : Holding m => k.compiled?.map make) :
    Option.Rel (Alike differ ρ) (h.compiled?.map make) (k.compiled?.map make) := by
  refine option ?_ fun hdiffer => ?_
  · have hshape : k.compiled?.isSome = h.compiled?.isSome := by
      rw [isSome_compiled?, hk.kind, ← isSome_compiled?, compiled?_rename, Option.isSome_map]
    cases hrs : h.compiled? with
    | none =>
        rw [hrs, Option.isSome_none, Option.isSome_eq_false_iff, Option.isNone_iff_eq_none] at hshape
        rw [hshape]
        rfl
    | some rs =>
        rw [hrs] at hshape
        obtain ⟨rs', hrs'⟩ := Option.isSome_iff_exists.mp hshape
        rw [hrs']
        exact congrArg some (hkind rs rs')
  · rw [hk.eq hdiffer]
    exact hnatural ρ h

theorem append? {differ' : Bool} {behind behind' : Holding m} (hk : Alike differ ρ h k)
    (hbehind : Alike differ' ρ behind behind') :
    Option.Rel (Alike (differ || differ') ρ) (h.append? behind) (k.append? behind') := by
  refine option ?_ fun hdiffer => ?_
  · rw [kind_append?, hk.kind, hbehind.kind, ← kind_append?, append?_rename]
  · obtain ⟨hleft, hright⟩ := Bool.or_eq_false_iff.mp hdiffer
    rw [hk.eq hleft, hbehind.eq hright, append?_rename]

end Alike

end Holding

/-! ## Documents -/

namespace RuleSpec

variable {t : FieldType}

/-- Whether a rule can be applied does not depend on the table, nor on what was applied before. -/
theorem together_apply {f g : Factory m} (h : g.registry = f.registry) (place : Nat)
    (s s' : Schema m t) (r : RuleSpec) :
    Together true (fun _ _ => True) (r.apply f place s) (r.apply g place s') := by
  unfold apply
  cases r.kind with
  | none =>
      dsimp only
      split
      · exact .ok trivial
      · exact .errors _ _
  | some kind =>
      dsimp only
      split
      · exact .errors _ _
      · split
        · exact .ok trivial
        · split
          · unfold applyOptional
            cases r.value with
            | none => exact .ok trivial
            | some v =>
                dsimp only
                cases OptionalSpec.ofValue? v with
                | none => exact .errors _ _
                | some spec => exact .ok trivial
          · split
            · unfold applyConstraint
              cases Document.constraint t kind r.value with
              | ok c => exact .ok trivial
              | error fault => cases fault <;> exact .errors _ _
            · unfold applyMethod Schema.invoke
              rw [h]
              cases f.registry.get t kind with
              | ok extension => exact .ok trivial
              | error e => exact .errors _ _

theorem together_applyRules {f g : Factory m} (h : g.registry = f.registry) (place : Nat)
    (s s' : Schema m t) (rs : List RuleSpec) :
    Together true (fun _ _ => True) (Document.applyRules f place s rs)
      (Document.applyRules g place s' rs) := by
  induction rs generalizing place s s' with
  | nil => exact .ok trivial
  | cons r rest ih =>
      unfold Document.applyRules
      rcases (together_apply h place s s' r).ok_or_error with
        ⟨applied, applied', hf, hg, -⟩ | ⟨e, e', hf, hg, -⟩
      · rw [hf, hg]
        exact ih (place + 1) applied applied'
      · rw [hf, hg]
        exact .errors _ _

end RuleSpec

theorem Document.together_build {differ : Bool} {f g : Factory m} (h : Factory.Alike differ f g)
    (ρ : Nat → Nat) (owner : Nat) (d : Document) :
    Together differ (fun s s' => Holding.Alike differ ρ (.schema s) (.schema s')) (d.build owner f)
      (d.build (ρ owner) g) := by
  have howner : ∀ {owner : Nat} {f : Factory m} {s : Schema m d.type},
      applyRules f 0 (d.header owner) d.rules = .ok s → s.owner = owner := by
    intro owner f s hs
    have hbuilt : d.build owner f = .ok ⟨d.type, s⟩ := by
      unfold build
      rw [hs]
    exact List.mem_singleton.mp (owners_build_subset hbuilt List.mem_cons_self)
  refine Holding.Alike.together (AnySchema.rename ρ) (fun s => rfl) ?_ fun hdiffer => ?_
  · unfold build
    rcases (RuleSpec.together_applyRules h.registry 0 (d.header owner) (d.header (ρ owner))
      d.rules).ok_or_error with ⟨s, s', hf, hg, -⟩ | ⟨e, e', hf, hg, -⟩
    · rw [hf, hg]
      refine .ok (congrArg (Holding.Kind.schema d.type) ?_)
      rw [howner hg, ← howner hf]
      rfl
    · rw [hf, hg]
      exact .errors _ _
  · have heq := h.eq hdiffer
    subst heq
    exact d.build_rename owner g

/-! ## Edits -/

theorem Edit.together_apply {t : FieldType} {differ : Bool} {ρ : Nat → Nat} {f g : Factory Id}
    (h : Factory.Alike differ f g) {s s' : Schema Id t}
    (hs : Holding.Alike differ ρ (.schema ⟨t, s⟩) (.schema ⟨t, s'⟩)) (e : Edit Id t) :
    Together differ (fun s s' => Holding.Alike differ ρ (.schema ⟨t, s⟩) (.schema ⟨t, s'⟩))
      (e.apply f s).run (e.apply g s').run := by
  have hkind : ∀ {s s' : Schema Id t}, s'.owner = ρ s.owner →
      (Holding.schema ⟨t, s'⟩).kind = ((Holding.schema ⟨t, s⟩).rename ρ).kind :=
    fun howner => congrArg (Holding.Kind.schema t) howner
  refine Holding.Alike.together (Schema.rename ρ) (fun s => rfl) ?_ fun hdiffer => ?_
  · cases e with
    | invoke name args =>
        show Together true _ (s.invoke f.registry name args) (s'.invoke g.registry name args)
        unfold Schema.invoke
        rw [h.registry]
        cases f.registry.get t name with
        | ok extension => exact .ok (hkind hs.owner_eq)
        | error e => exact .errors _ _
    | _ => exact .ok (hkind hs.owner_eq)
  · have heq := h.eq hdiffer
    subst heq
    obtain rfl : s' = s.rename ρ := by
      injection hs.eq hdiffer with heq
      injection heq with _ heq
    exact e.run_apply_rename g s

end FieldRules

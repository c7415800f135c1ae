/-
# `Proofs.Schema.Stretches` — a schema has one compiled form

Read rule by rule, the rules of a schema spell its items: a compiled rule stands for the descriptors
of its group, a raw rule for itself.  Many lists of rules spell the same items, since a run of
descriptors may be cut anywhere.  `rules_unique` says that the schema's own rules are the only ones
whose groups are neither empty nor side by side.

The argument is about stretches, before any group is made of them.  `Parted` is the invariant of
`Stretch.push`, and a parted list is found again from the items that it spells.
-/
import FieldRules.Schema
import Mathlib.Data.List.Chain

namespace FieldRules

variable {m : Type → Type} {t : FieldType}

/-! ## Stretches and the items that they spell -/

namespace Stretch

def items : Stretch m t → List (Item m t)
  | .run ds => ds.map .descriptor
  | .raw r => [.raw r]

def isRun : Stretch m t → Bool
  | .run _ => true
  | .raw _ => false

@[simp] theorem ofItems_cons (item : Item m t) (rest : List (Item m t)) :
    ofItems (item :: rest) = push item (ofItems rest) := rfl

theorem flatMap_items_push (item : Item m t) (stretches : List (Stretch m t)) :
    (push item stretches).flatMap items = item :: stretches.flatMap items := by
  cases item with
  | raw r => rfl
  | descriptor d =>
      cases stretches with
      | nil => rfl
      | cons first rest => cases first <;> rfl

/-- Cutting items into stretches loses none and keeps their order. -/
theorem flatMap_items_ofItems (is : List (Item m t)) : (ofItems is).flatMap items = is := by
  induction is with
  | nil => rfl
  | cons item rest ih => rw [ofItems_cons, flatMap_items_push, ih]

/-! ## Parted stretches -/

/-- No run is empty, and no two runs stand side by side. -/
structure Parted (stretches : List (Stretch m t)) : Prop where
  nonempty : ∀ ds, .run ds ∈ stretches → ds ≠ []
  apart : stretches.IsChain fun a b => ¬ (a.isRun ∧ b.isRun)

theorem parted_nil : Parted ([] : List (Stretch m t)) :=
  ⟨fun _ h => absurd h List.not_mem_nil, List.isChain_nil⟩

theorem parted_cons_raw {r : FormRule m} {rest : List (Stretch m t)} :
    Parted (.raw r :: rest) ↔ Parted rest := by
  constructor
  · intro h
    exact ⟨fun ds hds => h.nonempty ds (List.mem_cons_of_mem _ hds),
      (List.isChain_cons.mp h.apart).2⟩
  · rintro ⟨hne, hap⟩
    refine ⟨fun ds hds => ?_, List.isChain_cons.mpr ⟨fun _ _ h => ?_, hap⟩⟩
    · rcases List.mem_cons.mp hds with hds | hds
      · cases hds
      · exact hne ds hds
    · exact Bool.noConfusion h.1

theorem parted_cons_run {ds : List (Descriptor m t)} {rest : List (Stretch m t)} :
    Parted (.run ds :: rest) ↔
      ds ≠ [] ∧ (∀ first ∈ rest.head?, first.isRun = false) ∧ Parted rest := by
  constructor
  · intro h
    obtain ⟨hhead, htail⟩ := List.isChain_cons.mp h.apart
    refine ⟨h.nonempty ds List.mem_cons_self, fun first hf => ?_,
      fun es hes => h.nonempty es (List.mem_cons_of_mem _ hes), htail⟩
    have := hhead first hf
    simpa [isRun] using this
  · rintro ⟨hds, hhead, hne, hap⟩
    refine ⟨fun es hes => ?_, List.isChain_cons.mpr ⟨fun first hf h => ?_, hap⟩⟩
    · rcases List.mem_cons.mp hes with hes | hes
      · cases hes
        exact hds
      · exact hne es hes
    · rw [hhead first hf] at h
      exact Bool.noConfusion h.2

theorem parted_push (item : Item m t) {stretches : List (Stretch m t)} (h : Parted stretches) :
    Parted (push item stretches) := by
  cases item with
  | raw r => exact parted_cons_raw.mpr h
  | descriptor d =>
      cases stretches with
      | nil =>
          have hhead : ∀ first ∈ ([] : List (Stretch m t)).head?, first.isRun = false :=
            fun first hf => absurd hf (Option.not_mem_none first)
          exact parted_cons_run.mpr ⟨List.cons_ne_nil _ _, hhead, parted_nil⟩
      | cons first rest =>
          cases first with
          | run ds =>
              obtain ⟨_, hhead, hrest⟩ := parted_cons_run.mp h
              exact parted_cons_run.mpr ⟨List.cons_ne_nil _ _, hhead, hrest⟩
          | raw r =>
              refine parted_cons_run.mpr ⟨List.cons_ne_nil _ _, ?_, h⟩
              rintro _ ⟨⟩
              rfl

theorem parted_ofItems (is : List (Item m t)) : Parted (ofItems is) := by
  induction is with
  | nil => exact parted_nil
  | cons item rest ih => exact parted_push item ih

/-- A run in front of stretches that begin with no run grows by one descriptor after the other. -/
theorem foldr_push_run {ds : List (Descriptor m t)} {rest : List (Stretch m t)} (hds : ds ≠ [])
    (hhead : ∀ first ∈ rest.head?, first.isRun = false) :
    (ds.map Item.descriptor).foldr push rest = .run ds :: rest := by
  induction ds with
  | nil => exact absurd rfl hds
  | cons d ds ih =>
      cases ds with
      | nil =>
          cases rest with
          | nil => rfl
          | cons first rest =>
              cases first with
              | run es => exact Bool.noConfusion (hhead (.run es) rfl)
              | raw r => rfl
      | cons e es =>
          rw [List.map_cons, List.foldr_cons, ih (List.cons_ne_nil _ _)]
          rfl

/-- Parted stretches are the stretches of the items that they spell. -/
theorem ofItems_flatMap_items {stretches : List (Stretch m t)} (h : Parted stretches) :
    ofItems (stretches.flatMap items) = stretches := by
  induction stretches with
  | nil => rfl
  | cons first rest ih =>
      cases first with
      | raw r =>
          show push (.raw r) (ofItems (rest.flatMap items)) = _
          rw [ih (parted_cons_raw.mp h)]
          rfl
      | run ds =>
          obtain ⟨hds, hhead, hrest⟩ := parted_cons_run.mp h
          have hfold : ofItems ((Stretch.run ds :: rest).flatMap items)
              = (ds.map Item.descriptor).foldr push (ofItems (rest.flatMap items)) :=
            List.foldr_append
          rw [hfold, ih hrest, foldr_push_run hds hhead]

/-- A raw rule closes the run before it and leaves the items behind it alone. -/
theorem ofItems_append_raw (xs ys : List (Item m t)) (r : FormRule m) :
    ofItems (xs ++ .raw r :: ys) = ofItems xs ++ .raw r :: ofItems ys := by
  induction xs with
  | nil => rfl
  | cons item xs ih =>
      rw [List.cons_append, ofItems_cons, ofItems_cons, ih]
      cases item with
      | raw q => rfl
      | descriptor d =>
          cases ofItems xs with
          | nil => rfl
          | cons first rest => cases first <;> rfl

end Stretch

/-! ## Rules -/

namespace Schema

open Stretch

/-- `s.Spells rules is`: read rule by rule, the rules are the items.  A compiled rule stands for the
descriptors of its group, which is one of the schema, and a raw rule for itself. -/
inductive Spells (s : Schema m t) : List (Rule m) → List (Item m t) → Prop
  | nil : s.Spells [] []
  | compiled {rules : List (Rule m)} {is : List (Item m t)} (ds : List (Descriptor m t)) :
      s.Spells rules is →
      s.Spells (.compiled (s.group ds) :: rules) (ds.map .descriptor ++ is)
  | raw {rules : List (Rule m)} {is : List (Item m t)} (r : FormRule m) :
      s.Spells rules is → s.Spells (.raw r :: rules) (.raw r :: is)

theorem spells_map_ruleOf (s : Schema m t) (stretches : List (Stretch m t)) :
    s.Spells (stretches.map s.ruleOf) (stretches.flatMap Stretch.items) := by
  induction stretches with
  | nil => exact .nil
  | cons first rest ih =>
      cases first with
      | run ds => exact .compiled ds ih
      | raw r => exact .raw r ih

theorem Spells.exists_stretches {s : Schema m t} {rules : List (Rule m)} {is : List (Item m t)}
    (h : s.Spells rules is) :
    ∃ stretches : List (Stretch m t),
      stretches.map s.ruleOf = rules ∧ stretches.flatMap Stretch.items = is := by
  induction h with
  | nil => exact ⟨[], rfl, rfl⟩
  | compiled ds _ ih =>
      obtain ⟨stretches, rfl, rfl⟩ := ih
      exact ⟨.run ds :: stretches, rfl, rfl⟩
  | raw r _ ih =>
      obtain ⟨stretches, rfl, rfl⟩ := ih
      exact ⟨.raw r :: stretches, rfl, rfl⟩

/-- The rules of parted stretches, told by the rules alone. -/
theorem parted_iff_map_ruleOf (s : Schema m t) (stretches : List (Stretch m t)) :
    Parted stretches ↔
      (∀ g, .compiled g ∈ stretches.map s.ruleOf → g.descriptors ≠ []) ∧
      (stretches.map s.ruleOf).IsChain fun a b => ¬ (a.isCompiled ∧ b.isCompiled) := by
  have hrun : ∀ a : Stretch m t, (s.ruleOf a).isCompiled = a.isRun := by
    intro a
    cases a <;> rfl
  rw [List.isChain_map]
  simp only [hrun]
  constructor
  · rintro ⟨hne, hap⟩
    refine ⟨fun g hg => ?_, hap⟩
    obtain ⟨a, ha, hag⟩ := List.mem_map.mp hg
    cases a with
    | raw r => cases hag
    | run ds =>
        cases hag
        exact hne ds ha
  · rintro ⟨hne, hap⟩
    exact ⟨fun ds hds => hne _ (List.mem_map.mpr ⟨_, hds, rfl⟩), hap⟩

theorem raw_mem_rules_iff {s : Schema m t} {r : FormRule m} :
    .raw r ∈ s.rules ↔ .raw r ∈ s.items := by
  have hitems : Item.raw r ∈ (ofItems s.items).flatMap Stretch.items ↔ .raw r ∈ s.items := by
    rw [flatMap_items_ofItems]
  rw [← hitems, rules, List.mem_map, List.mem_flatMap]
  constructor
  · rintro ⟨a, ha, har⟩
    cases a with
    | run ds => cases har
    | raw q =>
        cases har
        exact ⟨_, ha, List.mem_singleton.mpr rfl⟩
  · rintro ⟨a, ha, har⟩
    cases a with
    | run ds =>
        obtain ⟨d, _, hd⟩ := List.mem_map.mp har
        cases hd
    | raw q =>
        cases List.mem_singleton.mp har
        exact ⟨_, ha, rfl⟩

/-- A compiled rule is the group of some neighbouring items. -/
theorem exists_infix_of_compiled_mem_rules {s : Schema m t} {g : Group m}
    (h : .compiled g ∈ s.rules) :
    ∃ ds : List (Descriptor m t), g = s.group ds ∧ ds.map .descriptor <:+: s.items := by
  obtain ⟨a, ha, hag⟩ := List.mem_map.mp h
  cases a with
  | raw r => cases hag
  | run ds =>
      cases hag
      refine ⟨ds, rfl, ?_⟩
      have hmem : ds.map Item.descriptor ∈ (ofItems s.items).map Stretch.items :=
        List.mem_map.mpr ⟨_, ha, rfl⟩
      have hflat : ((ofItems s.items).map Stretch.items).flatten = s.items :=
        flatMap_items_ofItems s.items
      rw [← hflat]
      exact List.infix_of_mem_flatten hmem

theorem rules_append_raw (s : Schema m t) (xs ys : List (Item m t)) (r : FormRule m) :
    { s with items := xs ++ Item.raw r :: ys }.rules
      = { s with items := xs }.rules ++ Rule.raw r :: { s with items := ys }.rules := by
  show (ofItems (xs ++ .raw r :: ys)).map s.ruleOf
      = (ofItems xs).map s.ruleOf ++ s.ruleOf (.raw r) :: (ofItems ys).map s.ruleOf
  rw [ofItems_append_raw, List.map_append, List.map_cons]

/-- The rules of a schema are the only ones that spell its items with no group empty and no two
groups side by side.  Of these rules, the size of a group is the number of the neighbouring
descriptors that it holds, the raw ones are the raw items unchanged, and every raw item cuts the
rules in two parts that are compiled on their own. -/
theorem rules_unique (s : Schema m t) :
    (∀ rules : List (Rule m), rules = s.rules ↔
      s.Spells rules s.items ∧
      (∀ g, .compiled g ∈ rules → g.descriptors ≠ []) ∧
      rules.IsChain fun a b => ¬ (a.isCompiled ∧ b.isCompiled)) ∧
    (∀ g, .compiled g ∈ s.rules →
      ∃ ds : List (Descriptor m t),
        g = s.group ds ∧ ds.map .descriptor <:+: s.items ∧ g.size = ds.length) ∧
    (∀ r, .raw r ∈ s.rules ↔ .raw r ∈ s.items) ∧
    ∀ (xs ys : List (Item m t)) (r : FormRule m),
      { s with items := xs ++ Item.raw r :: ys }.rules
        = { s with items := xs }.rules ++ Rule.raw r :: { s with items := ys }.rules := by
  refine ⟨fun rules => ⟨?_, ?_⟩, fun g hg => ?_, fun _ => raw_mem_rules_iff,
    rules_append_raw s⟩
  · rintro rfl
    refine ⟨?_, (parted_iff_map_ruleOf s _).mp (parted_ofItems s.items)⟩
    have hspells := spells_map_ruleOf s (ofItems s.items)
    rw [flatMap_items_ofItems] at hspells
    exact hspells
  · rintro ⟨hspells, hne, hap⟩
    obtain ⟨stretches, rfl, hitems⟩ := hspells.exists_stretches
    have hparted : Parted stretches := (parted_iff_map_ruleOf s stretches).mpr ⟨hne, hap⟩
    show stretches.map s.ruleOf = (ofItems s.items).map s.ruleOf
    rw [← hitems, ofItems_flatMap_items hparted]
  · obtain ⟨ds, rfl, hinfix⟩ := exists_infix_of_compiled_mem_rules hg
    exact ⟨ds, rfl, hinfix, rfl⟩

example (s : Schema m t) (a b c : Descriptor m t) (r : FormRule m) :
    { s with items := [.descriptor a, .descriptor b, .raw r, .descriptor c] }.rules
      = [.compiled (s.group [a, b]), Rule.raw r, .compiled (s.group [c])] := rfl

end Schema

end FieldRules

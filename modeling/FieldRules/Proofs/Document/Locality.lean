/-
# `Proofs.Document.Locality` — a document is built rule by rule

The rules of a document are applied to one schema, one after the other.  No rule looks at what the
earlier ones left: it puts items behind theirs and may replace what they exempt, and whether it can
be applied is up to itself.  `RuleSpec.apply_eq` is this for one rule, `applyRules_eq_ok_iff` and
`applyRules_eq_error_iff` for a list of them, and `build_rule_by_rule` compares a document with the
documents that hold one of its rules each, and no header.

The place of a rule is only seen in one error, that of a rule that says nothing; `Error.atPlace`
puts the place in the whole document for the one in the document of the single rule.
-/
import FieldRules.Document.Build
import Mathlib.Data.List.Forall2

namespace FieldRules

open Json (Value)

variable {m : Type → Type} {t : FieldType}

/-! ## Schemas behind one another -/

namespace Schema

/-- The schema with the items of another one behind its own, which exempts what the other one does
if that exempts anything. -/
def followedBy (s part : Schema m t) : Schema m t where
  owner := s.owner
  items := s.items ++ part.items
  exemption := part.exemption.or s.exemption

theorem empty_followedBy (owner : Nat) (items : List (Item m t)) (exemption : Option Exemption) :
    ({ owner } : Schema m t).followedBy ⟨owner, items, exemption⟩ = ⟨owner, items, exemption⟩ := by
  simp [followedBy]

/-- The last of two things that are there, and of those before them. -/
theorem getLast?_cons_or {α : Type} (a : α) (as : List α) (o : Option α) :
    (a :: as).getLast?.or o = as.getLast?.or (some a) := by
  rw [List.getLast?_cons]
  cases as.getLast? <;> rfl

theorem items_foldl_followedBy (s : Schema m t) (parts : List (Schema m t)) :
    (parts.foldl followedBy s).items = s.items ++ parts.flatMap (·.items) := by
  induction parts generalizing s with
  | nil => rw [List.foldl_nil, List.flatMap_nil, List.append_nil]
  | cons part parts ih =>
      rw [List.foldl_cons, ih, List.flatMap_cons]
      exact List.append_assoc _ _ _

theorem owner_foldl_followedBy (s : Schema m t) (parts : List (Schema m t)) :
    (parts.foldl followedBy s).owner = s.owner := by
  induction parts generalizing s with
  | nil => rfl
  | cons part parts ih => exact ih (s.followedBy part)

theorem exemption_foldl_followedBy (s : Schema m t) (parts : List (Schema m t)) :
    (parts.foldl followedBy s).exemption
      = (parts.filterMap (·.exemption)).getLast?.or s.exemption := by
  induction parts generalizing s with
  | nil => rfl
  | cons part parts ih =>
      rw [List.foldl_cons, ih]
      cases hpart : part.exemption with
      | none => simp [followedBy, hpart]
      | some e =>
          rw [List.filterMap_cons_some hpart, getLast?_cons_or]
          simp [followedBy, hpart]

end Schema

/-! ## Exemptions -/

/-- What a specification exempts: `false` names nothing. -/
def OptionalSpec.exemption? : OptionalSpec → Option Exemption
  | .enabled true => some .blank
  | .enabled false => none
  | .values items => some (.listed items)

theorem OptionalSpec.apply_eq (spec : OptionalSpec) (s : Schema m t) :
    spec.apply s = s.followedBy { owner := s.owner, exemption := spec.exemption? } := by
  have hitems : s.items ++ [] = s.items := List.append_nil _
  cases spec with
  | enabled on => cases on <;> simp [apply, exemption?, Schema.followedBy, Schema.exempt]
  | values items => simp [apply, exemption?, Schema.followedBy, Schema.exempt]

/-- What a rule exempts: one of the kind `optional` what its value specifies, or the blank inputs
without a value, and any other nothing. -/
def RuleSpec.exemption? (r : RuleSpec) : Option Exemption :=
  if r.kind = some "optional" then
    match r.value with
    | none => some .blank
    | some v => (OptionalSpec.ofValue? v).bind OptionalSpec.exemption?
  else none

/-! ## One rule -/

/-- The error with a place in it for the one that it names. -/
def Document.Error.atPlace (place : Nat) : Document.Error → Document.Error
  | .emptyRule _ => .emptyRule place
  | e => e

namespace RuleSpec

variable (factory : Factory m) (s : Schema m t) (r : RuleSpec)

theorem applyOptional_eq (place : Nat) :
    r.applyOptional s = match r.applyOptional ({ owner := s.owner } : Schema m t) with
      | .ok part => .ok (s.followedBy part)
      | .error cause => .error (cause.atPlace place) := by
  unfold applyOptional
  cases r.value with
  | none => simp only [OptionalSpec.apply_eq, Schema.empty_followedBy]
  | some v =>
      simp only
      cases OptionalSpec.ofValue? v with
      | none => rfl
      | some spec => simp only [OptionalSpec.apply_eq, Schema.empty_followedBy]

theorem apply_eq (place : Nat) :
    r.apply factory place s = match r.apply factory 0 ({ owner := s.owner } : Schema m t) with
      | .ok part => .ok (s.followedBy part)
      | .error cause => .error (cause.atPlace place) := by
  unfold apply
  cases r.kind with
  | none =>
      cases r.isRaw <;> rfl
  | some kind =>
      simp only
      split
      · rfl
      · split
        · rfl
        · split
          · exact r.applyOptional_eq s place
          · split
            · unfold applyConstraint
              cases Document.constraint t kind r.value with
              | ok c => rfl
              | error fault => cases fault <;> rfl
            · unfold applyMethod Schema.invoke
              cases factory.registry.get t kind <;> rfl

theorem exemption_of_applyOptional {owner : Nat} {part : Schema m t}
    (hkind : r.kind = some "optional")
    (h : r.applyOptional ({ owner } : Schema m t) = .ok part) : part.exemption = r.exemption? := by
  unfold applyOptional at h
  rw [exemption?, if_pos hkind]
  cases hvalue : r.value with
  | none =>
      rw [hvalue] at h
      cases h
      rfl
  | some v =>
      simp only [hvalue] at h ⊢
      cases hspec : OptionalSpec.ofValue? v with
      | none =>
          rw [hspec] at h
          cases h
      | some spec =>
          rw [hspec] at h
          cases h
          rw [OptionalSpec.apply_eq, Schema.empty_followedBy]
          rfl

theorem exemption_of_applyConstraint {owner : Nat} {kind : String} {part : Schema m t}
    (h : r.applyConstraint ({ owner } : Schema m t) kind = .ok part) : part.exemption = none := by
  unfold applyConstraint at h
  split at h <;> cases h
  rfl

theorem exemption_of_applyMethod {owner : Nat} {kind : String} {part : Schema m t}
    (h : r.applyMethod factory ({ owner } : Schema m t) kind = .ok part) : part.exemption = none := by
  unfold applyMethod Schema.invoke at h
  cases hget : factory.registry.get t kind with
  | ok e =>
      rw [hget] at h
      cases h
      rfl
  | error cause =>
      rw [hget] at h
      cases h

theorem exemption_of_apply {owner : Nat} {part : Schema m t}
    (h : r.apply factory 0 ({ owner } : Schema m t) = .ok part) : part.exemption = r.exemption? := by
  unfold apply at h
  cases hkind : r.kind with
  | none =>
      rw [exemption?, if_neg (by rw [hkind]; nofun)]
      simp only [hkind] at h
      split at h <;> cases h
      rfl
  | some kind =>
      simp only [hkind] at h
      by_cases hoptional : kind = "optional"
      · subst hoptional
        split at h
        · cases h
        · exact exemption_of_applyOptional r hkind h
      · rw [exemption?, if_neg fun hsame => hoptional (Option.some.inj (hkind ▸ hsame))]
        split at h
        · cases h
        · split at h
          · cases h
            rfl
          · split at h
            · exact exemption_of_applyConstraint r h
            · exact exemption_of_applyMethod factory r h

/-- A rule with a kind and a field of a form's rule is refused, whatever the kind stands for. -/
theorem apply_of_mixed {kind : String} (hkind : r.kind = some kind) (hraw : r.rawFields ≠ []) :
    r.apply factory 0 s = .error (.invalidParameter t kind
      (", ".intercalate r.rawFields ++ " cannot be combined with a kind")) := by
  unfold apply
  rw [hkind]
  exact if_pos hraw

theorem rawFields_ne_nil_iff :
    r.rawFields ≠ [] ↔
      r.required.isSome ∨ r.min.isSome ∨ r.max.isSome ∨ r.type.isSome := by
  unfold rawFields
  cases r.required <;> cases r.min <;> cases r.max <;> cases r.type <;> simp

end RuleSpec

/-! ## Lists of rules -/

namespace Document

/-- The rule makes this of the schema without items. -/
def Makes (owner : Nat) (factory : Factory m) (r : RuleSpec) (part : Schema m t) : Prop :=
  r.apply factory 0 { owner } = .ok part

theorem exists_makes_of_forall₂ {owner : Nat} {factory : Factory m} {rules : List RuleSpec}
    {parts : List (Schema m t)} (h : List.Forall₂ (Makes owner factory) rules parts) :
    ∀ r ∈ rules, ∃ part : Schema m t, Makes owner factory r part := by
  induction h with
  | nil => exact fun r hr => absurd hr List.not_mem_nil
  | cons hpart _ ih =>
      intro r hr
      rcases List.mem_cons.mp hr with rfl | hr
      · exact ⟨_, hpart⟩
      · exact ih r hr

/-- Rules build a schema if each does for itself, and the schema is what they make, one behind the
other. -/
theorem applyRules_eq_ok_iff (factory : Factory m) (place : Nat) (s built : Schema m t)
    (rules : List RuleSpec) :
    applyRules factory place s rules = .ok built ↔
      ∃ parts, List.Forall₂ (Makes s.owner factory) rules parts ∧
        built = parts.foldl Schema.followedBy s := by
  induction rules generalizing place s with
  | nil =>
      rw [applyRules]
      constructor
      · intro h
        cases h
        exact ⟨[], .nil, rfl⟩
      · rintro ⟨parts, hparts, rfl⟩
        cases hparts
        rfl
  | cons r rest ih =>
      rw [applyRules, r.apply_eq]
      cases hr : r.apply factory 0 ({ owner := s.owner } : Schema m t) with
      | ok part =>
          simp only [ih]
          constructor
          · rintro ⟨parts, hparts, rfl⟩
            exact ⟨part :: parts, .cons hr hparts, rfl⟩
          · rintro ⟨parts, hparts, rfl⟩
            obtain ⟨head, tail, hhead, htail, rfl⟩ := List.forall₂_cons_left_iff.mp hparts
            rw [Makes, hr] at hhead
            cases hhead
            exact ⟨tail, htail, rfl⟩
      | error cause =>
          constructor
          · intro h
            cases h
          · rintro ⟨parts, hparts, -⟩
            obtain ⟨head, tail, hhead, -, -⟩ := List.forall₂_cons_left_iff.mp hparts
            rw [Makes, hr] at hhead
            cases hhead

/-- Rules fail with the error of the first one that fails for itself, with its place in it. -/
theorem applyRules_eq_error_iff (factory : Factory m) (place : Nat) (s : Schema m t)
    (rules : List RuleSpec) (e : Error) :
    applyRules factory place s rules = .error e ↔
      ∃ before r after cause, rules = before ++ r :: after ∧
        (∀ q ∈ before, ∃ part : Schema m t, Makes s.owner factory q part) ∧
        r.apply factory 0 ({ owner := s.owner } : Schema m t) = .error cause ∧
        e = cause.atPlace (place + before.length) := by
  induction rules generalizing place s with
  | nil =>
      rw [applyRules]
      constructor
      · intro h
        cases h
      · rintro ⟨before, r, after, cause, hrules, -⟩
        exact absurd hrules.symm (List.append_ne_nil_of_right_ne_nil _ (List.cons_ne_nil _ _))
  | cons r rest ih =>
      rw [applyRules, r.apply_eq]
      cases hr : r.apply factory 0 ({ owner := s.owner } : Schema m t) with
      | ok part =>
          simp only [ih]
          constructor
          · rintro ⟨before, q, after, cause, rfl, hbefore, hq, rfl⟩
            refine ⟨r :: before, q, after, cause, rfl, ?_, hq, ?_⟩
            · intro p hp
              rcases List.mem_cons.mp hp with rfl | hp
              · exact ⟨part, hr⟩
              · exact hbefore p hp
            · rw [List.length_cons, Nat.add_assoc, Nat.add_comm 1]
          · rintro ⟨before, q, after, cause, hrules, hbefore, hq, rfl⟩
            cases before with
            | nil =>
                -- the first rule can be applied, so another one is the first that fails
                cases hrules
                rw [hr] at hq
                cases hq
            | cons first before =>
                cases hrules
                refine ⟨before, q, after, cause, rfl,
                  fun p hp => hbefore p (List.mem_cons_of_mem _ hp), hq, ?_⟩
                rw [List.length_cons, Nat.add_assoc, Nat.add_comm 1]
      | error cause =>
          constructor
          · intro h
            cases h
            exact ⟨[], r, rest, cause, rfl, fun q hq => absurd hq List.not_mem_nil, hr, rfl⟩
          · rintro ⟨before, q, after, cause', hrules, hbefore, hq, rfl⟩
            cases before with
            | nil =>
                cases hrules
                rw [hr] at hq
                cases hq
                rfl
            | cons first before =>
                cases hrules
                obtain ⟨part, hpart⟩ := hbefore r List.mem_cons_self
                rw [Makes, hr] at hpart
                cases hpart

/-! ## Documents -/

/-- The document with the type of another one, no header, and one rule. -/
def single (d : Document) (r : RuleSpec) : Document := ⟨d.type, none, [r]⟩

theorem header_eq (owner : Nat) (d : Document) :
    (d.header owner : Schema m d.type)
      = { owner, exemption := d.optional.bind OptionalSpec.exemption? } := by
  unfold header
  cases d.optional with
  | none => rfl
  | some spec =>
      simp only [OptionalSpec.apply_eq, Schema.empty_followedBy]
      rfl

theorem build_eq (owner : Nat) (factory : Factory m) (d : Document) :
    d.build owner factory
      = (applyRules factory 0
          ({ owner, exemption := d.optional.bind OptionalSpec.exemption? } : Schema m d.type)
            d.rules).map (AnySchema.mk d.type) := by
  rw [build, header_eq]
  cases applyRules factory 0
    ({ owner, exemption := d.optional.bind OptionalSpec.exemption? } : Schema m d.type) d.rules <;> rfl

theorem build_single (owner : Nat) (factory : Factory m) (d : Document) (r : RuleSpec) :
    (d.single r).build owner factory
      = (r.apply factory 0 ({ owner } : Schema m d.type)).map (AnySchema.mk d.type) := by
  have happly : applyRules factory 0 ({ owner } : Schema m d.type) [r]
      = r.apply factory 0 ({ owner } : Schema m d.type) := by
    simp only [applyRules]
    cases r.apply factory 0 ({ owner } : Schema m d.type) <;> rfl
  rw [build_eq, ← happly]
  rfl

theorem build_single_eq_ok_iff {owner : Nat} {factory : Factory m} {d : Document} {r : RuleSpec}
    {s : AnySchema m} :
    (d.single r).build owner factory = .ok s ↔
      ∃ part : Schema m d.type, Makes owner factory r part ∧ ⟨d.type, part⟩ = s := by
  rw [build_single]
  unfold Makes
  cases r.apply factory 0 ({ owner } : Schema m d.type) <;> simp [Except.map]

theorem build_single_eq_error_iff {owner : Nat} {factory : Factory m} {d : Document} {r : RuleSpec}
    {e : Error} :
    (d.single r).build owner factory = .error e ↔
      r.apply factory 0 ({ owner } : Schema m d.type) = .error e := by
  rw [build_single]
  cases r.apply factory 0 ({ owner } : Schema m d.type) <;> simp [Except.map]

theorem exists_build_single_iff {owner : Nat} {factory : Factory m} {d : Document} {r : RuleSpec} :
    (∃ s, (d.single r).build owner factory = .ok s)
      ↔ ∃ part : Schema m d.type, Makes owner factory r part := by
  simp only [build_single_eq_ok_iff]
  constructor
  · rintro ⟨_, part, hpart, rfl⟩
    exact ⟨part, hpart⟩
  · rintro ⟨part, hpart⟩
    exact ⟨_, part, hpart, rfl⟩

/-- The error of a document is that of the first rule that does not build. -/
theorem build_eq_error_iff {owner : Nat} {factory : Factory m} {d : Document} {e : Error} :
    d.build owner factory = .error e ↔ ∃ before r after cause,
      d.rules = before ++ r :: after ∧
      (∀ q ∈ before, ∃ s, (d.single q).build owner factory = .ok s) ∧
      (d.single r).build owner factory = .error cause ∧ e = cause.atPlace before.length := by
  have hrules := applyRules_eq_error_iff factory 0
    ({ owner, exemption := d.optional.bind OptionalSpec.exemption? } : Schema m d.type) d.rules e
  simp only [Nat.zero_add] at hrules
  simp only [exists_build_single_iff, build_single_eq_error_iff]
  rw [← hrules, build_eq]
  cases applyRules factory 0 _ d.rules <;> simp [Except.map]

/-- What a document builds is what its rules make, behind the header. -/
theorem build_eq_ok_iff {owner : Nat} {factory : Factory m} {d : Document} {s : AnySchema m} :
    d.build owner factory = .ok s ↔ ∃ parts : List (Schema m d.type),
      List.Forall₂ (Makes owner factory) d.rules parts ∧
      s = ⟨d.type, parts.foldl Schema.followedBy
        { owner, exemption := d.optional.bind OptionalSpec.exemption? }⟩ := by
  have hrules := applyRules_eq_ok_iff factory 0
    ({ owner, exemption := d.optional.bind OptionalSpec.exemption? } : Schema m d.type)
  rw [build_eq]
  constructor
  · intro h
    cases happlied : applyRules factory 0 _ d.rules with
    | ok built =>
        rw [happlied] at h
        cases h
        obtain ⟨parts, hparts, rfl⟩ := (hrules _ _).mp happlied
        exact ⟨parts, hparts, rfl⟩
    | error e =>
        rw [happlied] at h
        cases h
  · rintro ⟨parts, hparts, rfl⟩
    rw [(hrules _ _).mpr ⟨parts, hparts, rfl⟩]
    rfl

theorem filterMap_exemption_of_makes {owner : Nat} {factory : Factory m} {rules : List RuleSpec}
    {parts : List (Schema m t)} (h : List.Forall₂ (Makes owner factory) rules parts) :
    parts.filterMap (·.exemption) = rules.filterMap RuleSpec.exemption? := by
  induction h with
  | nil => rfl
  | cons hpart _ ih =>
      rw [List.filterMap_cons, List.filterMap_cons, RuleSpec.exemption_of_apply factory _ hpart, ih]

/-- A document builds exactly if each of its rules does in a document of its own.  The items are
then those of the single rules, one behind the other, and what is exempt is what the last rule says
that exempts anything, or else the header.  If it does not build, the error is that of the first rule
that does not, with the place of the rule in the document.  A rule with a kind and a field of a
form's rule never builds, whatever its kind. -/
theorem build_rule_by_rule (owner : Nat) (factory : Factory m) (d : Document) :
    ((∃ s, d.build owner factory = .ok s) ↔
      ∀ r ∈ d.rules, ∃ s, (d.single r).build owner factory = .ok s) ∧
    (∀ s, d.build owner factory = .ok s → ∃ (built : Schema m d.type) (parts : List (Schema m d.type)),
      s = ⟨d.type, built⟩ ∧
      List.Forall₂ (fun r part => (d.single r).build owner factory = .ok ⟨d.type, part⟩)
        d.rules parts ∧
      built.owner = owner ∧ built.items = parts.flatMap (·.items) ∧
      built.exemption = ((d.rules.filterMap RuleSpec.exemption?).getLast?).or
        (d.optional.bind OptionalSpec.exemption?)) ∧
    (∀ e, d.build owner factory = .error e ↔ ∃ before r after cause,
      d.rules = before ++ r :: after ∧
      (∀ q ∈ before, ∃ s, (d.single q).build owner factory = .ok s) ∧
      (d.single r).build owner factory = .error cause ∧ e = cause.atPlace before.length) ∧
    ∀ (r : RuleSpec) (kind : String), r.kind = some kind →
      (r.required.isSome ∨ r.min.isSome ∨ r.max.isSome ∨ r.type.isSome) →
      (d.single r).build owner factory = .error (.invalidParameter d.type kind
        (", ".intercalate r.rawFields ++ " cannot be combined with a kind")) := by
  refine ⟨⟨?_, ?_⟩, ?_, fun e => build_eq_error_iff, ?_⟩
  · rintro ⟨s, hs⟩ r hr
    obtain ⟨parts, hparts, -⟩ := build_eq_ok_iff.mp hs
    exact exists_build_single_iff.mpr (exists_makes_of_forall₂ hparts r hr)
  · intro hall
    cases hbuild : d.build owner factory with
    | ok s => exact ⟨s, rfl⟩
    | error e =>
        -- the rule that the error comes from would not build for itself
        obtain ⟨before, r, after, cause, hrules, -, hr, -⟩ := build_eq_error_iff.mp hbuild
        obtain ⟨s, hs⟩ := hall r (hrules ▸ List.mem_append_right _ List.mem_cons_self)
        rw [hr] at hs
        cases hs
  · intro s hs
    obtain ⟨parts, hparts, rfl⟩ := build_eq_ok_iff.mp hs
    refine ⟨_, parts, rfl, ?_, ?_, ?_, ?_⟩
    · exact hparts.imp fun r part hpart => build_single_eq_ok_iff.mpr ⟨part, hpart, rfl⟩
    · rw [Schema.owner_foldl_followedBy]
    · rw [Schema.items_foldl_followedBy]
      rfl
    · rw [Schema.exemption_foldl_followedBy, filterMap_exemption_of_makes hparts]
  · intro r kind hkind hraw
    exact build_single_eq_error_iff.mpr
      (r.apply_of_mixed factory { owner } hkind (r.rawFields_ne_nil_iff.mpr hraw))

/-- A rule of the kind `optional` that names nothing leaves the header's exemption; a rule that says
nothing is reported by its place, before the rule behind it that fails for another reason. -/
theorem build_rule_by_rule_of_silent_rule :
    let factory : Factory Id := { messages := .empty }
    let note : RuleSpec := ⟨none, none, some "note", none, none, none, none⟩
    let never : RuleSpec := ⟨some "optional", some (.bool false), none, none, none, none, none⟩
    let silent : RuleSpec := ⟨none, none, none, none, none, none, none⟩
    let mixed : RuleSpec := ⟨some "nope", none, none, some true, none, none, some .array⟩
    let d : Document := ⟨.string, some (.enabled true), [note, never]⟩
    let e : Document := ⟨.string, none, [note, silent, mixed]⟩
    (∃ built : Schema Id .string, d.build 0 factory = .ok ⟨.string, built⟩ ∧
      built.exemption = some .blank) ∧
    e.build 0 factory = .error (.emptyRule 1) ∧
    mixed.kind = some "nope" ∧
    (e.single mixed).build 0 factory = .error
      (.invalidParameter .string "nope" "required, type cannot be combined with a kind") := by
  intro factory note never silent mixed d e
  obtain ⟨-, hok, -, -⟩ := build_rule_by_rule 0 factory d
  obtain ⟨-, -, herror, hmixed⟩ := build_rule_by_rule 0 factory e
  refine ⟨?_, ?_, rfl, ?_⟩
  · obtain ⟨built, parts, hs, -, -, -, hexemption⟩ := hok _ rfl
    cases hs
    exact ⟨_, rfl, hexemption⟩
  · refine (herror _).mpr ⟨[note], silent, [mixed], .emptyRule 0, rfl, ?_, rfl, rfl⟩
    intro q hq
    cases List.mem_singleton.mp hq
    exact ⟨_, rfl⟩
  · exact hmixed mixed "nope" rfl (.inl rfl)

end Document

end FieldRules

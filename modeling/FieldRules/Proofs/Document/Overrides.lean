/-
# `Proofs.Document.Overrides` — the message that a rule brings along

A rule of a document may bring a message of its own, and what becomes of it depends on what the rule
puts in the schema (`RuleSpec.Puts`): the text of the rule that an input is given, the override of a
constraint, or nothing, if the rule calls an added method.

`Document.message_of_first_failure` says what is reported where a rule with a message is the first
that fails.  For a rule of a built-in kind it is the message, unless the input cannot be converted,
which is no failure of the rule.  For one that calls a method it is what the method says, and the
document builds the same schema without the message.
-/
import FieldRules.Proofs.Document.Locality
import FieldRules.Proofs.Schema.Failures

namespace FieldRules

open Json (Value)

variable {m : Type → Type} {t : FieldType}

/-! ## What a rule puts in the schema -/

/-- The kinds that all types have are no names of added methods. -/
theorem ne_of_isBuiltIn_eq_false {kind common : String} (h : t.isBuiltIn kind = false)
    (hcommon : common ∈ commonMethods) : kind ≠ common := by
  rintro rfl
  rw [FieldType.isBuiltIn, List.contains_iff_mem.mpr hcommon] at h
  cases h

namespace RuleSpec

/-- The items that a rule puts: a form's rule, the rule that an input is given, none for an
exemption, a constraint with the message as its override, or the call of a method. -/
inductive Puts (factory : Factory m) (r : RuleSpec) : List (Item m t) → Prop where
  | form : r.kind = none → Puts factory r [.raw r.toForm]
  | required : r.kind = some "required" →
      Puts factory r [.raw (.require (r.message.getD factory.messages.required))]
  | exemption : r.kind = some "optional" → Puts factory r []
  | constraint {kind : String} (c : t.Constraint) : r.kind = some kind → kind ≠ "required" →
      kind ≠ "optional" → t.isBuiltIn kind = true →
      Puts factory r [.descriptor (.check c r.override)]
  | method {kind : String} {extension : Extension m} : r.kind = some kind →
      t.isBuiltIn kind = false → factory.registry.get t kind = .ok extension →
      Puts factory r [.descriptor (.custom fun _ input => extension input r.args)]

variable {factory : Factory m} {r : RuleSpec}

theorem items_of_applyOptional {owner : Nat} {part : Schema m t}
    (h : r.applyOptional ({ owner } : Schema m t) = .ok part) : part.items = [] := by
  have hspec : ∀ spec : OptionalSpec, (spec.apply ({ owner } : Schema m t)).items = [] := by
    intro spec
    rw [spec.apply_eq, Schema.empty_followedBy]
  unfold applyOptional at h
  cases hvalue : r.value with
  | none =>
      rw [hvalue] at h
      cases h
      exact hspec _
  | some v =>
      simp only [hvalue] at h
      split at h
      · cases h
        exact hspec _
      · cases h

theorem items_of_applyConstraint {owner : Nat} {kind : String} {part : Schema m t}
    (h : r.applyConstraint ({ owner } : Schema m t) kind = .ok part) :
    ∃ c, part.items = [.descriptor (.check c r.override)] := by
  unfold applyConstraint at h
  split at h
  · next c _ =>
      cases h
      exact ⟨c, rfl⟩
  · cases h
  · cases h

theorem items_of_applyMethod {owner : Nat} {kind : String} {part : Schema m t}
    (h : r.applyMethod factory ({ owner } : Schema m t) kind = .ok part) :
    ∃ extension, factory.registry.get t kind = .ok extension ∧
      part.items = [.descriptor (.custom fun _ input => extension input r.args)] := by
  unfold applyMethod Schema.invoke at h
  cases hget : factory.registry.get t kind with
  | ok extension =>
      rw [hget] at h
      cases h
      exact ⟨extension, rfl, rfl⟩
  | error cause =>
      rw [hget] at h
      cases h

theorem puts_of_apply {owner : Nat} {part : Schema m t}
    (h : r.apply factory 0 ({ owner } : Schema m t) = .ok part) :
    r.Puts factory part.items := by
  unfold apply at h
  cases hkind : r.kind with
  | none =>
      simp only [hkind] at h
      split at h
      · cases h
        exact .form hkind
      · cases h
  | some kind =>
      simp only [hkind] at h
      by_cases hrequired : kind = "required"
      · subst hrequired
        split at h
        · cases h
        · cases h
          exact .required hkind
      · by_cases hoptional : kind = "optional"
        · subst hoptional
          split at h
          · cases h
          · rw [items_of_applyOptional h]
            exact .exemption hkind
        · rw [if_neg hrequired, if_neg hoptional] at h
          split at h
          · cases h
          · split at h
            · next hbuiltIn =>
                obtain ⟨c, hitems⟩ := items_of_applyConstraint h
                exact hitems ▸ .constraint c hkind hrequired hoptional hbuiltIn
            · next hadded =>
                obtain ⟨extension, hget, hitems⟩ := items_of_applyMethod h
                exact hitems ▸ .method hkind (Bool.eq_false_iff.mpr hadded) hget

/-- A rule puts one item, or none if it is of the kind `optional`. -/
theorem Puts.length_eq {items : List (Item m t)} (h : r.Puts factory items) :
    items.length = if r.kind = some "optional" then 0 else 1 := by
  cases h with
  | form hkind => simp [hkind]
  | required hkind => simp [hkind]
  | exemption hkind => simp [hkind]
  | constraint c hkind _ hoptional _ => simp [hkind, hoptional]
  | method hkind hadded _ =>
      have hoptional := ne_of_isBuiltIn_eq_false hadded (by decide : "optional" ∈ commonMethods)
      simp [hkind, hoptional]

/-- The message of a rule that calls a method is not looked at. -/
theorem apply_without_message (place : Nat) (s : Schema m t) {kind : String}
    (hkind : r.kind = some kind) (hadded : t.isBuiltIn kind = false) :
    apply factory place s { r with message := none } = r.apply factory place s := by
  have hrequired := ne_of_isBuiltIn_eq_false hadded (by decide : "required" ∈ commonMethods)
  simp only [apply, hkind, hrequired, if_false, hadded]
  rfl

end RuleSpec

namespace Document

theorem applyRules_congr {factory : Factory m} {r r' : RuleSpec}
    (h : ∀ place (s : Schema m t), r'.apply factory place s = r.apply factory place s)
    (before after : List RuleSpec) (place : Nat) (s : Schema m t) :
    applyRules factory place s (before ++ r' :: after)
      = applyRules factory place s (before ++ r :: after) := by
  induction before generalizing place s with
  | nil => simp only [List.nil_append, applyRules, h]
  | cons q before ih => simp only [List.cons_append, applyRules, ih]

/-- A rule may be put in the place of one that does the same. -/
theorem build_congr {owner : Nat} {factory : Factory m} {d : Document} {before after : List RuleSpec}
    {r r' : RuleSpec} (hrules : d.rules = before ++ r :: after)
    (h : ∀ place (s : Schema m d.type), r'.apply factory place s = r.apply factory place s) :
    ({ d with rules := before ++ r' :: after } : Document).build owner factory
      = d.build owner factory := by
  rw [build_eq, build_eq, hrules, ← applyRules_congr h]

/-- The place of the item that a rule puts behind those of other rules. -/
def itemPlace (before : List RuleSpec) : Nat := before.countP (·.kind ≠ some "optional")

theorem length_flatMap_items {owner : Nat} {factory : Factory m} {before : List RuleSpec}
    {parts : List (Schema m t)} (h : List.Forall₂ (Makes owner factory) before parts) :
    (parts.flatMap (·.items)).length = itemPlace before := by
  induction h with
  | nil => rfl
  | @cons r part before parts hpart _ ih =>
      rw [List.flatMap_cons, List.length_append, ih, (RuleSpec.puts_of_apply hpart).length_eq,
        itemPlace, itemPlace, List.countP_cons, Nat.add_comm]
      by_cases hkind : r.kind = some "optional"
      · simp [hkind]
      · simp [hkind]

/-- The items of a rule stand behind those of the rules before it. -/
theorem exists_puts {owner : Nat} {factory : Factory m} {d : Document} {s : Schema m d.type}
    (hbuild : d.build owner factory = .ok ⟨d.type, s⟩) {before after : List RuleSpec} {r : RuleSpec}
    (hrules : d.rules = before ++ r :: after) :
    ∃ front items back, s.items = front ++ items ++ back ∧ front.length = itemPlace before ∧
      r.Puts factory items := by
  obtain ⟨parts, hparts, hs⟩ := build_eq_ok_iff.mp hbuild
  cases hs
  rw [hrules] at hparts
  have hfront := List.forall₂_take before.length hparts
  have hback := List.forall₂_drop before.length hparts
  rw [List.take_left] at hfront
  rw [List.drop_left] at hback
  obtain ⟨part, behind, hpart, -, hdrop⟩ := List.forall₂_cons_left_iff.mp hback
  refine ⟨(parts.take before.length).flatMap (·.items), part.items, behind.flatMap (·.items), ?_,
    length_flatMap_items hfront, RuleSpec.puts_of_apply hpart⟩
  rw [Schema.items_foldl_followedBy, List.nil_append, List.append_assoc,
    ← List.flatMap_cons, ← List.flatMap_append, ← hdrop, List.take_append_drop]

end Document

/-! ## Items that say one thing -/

section Reworded

variable {α : Type}

/-- The first report with another text for what stands at a place. -/
def reworded (place : Nat) (text : String) : Option (Nat × String) → Option (Nat × String) :=
  Option.map fun p => (p.1, if p.1 = place then text else p.2)

variable [Monad m]

/-- A report says nothing but a text: if there is one, it is the text. -/
def Says (text : String) (report : m (Option String)) : Prop :=
  Option.map (fun _ => text) <$> report = report

variable [LawfulMonad m]

/-- If what stands at a place says nothing but a text, then nothing else is the first report where it
is found there. -/
theorem reworded_firstPlaced {f : α → m (Option String)} {text : String} {place : Nat}
    {xs : List α} (start : Nat)
    (h : ∀ i x, xs[i]? = some x → start + i = place → Says text (f x)) :
    reworded place text <$> firstPlaced f xs start = firstPlaced f xs start := by
  induction xs generalizing start with
  | nil => simp only [firstPlaced, List.zipIdx_nil, List.findSomeM?_nil, map_pure, reworded,
      Option.map_none]
  | cons x xs ih =>
      have hrest := ih (start + 1) fun i y hy hi => h (i + 1) y hy (by omega)
      rw [firstPlaced_cons, map_bind]
      by_cases hstart : start = place
      · have hsays : Option.map (fun _ => text) <$> f x = f x := h 0 x rfl hstart
        rw [← hsays, bind_map_left, bind_map_left]
        refine bind_congr fun report => ?_
        cases report with
        | none => exact hrest
        | some b => simp [reworded, hstart]
      · refine bind_congr fun report => ?_
        cases report with
        | none => exact hrest
        | some b => simp [reworded, hstart]

end Reworded

namespace Schema

variable [Monad m] [LawfulMonad m] (s : Schema m t) (tables : Tables) (input : Value)

theorem says_report_require {text : String} (htext : text ≠ "") :
    Says text (s.report tables input (.raw (.require text))) := by
  have hmessage : ∀ shortfall,
      (FormRule.require text : FormRule m).shortfallMessage (tables s.owner) shortfall = text := by
    intro shortfall
    have hkept : (!text.isEmpty) = true := by simpa using htext
    simp [Rule.Declaration.shortfallMessage, FormRule.require, Option.filter, hkept]
  show Says text (FormRule.report tables s.owner input (.require text))
  unfold Says FormRule.report
  cases (FormRule.require text : FormRule m).shortfall? input with
  | none => exact map_pure _ _
  | some shortfall => simp [hmessage]

/-- A constraint with a message that is not empty says the message, unless the input cannot be
converted. -/
theorem says_report_check (c : t.Constraint) {text : String} (htext : text ≠ "") :
    Says (if (t.coerce? input).isSome then text else (tables s.owner).typeFailure t)
      (s.report tables input (.descriptor (.check c (some (.literal text))))) := by
  show Option.map _ <$> s.descriptorReport tables input _ = s.descriptorReport tables input _
  cases hex : s.exemption.any (·.covers input) with
  | true =>
      rw [descriptorReport_of_exempt tables _ hex]
      exact map_pure _ _
  | false =>
      cases hco : t.coerce? input with
      | none =>
          rw [descriptorReport_of_coerce?_eq_none tables _ hex hco]
          simp
      | some value =>
          rw [descriptorReport_of_coerce?_eq_some tables _ hex hco, Descriptor.report,
            Option.isSome_some, if_pos rfl]
          split
          · exact map_pure _ _
          · simp [Failure.message, htext]

end Schema

namespace RuleSpec.Puts

variable {factory : Factory m} {r : RuleSpec} {items : List (Item m t)} {kind : String}

theorem exists_extension (h : r.Puts factory items) (hkind : r.kind = some kind)
    (hadded : t.isBuiltIn kind = false) :
    ∃ extension, factory.registry.get t kind = .ok extension ∧
      items = [.descriptor (.custom fun _ input => extension input r.args)] := by
  cases h with
  | form hnone =>
      rw [hkind] at hnone
      cases hnone
  | required hrequired =>
      rw [hkind] at hrequired
      exact absurd (Option.some.inj hrequired) (ne_of_isBuiltIn_eq_false hadded (by decide))
  | exemption hoptional =>
      rw [hkind] at hoptional
      exact absurd (Option.some.inj hoptional) (ne_of_isBuiltIn_eq_false hadded (by decide))
  | constraint c hsame _ _ hbuiltIn =>
      rw [hkind] at hsame
      cases hsame
      rw [hadded] at hbuiltIn
      cases hbuiltIn
  | method hsame _ hget =>
      rw [hkind] at hsame
      cases hsame
      exact ⟨_, hget, rfl⟩

/-- A rule of a built-in kind with a message puts an item that says the message, or that the input
cannot be converted. -/
theorem exists_said [Monad m] [LawfulMonad m] (h : r.Puts factory items) (hkind : r.kind = some kind)
    (hoptional : kind ≠ "optional") (hbuiltIn : t.isBuiltIn kind = true) {text : String}
    (hmessage : r.message = some text) (htext : text ≠ "") :
    ∃ item, items = [item] ∧ ∀ (s : Schema m t) (tables : Tables) (input : Value),
      Says (if kind = "required" ∨ (t.coerce? input).isSome then text else (tables s.owner).typeFailure t)
        (s.report tables input item) := by
  cases h with
  | form hnone =>
      rw [hkind] at hnone
      cases hnone
  | required hrequired =>
      rw [hkind] at hrequired
      cases hrequired
      rw [hmessage]
      exact ⟨_, rfl, fun s tables input => s.says_report_require tables input htext⟩
  | exemption hexempt =>
      rw [hkind] at hexempt
      exact absurd (Option.some.inj hexempt) hoptional
  | constraint c hsame hrequired _ _ =>
      rw [hkind] at hsame
      cases hsame
      rw [RuleSpec.override, hmessage]
      simp only [hrequired, false_or]
      exact ⟨_, rfl, fun s tables input => s.says_report_check tables input c htext⟩
  | method hsame hadded _ =>
      rw [hkind] at hsame
      cases hsame
      rw [hbuiltIn] at hadded
      cases hadded

end RuleSpec.Puts

namespace Document

variable [Monad m] [LawfulMonad m]

/-- What is reported where a rule with a message is the first that fails.  If its kind is built in,
it is the message, or the table's text for an input that cannot be converted.  If its kind is the
name of a method, the method alone decides, and the message may as well be left out. -/
theorem message_of_first_failure {owner : Nat} {factory : Factory m} {d : Document}
    {s : Schema m d.type} (hbuild : d.build owner factory = .ok ⟨d.type, s⟩)
    {before after : List RuleSpec} {r : RuleSpec} (hrules : d.rules = before ++ r :: after)
    {kind text : String} (hkind : r.kind = some kind)
    (hoptional : kind ≠ "optional") (hmessage : r.message = some text) (htext : text ≠ "")
    (tables : Tables) (input : Value) :
    s.check tables input = Option.map Prod.snd <$> s.firstFailure tables input s.items ∧
    (d.type.isBuiltIn kind = true →
      reworded (itemPlace before)
          (if kind = "required" ∨ (d.type.coerce? input).isSome then text
            else (tables s.owner).typeFailure d.type)
          <$> s.firstFailure tables input s.items
        = s.firstFailure tables input s.items) ∧
    (d.type.isBuiltIn kind = false → ∃ extension,
      factory.registry.get d.type kind = .ok extension ∧
      s.items[itemPlace before]?
        = some (.descriptor (.custom fun _ input => extension input r.args)) ∧
      ({ d with rules := before ++ { r with message := none } :: after } : Document).build owner factory
        = .ok ⟨d.type, s⟩) := by
  obtain ⟨front, items, back, hitems, hplace, hputs⟩ := exists_puts hbuild hrules
  have hat : ∀ item, items = [item] → s.items[itemPlace before]? = some item := by
    rintro item rfl
    rw [hitems, ← hplace, List.append_assoc, List.getElem?_append_right (Nat.le_refl _),
      Nat.sub_self]
    rfl
  refine ⟨?_, fun hbuiltIn => ?_, fun hadded => ?_⟩
  · rw [Schema.firstFailure, map_snd_firstPlaced, Schema.check_eq_findSomeM?]
  · obtain ⟨item, hitem, hsaid⟩ := hputs.exists_said hkind hoptional hbuiltIn hmessage htext
    refine reworded_firstPlaced 0 fun i other hother hi => ?_
    rw [← Nat.zero_add i, hi, hat item hitem] at hother
    cases hother
    exact hsaid s tables input
  · obtain ⟨extension, hget, hitem⟩ := hputs.exists_extension hkind hadded
    refine ⟨extension, hget, hat _ hitem, ?_⟩
    rw [← hbuild]
    exact build_congr hrules fun place s => r.apply_without_message place s hkind hadded

/-- Behind an exemption and the rule that an input is given, the message of a constraint counts, with
a table that holds nothing. -/
theorem message_of_first_failure_of_min :
    let factory : Factory Id := {}
    let dash : RuleSpec := ⟨some "optional", some (.array [.string "-"]), none, none, none, none, none⟩
    let given : RuleSpec := ⟨some "required", none, some "give", none, none, none, none⟩
    let short : RuleSpec := ⟨some "min", some (.ofNat 3), some "short", none, none, none, none⟩
    let d : Document := ⟨.string, none, [dash, given, short]⟩
    ∃ s : Schema Id .string, d.build 0 factory = .ok ⟨.string, s⟩ ∧
      d.rules = [dash, given] ++ [short] ∧ short.kind = some "min" ∧ short.message = some "short" ∧
      Id.run (s.firstFailure (fun _ => .empty) (.string "ab") s.items) = some (1, "short") ∧
      Id.run (s.check (fun _ => .empty) (.string "ab"))
        = (Id.run (s.firstFailure (fun _ => .empty) (.string "ab") s.items)).map Prod.snd ∧
      reworded 1 "short" (Id.run (s.firstFailure (fun _ => .empty) (.string "ab") s.items))
        = Id.run (s.firstFailure (fun _ => .empty) (.string "ab") s.items) := by
  intro factory dash given short d
  refine ⟨_, rfl, rfl, rfl, rfl, rfl, ?_⟩
  · obtain ⟨hcheck, hbuiltIn, -⟩ := @message_of_first_failure Id _ _ 0 factory d _ rfl [dash, given] []
      short rfl "min" "short" rfl (by decide) rfl (by decide) (fun _ => .empty) (.string "ab")
    exact ⟨hcheck, hbuiltIn (by decide)⟩

/-- The message of a rule that calls a method is never shown, whatever the table holds. -/
theorem method_message_is_not_shown :
    let factory : Factory Id :=
      { registry := Registry.empty.put .string "forbidden" fun _ _ => some "bad" }
    let r : RuleSpec := ⟨some "forbidden", none, some "m", none, none, none, none⟩
    let d : Document := ⟨.string, none, [r]⟩
    ∃ s : Schema Id .string, d.build 0 factory = .ok ⟨.string, s⟩ ∧ ∀ tables,
      Id.run (s.firstFailure tables (.string "x") s.items) = some (0, "bad") ∧
      Id.run (s.check tables (.string "x")) = some "bad" := by
  intro factory r d
  refine ⟨_, rfl, fun tables => ⟨rfl, rfl⟩⟩

end Document

end FieldRules

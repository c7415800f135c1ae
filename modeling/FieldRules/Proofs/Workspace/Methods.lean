/-
# `Proofs.Workspace.Methods` — which methods a factory has

The methods of a factory are added and replaced under any of its names.  `methods_after_calls` tells
what the registry of a factory that began without methods is after any calls, and what one more call
answers: it is decided by the calls that succeeded, and the reserved names are never among them.

The last point keeps documents unambiguous.  A kind of a rule is looked up among the built-in
constraints and the methods, and no kind is found in both (`Document.constraint_of_not_builtIn`).
-/
import FieldRules.Proofs.Registry.Installations
import FieldRules.Proofs.Workspace.Calls

namespace FieldRules

open Json (Value)

variable {m : Type → Type}

/-! ## Kinds of documents -/

theorem Document.constraint_of_not_builtIn {t : FieldType} {kind : String}
    (h : t.isBuiltIn kind = false) (p : Document.Parameter) :
    Document.constraint t kind p = .error Document.unsupported := by
  -- every kind that is read is in the list of reserved names
  cases t with
  | string =>
      show Document.textConstraint kind p = _
      unfold Document.textConstraint
      split
      all_goals first | rfl | exact absurd h (by decide)
  | number =>
      show Document.numberConstraint kind p = _
      unfold Document.numberConstraint
      split
      all_goals first | rfl | exact absurd h (by decide)
  | array =>
      show Document.listConstraint kind p = _
      unfold Document.listConstraint
      split
      all_goals first | rfl | exact absurd h (by decide)

/-- A rule of a kind that is not reserved calls the method of that name. -/
theorem RuleSpec.apply_of_registered {f : Factory m} {t : FieldType} {kind : String}
    {e : Extension m} (hkind : t.isBuiltIn kind = false) (he : f.registry.find? t kind = some e)
    {q : RuleSpec} (hq : q.kind = some kind) (hraw : q.rawFields = []) (place : Nat)
    (s : Schema m t) :
    q.apply f place s = .ok (s.custom fun _ input => e input q.args) := by
  have hcommon : kind ≠ "required" ∧ kind ≠ "optional" := by
    constructor
    · rintro rfl
      cases t <;> cases hkind
    · rintro rfl
      cases t <;> cases hkind
  have hinvoke : s.invoke f.registry kind q.args
      = .ok (s.custom fun _ input => e input q.args) := by
    rw [Schema.invoke, Registry.get, he]
    rfl
  simp only [RuleSpec.apply, hq, hraw, ne_eq, not_true, if_false, hcommon.1, hcommon.2, hkind,
    Bool.false_eq_true, RuleSpec.applyMethod, hinvoke]

namespace Workspace

/-! ## Calls -/

/-- The registry of a factory at a place after calls is what their installations make of it. -/
theorem registry_afterAll {w : Workspace m} {place : Nat} {f : Factory m}
    (h : w.factories[place]? = some f) (calls : List (FactoryCall m)) :
    ∃ g, (w.afterAll calls).factories[place]? = some g ∧ g.registry = f.registry.afterAll
      ((w.changesAt place calls).filterMap Factory.Change.installation?) := by
  refine ⟨f.afterAll (w.changesAt place calls), ?_, f.registry_afterAll _⟩
  rw [factories_afterAll, h]
  rfl

theorem changeFactory_install {w : Workspace m} {place : Nat} {g : Factory m} {handle : String}
    (hname : w.names.get? handle = some place) (hg : w.factories[place]? = some g)
    (i : Registry.Installation m) :
    w.changeFactory handle (.install i) = match g.registry.install i with
      | .ok (registry, none) => (.done, w.setFactory place { g with registry })
      | .ok (registry, some before) => (.replaced before, w.setFactory place { g with registry })
      | .error e => (.badMethod e, w) := by
  have hfactory : w.factory? handle = some (place, g) := by
    rw [factory?, hname]
    show ((w.factories[place]?).bind fun f => some (place, f)) = _
    rw [hg]
    rfl
  unfold changeFactory Factory.change
  rw [hfactory]
  dsimp only
  cases g.registry.install i with
  | error e => rfl
  | ok installed =>
      obtain ⟨registry, before⟩ := installed
      cases before <;> rfl

section OneCall

variable {w : Workspace m} {place : Nat} {g : Factory m} {handle : String}
  (hname : w.names.get? handle = some place) (hg : w.factories[place]? = some g)

include hname hg

theorem changeFactory_add_eq_done_iff (t : FieldType) (name : String) (e : Extension m) :
    (w.changeFactory handle (.install (.add t name e))).1 = .done ↔
      t.isBuiltIn name = false ∧ g.registry.contains t name = false := by
  rw [changeFactory_install hname hg, Registry.install_add]
  cases t.isBuiltIn name <;> cases g.registry.contains t name <;> simp

theorem changeFactory_replace_eq_replaced_iff (t : FieldType) (name : String) (e : Extension m)
    (before : Bool) :
    (w.changeFactory handle (.install (.replace t name e))).1 = .replaced before ↔
      t.isBuiltIn name = false ∧ before = g.registry.contains t name := by
  rw [changeFactory_install hname hg, Registry.install_replace]
  cases t.isBuiltIn name <;> simp [eq_comm]

/-- A call that is refused, which is when the registry does not accept it, leaves everything, and one
that succeeds leaves the other names. -/
theorem changeFactory_install_frame (i : Registry.Installation m) :
    ∃ h, (w.changeFactory handle (.install i)).2.factories[place]? = some h ∧
      (w.changeFactory handle (.install i)).1.isRefusal = !g.registry.accepts i ∧
      ((w.changeFactory handle (.install i)).1.isRefusal = true →
        (w.changeFactory handle (.install i)).2 = w) ∧
      ((w.changeFactory handle (.install i)).1.isRefusal = false →
        h.registry.find? i.type i.name = some i.method) ∧
      ∀ t name, (t, name) ≠ (i.type, i.name) →
        h.registry.find? t name = g.registry.find? t name := by
  rw [changeFactory_install hname hg, Registry.accepts]
  cases hi : g.registry.install i with
  | error e => exact ⟨g, hg, rfl, fun _ => rfl, nofun, fun _ _ _ => rfl⟩
  | ok installed =>
      obtain ⟨registry, before⟩ := installed
      obtain ⟨_, rfl⟩ := Registry.install_eq_ok hi
      have hset : (w.setFactory place
          { g with registry := g.registry.put i.type i.name i.method }).factories[place]?
          = some { g with registry := g.registry.put i.type i.name i.method } := by
        obtain ⟨hlt, _⟩ := List.getElem?_eq_some_iff.mp hg
        exact List.getElem?_set_self hlt
      have hself := g.registry.find?_put_self i.type i.name i.method
      have hother : ∀ t name, (t, name) ≠ (i.type, i.name) →
          (g.registry.put i.type i.name i.method).find? t name = g.registry.find? t name :=
        fun t name hne => g.registry.find?_put_of_ne hne i.method
      cases before with
      | none => exact ⟨_, hset, rfl, nofun, fun _ => hself, hother⟩
      | some before => exact ⟨_, hset, rfl, nofun, fun _ => hself, hother⟩

end OneCall

/-- A factory that began without methods, and calls on it or on others, under whatever names.

No reserved name is ever registered, so that a kind of a document that is registered is no built-in
kind; a rule of that kind calls the method.  A name is registered when some call for it succeeded,
and stands for the method of the last that did.  The names of a type are listed once each and in
order.  One more call under a name of the factory succeeds as it should, leaves everything as it was
if it is refused, and leaves every other name of every type alone. -/
theorem methods_after_calls [Monad m] [LawfulMonad m] (w : Workspace m)
    (calls : List (FactoryCall m)) {place : Nat} {f : Factory m}
    (hplace : w.factories[place]? = some f) (hempty : f.registry = Registry.empty) :
    let v := w.afterAll calls
    let made := Registry.empty.accepted
      ((w.changesAt place calls).filterMap Factory.Change.installation?)
    (∃ answers, w.run (calls.map FactoryCall.operation) = pure (answers, v)) ∧
    ∃ g, v.factories[place]? = some g ∧
      (∀ t name, t.isBuiltIn name = true → g.registry.contains t name = false) ∧
      (∀ t kind e, g.registry.find? t kind = some e →
        (∀ p, Document.constraint t kind p = .error Document.unsupported) ∧
        ∀ (q : RuleSpec) (n : Nat) (s : Schema m t), q.kind = some kind → q.rawFields = [] →
          q.apply g n s = .ok (s.custom fun _ input => e input q.args)) ∧
      (∀ t name, g.registry.contains t name = true ↔ ∃ i ∈ made, i.type = t ∧ i.name = name) ∧
      (∀ t name, g.registry.get t name
        = match Registry.lastMethod made t name with
          | some e => .ok e
          | none => .error (.unknownMethod t name)) ∧
      (∀ t, (g.registry.names t).Pairwise (· < ·) ∧
        ∀ name, name ∈ g.registry.names t ↔ g.registry.contains t name = true) ∧
      ∀ handle, v.names.get? handle = some place →
        (∀ t name e, (v.changeFactory handle (.install (.add t name e))).1 = .done ↔
          t.isBuiltIn name = false ∧ g.registry.contains t name = false) ∧
        (∀ t name e before,
          (v.changeFactory handle (.install (.replace t name e))).1 = .replaced before ↔
          t.isBuiltIn name = false ∧ before = g.registry.contains t name) ∧
        ∀ i : Registry.Installation m, ∃ h,
          (v.changeFactory handle (.install i)).2.factories[place]? = some h ∧
          (v.changeFactory handle (.install i)).1.isRefusal = !g.registry.accepts i ∧
          ((v.changeFactory handle (.install i)).1.isRefusal = true →
            (v.changeFactory handle (.install i)).2 = v) ∧
          ((v.changeFactory handle (.install i)).1.isRefusal = false →
            h.registry.find? i.type i.name = some i.method) ∧
          ∀ t name, (t, name) ≠ (i.type, i.name) →
            h.registry.find? t name = g.registry.find? t name := by
  intro v made
  obtain ⟨g, hg, hregistry⟩ := registry_afterAll hplace calls
  rw [hempty] at hregistry
  have hwell : g.registry.WellFormed := by
    rw [hregistry]
    exact Registry.WellFormed.empty.afterAll _
  have hfind : ∀ t name, g.registry.find? t name = Registry.lastMethod made t name := by
    intro t name
    rw [hregistry, Registry.find?_afterAll]
    exact Option.or_none
  refine ⟨w.run_operations calls, g, hg, hwell.reserved, ?_, ?_, ?_, ?_, ?_⟩
  · intro t kind e he
    have hkind : t.isBuiltIn kind = false := by
      cases hreserved : t.isBuiltIn kind with
      | false => rfl
      | true =>
          have hfree := hwell.reserved t kind hreserved
          rw [Registry.contains, he] at hfree
          cases hfree
    exact ⟨Document.constraint_of_not_builtIn hkind, fun q n s hq hraw =>
      RuleSpec.apply_of_registered hkind he hq hraw n s⟩
  · intro t name
    rw [Registry.contains, hfind]
    exact Registry.lastMethod_isSome_iff made t name
  · intro t name
    have hfound := hfind t name
    unfold Registry.get
    cases hmade : Registry.lastMethod made t name <;> rw [hmade] at hfound <;> simp only [hfound]
  · exact fun t => ⟨hwell.ascending t, g.registry.mem_names_iff t⟩
  · intro handle hname
    exact ⟨changeFactory_add_eq_done_iff hname hg, changeFactory_replace_eq_replaced_iff hname hg,
      changeFactory_install_frame hname hg⟩

/-- Two names of one factory: a method is added under one and replaced under the other, and a
reserved name is refused. -/
theorem methods_after_calls_under_two_names :
    let first : Extension Id := fun _ _ => some "first"
    let second : Extension Id := fun _ _ => some "second"
    let f : Factory Id := { messages := .empty }
    let w : Workspace Id := .start "main" f
    let calls : List (FactoryCall Id) := [
      .share "main" "copy",
      .change "copy" (.install (.add .string "word" first)),
      .change "main" (.install (.add .string "min" first)),
      .change "main" (.install (.replace .string "word" second)),
      .change "copy" (.install (.add .number "email" first))]
    w.factories[0]? = some f ∧ f.registry = Registry.empty ∧
      ∃ g, (w.afterAll calls).factories[0]? = some g ∧
        g.registry.get .string "word" = .ok second ∧
        g.registry.contains .string "min" = false ∧
        g.registry.contains .string "email" = false ∧
        "email" ∈ g.registry.names .number := by
  intro first second f w calls
  have hplace : w.factories[0]? = some f := rfl
  obtain ⟨_, g, hg, hreserved, _, hcontains, hget, hnames, _⟩ :=
    methods_after_calls w calls hplace rfl
  refine ⟨rfl, rfl, g, hg, ?_, hreserved _ _ (by decide), hreserved _ _ (by decide), ?_⟩
  · rw [hget]
    rfl
  · rw [(hnames .number).2, hcontains]
    exact ⟨.add .number "email" first, List.mem_of_getLast? rfl, rfl, rfl⟩

end Workspace

end FieldRules

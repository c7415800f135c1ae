/-
# `Proofs.Workspace.Assembly` — putting a schema together runs no validator

A schema is started, edited, built from a document, compiled, and turned into rules of a form, and
nothing of what it is given runs.  The one thing that does is a message function for a missing
input, whose text is settled when the rule is declared.  `within_run` says so of any run of such
operations: `Within` bounds what a program may run by a list of programs, each at most once and in
their order, and here the list is that of these functions.

`assembly_and_check_calls` puts this beside what a check runs later.
-/
import FieldRules.Proofs.Schema.Traces
import FieldRules.Workspace.Operation

namespace FieldRules

open Json (Value)

variable {m : Type → Type}

/-! ## What a program may run -/

/-- `Within fs p`: the program `p` runs some of the programs `fs`, in their order and each at most
once, and nothing else. -/
inductive Within [Monad m] {α : Type} : List (m String) → m α → Prop where
  | done (fs : List (m String)) (a : α) : Within fs (pure a)
  | skip (f : m String) {fs : List (m String)} {p : m α} : Within fs p → Within (f :: fs) p
  | next (f : m String) {fs : List (m String)} {k : String → m α} :
      (∀ text, Within fs (k text)) → Within (f :: fs) (f >>= k)

namespace Within

variable [Monad m] {α β : Type}

theorem skip_all (gs : List (m String)) {fs : List (m String)} {p : m α} (h : Within fs p) :
    Within (gs ++ fs) p := by
  induction gs with
  | nil => exact h
  | cons g gs ih => exact .skip g ih

theorem bind [LawfulMonad m] {fs gs : List (m String)} {p : m α} {k : α → m β} (h : Within fs p)
    (hk : ∀ a, Within gs (k a)) : Within (fs ++ gs) (p >>= k) := by
  induction h with
  | done fs a =>
      rw [pure_bind]
      exact (hk a).skip_all fs
  | skip f _ ih => exact .skip f ih
  | next f _ ih =>
      rw [bind_assoc]
      exact .next f ih

theorem bind_idle [LawfulMonad m] {fs : List (m String)} {p : m α} {k : α → m β}
    (h : Within fs p) (hk : ∀ a, ∃ b, k a = pure b) : Within fs (p >>= k) := by
  have hbind : Within (fs ++ []) (p >>= k) := h.bind fun a => by
    obtain ⟨b, hb⟩ := hk a
    rw [hb]
    exact .done [] b
  rwa [List.append_nil] at hbind

end Within

/-! ## Edits -/

namespace Edit

variable {t : FieldType}

/-- The message function that an edit calls: that of a missing input. -/
def message? : Edit m t → Option (m String)
  | .required (some (.computed f)) => some (f ⟨t, "required", .null⟩)
  | _ => none

variable [Monad m] [LawfulMonad m] (factory : Factory m) (s : Schema m t)

/-- The text for a missing input is computed once, and the schema keeps nothing but the text. -/
theorem apply_required_computed (f : Failure → m String) :
    (Edit.required (some (.computed f))).apply factory s
      = (fun text => .ok (s.push (.raw (.require text)))) <$> f ⟨t, "required", .null⟩ := by
  simp [Edit.apply, Schema.required, Schema.requiredText, Schema.require]

theorem within_apply (e : Edit m t) : Within e.message?.toList (e.apply factory s) := by
  cases e with
  | required override =>
      cases override with
      | none =>
          simp only [Edit.apply, Schema.required, Schema.requiredText, pure_bind]
          exact .done _ _
      | some o =>
          cases o with
          | literal text =>
              simp only [Edit.apply, Schema.required, Schema.requiredText, pure_bind]
              exact .done _ _
          | computed f =>
              rw [apply_required_computed, map_eq_pure_bind]
              exact .next _ fun text => .done _ _
  | _ => exact .done _ _

end Edit

/-! ## Operations -/

namespace Operation

/-- Whether the operation only puts schemas and rules together or looks things up. -/
def assembles : Operation m → Bool
  | .call .. | .evaluate .. | .check .. | .validate .. | .run .. | .runner .. => false
  | _ => true

def message? : Operation m → Option (m String)
  | .edit _ _ e _ => e.message?
  | _ => none

end Operation

namespace Workspace

variable [Monad m] [LawfulMonad m]

theorem within_editSchema (w : Workspace m) (source target : String) {t : FieldType}
    (e : Edit m t) : Within e.message?.toList (w.editSchema source e target) := by
  have hrefused : Within e.message?.toList (pure (Answer.unknown, w) : m (Answer × Workspace m)) :=
    .done _ _
  unfold editSchema
  split
  · split
    · split
      · next htype =>
          subst htype
          refine (e.within_apply _ _).bind_idle fun edited => ?_
          cases edited <;> exact ⟨_, rfl⟩
      · exact hrefused
    · exact hrefused
  · exact hrefused

theorem within_apply (w : Workspace m) {op : Operation m} (h : op.assembles = true) :
    Within op.message?.toList (w.apply op) := by
  cases op with
  | edit source type e target => exact w.within_editSchema source target e
  | start factory type target =>
      rw [apply]
      cases w.factory? factory <;> exact .done _ _
  | call | evaluate | check | validate | run | runner => cases h
  | _ => exact .done _ _

/-- A run of assembling operations calls at most the functions for the text of a missing input, each
once. -/
theorem within_run (w : Workspace m) (ops : List (Operation m))
    (h : ∀ op ∈ ops, op.assembles = true) :
    Within (ops.filterMap Operation.message?) (w.run ops) := by
  induction ops generalizing w with
  | nil => exact .done _ _
  | cons op rest ih =>
      have hop := w.within_apply (h op List.mem_cons_self)
      have hrest := fun w' : Workspace m => ih w' fun o ho => h o (List.mem_cons_of_mem op ho)
      have hlist : (op :: rest).filterMap Operation.message?
          = op.message?.toList ++ rest.filterMap Operation.message? := by
        cases hm : op.message? <;> simp [hm]
      rw [hlist]
      exact hop.bind fun p => (hrest p.2).bind_idle fun q => ⟨(p.1 :: q.1, q.2), rfl⟩

end Workspace

/-! ## Assembling, then checking -/

namespace Schema

variable [Monad m] [LawfulMonad m] {t : FieldType}

/-- Putting schemas together and making rules of them runs nothing but the functions for the text of
a missing input, and each of these once, when it is declared; a method that is invoked becomes a
validator.  A check reports what it would without notes, and notes the calls up to the first
failure: in the order of the items and no item twice, all validators of items that the input comes
to, and of the message functions that of the constraint that fails. -/
theorem assembly_and_check_calls (s : Schema m t) (tables : Tables) (input : Value) :
    (∀ (w : Workspace m) (ops : List (Operation m)), (∀ op ∈ ops, op.assembles = true) →
      Within (ops.filterMap Operation.message?) (w.run ops)) ∧
    (∀ (factory : Factory m) (f : Failure → m String),
      (Edit.required (some (.computed f))).apply factory s
        = (fun text => .ok (s.push (.raw (.require text)))) <$> f ⟨t, "required", .null⟩) ∧
    (∀ (registry : Registry m) (name : String) (args : List Value),
      s.invoke registry name args = (registry.get t name).map fun e =>
        s.push (.descriptor (.custom fun _ raw => e raw args))) ∧
    (∀ log, ((s.traced tables).check tables input).run log
      = (fun found => (found.map Prod.snd, log ++ s.calls input (found.map Prod.fst)))
          <$> s.firstFailure tables input s.items) ∧
    (∀ log, Prod.fst <$> ((s.traced tables).check tables input).run log = s.check tables input) ∧
    ∀ stop? : Option Nat,
      (s.calls input stop?).Pairwise (fun a b => a.place < b.place) ∧
      ∀ place : Nat,
        (⟨place, .validator⟩ ∈ s.calls input stop? ↔
          (∀ stop, stop? = some stop → place ≤ stop) ∧
          ((∃ v, s.items[place]? = some (.descriptor (.custom v)) ∧
              s.exemption.any (·.covers input) = false ∧ t.coerce? input ≠ none) ∨
            ∃ r : FormRule m, s.items[place]? = some (.raw r) ∧ r.validator ≠ none ∧
              r.shortfall? input = none)) ∧
        (⟨place, .message⟩ ∈ s.calls input stop? ↔
          stop? = some place ∧
          ∃ c f, s.items[place]? = some (.descriptor (.check c (some (.computed f)))) ∧
            s.exemption.any (·.covers input) = false ∧ t.coerce? input ≠ none) := by
  refine ⟨fun w ops h => w.within_run ops h,
    fun factory f => Edit.apply_required_computed factory s f, fun registry name args => ?_,
    s.run_traced_check tables input, s.fst_run_traced_check tables input,
    fun stop? => ⟨s.pairwise_calls input stop?, fun place =>
      ⟨s.validator_mem_calls_iff input stop? place, s.message_mem_calls_iff input stop? place⟩⟩⟩
  unfold invoke
  cases registry.get t name <;> rfl

/-- A schema is started and given a rule with a function for its text.  A check of another one calls
a validator, passes a constraint with a message function, calls the validator of a raw rule, and
fails at a constraint whose message function it calls; it comes to nothing behind. -/
theorem assembly_and_check_calls_of_late_failure :
    let passes : Item Id .string := .descriptor (.custom fun _ _ => none)
    let holds : Item Id .string := .descriptor (.check (.max 3) (some (.computed fun _ => "long")))
    let raw : Item Id .string := .raw { validator := some (.reporting fun _ => [none]) }
    let fails : Item Id .string := .descriptor (.check (.min 3) (some (.computed fun f => f.kind)))
    let s : Schema Id .string := { owner := 0, items := [passes, holds, raw, fails, passes] }
    let missing : Failure → Id String := fun f => f.kind ++ "!"
    let silent : Tables := fun _ => .empty
    let ops : List (Operation Id) := [.start "main" .string "s",
      .edit "s" .string (.required (some (.computed missing))) "s", .compile "s" "rules"]
    (∀ op ∈ ops, op.assembles = true) ∧
      Within [missing ⟨.string, "required", .null⟩] ((Workspace.start "main" {}).run ops) ∧
      Id.run (((s.traced silent).check silent (.string "ab")).run [])
        = (some "min", [⟨0, .validator⟩, ⟨2, .validator⟩, ⟨3, .message⟩]) := by
  intro passes holds raw fails s missing silent ops
  obtain ⟨hassembly, -, -, hcheck, -⟩ := assembly_and_check_calls s silent (.string "ab")
  have hops : ∀ op ∈ ops, op.assembles = true := by
    intro op hop
    simp only [ops, List.mem_cons, List.not_mem_nil, or_false] at hop
    rcases hop with rfl | rfl | rfl <;> rfl
  refine ⟨hops, hassembly _ ops hops, ?_⟩
  rw [hcheck]
  decide +kernel

end Schema

end FieldRules

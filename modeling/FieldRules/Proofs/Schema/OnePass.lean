/-
# `Proofs.Schema.OnePass` — a check is one pass over the items

To check an input, a schema is cut into stretches, compiled, turned into rules with events and
handed to a runner.  `verdict` needs none of this: it reads the items in the order of their
declaration and stops at the first failure.  `check_eq_verdict` says that both come to the same
text, for validators, methods and message functions that only compute.

The clauses of `verdict` are spelled out down to the look-up of each message, and share no step with
the runner or with a group.
-/
import FieldRules.Proofs.Schema.Reports

namespace FieldRules

open Json (Value)
open Messages (Table)

namespace OnePass

variable {t : FieldType}

/-! ## Texts -/

/-- A text that is there and not empty. -/
def shown? (text : Option String) : Option String := text.filter (· ≠ "")

/-- The entry of a key, or the default of the table. -/
def entry (table : Table) (key : String) : String :=
  (table.get? key).getD ((table.get? "default").getD "")

/-! ## Raw rules -/

def blank : Value → Bool
  | .null => true
  | .string s => s = ""
  | .array items => items.length = 0
  | _ => false

def writtenAs : FieldType → Value → Bool
  | .string, .string _ => true
  | .number, .number _ => true
  | .array, .array _ => true
  | _, _ => false

/-- Whether a length or a number lies below the lower or above the upper bound of a rule. -/
def beyond (r : FormRule Id) (x : Float) : Bool :=
  (match r.min with | some low => x < low | none => false)
    || (match r.max with | some high => high < x | none => false)

def misfits (r : FormRule Id) : Value → Bool
  | .string s => beyond r (Float.ofNat s.length)
  | .array items => beyond r (Float.ofNat items.length)
  | .number n => beyond r n.toFloat
  | _ => false

/-- The failure of the declarative fields of a rule: of a blank input that it is required, of any
other its type and then its bounds.  The rule's own message stands before the table's. -/
def declarative (table : Table) (input : Value) (r : FormRule Id) : Option String :=
  if blank input then
    if r.required = some true then some ((shown? r.message).getD (entry table "required")) else none
  else
    match r.type.filter (fun expected => !writtenAs expected input) with
    | some expected => some ((shown? r.message).getD (entry table ("types." ++ expected.name)))
    | none =>
      if misfits r input then some ((shown? r.message).getD ((table.get? "default").getD ""))
      else none

/-- What a validator reports, in the order of its reports; a group reports once, with the messages of
the factory that it was made with. -/
def reports (tables : Tables) (input : Value) : Validator Id → List (Option String)
  | .group g => [Id.run (g.evaluate tables input)]
  | .reporting f => Id.run (f input)

/-- The failure of a raw rule: a declarative one, with the messages of the schema's factory, or what
its validator reports first. -/
def rawFailure (tables : Tables) (owner : Nat) (input : Value) (r : FormRule Id) : Option String :=
  match declarative (tables owner) input r with
  | some text => some text
  | none =>
    match r.validator with
    | some v =>
      match reports tables input v with
      | first :: _ => first
      | [] => none
    | none => none

/-! ## Descriptors -/

/-- The message of a constraint that failed: that of a function, a text that is not empty, or the
entry of the table with the parameters filled in. -/
def constraintMessage (table : Table) (c : t.Constraint) (override : Option (Override Id)) :
    String :=
  match override with
  | some (.computed f) => Id.run (f ⟨t, Constraint.kind c, Constraint.params c⟩)
  | some (.literal text) => (shown? (some text)).getD rendered
  | none => rendered
where
  /-- The entry of the table. -/
  rendered : String :=
    Template.render (entry table (t.name ++ "." ++ Constraint.kind c)) (Constraint.params c)

/-- The failure of a descriptor: none of an input that is let through, that of the type for an input
that cannot be converted, and its own for any other. -/
def descriptorFailure (table : Table) (exemption : Option Exemption) (input : Value)
    (d : Descriptor Id t) : Option String :=
  if exemption.any (·.covers input) then none
  else
    match t.coerce? input, d with
    | none, _ => some (entry table ("types." ++ t.name))
    | some value, .custom validator => shown? (Id.run (validator value input))
    | some value, .check c override =>
      if Constraint.test c value then none else some (constraintMessage table c override)

/-! ## The pass -/

/-- The first failure of the items, in their order. -/
def verdict (tables : Tables) (owner : Nat) (exemption : Option Exemption) (input : Value) :
    List (Item Id t) → Option String
  | [] => none
  | .raw r :: rest =>
    (rawFailure tables owner input r).or (verdict tables owner exemption input rest)
  | .descriptor d :: rest =>
    (descriptorFailure (tables owner) exemption input d).or
      (verdict tables owner exemption input rest)

/-! ## Agreement on one item -/

theorem isEmpty_eq_decide (s : String) : s.isEmpty = decide (s = "") := by
  rw [Bool.eq_iff_iff, decide_eq_true_iff]
  exact String.isEmpty_iff

theorem blank_eq_isEmpty (input : Value) : blank input = Coercion.isEmpty input := by
  cases input with
  | string s => exact (isEmpty_eq_decide s).symm
  | array items => cases items <;> rfl
  | _ => rfl

theorem writtenAs_eq_isOf (expected : FieldType) (input : Value) :
    writtenAs expected input = expected.isOf input := by
  cases expected <;> cases input <;> rfl

theorem misfits_eq_outside (r : FormRule Id) (input : Value) :
    misfits r input = r.outside input := by
  have hbeyond : ∀ x : Float, beyond r x
      = (r.min.any (fun low => decide (x < low)) || r.max.any (fun high => decide (high < x))) := by
    intro x
    unfold beyond
    cases r.min <;> cases r.max <;> rfl
  cases input with
  | string s => exact hbeyond _
  | array items => exact hbeyond _
  | number n => exact hbeyond _
  | _ => rfl

theorem shown?_eq_filter (text : Option String) :
    shown? text = text.filter fun text => !text.isEmpty := by
  cases text with
  | none => rfl
  | some text => simp [shown?, Option.filter]

theorem shortfallMessage_eq (table : Table) (r : FormRule Id) (s : Shortfall) :
    r.shortfallMessage table s = (shown? r.message).getD (s.tableMessage table) := by
  unfold Rule.Declaration.shortfallMessage
  rw [← shown?_eq_filter]
  cases shown? r.message <;> rfl

/-- The declarative failure is the runner's shortfall with its message. -/
theorem declarative_eq_shortfall? (table : Table) (input : Value) (r : FormRule Id) :
    declarative table input r = (r.shortfall? input).map (r.shortfallMessage table) := by
  have hmsg : ∀ s, (some s).map (r.shortfallMessage table)
      = some ((shown? r.message).getD (s.tableMessage table)) :=
    fun s => congrArg some (shortfallMessage_eq table r s)
  unfold declarative Rule.Declaration.shortfall?
  rw [blank_eq_isEmpty, misfits_eq_outside]
  cases Coercion.isEmpty input with
  | true =>
      by_cases hreq : r.required = some true
      · rw [if_pos rfl, if_pos rfl, if_pos hreq, if_pos hreq]
        exact (hmsg .missing).symm
      · rw [if_pos rfl, if_pos rfl, if_neg hreq, if_neg hreq]
        rfl
  | false =>
      have hbounds : (if r.outside input then
            some ((shown? r.message).getD ((table.get? "default").getD "")) else none)
          = (if r.outside input then some Shortfall.outOfBounds else none).map
              (r.shortfallMessage table) := by
        cases r.outside input with
        | true => exact (hmsg .outOfBounds).symm
        | false => rfl
      rw [if_neg Bool.false_ne_true, if_neg Bool.false_ne_true]
      cases r.type with
      | none => exact hbounds
      | some expected =>
          simp only [Option.filter, writtenAs_eq_isOf]
          cases expected.isOf input with
          | true => exact hbounds
          | false => exact (hmsg (.wrongType expected)).symm

theorem rawFailure_eq_report (tables : Tables) (owner : Nat) (input : Value) (r : FormRule Id) :
    rawFailure tables owner input r = Id.run (r.report tables owner input) := by
  unfold rawFailure FormRule.report
  rw [declarative_eq_shortfall?]
  cases r.shortfall? input with
  | some s => rfl
  | none =>
      show (match r.validator with | some v => _ | none => none) = Id.run (r.run tables input)
      unfold FormRule.run
      cases r.validator with
      | none => rfl
      | some v =>
          cases v with
          | group g => rfl
          | reporting f =>
              show (match Id.run (f input) with | first :: _ => first | [] => none)
                = (Id.run (f input)).head?.join
              cases Id.run (f input) <;> rfl

theorem constraintMessage_eq (table : Table) (c : t.Constraint) (override : Option (Override Id)) :
    constraintMessage table c override
      = Id.run ((Constraint.failure c).message table override) := by
  cases override with
  | none => rfl
  | some o =>
      cases o with
      | computed f => rfl
      | literal text =>
          show (shown? (some text)).getD _ = if text.isEmpty then _ else text
          rw [isEmpty_eq_decide]
          by_cases htext : text = ""
          · simp [shown?, Option.filter, htext]
            rfl
          · simp [shown?, Option.filter, htext]

theorem descriptorFailure_eq_report (s : Schema Id t) (tables : Tables) (input : Value)
    (d : Descriptor Id t) :
    descriptorFailure (tables s.owner) s.exemption input d
      = Id.run (s.descriptorReport tables input d) := by
  unfold descriptorFailure Schema.descriptorReport
  cases s.exemption.any (·.covers input) with
  | true => rfl
  | false =>
      cases t.coerce? input with
      | none => rfl
      | some value =>
          cases d with
          | custom validator => exact shown?_eq_filter _
          | check c override =>
              show (if Constraint.test c value then none
                  else some (constraintMessage (tables s.owner) c override))
                = Id.run (if Constraint.test c value then pure none
                  else some <$> (Constraint.failure c).message (tables s.owner) override)
              rw [constraintMessage_eq]
              cases Constraint.test c value <;> rfl

/-! ## Agreement -/

theorem verdict_eq_findSome? (s : Schema Id t) (tables : Tables) (input : Value)
    (is : List (Item Id t)) :
    verdict tables s.owner s.exemption input is
      = is.findSome? fun i => Id.run (s.report tables input i) := by
  induction is with
  | nil => rfl
  | cons item rest ih =>
      rw [List.findSome?_cons, ← ih]
      cases item with
      | raw r =>
          rw [verdict, rawFailure_eq_report, Schema.report]
          cases Id.run (r.report tables s.owner input) <;> rfl
      | descriptor d =>
          rw [verdict, descriptorFailure_eq_report, Schema.report]
          cases Id.run (s.descriptorReport tables input d) <;> rfl

/-- Checking an input is one pass over the items. -/
theorem check_eq_verdict (s : Schema Id t) (tables : Tables) (input : Value) :
    Id.run (s.check tables input) = verdict tables s.owner s.exemption input s.items := by
  rw [s.check_eq_findSomeM?, List.idRun_findSomeM?, verdict_eq_findSome?]

end OnePass

end FieldRules

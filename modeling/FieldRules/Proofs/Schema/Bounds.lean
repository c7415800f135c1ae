/-
# `Proofs.Schema.Bounds` — three ways of bounding a field

A field is bounded by one constraint with two bounds, by two constraints with one each, or by a rule
of a form that declares both.  The constraints compare counts of characters and of elements as
natural numbers; a rule compares doubles, whatever the type, and asks the other way round: whether
the input lies below or above.  Of inputs of the type the three say the same (`bounds_agree`), as
long as no bound is lost on its way to a double: a count keeps its place among all counts if it is
below `2 ^ 53`, and a number if it is not NaN.  Nothing is asked of the input's own length, nor of
the order of the two bounds.
-/
import FieldRules.Proofs.Decimal.Order
import FieldRules.Proofs.Json.Sameness
import FieldRules.Proofs.Schema.Permutations

namespace FieldRules

open Json (Value)
open Messages (Table)

/-! ## Bounds -/

namespace FieldType

/-- What bounds a field: a count of characters or of elements, or a number. -/
abbrev Bound : FieldType → Type
  | .string => Nat
  | .number => Float
  | .array => Nat

namespace Bound

variable {t : FieldType}

/-- The bound as a rule of a form declares it. -/
def toFloat : {t : FieldType} → t.Bound → Float
  | .string, n => Float.ofNat n
  | .number, x => x
  | .array, n => Float.ofNat n

def le : {t : FieldType} → t.Bound → t.Bound → Bool
  | .string, m, n => m ≤ n
  | .number, x, y => x ≤ y
  | .array, m, n => m ≤ n

/-- The bound keeps its place among the others when it becomes a double. -/
def Exact : {t : FieldType} → t.Bound → Prop
  | .string, n => n < 2 ^ 53
  | .number, x => x.isNaN = false
  | .array, n => n < 2 ^ 53

theorem le_iff_not_lt {low x : t.Bound} (hlow : low.Exact) (hx : x.toFloat.isNaN = false) :
    low.le x = true ↔ ¬x.toFloat < low.toFloat := by
  cases t with
  | number => exact decide_eq_true_iff.trans (Decimal.le_iff_not_lt hlow hx)
  | string | array =>
      show decide (low ≤ x) = true ↔ ¬Float.ofNat x < Float.ofNat low
      rw [Decimal.ofNat_lt_small_iff hlow, Nat.not_lt, decide_eq_true_iff]

theorem le_iff_not_gt {x high : t.Bound} (hx : x.toFloat.isNaN = false) (hhigh : high.Exact) :
    x.le high = true ↔ ¬high.toFloat < x.toFloat := by
  cases t with
  | number => exact decide_eq_true_iff.trans (Decimal.le_iff_not_lt hx hhigh)
  | string | array =>
      show decide (x ≤ high) = true ↔ ¬Float.ofNat high < Float.ofNat x
      rw [Decimal.small_lt_ofNat_iff hhigh, Nat.not_lt, decide_eq_true_iff]

end Bound

def measured : {t : FieldType} → t.Carrier → t.Bound
  | .string, s => Predicate.charLength s
  | .number, x => x
  | .array, items => items.length

/-- An input of a type is converted, and what constraints bound of it is what rules measure. -/
theorem exists_coerce?_eq_some {t : FieldType} {input : Value}
    (htype : t.isOf input = true) :
    ∃ value, t.coerce? input = some value ∧
      measure? input = some (measured value).toFloat ∧
      (measured value).toFloat.isNaN = false := by
  have hcount (n : Nat) : (Float.ofNat n).isNaN = false :=
    Decimal.isNaN_of_hasSign (Decimal.hasSign_unpacked_ofNat n)
  match t, input, htype with
  | .string, .string s, _ => exact ⟨s, rfl, rfl, hcount s.length⟩
  | .array, .array items, _ => exact ⟨items, rfl, rfl, hcount items.length⟩
  | .number, .number n, _ =>
      have hcoerce : coerce? .number (.number n) = some n.toFloat :=
        if_neg (Bool.not_eq_true _ ▸ n.isNaN_toFloat)
      exact ⟨n.toFloat, hcoerce, rfl, n.isNaN_toFloat⟩

end FieldType

/-! ## Constraints -/

namespace Constraint

variable {t : FieldType}

def atLeast : {t : FieldType} → t.Bound → t.Constraint
  | .string, n => TextConstraint.min n
  | .number, x => NumberConstraint.min x
  | .array, n => ListConstraint.min n

def atMost : {t : FieldType} → t.Bound → t.Constraint
  | .string, n => TextConstraint.max n
  | .number, x => NumberConstraint.max x
  | .array, n => ListConstraint.max n

def between : {t : FieldType} → t.Bound → t.Bound → t.Constraint
  | .string, low, high => TextConstraint.range low high
  | .number, low, high => NumberConstraint.range low high
  | .array, low, high => ListConstraint.range low high

theorem test_atLeast (low : t.Bound) (value : t.Carrier) :
    test (atLeast low) value = low.le (t.measured value) := by
  cases t <;> rfl

theorem test_atMost (high : t.Bound) (value : t.Carrier) :
    test (atMost high) value = (t.measured value).le high := by
  cases t <;> rfl

/-- One constraint with two bounds is two with one each. -/
theorem test_between (low high : t.Bound) (value : t.Carrier) :
    test (between low high) value = (test (atLeast low) value && test (atMost high) value) := by
  cases t <;> rfl

end Constraint

/-! ## Rules -/

/-- The rule of a form that declares two bounds, and nothing else. -/
def FormRule.bounded {m : Type → Type} (low high : Float) : FormRule m :=
  { min := some low, max := some high }

/-- A given input meets two bounds if it is not measured below the one nor above the other. -/
theorem FormRule.shortfall?_bounded {m : Type → Type} {low high x : Float} {input : Value}
    (hgiven : Coercion.isEmpty input = false) (hx : measure? input = some x) :
    (bounded (m := m) low high).shortfall? input = none ↔ ¬x < low ∧ ¬high < x := by
  have hout : (bounded (m := m) low high).outside input
      = (decide (x < low) || decide (high < x)) := by
    rw [Rule.Declaration.outside, hx]
    rfl
  rw [Rule.Declaration.shortfall?, hgiven, hout, ← not_or, ← Bool.decide_or]
  by_cases h : x < low ∨ high < x <;> simp [bounded, h]

/-! ## Schemas -/

namespace Schema

variable {t : FieldType}

/-- Items that pass together can stand for each other among any other items. -/
theorem check_eq_none_congr {owner : Nat} {items other : List (Item Id t)}
    {exemption : Option Exemption} {tables : Tables} {input : Value}
    (h : Id.run ((⟨owner, items, exemption⟩ : Schema Id t).check tables input) = none ↔
      Id.run ((⟨owner, other, exemption⟩ : Schema Id t).check tables input) = none)
    (before behind : List (Item Id t)) :
    Id.run ((⟨owner, before ++ items ++ behind, exemption⟩ : Schema Id t).check tables input) = none ↔
      Id.run ((⟨owner, before ++ other ++ behind, exemption⟩ : Schema Id t).check tables input)
        = none := by
  simp only [check_eq_none_iff, report_eq owner _ exemption, List.forall_mem_append] at h ⊢
  rw [h]

theorem check_constraints_eq_none_iff {exemption : Option Exemption} {input : Value}
    {value : t.Carrier} (hex : exemption.any (·.covers input) = false)
    (hco : t.coerce? input = some value) (owner : Nat) (tables : Tables)
    (cs : List (t.Constraint × Option (Override Id))) :
    Id.run ((⟨owner, cs.map fun (c, o) => .descriptor (.check c o), exemption⟩ : Schema Id t).check
      tables input) = none ↔ ∀ c ∈ cs, Constraint.test c.1 value = true := by
  rw [check_eq_none_iff, List.forall_mem_map]
  refine forall₂_congr fun c _ => ?_
  rw [report, descriptorReport_of_coerce?_eq_some _ _ hex hco, Descriptor.report]
  cases Constraint.test c.1 value with
  | true => exact iff_of_true rfl rfl
  | false => exact iff_of_false (Option.some_ne_none _) Bool.false_ne_true

theorem check_raw_eq_none_iff {owner : Nat} {r : FormRule Id} (hr : r.validator = none)
    (exemption : Option Exemption) (tables : Tables) (input : Value) :
    Id.run ((⟨owner, [.raw r], exemption⟩ : Schema Id t).check tables input) = none ↔
      r.shortfall? input = none := by
  rw [check_single, report, FormRule.report]
  cases r.shortfall? input with
  | none =>
      rw [FormRule.run, hr]
      exact iff_of_true rfl rfl
  | some s => exact iff_of_false (Option.some_ne_none _) (Option.some_ne_none s)

variable {low high : t.Bound} {input : Value}

/-- The constraint with two bounds, the two constraints with one bound each, and the rule of a form
that declares both bounds let the same inputs of the type through, wherever they stand among other
items, and whatever messages they have.  Bounds are counts below `2 ^ 53` or numbers, in any order,
and the input is one that is neither empty nor exempt. -/
theorem bounds_agree (hlow : low.Exact) (hhigh : high.Exact)
    (htype : t.isOf input = true) (hgiven : Coercion.isEmpty input = false) :
    let rule : FormRule Id := .bounded low.toFloat high.toFloat
    let both := Constraint.between low high
    (∃ value, t.coerce? input = some value ∧
      (Constraint.test both value = true ↔ rule.shortfall? input = none) ∧
      (Constraint.test both value = true ↔
        Constraint.test (Constraint.atLeast low) value = true ∧
          Constraint.test (Constraint.atMost high) value = true)) ∧
    ∀ (owner : Nat) (before behind : List (Item Id t)) (exemption : Option Exemption)
      (tables : Tables) (o o₁ o₂ : Option (Override Id)), exemption.any (·.covers input) = false →
      let accepts (items : List (Item Id t)) : Prop :=
        Id.run ((⟨owner, before ++ items ++ behind, exemption⟩ : Schema Id t).check tables input) = none
      (accepts [.descriptor (.check both o)] ↔ accepts [.raw rule]) ∧
      (accepts [.descriptor (.check both o)] ↔
        accepts [.descriptor (.check (Constraint.atLeast low) o₁),
          .descriptor (.check (Constraint.atMost high) o₂)]) := by
  intro rule both
  obtain ⟨value, hco, hmeasure, hnumber⟩ := FieldType.exists_coerce?_eq_some htype
  have hchain : Constraint.test both value = true ↔
      Constraint.test (Constraint.atLeast low) value = true ∧
        Constraint.test (Constraint.atMost high) value = true := by
    rw [Constraint.test_between, Bool.and_eq_true]
  have hrule : Constraint.test both value = true ↔ rule.shortfall? input = none := by
    rw [hchain, Constraint.test_atLeast, Constraint.test_atMost,
      FieldType.Bound.le_iff_not_lt hlow hnumber, FieldType.Bound.le_iff_not_gt hnumber hhigh,
      FormRule.shortfall?_bounded hgiven hmeasure]
  refine ⟨⟨value, hco, hrule, hchain⟩, fun owner before behind exemption tables o o₁ o₂ hex => ?_⟩
  have hboth := check_constraints_eq_none_iff hex hco owner tables [(both, o)]
  refine ⟨check_eq_none_congr ?_ before behind, check_eq_none_congr ?_ before behind⟩
  · refine hboth.trans ?_
    rw [List.forall_mem_singleton, hrule, check_raw_eq_none_iff rfl]
  · refine hboth.trans (Iff.trans ?_ (check_constraints_eq_none_iff hex hco owner tables
      [(Constraint.atLeast low, o₁), (Constraint.atMost high, o₂)]).symm)
    rw [List.forall_mem_singleton, List.forall_mem_cons, List.forall_mem_singleton, hchain]

/-- Three characters, which take six bytes, are between two and three; and nothing is between four
and two. -/
theorem bounds_agree_of_umlauts :
    let input : Value := .string "äöü"
    let silent : Tables := fun _ => .empty
    let schema (items : List (Item Id .string)) : Schema Id .string := ⟨0, items, some .blank⟩
    let both (low high : Nat) : Item Id .string :=
      .descriptor (.check (TextConstraint.range low high) none)
    let rule (low high : Nat) : Item Id .string :=
      .raw (.bounded (Float.ofNat low) (Float.ofNat high))
    let chain (low high : Nat) : List (Item Id .string) :=
      [.descriptor (.check (TextConstraint.min low) none),
        .descriptor (.check (TextConstraint.max high) none)]
    (Id.run ((schema [both 2 3]).check silent input) = none ∧
      Id.run ((schema [rule 2 3]).check silent input) = none ∧
      Id.run ((schema (chain 2 3)).check silent input) = none) ∧
    Id.run ((schema [both 4 2]).check silent input) ≠ none ∧
      Id.run ((schema [rule 4 2]).check silent input) ≠ none ∧
      Id.run ((schema (chain 4 2)).check silent input) ≠ none := by
  intro input silent schema both rule chain
  have agree (low high : Nat) (hlow : low < 2 ^ 53) (hhigh : high < 2 ^ 53) :=
    (bounds_agree (t := .string) hlow hhigh (show FieldType.isOf input .string = true from rfl)
      rfl).2 0 [] [] (some .blank) silent none none none rfl
  have hin : Id.run ((schema [both 2 3]).check silent input) = none := by decide +kernel
  have hout : Id.run ((schema [both 4 2]).check silent input) ≠ none := by decide +kernel
  obtain ⟨hrule, hchain⟩ := agree 2 3 (by decide) (by decide)
  obtain ⟨hrule', hchain'⟩ := agree 4 2 (by decide) (by decide)
  exact ⟨⟨hin, hrule.mp hin, hchain.mp hin⟩, hout, fun h => hout (hrule'.mpr h),
    fun h => hout (hchain'.mpr h)⟩

end Schema

end FieldRules

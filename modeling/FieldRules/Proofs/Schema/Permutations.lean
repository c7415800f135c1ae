/-
# `Proofs.Schema.Permutations` — the order of the items

Putting the items of a schema in another order cuts them into other stretches: there are more groups
or fewer, and each converts the input and lets exempt inputs through for itself.  An item reports
what it would report alone, whichever stretch it is in, so a check accepts what every item accepts
alone (`check_eq_none_iff_alone`), in any order of them.  The order decides which of the reports
comes first: `acceptance_of_perm` says both.

Evaluating has one group in every order.  It accepts an input that is exempt, and one that can be
converted and that no descriptor fails.
-/
import FieldRules.Proofs.Schema.Rejection

namespace FieldRules

open Json (Value)

namespace Schema

variable {t : FieldType}

theorem check_single (owner : Nat) (item : Item Id t) (exemption : Option Exemption) (tables : Tables)
    (input : Value) :
    (⟨owner, [item], exemption⟩ : Schema Id t).check tables input
      = (⟨owner, [], exemption⟩ : Schema Id t).report tables input item := by
  rw [check_eq_findSomeM?, report_eq]
  exact findSomeM?_singleton _ item

/-- A check accepts what every item accepts alone. -/
theorem check_eq_none_iff_alone (s : Schema Id t) (tables : Tables) (input : Value) :
    Id.run (s.check tables input) = none ↔
      ∀ item ∈ s.items, Id.run (({ s with items := [item] } : Schema Id t).check tables input)
        = none := by
  rw [check_eq_none_iff]
  refine forall₂_congr fun item _ => ?_
  rw [check_single, ← report_eq s.owner s.items]

/-- Evaluating accepts what is exempt, and what can be converted if no descriptor fails. -/
theorem evaluate_eq_none_iff_coerces (s : Schema Id t) (tables : Tables) (input : Value) :
    Id.run (s.evaluate tables input) = none ↔
      s.exemption.any (·.covers input) = true ∨
        ∃ value, t.coerce? input = some value ∧
          ∀ d, .descriptor d ∈ s.items → Id.run (d.report (tables s.owner) value input) = none := by
  simp only [← mem_filterMap_descriptor?]
  rw [evaluate, Group.evaluate, group]
  cases s.exemption.any (·.covers input) with
  | true => simp
  | false =>
      cases t.coerce? input with
      | none => simp
      | some value =>
          simp only [Bool.false_eq_true, if_false, false_or, Option.some.injEq, exists_eq_left',
            List.idRun_findSomeM?]
          exact List.findSome?_eq_none_iff

theorem exists_of_check_eq_some {s : Schema Id t} {tables : Tables} {input : Value} {text : String}
    (h : Id.run (s.check tables input) = some text) :
    ∃ item ∈ s.items,
      Id.run (({ s with items := [item] } : Schema Id t).check tables input) = some text := by
  rw [check_eq_findSomeM?, List.idRun_findSomeM?] at h
  obtain ⟨item, hitem, hreport⟩ := List.exists_of_findSome?_eq_some h
  refine ⟨item, hitem, ?_⟩
  rw [check_single, ← report_eq s.owner s.items]
  exact hreport

/-- An item that is put in front is the first to report. -/
theorem check_cons_of_alone {owner : Nat} {item : Item Id t} {exemption : Option Exemption}
    {tables : Tables} {input : Value} {text : String}
    (h : Id.run ((⟨owner, [item], exemption⟩ : Schema Id t).check tables input) = some text)
    (behind : List (Item Id t)) :
    Id.run ((⟨owner, item :: behind, exemption⟩ : Schema Id t).check tables input) = some text := by
  rw [check_single] at h
  rw [check_eq_findSomeM?, List.idRun_findSomeM?, report_eq, List.findSome?_cons, h]

/-- Items in another order accept the same inputs, in a check and when the descriptors are
evaluated.  A check reports what one of the items reports alone, and any such report is the one of
some order. -/
theorem acceptance_of_perm (s : Schema Id t) {items : List (Item Id t)} (h : s.items.Perm items)
    (tables : Tables) (input : Value) :
    let permuted : Schema Id t := { s with items }
    (Id.run (permuted.check tables input) = none ↔ Id.run (s.check tables input) = none) ∧
    (Id.run (permuted.evaluate tables input) = none ↔ Id.run (s.evaluate tables input) = none) ∧
    ∀ text,
      (∃ order : List (Item Id t), s.items.Perm order ∧
        Id.run (({ s with items := order } : Schema Id t).check tables input) = some text) ↔
      ∃ item ∈ items,
        Id.run (({ s with items := [item] } : Schema Id t).check tables input) = some text := by
  intro permuted
  refine ⟨?_, ?_, fun text => ⟨?_, ?_⟩⟩
  · rw [check_eq_none_iff_alone, check_eq_none_iff_alone]
    exact forall_congr' fun item => by rw [h.mem_iff]
  · rw [evaluate_eq_none_iff_coerces, evaluate_eq_none_iff_coerces]
    simp only [permuted, h.mem_iff]
  · rintro ⟨order, horder, hreport⟩
    obtain ⟨item, hitem, halone⟩ := exists_of_check_eq_some hreport
    exact ⟨item, h.mem_iff.mp (horder.mem_iff.mpr hitem), halone⟩
  · rintro ⟨item, hitem, halone⟩
    obtain ⟨before, behind, hitems⟩ := List.append_of_mem hitem
    refine ⟨item :: (before ++ behind), ?_, check_cons_of_alone halone _⟩
    rw [hitems] at h
    exact h.trans List.perm_middle

/-- Two descriptors around a rule of a form are two groups, and one group behind it; the input fails
in either order, and each order reports its first failure. -/
theorem acceptance_of_perm_of_regrouped :
    let low : Item Id .string := .descriptor (.check (TextConstraint.min 3) (some (.literal "short")))
    let high : Item Id .string := .descriptor (.check (TextConstraint.max 1) (some (.literal "long")))
    let given : Item Id .string := .raw (.require "must")
    let s : Schema Id .string := ⟨0, [low, given, high], some .blank⟩
    let permuted : Schema Id .string := { s with items := [given, high, low] }
    let silent : Tables := fun _ => .empty
    s.items.Perm permuted.items ∧ s.rules.length = 3 ∧ permuted.rules.length = 2 ∧
      Id.run (s.check silent (.string "ab")) = some "short" ∧
      Id.run (permuted.check silent (.string "ab")) = some "long" ∧
      (Id.run (permuted.check silent (.string "ab")) = none ↔
        Id.run (s.check silent (.string "ab")) = none) ∧
      (Id.run (permuted.evaluate silent (.string "ab")) = none ↔
        Id.run (s.evaluate silent (.string "ab")) = none) := by
  intro low high given s permuted silent
  have hperm : s.items.Perm permuted.items :=
    (List.Perm.swap given low [high]).trans ((List.Perm.swap high low []).cons given)
  obtain ⟨hcheck, hevaluate, -⟩ := acceptance_of_perm s hperm silent (.string "ab")
  refine ⟨hperm, rfl, rfl, ?_, ?_, hcheck, hevaluate⟩
  · decide +kernel
  · decide +kernel

end Schema

end FieldRules

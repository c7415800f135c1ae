/-
# `Proofs.Schema.Rejection` — what evaluating rejects and checking accepts

`Schema.evaluate` converts every input that is not exempt, and runs the descriptors.  `Schema.check`
converts within groups, so a schema without descriptors converts nothing: it compiles to its raw
rules alone.  `evaluate_rejects_check_accepts_iff` says that this is the only gap: with one
descriptor anywhere among the items, whatever evaluating rejects is rejected by checking too.
-/
import FieldRules.Messages.BuiltIn
import FieldRules.Proofs.Schema.Reports

namespace FieldRules

open Json (Value)
open Messages (Table)

namespace Schema

variable {t : FieldType}

theorem check_eq_none_iff (s : Schema Id t) (tables : Tables) (input : Value) :
    Id.run (s.check tables input) = none ↔
      ∀ item ∈ s.items, Id.run (s.report tables input item) = none := by
  rw [check_eq_findSomeM?, List.idRun_findSomeM?]
  exact List.findSome?_eq_none_iff

theorem mem_filterMap_descriptor? {is : List (Item Id t)} {d : Descriptor Id t} :
    d ∈ is.filterMap Item.descriptor? ↔ .descriptor d ∈ is := by
  rw [List.mem_filterMap]
  constructor
  · rintro ⟨item, hitem, hd⟩
    cases item with
    | raw r => cases hd
    | descriptor e =>
        cases hd
        exact hitem
  · intro hd
    exact ⟨.descriptor d, hd, rfl⟩

theorem evaluate_eq_none_iff (s : Schema Id t) (tables : Tables) (input : Value)
    (h : s.items.filterMap Item.descriptor? ≠ []) :
    Id.run (s.evaluate tables input) = none ↔
      ∀ d, .descriptor d ∈ s.items → Id.run (s.descriptorReport tables input d) = none := by
  rw [evaluate_eq_findSomeM? s tables input h, List.idRun_findSomeM?, List.findSome?_eq_none_iff]
  simp only [mem_filterMap_descriptor?]

/-- Without descriptors, evaluating only asks whether the input can be converted. -/
theorem evaluate_isSome_iff_of_no_descriptor (s : Schema Id t) (tables : Tables) (input : Value)
    (h : s.items.filterMap Item.descriptor? = []) :
    (Id.run (s.evaluate tables input)).isSome ↔
      s.exemption.any (·.covers input) = false ∧ t.coerce? input = none := by
  have hgroup : s.evaluate tables input = (s.group []).evaluate tables input := by
    rw [evaluate, h]
  rw [hgroup, Group.evaluate, group]
  cases s.exemption.any (·.covers input) with
  | true => simp
  | false => cases t.coerce? input <;> simp

/-- Evaluating rejects what checking accepts exactly if the schema has no descriptor, the input is
neither exempt nor of the type, and no raw rule fails. -/
theorem evaluate_rejects_check_accepts_iff (s : Schema Id t) (tables : Tables) (input : Value) :
    (Id.run (s.evaluate tables input)).isSome ∧ Id.run (s.check tables input) = none ↔
      (∀ d, .descriptor d ∉ s.items) ∧
      s.exemption.any (·.covers input) = false ∧ t.coerce? input = none ∧
      ∀ r, .raw r ∈ s.items → Id.run (r.report tables s.owner input) = none := by
  constructor
  · rintro ⟨hev, hck⟩
    rw [check_eq_none_iff] at hck
    by_cases hds : s.items.filterMap Item.descriptor? = []
    · obtain ⟨hex, hco⟩ := (evaluate_isSome_iff_of_no_descriptor s tables input hds).mp hev
      refine ⟨fun d hd => ?_, hex, hco, fun r hr => hck _ hr⟩
      have hmem := mem_filterMap_descriptor?.mpr hd
      rw [hds] at hmem
      exact List.not_mem_nil hmem
    · have hnone : Id.run (s.evaluate tables input) = none :=
        (evaluate_eq_none_iff s tables input hds).mpr fun d hd => hck _ hd
      rw [hnone] at hev
      exact Bool.noConfusion hev
  · rintro ⟨hno, hex, hco, hraw⟩
    have hds : s.items.filterMap Item.descriptor? = [] :=
      List.eq_nil_iff_forall_not_mem.mpr fun d hd => hno d (mem_filterMap_descriptor?.mp hd)
    refine ⟨(evaluate_isSome_iff_of_no_descriptor s tables input hds).mpr ⟨hex, hco⟩, ?_⟩
    rw [check_eq_none_iff]
    intro item hitem
    cases item with
    | descriptor d => exact absurd hitem (hno d)
    | raw r => exact hraw r hitem

/-- A schema for lists without items: evaluating rejects a text, and checking accepts it. -/
theorem check_accepts_text_for_empty_array_schema :
    let s : Schema Id .array := { owner := 0 }
    Id.run (s.evaluate (fun _ => Table.builtIn) (.string "abc")) = some "必须为数组" ∧
      Id.run (s.check (fun _ => Table.builtIn) (.string "abc")) = none := by
  decide +kernel

end Schema

end FieldRules

/-
# `Proofs.Coercion.Lists` — lists and objects through their texts

A list or an object counts as the number of its text.  `number` does not build that text for a list
of two or more elements, which answers NaN at once; it may, because a comma stands in the text of
such a list and in no numeral (`not_spelled_of_mem`).

A list of one element is read from the text of the element, and that is the text of the list unless
the element is null: inside a list null is written as nothing, and alone it is a word.  So the list
of one null is the only one whose number is not that of its text (`number_of_lists`).
-/
import FieldRules.Proofs.Coercion.Numeral

namespace FieldRules.Coercion

open Json (Value)

/-- A character that is neither white space nor part of a numeral spoils a text. -/
theorem not_spelled_of_mem {s : String} {c : Char} (hc : c ∈ s.toList)
    (hblank : Text.isBlank c = false) (hnumeral : InNumeral c = false) : ¬Spelled s := by
  rintro ⟨before, core, after, hs, hb, ha, hcore⟩
  rw [hs] at hc
  rcases List.mem_append.mp hc with hmem | hmem
  · exact Bool.false_ne_true (hblank.symm.trans (hb c hmem))
  rcases List.mem_append.mp hmem with hmem | hmem
  · exact Bool.false_ne_true (hnumeral.symm.trans (List.all_eq_true.mp hcore.inNumeral c hmem))
  · exact Bool.false_ne_true (hblank.symm.trans (ha c hmem))

theorem eq_notANumber_of_isNaN {x : Float} (h : x.isNaN = true) : x = notANumber := by
  have hnan : ∀ y : Float, y.isNaN = true → y = Float.nan := fun y hy => by
    rw [Float.isNaN_eq_decide_eq_nan] at hy
    exact of_decide_eq_true hy
  exact (hnan x h).trans (hnan notANumber isNaN_notANumber).symm

theorem numberOfText_eq_notANumber {s : String} (h : ¬Spelled s) : numberOfText s = notANumber :=
  eq_notANumber_of_isNaN ((isNaN_numberOfText_iff s).mpr h)

/-- An element of a list has its own text unless it is null. -/
theorem elementTexts_cons_of_ne {v : Value} (hv : v ≠ .null) (rest : List Value) :
    elementTexts (v :: rest) = text v :: elementTexts rest := by
  rw [elementTexts]
  exact hv

theorem exists_elementTexts_cons (v : Value) (rest : List Value) :
    ∃ first, elementTexts (v :: rest) = first :: elementTexts rest := by
  by_cases hv : v = .null
  · subst hv
    exact ⟨"", by rw [elementTexts]⟩
  · exact ⟨text v, elementTexts_cons_of_ne hv rest⟩

theorem comma_mem_text_of_two (v w : Value) (rest : List Value) :
    ',' ∈ (text (.array (v :: w :: rest))).toList := by
  obtain ⟨first, hfirst⟩ := exists_elementTexts_cons v (w :: rest)
  obtain ⟨second, hsecond⟩ := exists_elementTexts_cons w rest
  rw [text, hfirst, hsecond, String.intercalate_cons_cons, String.toList_append, String.toList_append]
  exact List.mem_append_left _ (List.mem_append_right _ List.mem_cons_self)

theorem text_of_one {v : Value} (hv : v ≠ .null) : text (.array [v]) = text v := by
  rw [text, elementTexts_cons_of_ne hv, elementTexts, String.intercalate_singleton]

theorem numberOfText_text_null : numberOfText (text (.array [.null])) = 0.0 := by
  rw [text, elementTexts, elementTexts, String.intercalate_singleton]
  rfl

/-- The number of a list is that of its text, but for the list of one null; the number of an object
is that of its text. -/
theorem number_of_lists (items : List Value) (members : List (String × Value)) :
    (number (.array items) = numberOfText (text (.array items)) ↔ items ≠ [.null]) ∧
      number (.object members) = numberOfText (text (.object members)) := by
  constructor
  · match items with
    | [] =>
        refine iff_of_true ?_ (List.cons_ne_nil _ _).symm
        rw [text, elementTexts, String.intercalate_nil]
        rfl
    | [v] =>
        by_cases hv : v = .null
        · subst hv
          refine iff_of_false (fun heq => ?_) (fun hne => hne rfl)
          have hnan : (number (.array [.null])).isNaN = true := by decide +kernel
          rw [heq, numberOfText_text_null] at hnan
          exact absurd hnan (by decide)
        · refine iff_of_true ?_ fun heq => hv (List.cons.inj heq).1
          rw [text_of_one hv]
          rfl
    | v :: w :: rest =>
        refine iff_of_true ?_ fun heq => List.cons_ne_nil w rest (List.cons.inj heq).2
        have hcomma := comma_mem_text_of_two v w rest
        exact (numberOfText_eq_notANumber (not_spelled_of_mem hcomma rfl rfl)).symm
  · have hbracket : '[' ∈ (text (.object members)).toList := by
      rw [text]
      decide
    exact (numberOfText_eq_notANumber (not_spelled_of_mem hbracket rfl rfl)).symm

/-- The list of one null is no number, and its text, which is empty, is zero. -/
theorem number_of_list_of_null :
    (number (.array [.null])).isNaN = true ∧ numberOfText (text (.array [.null])) = 0.0 :=
  ⟨by decide +kernel, numberOfText_text_null⟩

end FieldRules.Coercion

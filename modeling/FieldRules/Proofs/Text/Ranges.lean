/-
# `Proofs.Text.Ranges` — what a table of ranges lists, and what it does not

A property of characters is a table, written as text, that is read into ranges and searched by
halving.  The search answers yes only in a range that holds the character (`exists_of_contains`),
so a character is not of the property if every range of the table lies apart from it.

Whether they all do is decided while the table is read, without the ranges: `sweep` asks it of each
range as it is finished, and `forall_mem_bounds_iff_sweep` says that it asks it of those that reading
makes.  This way it is settled of the longest table, that of the word characters, that neither brace
is one of them.  What a table lists in its first range is found because the search only has to go to
the left (`containsBetween_of_first`); so the digits of ASCII are among the decimal digits.
-/
import Mathlib.Tactic.Common
import FieldRules.Text.Digit
import FieldRules.Text.Word

namespace FieldRules.Text

namespace Ranges

/-! ## The search -/

/-- A search that succeeds has found a range that holds the code point. -/
theorem exists_of_containsBetween {r : Ranges} {n low high : Nat}
    (h : r.containsBetween n low high = true) : ∃ b ∈ r.bounds, b.1 ≤ n ∧ n ≤ b.2 := by
  fun_induction containsBetween r n low high with
  | case1 => cases h
  | case2 _ _ _ _ _ _ _ _ ih => exact ih h
  | case3 _ _ _ _ _ _ _ _ _ ih => exact ih h
  | case4 low high hlt middle first last hget hfirst hlast =>
      exact ⟨(first, last), Array.mem_of_getElem? hget, by simpa using hfirst, by simpa using hlast⟩
  | case5 => cases h

theorem exists_of_contains {r : Ranges} {c : Char} (h : r.contains c = true) :
    ∃ b ∈ r.bounds, b.1 ≤ c.toNat ∧ c.toNat ≤ b.2 := exists_of_containsBetween h

/-! ## Reading -/

theorem ofText_ofList (cs : List Char) :
    ofText (String.ofList cs) = ⟨(cs.foldl Reading.step ⟨#[], none, none⟩).flush⟩ := by
  rw [ofText, String.toList_ofList]

/-- Whether a condition holds of the range that is being read, if there is one. -/
def closes (good : Nat × Nat → Bool) (low number : Option Nat) : Bool :=
  number.all fun n => good (low.getD n, n)

/-- Whether a condition holds of every range from here on. -/
def sweep (good : Nat × Nat → Bool) (low number : Option Nat) : List Char → Bool
  | [] => closes good low number
  | c :: rest =>
    if c = ' ' ∨ c = '\n' then closes good low number && sweep good none none rest
    else if c = '-' then sweep good number none rest
    else sweep good low (some (number.getD 0 * 16 + digit c)) rest

theorem forall_mem_flush_iff (good : Nat × Nat → Bool) (r : Reading) :
    (∀ b ∈ r.flush, good b = true) ↔
      (∀ b ∈ r.bounds, good b = true) ∧ closes good r.low r.number = true := by
  unfold Reading.flush closes
  cases r.number with
  | none => simp
  | some n =>
      simp only [Array.mem_push, or_imp, forall_and, forall_eq, Option.all_some]

/-- Sweeping asks of every range that reading makes. -/
theorem forall_mem_bounds_iff_sweep (good : Nat × Nat → Bool) (cs : List Char) (r : Reading) :
    (∀ b ∈ (cs.foldl Reading.step r).flush, good b = true) ↔
      (∀ b ∈ r.bounds, good b = true) ∧ sweep good r.low r.number cs = true := by
  induction cs generalizing r with
  | nil => exact forall_mem_flush_iff good r
  | cons c rest ih =>
      rw [List.foldl_cons, ih, Reading.step, sweep]
      split
      · rw [forall_mem_flush_iff, Bool.and_eq_true, and_assoc]
      · split <;> exact Iff.rfl

/-- A character that every range of a table lies apart from is not in the table. -/
theorem contains_eq_false_of_sweep {r : Ranges} {cs : List Char} (hr : r = ofText (String.ofList cs))
    {c : Char} (h : sweep (fun b => c.toNat < b.1 || b.2 < c.toNat) none none cs = true) :
    r.contains c = false := by
  refine Bool.eq_false_iff.mpr fun hcontains => ?_
  obtain ⟨b, hb, hfirst, hlast⟩ := exists_of_contains hcontains
  rw [hr, ofText_ofList] at hb
  have hnone : ∀ b ∈ (#[] : Array (Nat × Nat)), (c.toNat < b.1 || b.2 < c.toNat) = true :=
    fun b hb => absurd hb (Array.not_mem_empty b)
  have happart := (forall_mem_bounds_iff_sweep _ cs ⟨#[], none, none⟩).mpr ⟨hnone, h⟩ b hb
  simp only [Bool.or_eq_true, decide_eq_true_eq] at happart
  omega

theorem containsBetween_of_first {r : Ranges} {b : Nat × Nat} {n : Nat}
    (hfirst : r.bounds[0]? = some b) (hlow : b.1 ≤ n) (hends : ∀ b ∈ r.bounds, n ≤ b.2) {high : Nat}
    (hpos : 0 < high) (hhigh : high ≤ r.bounds.size) : r.containsBetween n 0 high = true := by
  -- the search goes to the left only, and ends in the first range at the latest
  induction high using Nat.strongRecOn with
  | ind high ih =>
      have hmiddle : (0 + high) / 2 < r.bounds.size := by omega
      obtain ⟨entry, hget⟩ : ∃ entry, r.bounds[(0 + high) / 2]? = some entry :=
        ⟨_, Array.getElem?_eq_getElem hmiddle⟩
      have hlast : ¬ entry.2 < n := Nat.not_lt.mpr (hends entry (Array.mem_of_getElem? hget))
      rw [containsBetween, if_pos hpos]
      dsimp only
      rw [hget]
      dsimp only
      rw [if_neg hlast]
      by_cases hbelow : n < entry.1
      · have hne : (0 + high) / 2 ≠ 0 := fun hzero => by
          rw [hzero, hfirst] at hget
          cases hget
          omega
        rw [if_pos hbelow]
        exact ih _ (by omega) (Nat.pos_of_ne_zero hne) (by omega)
      · rw [if_neg hbelow]

/-- The same of a character, with what is asked of every range asked while the table is read. -/
theorem contains_of_first_of_sweep {r : Ranges} {cs : List Char}
    (hr : r = ofText (String.ofList cs)) {b : Nat × Nat}
    (hfirst : (cs.foldl Reading.step ⟨#[], none, none⟩).flush[0]? = some b)
    (hends : sweep (fun other => b.2 ≤ other.2) none none cs = true) {c : Char}
    (hlow : b.1 ≤ c.toNat) (hhigh : c.toNat ≤ b.2) : r.contains c = true := by
  subst hr
  have hbounds : ∀ other ∈ (ofText (String.ofList cs)).bounds, b.2 ≤ other.2 := by
    intro other hother
    rw [ofText_ofList] at hother
    have hnone : ∀ other ∈ (#[] : Array (Nat × Nat)), decide (b.2 ≤ other.2) = true :=
      fun other hother => absurd hother (Array.not_mem_empty other)
    exact of_decide_eq_true
      ((forall_mem_bounds_iff_sweep _ cs ⟨#[], none, none⟩).mpr ⟨hnone, hends⟩ other hother)
  have hget : (ofText (String.ofList cs)).bounds[0]? = some b := by rwa [ofText_ofList]
  refine containsBetween_of_first hget hlow (fun other hother =>
    Nat.le_trans hhigh (hbounds other hother)) ?_ (Nat.le_refl _)
  exact Array.size_pos_of_mem (Array.mem_of_getElem? hget)

end Ranges

/-! ## Digits -/

set_option maxRecDepth 100000 in
theorem isDecimalDigit_of_isDigit {c : Char} (h : c.isDigit = true) : isDecimalDigit c = true := by
  obtain ⟨hlow, hhigh⟩ : 48 ≤ c.toNat ∧ c.toNat ≤ 57 := by
    simpa [Char.isDigit, UInt32.le_iff_toNat_le] using h
  refine Ranges.contains_of_first_of_sweep (r := digitRanges) (b := (48, 57)) rfl ?_ ?_ hlow hhigh
  · decide +kernel
  · decide +kernel

/-! ## Braces -/

set_option maxRecDepth 100000 in
theorem isDecimalDigit_brace {c : Char} (h : c = '{' ∨ c = '}') : isDecimalDigit c = false := by
  refine Ranges.contains_eq_false_of_sweep (r := digitRanges) rfl ?_
  rcases h with rfl | rfl <;> decide +kernel

set_option maxRecDepth 100000 in
theorem isWord_brace {c : Char} (h : c = '{' ∨ c = '}') : isWord c = false := by
  refine Ranges.contains_eq_false_of_sweep (r := wordRanges) rfl ?_
  rcases h with rfl | rfl <;> decide +kernel

end FieldRules.Text

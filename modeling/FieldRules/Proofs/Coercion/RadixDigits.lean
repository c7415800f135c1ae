/-
# `Proofs.Coercion.RadixDigits` — the number of a text with a radix

Behind the mark of a radix the digits are gathered from the left, in doubles, and after each one the
product and the sum are rounded.  `number_of_radix_digits` says which double comes out.  Up to the
first digit that takes the number past `2 ^ 53` nothing is lost (`foldl_rounding_of_small`).  There it
is rounded, and the digits behind only move it to the left (`foldl_rounding_of_large`), since they are
less than half of its last bit.

So the double is nearest to the number with zeros for these later digits.  It is nearest to the number
itself too, unless the digits up to that one tie and the tie goes down: then any later digit but zero
should break the tie, and does not.
-/
import FieldRules.Proofs.Coercion.Numeral
import FieldRules.Proofs.Decimal.Nearest

namespace FieldRules.Coercion

open Decimal (Run Carries IsNearest Normal TiesDown roundNat unpacked)

/-! ## The digits -/

namespace Radix

def bits : Radix → Nat
  | .hexadecimal => 4
  | .octal => 3
  | .binary => 1

theorem base_eq (r : Radix) : r.base = 2 ^ r.bits := by cases r <;> rfl

theorem base_pow (r : Radix) (n : Nat) : r.base ^ n = 2 ^ (r.bits * n) := by
  rw [base_eq, ← Nat.pow_mul]

theorem base_pos (r : Radix) : 0 < r.base := by cases r <;> decide

def digitValue (r : Radix) (c : Char) : Nat := (radixDigit? r.base c).getD 0

theorem digitValue_lt (r : Radix) (c : Char) : r.digitValue c < r.base := by
  unfold digitValue
  cases hdigit : radixDigit? r.base c with
  | none => exact r.base_pos
  | some d =>
      unfold radixDigit? at hdigit
      have hlt := (Option.filter_eq_some_iff.mp hdigit).2
      exact of_decide_eq_true hlt

def push (r : Radix) (n : Nat) (c : Char) : Nat := n * r.base + r.digitValue c

def natOf (r : Radix) (ds : List Char) : Nat := ds.foldl r.push 0

theorem foldl_push (r : Radix) (n : Nat) (ds : List Char) :
    ds.foldl r.push n = n * r.base ^ ds.length + r.natOf ds := by
  induction ds generalizing n with
  | nil => simp [natOf]
  | cons c ds ih =>
      rw [natOf, List.foldl_cons, List.foldl_cons, ih, ih (r.push 0 c), push, push,
        List.length_cons, Nat.pow_succ]
      ring

theorem natOf_append (r : Radix) (lead rest : List Char) :
    r.natOf (lead ++ rest) = r.natOf lead * r.base ^ rest.length + r.natOf rest := by
  rw [natOf, List.foldl_append, foldl_push, ← natOf]

theorem natOf_lt (r : Radix) (ds : List Char) : r.natOf ds < r.base ^ ds.length := by
  induction ds with
  | nil => exact Nat.one_pos
  | cons c ds ih =>
      have hdigit : (r.digitValue c + 1) * r.base ^ ds.length ≤ r.base * r.base ^ ds.length :=
        Nat.mul_le_mul_right _ (r.digitValue_lt c)
      rw [natOf, List.foldl_cons, foldl_push, push, Nat.zero_mul, Nat.zero_add, List.length_cons,
        Nat.pow_succ']
      rw [Nat.add_mul, Nat.one_mul] at hdigit
      omega

end Radix

theorem mapM_radixDigit? (r : Radix) {ds : List Char} (hds : ∀ c ∈ ds, c ∈ r.digits) :
    ds.mapM (radixDigit? r.base) = some (ds.map r.digitValue) := by
  induction ds with
  | nil => rfl
  | cons c ds ih =>
      obtain ⟨hc, hds⟩ := List.forall_mem_cons.mp hds
      obtain ⟨d, hd⟩ := Option.isSome_iff_exists.mp ((isSome_radixDigit?_iff r c).mpr hc)
      have hvalue : r.digitValue c = d := by rw [Radix.digitValue, hd, Option.getD_some]
      rw [List.mapM_cons, ih hds, hd, List.map_cons, hvalue]
      rfl

theorem numberOfRadix_eq (r : Radix) {ds : List Char} (hds : Run r.digits ds) :
    numberOfRadix r.base ds
      = ds.foldl (fun x c => pushDigit r.base x (r.digitValue c)) 0.0 := by
  rw [numberOfRadix, if_neg hds.1, mapM_radixDigit? r hds.2]
  exact List.foldl_map

theorem numberOfTrimmed_radix (r : Radix) {mark : Char} (hmark : mark ∈ r.marks) (ds : List Char) :
    numberOfTrimmed ('0' :: mark :: ds) = numberOfRadix r.base ds := by
  cases r <;> simp only [Radix.marks, List.mem_cons, List.not_mem_nil, or_false] at hmark <;>
    rcases hmark with rfl | rfl <;> rfl

/-! ## Gathering in doubles -/

/-- One more digit behind a number that is rounded then. -/
def Radix.rounding (r : Radix) (n : Nat) (c : Char) : Nat := roundNat (r.push n c)

/-- The product is exact, and the sum is rounded. -/
theorem carries_pushDigit (r : Radix) {v : Nat} {x : Float} (hx : Carries v (unpacked x))
    (hv : roundNat v = v) (c : Char) :
    Carries (r.rounding v c) (unpacked (pushDigit r.base x (r.digitValue c))) := by
  have hbase : Normal .positive r.base (unpacked (Float.ofNat r.base)) :=
    Decimal.normal_ofNat_of_lt r.base_pos (by cases r <;> decide)
  have hproduct : Carries (v * r.base) (unpacked (x * Float.ofNat r.base)) := by
    have h := hx.mul hbase
    rwa [r.base_eq, Decimal.roundNat_mul_two_pow, hv, ← r.base_eq] at h
  have hdigit : r.digitValue c < 2 ^ 53 :=
    (r.digitValue_lt c).trans (by cases r <;> decide)
  refine hproduct.add ?_
  rcases Nat.eq_zero_or_pos (r.digitValue c) with hzero | hpos
  · rw [hzero]
    exact .inl ⟨rfl, rfl⟩
  · exact .inr (Decimal.normal_ofNat_of_lt hpos hdigit)

theorem carries_foldl_pushDigit (r : Radix) (ds : List Char) {v : Nat} {x : Float}
    (hx : Carries v (unpacked x)) (hv : roundNat v = v) :
    Carries (ds.foldl r.rounding v)
      (unpacked (ds.foldl (fun x c => pushDigit r.base x (r.digitValue c)) x)) := by
  induction ds generalizing v x with
  | nil => exact hx
  | cons c ds ih => exact ih (carries_pushDigit r hx hv c) (Decimal.roundNat_roundNat _)

theorem carries_numberOfText (r : Radix) {s : String} {mark : Char} {ds : List Char}
    (hmark : mark ∈ r.marks) (hds : Run r.digits ds)
    (hs : Text.trim s.toList = '0' :: mark :: ds) :
    Carries (ds.foldl r.rounding 0) (unpacked (numberOfText s)) := by
  rw [numberOfText, hs, numberOfTrimmed_radix r hmark, numberOfRadix_eq r hds]
  exact carries_foldl_pushDigit r ds (.zero rfl) Decimal.roundNat_zero

/-! ## Gathering in rounded numbers -/

/-- Nothing is rounded before a digit takes the number past `2 ^ 53`. -/
theorem foldl_rounding_of_small (r : Radix) (ds : List Char) {n : Nat} (hn : n < 2 ^ 53) :
    ∃ lead rest, ds = lead ++ rest ∧ lead.foldl r.push n < 2 ^ 53 * r.base ∧
      (rest = [] ∨ 2 ^ 53 ≤ lead.foldl r.push n) ∧
      lead.foldl r.rounding n = roundNat (lead.foldl r.push n) := by
  have hbase := r.base_pos
  induction ds generalizing n with
  | nil =>
      refine ⟨[], [], rfl, ?_, .inl rfl, (Decimal.roundNat_eq_self hn.le).symm⟩
      exact hn.trans_le (Nat.le_mul_of_pos_right _ hbase)
  | cons c ds ih =>
      rcases Nat.lt_or_ge (r.push n c) (2 ^ 53) with hsmall | hlarge
      · obtain ⟨lead, rest, rfl, hlead, hrest, hround⟩ := ih hsmall
        refine ⟨c :: lead, rest, rfl, hlead, hrest, ?_⟩
        rwa [List.foldl_cons, Radix.rounding, Decimal.roundNat_eq_self hsmall.le]
      · refine ⟨[c], ds, rfl, ?_, .inr hlarge, rfl⟩
        have hdigit := r.digitValue_lt c
        have hmul : (n + 1) * r.base ≤ 2 ^ 53 * r.base := Nat.mul_le_mul_right _ hn
        rw [Nat.add_mul, Nat.one_mul] at hmul
        rw [List.foldl_cons, List.foldl_nil, Radix.push]
        omega

/-- Behind a number of 53 bits and zeros, past `2 ^ 53`, digits are rounded away. -/
theorem foldl_rounding_of_large (r : Radix) (ds : List Char) {n : Nat} (hn : 2 ^ 53 ≤ n)
    (hround : roundNat n = n) : ds.foldl r.rounding n = n * r.base ^ ds.length := by
  induction ds generalizing n with
  | nil => rw [List.foldl_nil, List.length_nil, Nat.pow_zero, Nat.mul_one]
  | cons c ds ih =>
      have hdigit := r.digitValue_lt c
      have hstep : r.rounding n c = n * r.base := by
        rw [r.base_eq] at hdigit
        rw [Radix.rounding, Radix.push, r.base_eq, Decimal.roundNat_append hn hdigit, hround,
          if_neg fun h => Decimal.not_tiesDown_of_roundNat_eq_self hround h.1]
      have hkept : roundNat (n * r.base) = n * r.base := by
        rw [r.base_eq, Decimal.roundNat_mul_two_pow, hround]
      rw [List.foldl_cons, hstep, ih (hn.trans (Nat.le_mul_of_pos_right n r.base_pos)) hkept,
        List.length_cons, Nat.pow_succ', Nat.mul_assoc]

/-- The digits up to the one that takes the number past `2 ^ 53` are rounded, and the others move
that number to the left. -/
theorem exists_foldl_rounding_eq (r : Radix) (ds : List Char) :
    ∃ lead rest, ds = lead ++ rest ∧ r.natOf lead < 2 ^ 53 * r.base ∧
      (rest = [] ∨ 2 ^ 53 ≤ r.natOf lead) ∧
      ds.foldl r.rounding 0 = roundNat (r.natOf lead) * r.base ^ rest.length := by
  obtain ⟨lead, rest, hsplit, hlead, hrest, hround⟩ :=
    foldl_rounding_of_small r ds (n := 0) (by decide)
  refine ⟨lead, rest, hsplit, hlead, hrest, ?_⟩
  rw [hsplit, List.foldl_append, hround, ← Radix.natOf]
  rcases hrest with rfl | hpast
  · rw [List.foldl_nil, List.length_nil, Nat.pow_zero, Nat.mul_one]
  · exact foldl_rounding_of_large r rest (Decimal.two_pow_le_roundNat hpast)
      (Decimal.roundNat_roundNat _)

/-! ## The nearest double -/

/-- The number of a text with a radix.  Of its digits, `lead` are those up to the one that takes the
number past `2 ^ 53`, or all of them.  The number is the double nearest to that of `lead` with zeros for
the digits behind, and so it is nearest to the number that the text denotes unless `lead` is half way
between two doubles, goes to the lower one, and the digits behind are not all zero.  (Past the end of
the range both are the infinity.) -/
theorem number_of_radix_digits (r : Radix) {s : String} {mark : Char} {ds : List Char}
    (hmark : mark ∈ r.marks) (hds : Run r.digits ds)
    (hs : Text.trim s.toList = '0' :: mark :: ds) :
    ∃ lead rest, ds = lead ++ rest ∧ r.natOf lead < 2 ^ 53 * r.base ∧
      (rest = [] ∨ 2 ^ 53 ≤ r.natOf lead) ∧
      IsNearest (r.natOf lead * r.base ^ rest.length) (numberOfText s) ∧
      (IsNearest (r.natOf ds) (numberOfText s) ↔
        ¬(TiesDown (r.natOf lead) ∧ r.natOf rest ≠ 0 ∧ r.natOf ds < 2 ^ 1024)) := by
  have hcarries := carries_numberOfText r hmark hds hs
  obtain ⟨lead, rest, rfl, hlead, hpast, hfold⟩ := exists_foldl_rounding_eq r ds
  rw [hfold] at hcarries
  have hzeros : IsNearest (r.natOf lead * r.base ^ rest.length) (numberOfText s) := by
    rwa [Decimal.isNearest_iff, r.base_pow, Decimal.roundNat_mul_two_pow, ← r.base_pow]
  refine ⟨lead, rest, rfl, hlead, hpast, hzeros, ?_⟩
  rcases hpast with rfl | hpast
  · rw [List.length_nil, Nat.pow_zero, Nat.mul_one] at hzeros
    rw [List.append_nil]
    exact iff_of_true hzeros fun h => h.2.1 rfl
  · have hrest := r.natOf_lt rest
    rw [r.base_pow] at hcarries hrest
    rw [r.natOf_append, r.base_pow]
    exact Decimal.isNearest_append_iff hpast hrest hcarries

theorem number_of_radix_digits_of_lost_bit :
    'x' ∈ Radix.hexadecimal.marks ∧ Run Radix.hexadecimal.digits "200000000000011".toList ∧
      Text.trim "0x200000000000011".toList = '0' :: 'x' :: "200000000000011".toList ∧
      ∃ lead rest, "200000000000011".toList = lead ++ rest ∧
        Radix.hexadecimal.natOf lead < 2 ^ 53 * 16 ∧
        (rest = [] ∨ 2 ^ 53 ≤ Radix.hexadecimal.natOf lead) ∧
        IsNearest (Radix.hexadecimal.natOf lead * 16 ^ rest.length)
          (numberOfText "0x200000000000011") ∧
        (IsNearest (Radix.hexadecimal.natOf "200000000000011".toList)
            (numberOfText "0x200000000000011") ↔
          ¬(TiesDown (Radix.hexadecimal.natOf lead) ∧ Radix.hexadecimal.natOf rest ≠ 0 ∧
            Radix.hexadecimal.natOf "200000000000011".toList < 2 ^ 1024)) :=
  have hmark : 'x' ∈ Radix.hexadecimal.marks := by decide
  have hds : Run Radix.hexadecimal.digits "200000000000011".toList := by
    decide +kernel
  have hs : Text.trim "0x200000000000011".toList = '0' :: 'x' :: "200000000000011".toList := by
    decide +kernel
  ⟨hmark, hds, hs, number_of_radix_digits .hexadecimal hmark hds hs⟩

/-- `2 ^ 57 + 17` is nearer to `2 ^ 57 + 32` than to `2 ^ 57`, which is what it is read as. -/
theorem last_digit_does_not_break_tie :
    Radix.hexadecimal.natOf "200000000000011".toList = 2 ^ 57 + 17 ∧
      IsNearest (2 ^ 57) (numberOfText "0x200000000000011") ∧
      IsNearest (2 ^ 57 + 17) (Float.ofNat (2 ^ 57 + 32)) ∧
      ¬IsNearest (2 ^ 57 + 17) (numberOfText "0x200000000000011") := by
  have hfold : "200000000000011".toList.foldl Radix.hexadecimal.rounding 0 = 2 ^ 57 := by
    decide +kernel
  have hread : Carries (2 ^ 57) (unpacked (numberOfText "0x200000000000011")) := by
    rw [← hfold]
    exact carries_numberOfText .hexadecimal (show 'x' ∈ Radix.hexadecimal.marks by decide)
      (by decide +kernel) (by decide +kernel)
  have hnearest : roundNat (2 ^ 57) = 2 ^ 57 ∧ roundNat (2 ^ 57 + 17) = 2 ^ 57 + 32 := by decide
  refine ⟨by decide, ?_, ?_, ?_⟩
  · rwa [Decimal.isNearest_iff, hnearest.1]
  · have h := Decimal.carries_ofNat (2 ^ 57 + 32)
    rwa [Decimal.isNearest_iff, hnearest.2]
  · intro h
    have hcarries := h.carries
    rw [hnearest.2] at hcarries
    rcases hcarries.eq_or_le hread with heq | ⟨-, hle⟩
    · exact absurd heq (by decide)
    · exact absurd ((Nat.pow_le_pow_iff_right (by decide)).mp hle) (by decide)

end FieldRules.Coercion

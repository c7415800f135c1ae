/-
# `Proofs.Coercion.Numeral` — which texts denote a number

`Numeral` is the grammar of the texts that denote a number once the white space around them is off:
nothing at all, an infinity by name, a zero with a letter and digits of its radix, or a decimal
literal.  `Spelled s` says that `s` is such a text with white space around it.

`isNaN_numberOfText_iff` says that `numberOfText` answers NaN for the texts that are not spelled so,
and for no others.  One half is about the grammar; the other is about arithmetic, since a text of the
grammar might still overflow to NaN on its way, and does not (`Decimal.HasSign`).
-/
import FieldRules.Proofs.Decimal.Literal
import FieldRules.Proofs.Decimal.Sign
import FieldRules.Schema

namespace FieldRules.Coercion

open Decimal (Run IsSign IsLiteral)
open Json (Value)
open Messages (Table)

/-! ## The grammar -/

/-- The radices other than ten. -/
inductive Radix where
  | hexadecimal
  | octal
  | binary
deriving DecidableEq

namespace Radix

def base : Radix → Nat
  | .hexadecimal => 16
  | .octal => 8
  | .binary => 2

def marks : Radix → List Char
  | .hexadecimal => ['x', 'X']
  | .octal => ['o', 'O']
  | .binary => ['b', 'B']

def digits : Radix → List Char
  | .hexadecimal => "0123456789abcdefABCDEF".toList
  | .octal => "01234567".toList
  | .binary => "01".toList

end Radix

/-- The texts that denote a number, without white space around them. -/
inductive Numeral : List Char → Prop where
  | empty : Numeral []
  | infinity {sign} (hs : IsSign sign) : Numeral (sign ++ "Infinity".toList)
  | radix (r : Radix) {mark ds} (hmark : mark ∈ r.marks) (hds : Run r.digits ds) :
      Numeral ('0' :: mark :: ds)
  | decimal {cs} (h : IsLiteral cs) : Numeral cs

/-- A text is that of a number with white space around it. -/
def Spelled (s : String) : Prop :=
  ∃ before core after, s.toList = before ++ (core ++ after) ∧
    (∀ c ∈ before, Text.isBlank c = true) ∧ (∀ c ∈ after, Text.isBlank c = true) ∧ Numeral core

/-! ## Characters -/

/-- A sign, the point, or a letter or digit of the ASCII range. -/
def InNumeral (c : Char) : Bool := c == '+' || c == '-' || c == '.' || c.isAlphanum

theorem inNumeral_of_run {set ds : List Char} (h : Run set ds) (hset : set.all InNumeral = true) :
    ds.all InNumeral = true :=
  List.all_eq_true.mpr fun c hc => List.all_eq_true.mp hset c (h.2 c hc)

theorem inNumeral_of_sign {sign : List Char} (h : IsSign sign) : sign.all InNumeral = true := by
  cases h <;> rfl

theorem inNumeral_of_mantissa {cs : List Char} (h : Decimal.IsMantissa cs) :
    cs.all InNumeral = true := by
  have hdigits : Decimal.digits.all InNumeral = true := rfl
  cases h with
  | whole hds => exact inNumeral_of_run hds hdigits
  | @point ds fs hds hfs =>
      rw [List.all_append, inNumeral_of_run hds hdigits]
      exact List.all_eq_true.mpr (List.forall_mem_cons.mpr
        ⟨rfl, fun c hc => List.all_eq_true.mp hdigits c (hfs c hc)⟩)
  | fraction hfs =>
      rw [List.all_cons, inNumeral_of_run hfs hdigits]
      rfl

theorem inNumeral_of_exponent {cs : List Char} (h : Decimal.IsExponent cs) :
    cs.all InNumeral = true := by
  cases h with
  | none => rfl
  | @some mark sign ds hmark hsign hds =>
      rw [List.all_cons, List.all_append, inNumeral_of_sign hsign, inNumeral_of_run hds rfl]
      rcases hmark with rfl | rfl <;> rfl

theorem Numeral.inNumeral {cs : List Char} (h : Numeral cs) : cs.all InNumeral = true := by
  cases h with
  | empty => rfl
  | infinity hs =>
      rw [List.all_append, inNumeral_of_sign hs]
      rfl
  | radix r hmark hds =>
      have hmarks : r.marks.all InNumeral = true := by cases r <;> rfl
      have hdigits : r.digits.all InNumeral = true := by cases r <;> rfl
      rw [List.all_cons, List.all_cons, List.all_eq_true.mp hmarks _ hmark,
        inNumeral_of_run hds hdigits]
      rfl
  | decimal h =>
      obtain ⟨hs, hm, he⟩ := h
      rw [List.all_append, List.all_append, inNumeral_of_sign hs, inNumeral_of_mantissa hm,
        inNumeral_of_exponent he]
      rfl

/-! ## White space -/

theorem isBlank_of_inNumeral {c : Char} (h : InNumeral c = true) : Text.isBlank c = false := by
  have hrange : 43 ≤ c.toNat ∧ c.toNat ≤ 122 := by
    simp only [InNumeral, Bool.or_eq_true, beq_iff_eq, Char.isAlphanum, Char.isAlpha, Char.isUpper,
      Char.isLower, Char.isDigit, Bool.and_eq_true, decide_eq_true_eq, ge_iff_le,
      UInt32.le_iff_toNat_le] at h
    rcases h with ((rfl | rfl) | rfl) | h
    · decide
    · decide
    · decide
    · change ((65 ≤ c.toNat ∧ c.toNat ≤ 90) ∨ (97 ≤ c.toNat ∧ c.toNat ≤ 122)) ∨
        (48 ≤ c.toNat ∧ c.toNat ≤ 57) at h
      omega
  simp only [Text.isBlank, Bool.or_eq_false_iff, Bool.and_eq_false_iff, decide_eq_false_iff_not,
    beq_eq_false_iff_ne, ne_eq]
  omega

theorem exists_trim (cs : List Char) : ∃ before after, cs = before ++ (Text.trim cs ++ after) ∧
    (∀ c ∈ before, Text.isBlank c = true) ∧ (∀ c ∈ after, Text.isBlank c = true) := by
  have htail := List.takeWhile_append_dropWhile (p := Text.isBlank)
    (l := (cs.dropWhile Text.isBlank).reverse)
  refine ⟨cs.takeWhile Text.isBlank,
    ((cs.dropWhile Text.isBlank).reverse.takeWhile Text.isBlank).reverse, ?_, ?_, ?_⟩
  · rw [Text.trim, ← List.reverse_append, htail, List.reverse_reverse,
      List.takeWhile_append_dropWhile]
  · exact fun c hc => List.mem_takeWhile_imp hc
  · exact fun c hc => List.mem_takeWhile_imp (List.mem_reverse.mp hc)

/-- What holds no white space is left when the white space around it is taken off. -/
theorem trim_append {before core after : List Char} (hb : ∀ c ∈ before, Text.isBlank c = true)
    (ha : ∀ c ∈ after, Text.isBlank c = true) (hc : ∀ c ∈ core, Text.isBlank c = false) :
    Text.trim (before ++ (core ++ after)) = core := by
  cases core with
  | nil =>
      have hall : (before ++ after).dropWhile Text.isBlank = [] :=
        List.dropWhile_eq_nil_iff.mpr fun c hmem =>
          (List.mem_append.mp hmem).elim (hb c) (ha c)
      rw [List.nil_append, Text.trim, hall]
      rfl
  | cons c rest =>
      have hfront : (before ++ (c :: rest ++ after)).dropWhile Text.isBlank = c :: rest ++ after :=
        Decimal.dropWhile_append_of_head hb fun d hd => by
          cases hd
          exact hc c List.mem_cons_self
      have hback : (after.reverse ++ (c :: rest).reverse).dropWhile Text.isBlank
          = (c :: rest).reverse :=
        Decimal.dropWhile_append_of_head (fun d hd => ha d (List.mem_reverse.mp hd)) fun d hd =>
          hc d (List.mem_reverse.mp (List.mem_of_mem_head? hd))
      rw [Text.trim, hfront, List.reverse_append, hback, List.reverse_reverse]

/-! ## Radices -/

theorem isSome_radixDigit?_iff (r : Radix) (c : Char) :
    (radixDigit? r.base c).isSome = true ↔ c ∈ r.digits := by
  have h1 : ('0' ≤ c ∧ c ≤ '9') ↔ (48 ≤ c.toNat ∧ c.toNat ≤ 57) := Iff.rfl
  have h2 : ('a' ≤ c ∧ c ≤ 'f') ↔ (97 ≤ c.toNat ∧ c.toNat ≤ 102) := Iff.rfl
  have h3 : ('A' ≤ c ∧ c ≤ 'F') ↔ (65 ≤ c.toNat ∧ c.toNat ≤ 70) := Iff.rfl
  have hvalue : (radixDigit? r.base c).isSome = true ↔
      (48 ≤ c.toNat ∧ c.toNat ≤ 57 ∧ c.toNat - 48 < r.base) ∨
      (97 ≤ c.toNat ∧ c.toNat ≤ 102 ∧ c.toNat - 87 < r.base) ∨
      (65 ≤ c.toNat ∧ c.toNat ≤ 70 ∧ c.toNat - 55 < r.base) := by
    unfold radixDigit?
    simp only [h1, h2, h3]
    split_ifs <;> simp [Option.filter] <;> omega
  rw [hvalue, Decimal.mem_iff_toNat_mem]
  cases r with
  | hexadecimal =>
      rw [show Radix.hexadecimal.digits.map Char.toNat = [48, 49, 50, 51, 52, 53, 54, 55, 56, 57,
        97, 98, 99, 100, 101, 102, 65, 66, 67, 68, 69, 70] from rfl]
      simp only [List.mem_cons, List.not_mem_nil, or_false, Radix.base]
      omega
  | octal =>
      rw [show Radix.octal.digits.map Char.toNat = [48, 49, 50, 51, 52, 53, 54, 55] from rfl]
      simp only [List.mem_cons, List.not_mem_nil, or_false, Radix.base]
      omega
  | binary =>
      rw [show Radix.binary.digits.map Char.toNat = [48, 49] from rfl]
      simp only [List.mem_cons, List.not_mem_nil, or_false, Radix.base]
      omega

theorem isSome_mapM_iff {α β : Type} (f : α → Option β) (xs : List α) :
    (xs.mapM f).isSome = true ↔ ∀ x ∈ xs, (f x).isSome = true := by
  induction xs with
  | nil => simp
  | cons x xs ih =>
      rw [List.mapM_cons, List.forall_mem_cons, ← ih]
      cases f x with
      | none => simp
      | some y => cases xs.mapM f <;> simp

open Float.Model.UnpackedFloat in
theorem exists_unpacked_base (r : Radix) : ∃ m e, ∃ hm : 0 < m,
    Decimal.unpacked (Float.ofNat r.base) = .finite .positive m e hm := by
  cases r <;> exact ⟨_, _, _, rfl⟩

open Float.Model.UnpackedFloat in
/-- Gathering digits from the left never leaves the numbers that are not negative. -/
theorem hasSign_foldl_pushDigit (r : Radix) (values : List Nat) {x : Float}
    (hx : Decimal.HasSign .positive (Decimal.unpacked x)) :
    Decimal.HasSign .positive (Decimal.unpacked (values.foldl (pushDigit r.base) x)) := by
  obtain ⟨m, e, hm, hbase⟩ := exists_unpacked_base r
  induction values generalizing x with
  | nil => exact hx
  | cons v values ih =>
      refine ih (Decimal.hasSign_unpacked_add ?_ (Decimal.hasSign_unpacked_ofNat v))
      exact Decimal.hasSign_unpacked_mul hx hbase

theorem isNaN_notANumber : notANumber.isNaN = true := by decide

theorem isNaN_numberOfRadix_iff (r : Radix) (ds : List Char) :
    (numberOfRadix r.base ds).isNaN = true ↔ ¬Run r.digits ds := by
  unfold numberOfRadix
  split
  · next h => exact ⟨fun _ hrun => hrun.1 h, fun _ => isNaN_notANumber⟩
  · next h =>
    have hall : (ds.mapM (radixDigit? r.base)).isSome = true ↔ Run r.digits ds := by
      rw [isSome_mapM_iff, Run, and_iff_right h]
      exact forall₂_congr fun c _ => isSome_radixDigit?_iff r c
    rw [← hall]
    cases ds.mapM (radixDigit? r.base) with
    | none => exact ⟨fun _ => Bool.false_ne_true, fun _ => isNaN_notANumber⟩
    | some values =>
        have hsign := hasSign_foldl_pushDigit r values (x := 0.0) Decimal.HasSign.zero
        show (values.foldl (pushDigit r.base) 0.0).isNaN = true ↔ ¬true = true
        rw [Decimal.isNaN_of_hasSign hsign]
        exact ⟨fun h => absurd h Bool.false_ne_true, fun h => absurd rfl h⟩

theorem not_isLiteral_radix (r : Radix) {mark : Char} (hmark : mark ∈ r.marks) (ds : List Char) :
    ¬IsLiteral ('0' :: mark :: ds) := by
  have hnone : Decimal.Literal.read? ('0' :: mark :: ds) = none := by
    cases r <;> simp only [Radix.marks, List.mem_cons, List.not_mem_nil, or_false] at hmark <;>
      rcases hmark with rfl | rfl <;> rfl
  rw [← Decimal.isSome_read?_iff, hnone]
  exact Bool.false_ne_true

theorem eq_of_mem_marks {r r' : Radix} {mark : Char} (h : mark ∈ r.marks) (h' : mark ∈ r'.marks) :
    r = r' := by
  have hall : r.marks.all (fun mark => r'.marks.contains mark → r = r') = true := by
    cases r <;> cases r' <;> rfl
  have hmark := List.all_eq_true.mp hall mark h
  exact of_decide_eq_true hmark (List.contains_iff_mem.mpr h')

/-- Behind a zero and the letter of a radix there may only be digits of the radix. -/
theorem numeral_radix_iff (r : Radix) {mark : Char} (hmark : mark ∈ r.marks) (ds : List Char) :
    Numeral ('0' :: mark :: ds) ↔ Run r.digits ds := by
  constructor
  · intro h
    generalize hcs : '0' :: mark :: ds = cs at h
    cases h with
    | empty => cases hcs
    | infinity hs =>
        have hhead : some '0' = _ := congrArg List.head? hcs
        cases hs <;> exact absurd hhead (by decide)
    | radix r' hmark' hds =>
        cases hcs
        rw [eq_of_mem_marks hmark hmark']
        exact hds
    | decimal h =>
        rw [← hcs] at h
        exact absurd h (not_isLiteral_radix r hmark ds)
  · exact .radix r hmark

/-! ## The reading -/

open Float.Model.UnpackedFloat in
theorem isNaN_toFloat (l : Decimal.Literal) : l.toFloat.isNaN = false := by
  have hsign : Decimal.HasSign .positive (Decimal.unpacked (Decimal.nearest
      (Decimal.natOfDigits (l.whole ++ l.fraction)) (l.exponent - l.fraction.length))) :=
    Decimal.hasSign_unpacked_ofScientific ..
  unfold Decimal.Literal.toFloat
  dsimp only
  split
  · exact Decimal.isNaN_of_hasSign (Decimal.hasSign_unpacked_neg hsign)
  · exact Decimal.isNaN_of_hasSign hsign

/-- A text that is neither empty, nor an infinity, nor behind the letter of a radix, nor read as a
decimal is not in the grammar. -/
theorem not_numeral_of_unread {cs : List Char} (hnil : cs ≠ [])
    (hinf : ∀ {sign}, IsSign sign → cs ≠ sign ++ "Infinity".toList)
    (hradix : ∀ (r : Radix) {mark} (ds : List Char), mark ∈ r.marks → cs ≠ '0' :: mark :: ds)
    (hread : Decimal.Literal.read? cs = none) : ¬Numeral cs := by
  intro h
  cases h with
  | empty => exact hnil rfl
  | infinity hs => exact hinf hs rfl
  | radix r hmark hds => exact hradix r _ hmark rfl
  | decimal h =>
      rw [← Decimal.isSome_read?_iff, hread] at h
      exact Bool.false_ne_true h

/-- Without white space around it, a text denotes a number exactly if it is in the grammar. -/
theorem isNaN_numberOfTrimmed_iff (cs : List Char) :
    (numberOfTrimmed cs).isNaN = true ↔ ¬Numeral cs := by
  have hnumber : ∀ {x : Float}, x.isNaN = false → Numeral cs →
      (x.isNaN = true ↔ ¬Numeral cs) := fun hx h => by
    rw [hx]
    exact ⟨fun h => absurd h Bool.false_ne_true, fun hnot => absurd h hnot⟩
  have hradix : ∀ (r : Radix) {mark} (ds : List Char), mark ∈ r.marks → cs = '0' :: mark :: ds →
      ((numberOfRadix r.base ds).isNaN = true ↔ ¬Numeral cs) := fun r mark ds hmark hcs => by
    rw [hcs, numeral_radix_iff r hmark, isNaN_numberOfRadix_iff]
  unfold numberOfTrimmed
  split_ifs with hnil hinf hneg
  · exact hnumber (by decide) (hnil ▸ .empty)
  · refine hnumber (by decide) ?_
    rcases hinf with rfl | rfl
    · exact .infinity .none
    · exact .infinity .plus
  · exact hnumber (by decide) (hneg ▸ .infinity .minus)
  · split
    · next ds => exact hradix .hexadecimal ds (List.mem_cons_self) rfl
    · next ds => exact hradix .hexadecimal ds (List.mem_cons_of_mem _ List.mem_cons_self) rfl
    · next ds => exact hradix .octal ds (List.mem_cons_self) rfl
    · next ds => exact hradix .octal ds (List.mem_cons_of_mem _ List.mem_cons_self) rfl
    · next ds => exact hradix .binary ds (List.mem_cons_self) rfl
    · next ds => exact hradix .binary ds (List.mem_cons_of_mem _ List.mem_cons_self) rfl
    · next hx hX ho hO hb hB =>
      cases hread : Decimal.Literal.read? cs with
      | some l =>
          refine hnumber (isNaN_toFloat l) (.decimal ?_)
          rw [← Decimal.isSome_read?_iff, hread]
          rfl
      | none =>
          refine iff_of_true isNaN_notANumber (not_numeral_of_unread hnil ?_ ?_ hread)
          · rintro sign (_ | _ | _)
            · exact fun h => hinf (.inl h)
            · exact fun h => hinf (.inr h)
            · exact hneg
          · intro r mark ds hmark
            cases r <;> simp only [Radix.marks, List.mem_cons, List.not_mem_nil, or_false] at hmark <;>
              rcases hmark with rfl | rfl
            · exact hx ds
            · exact hX ds
            · exact ho ds
            · exact hO ds
            · exact hb ds
            · exact hB ds

theorem spelled_iff (s : String) : Spelled s ↔ Numeral (Text.trim s.toList) := by
  constructor
  · rintro ⟨before, core, after, hs, hb, ha, hcore⟩
    have hplain : ∀ c ∈ core, Text.isBlank c = false := fun c hc =>
      isBlank_of_inNumeral (List.all_eq_true.mp hcore.inNumeral c hc)
    rw [hs, trim_append hb ha hplain]
    exact hcore
  · intro h
    obtain ⟨before, after, hs, hb, ha⟩ := exists_trim s.toList
    exact ⟨before, _, after, hs, hb, ha, h⟩

theorem isNaN_numberOfText_iff (s : String) : (numberOfText s).isNaN = true ↔ ¬Spelled s := by
  rw [spelled_iff]
  exact isNaN_numberOfTrimmed_iff _

/-- Whether a text is spelled as a number is decided by reading it. -/
instance (s : String) : Decidable (Spelled s) :=
  decidable_of_iff (¬(numberOfText s).isNaN = true) (by rw [isNaN_numberOfText_iff, not_not])

/-! ## Fields of type number -/

theorem coerce?_number_eq_none_iff (s : String) :
    FieldType.number.coerce? (.string s) = none ↔ ¬Spelled s := by
  rw [← isNaN_numberOfText_iff]
  show (if (numberOfText s).isNaN = true then none else some (numberOfText s)) = none ↔ _
  split
  · next h => exact iff_of_true rfl h
  · next h => exact iff_of_false (Option.some_ne_none _) h

/-- A text denotes no number exactly if it is not spelled as one.  So a field of type number, unless
it lets the text through, runs its constraints on the number of a text that is spelled as one, and
reports of any other text that it is not of the type. -/
theorem texts_of_numbers {m : Type → Type} [Monad m] (schema : Schema m .number) (tables : Tables)
    (s : String) :
    ((numberOfText s).isNaN = true ↔ ¬Spelled s) ∧
      schema.evaluate tables (.string s) =
        if schema.exemption.any (·.covers (.string s)) then pure none
        else if Spelled s then
          (schema.items.filterMap Item.descriptor?).findSomeM?
            (Descriptor.report (tables schema.owner) (numberOfText s) (.string s))
        else pure (some ((tables schema.owner).typeFailure .number)) := by
  refine ⟨isNaN_numberOfText_iff s, ?_⟩
  unfold Schema.evaluate Group.evaluate Schema.group
  split
  · rfl
  · by_cases h : Spelled s
    · have hnan : ¬(numberOfText s).isNaN = true := fun hnan => (isNaN_numberOfText_iff s).mp hnan h
      have hsome : FieldType.number.coerce? (.string s) = some (numberOfText s) := if_neg hnan
      rw [if_pos h, hsome]
    · rw [if_neg h, (coerce?_number_eq_none_iff s).mpr h]

example : Spelled "" ∧ Spelled "\u3000-.5E+3\t" ∧ Spelled "0XfF" ∧ ¬Spelled "-0x1" ∧ ¬Spelled "1_0" ∧
    ¬Spelled "inf" ∧ ¬Spelled "." ∧ ¬Spelled "1 2" ∧ ¬Spelled "0b" := by decide +kernel

end FieldRules.Coercion

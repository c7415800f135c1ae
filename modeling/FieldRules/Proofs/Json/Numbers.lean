/-
# `Proofs.Json.Numbers` — numbers are written as literals

A number that is written is the spelling of a literal: `NumberLiteral.body` spells one, and cutting
the next lexeme off a text takes a spelling whole, up to the delimiter behind it
(`number?_body_append`).

What the literal says about the number is `NumberLiteral.Denotes`.  The literal of an integer has
neither point nor exponent and is the integer.  The literal of a double has a point or an exponent,
so it is not read as an integer; it has the sign of the double, and its decimal value is among those
that read back to it.
-/
import FieldRules.Json.Writer
import FieldRules.Json.Token
import FieldRules.Proofs.Decimal.Digits
import FieldRules.Proofs.Decimal.Shortest

namespace FieldRules.Json

open Decimal (Run Scaled digitsOf natOfDigits isDigit Undigited)

/-- What stands behind a value: nothing, a comma or a closing bracket. -/
def Delimited (rest : List Char) : Prop := ∀ c ∈ rest.head?, c ∈ [',', ']', '}']

namespace NumberLiteral

/-! ## Spelling -/

def exponentBody : Option (Bool × List Char) → List Char
  | none => []
  | some (negative, ds) => 'e' :: (if negative then '-' else '+') :: ds

def fractionBody : Option (List Char) → List Char
  | none => []
  | some ds => '.' :: ds

def body (l : NumberLiteral) : List Char :=
  l.whole ++ (fractionBody l.fraction ++ exponentBody l.exponent)

/-- The parts of a literal as a JSON text may have them: there are digits in each, and no zero in
front of other digits. -/
structure WellFormed (l : NumberLiteral) : Prop where
  whole : Run Decimal.digits l.whole
  unpadded : ∀ c rest, l.whole ≠ '0' :: c :: rest
  fraction : ∀ ds ∈ l.fraction, Run Decimal.digits ds
  exponent : ∀ e ∈ l.exponent, Run Decimal.digits e.2

theorem undigited_of_delimited {rest : List Char} (h : Delimited rest) : Undigited rest := by
  intro c hc
  have hmem := h c hc
  simp only [List.mem_cons, List.not_mem_nil, or_false] at hmem
  rcases hmem with rfl | rfl | rfl <;> rfl

theorem undigited_exponentBody_append (e : Option (Bool × List Char)) {rest : List Char}
    (h : Delimited rest) : Undigited (exponentBody e ++ rest) := by
  cases e with
  | none => exact undigited_of_delimited h
  | some e =>
      intro c hc
      cases hc
      rfl

theorem undigited_fractionBody_append (f : Option (List Char)) (e : Option (Bool × List Char))
    {rest : List Char} (h : Delimited rest) :
    Undigited (fractionBody f ++ (exponentBody e ++ rest)) := by
  cases f with
  | none => exact undigited_exponentBody_append e h
  | some f =>
      intro c hc
      cases hc
      rfl

/-! ## Cutting off

The lexeme is cut off part by part, and each part ends where the next one starts. -/

open Token (exponent? number?)

/-- The fraction, if there is one, and what follows it. -/
def fractionPart? : List Char → Option (Option (List Char) × List Char)
  | '.' :: rest =>
    match rest.takeWhile isDigit with
    | [] => none
    | ds => some (some ds, rest.dropWhile isDigit)
  | rest => some (none, rest)

/-- The exponent, if there is one, and what follows it. -/
def exponentPart? : List Char → Option (Option (Bool × List Char) × List Char)
  | 'e' :: rest | 'E' :: rest => (exponent? rest).map fun (e, rest) => (some e, rest)
  | rest => some (none, rest)

theorem number?_eq (negative : Bool) {cs : List Char} (hwhole : cs.takeWhile isDigit ≠ [])
    (hunpadded : ∀ c rest, cs.takeWhile isDigit ≠ '0' :: c :: rest) :
    number? negative cs = (fractionPart? (cs.dropWhile isDigit)).bind fun f =>
      (exponentPart? f.2).map fun e => (⟨negative, cs.takeWhile isDigit, f.1, e.1⟩, e.2) := by
  unfold number?
  dsimp only
  generalize cs.takeWhile isDigit = whole at *
  generalize cs.dropWhile isDigit = tail
  split
  · exact absurd rfl hwhole
  · exact absurd rfl (hunpadded _ _)
  · have hend : ∀ (f : Option (List Char)) (rest : List Char), (match rest with
        | 'e' :: rest => do
          let (e, rest) ← exponent? rest
          return (⟨negative, whole, f, some e⟩, rest)
        | 'E' :: rest => do
          let (e, rest) ← exponent? rest
          return (⟨negative, whole, f, some e⟩, rest)
        | rest => return (⟨negative, whole, f, none⟩, rest))
        = (exponentPart? rest).map fun e => ((⟨negative, whole, f, e.1⟩ : NumberLiteral), e.2) := by
      intro f rest
      unfold exponentPart?
      split
      · cases exponent? _ <;> rfl
      · cases exponent? _ <;> rfl
      · rfl
    split
    · next rest =>
      rw [fractionPart?]
      generalize rest.takeWhile isDigit = ds
      cases ds with
      | nil => rfl
      | cons c ds => exact hend (some (c :: ds)) _
    · next hpoint =>
      rw [fractionPart?]
      · exact hend none _
      · exact hpoint

theorem exponentPart?_append (e : Option (Bool × List Char))
    (he : ∀ p ∈ e, Run Decimal.digits p.2) {rest : List Char} (h : Delimited rest) :
    exponentPart? (exponentBody e ++ rest) = some (e, rest) := by
  cases e with
  | none =>
      unfold exponentBody exponentPart?
      split
      · next heq =>
        exact absurd (h 'e' (by rw [← List.nil_append rest, heq]; rfl)) (by decide)
      · next heq =>
        exact absurd (h 'E' (by rw [← List.nil_append rest, heq]; rfl)) (by decide)
      · rfl
  | some p =>
      obtain ⟨negative, ds⟩ := p
      have hds := he _ rfl
      have hrest := undigited_of_delimited h
      have hsplit : Decimal.splitSign ((if negative then '-' else '+') :: (ds ++ rest))
          = (negative, ds ++ rest) := by cases negative <;> rfl
      show (exponent? ((if negative then '-' else '+') :: (ds ++ rest))).map _ = _
      unfold exponent?
      rw [hsplit]
      dsimp only
      rw [Decimal.takeWhile_isDigit_append hds.2 hrest, Decimal.dropWhile_isDigit_append hds.2 hrest]
      cases ds with
      | nil => exact absurd rfl hds.1
      | cons => rfl

theorem fractionPart?_append (f : Option (List Char)) (hf : ∀ ds ∈ f, Run Decimal.digits ds)
    {rest : List Char} (h : Undigited rest) (hpoint : rest.head? ≠ some '.') :
    fractionPart? (fractionBody f ++ rest) = some (f, rest) := by
  cases f with
  | none =>
      unfold fractionBody fractionPart?
      split
      · next heq =>
        rw [← List.nil_append rest, heq] at hpoint
        exact absurd rfl hpoint
      · rfl
  | some ds =>
      have hds := hf _ rfl
      show (match (ds ++ rest).takeWhile isDigit with
        | [] => none
        | ds' => some (some ds', (ds ++ rest).dropWhile isDigit)) = _
      rw [Decimal.takeWhile_isDigit_append hds.2 h, Decimal.dropWhile_isDigit_append hds.2 h]
      cases ds with
      | nil => exact absurd rfl hds.1
      | cons => rfl

/-- The next lexeme of a text that starts with a spelling is the literal. -/
theorem number?_body_append {l : NumberLiteral} (hl : l.WellFormed) {rest : List Char}
    (h : Delimited rest) : number? l.negative (l.body ++ rest) = some (l, rest) := by
  have hbody : l.body ++ rest
      = l.whole ++ (fractionBody l.fraction ++ (exponentBody l.exponent ++ rest)) := by
    simp only [body, List.append_assoc]
  have hbehind := undigited_fractionBody_append l.fraction l.exponent h
  have htake := Decimal.takeWhile_isDigit_append hl.whole.2 hbehind
  have hdrop := Decimal.dropWhile_isDigit_append hl.whole.2 hbehind
  have hpoint : (exponentBody l.exponent ++ rest).head? ≠ some '.' := by
    cases hexponent : l.exponent with
    | none =>
        intro hhead
        exact absurd (h '.' hhead) (by decide)
    | some e => exact (by decide : some 'e' ≠ some '.')
  rw [hbody, number?_eq, htake, hdrop,
    fractionPart?_append _ hl.fraction (undigited_exponentBody_append _ h) hpoint, Option.bind_some,
    exponentPart?_append _ hl.exponent h]
  · rfl
  · rw [htake]
    exact hl.whole.1
  · rw [htake]
    exact hl.unpadded

/-! ## Values -/

/-- The power of ten that an exponent stands for. -/
def powerOf : Option (Bool × List Char) → Int
  | none => 0
  | some (negative, ds) => if negative then -(natOfDigits ds : Int) else natOfDigits ds

def scaled (l : NumberLiteral) : Scaled :=
  ⟨natOfDigits (l.whole ++ l.fraction.getD []), powerOf l.exponent - (l.fraction.getD []).length⟩

/-- A literal says what a number is. -/
inductive Denotes (l : NumberLiteral) : Number → Prop where
  | integer {i : Int} (hfraction : l.fraction = none) (hexponent : l.exponent = none)
      (hi : i = if l.negative then -(natOfDigits l.whole : Int) else natOfDigits l.whole) :
      Denotes l (.integer i)
  | float {x : Float} {finite : x.isFinite = true} (hinteger : l.integer? = none)
      (hsign : l.negative = (x.toBits >>> 63 == 1))
      (hvalue : (Decimal.Binary.ofBits x.toBits).readsBack l.scaled = true) :
      Denotes l (.float x finite)

/-- A literal that is not read as an integer spells a decimal. -/
structure Spells (l : NumberLiteral) (text : List Char) (d : Scaled) : Prop where
  wellFormed : l.WellFormed
  notInteger : l.integer? = none
  body : l.body = text
  value : l.scaled.value = d.value

theorem unpadded_of_head {ds : List Char} (h : ∀ c ∈ ds.head?, c ≠ '0') (c : Char)
    (rest : List Char) : ds ≠ '0' :: c :: rest := by
  rintro rfl
  exact h '0' rfl rfl

theorem unpadded_singleton (d c : Char) (rest : List Char) : [d] ≠ '0' :: c :: rest :=
  fun h => List.cons_ne_nil c rest (List.cons.inj h).2.symm

theorem run_append {ds es : List Char} (hds : Run Decimal.digits ds)
    (hes : ∀ c ∈ es, c ∈ Decimal.digits) : Run Decimal.digits (ds ++ es) :=
  ⟨fun hnil => hds.1 (List.append_eq_nil_iff.mp hnil).1,
    fun c hc => (List.mem_append.mp hc).elim (hds.2 c) (hes c)⟩

theorem mem_digits_of_mem_replicate {n : Nat} : ∀ c ∈ List.replicate n '0', c ∈ Decimal.digits :=
  fun c hc => by
    rw [List.eq_of_mem_replicate hc]
    decide

/-- A whole number is written with the zeros that its exponent stands for, and a zero behind the
point. -/
theorem spells_whole (negative : Bool) {d : Scaled} (hd : d.digits = 0 → d.exponent = 0)
    (he : 0 ≤ d.exponent) :
    Spells ⟨negative, digitsOf d.digits ++ List.replicate d.exponent.toNat '0', some ['0'], none⟩
      (numberLayout.positionalText d) d := by
  have hdigits := Decimal.run_digitsOf d.digits
  have hunpadded : ∀ c rest,
      digitsOf d.digits ++ List.replicate d.exponent.toNat '0' ≠ '0' :: c :: rest := by
    by_cases hzero : d.digits = 0
    · rw [hzero, hd hzero]
      exact unpadded_singleton '0'
    · refine unpadded_of_head ?_
      rw [List.head?_append_of_ne_nil _ hdigits.1]
      exact Decimal.head_digitsOf_ne hzero
  refine ⟨⟨run_append hdigits mem_digits_of_mem_replicate, hunpadded, fun ds hds => ?_, nofun⟩, rfl,
    ?_, ?_⟩
  · cases hds
    exact ⟨List.cons_ne_nil _ _, mem_digits_of_mem_replicate (n := 1)⟩
  · rw [Decimal.Layout.positionalText, if_pos he]
    rfl
  · have hvalue : natOfDigits ((digitsOf d.digits ++ List.replicate d.exponent.toNat '0') ++ ['0'])
        = d.digits * 10 ^ d.exponent.toNat * 10 := by
      rw [show ['0'] = List.replicate 1 '0' from rfl, Decimal.natOfDigits_append_replicate,
        Decimal.natOfDigits_append_replicate, Decimal.natOfDigits_digitsOf, pow_one]
    show (natOfDigits _ : ℚ) * 10 ^ (0 - 1 : Int) = d.digits * 10 ^ d.exponent
    obtain ⟨k, hk⟩ := Int.eq_ofNat_of_zero_le he
    rw [Option.getD_some, hvalue, hk, Int.toNat_natCast, zpow_natCast]
    push_cast
    ring

/-- Where the digits of the decimal are those of the literal, so is the exponent. -/
theorem value_scaled {l : NumberLiteral} {d : Scaled}
    (hdigits : natOfDigits (l.whole ++ l.fraction.getD []) = d.digits)
    (hexponent : l.scaled.exponent = d.exponent) : l.scaled.value = d.value := by
  have hscaled : l.scaled.digits = d.digits := hdigits
  rw [Scaled.value, Scaled.value, hscaled, hexponent]

/-- A number with a point among its digits. -/
theorem spells_split (negative : Bool) {d : Scaled} (he : d.exponent < 0)
    (hlt : (-d.exponent).toNat < (digitsOf d.digits).length) :
    Spells ⟨negative, (digitsOf d.digits).take ((digitsOf d.digits).length - (-d.exponent).toNat),
        some ((digitsOf d.digits).drop ((digitsOf d.digits).length - (-d.exponent).toNat)), none⟩
      (numberLayout.positionalText d) d := by
  have hdigits := Decimal.run_digitsOf d.digits
  have hne : d.digits ≠ 0 := fun hzero => by
    have hone : (digitsOf d.digits).length = 1 := by rw [hzero]; rfl
    omega
  have hhead := Decimal.head_digitsOf_ne hne
  have hback := Decimal.natOfDigits_digitsOf d.digits
  rw [Decimal.Layout.positionalText, if_neg (by omega), if_pos hlt]
  generalize digitsOf d.digits = ds at *
  refine ⟨⟨⟨?_, fun c hc => hdigits.2 c (List.mem_of_mem_take hc)⟩, ?_, fun fs hfs => ?_, nofun⟩, rfl,
    ?_, value_scaled ?_ ?_⟩
  · intro hnil
    have := congrArg List.length hnil
    rw [List.length_take, List.length_nil] at this
    omega
  · refine unpadded_of_head ?_
    rwa [List.head?_take, if_neg (by omega)]
  · cases hfs
    refine ⟨fun hnil => ?_, fun c hc => hdigits.2 c (List.mem_of_mem_drop hc)⟩
    have := congrArg List.length hnil
    rw [List.length_drop, List.length_nil] at this
    omega
  · simp only [body, fractionBody, exponentBody, List.append_nil]
  · rw [Option.getD_some, List.take_append_drop, hback]
  · show (0 : Int) - ((ds.drop _).length : Int) = d.exponent
    rw [List.length_drop]
    omega

/-- A number below one. -/
theorem spells_small (negative : Bool) {d : Scaled} (he : d.exponent < 0)
    (hle : (digitsOf d.digits).length ≤ (-d.exponent).toNat) :
    Spells ⟨negative, ['0'], some (List.replicate ((-d.exponent).toNat - (digitsOf d.digits).length) '0'
        ++ digitsOf d.digits), none⟩
      (numberLayout.positionalText d) d := by
  have hdigits := Decimal.run_digitsOf d.digits
  have hback := Decimal.natOfDigits_digitsOf d.digits
  rw [Decimal.Layout.positionalText, if_neg (by omega), if_neg (by omega)]
  generalize digitsOf d.digits = ds at *
  refine ⟨⟨⟨List.cons_ne_nil _ _, mem_digits_of_mem_replicate (n := 1)⟩, unpadded_singleton '0',
    fun fs hfs => ?_, nofun⟩, rfl, ?_, value_scaled ?_ ?_⟩
  · cases hfs
    refine ⟨fun hnil => hdigits.1 (List.append_eq_nil_iff.mp hnil).2, fun c hc => ?_⟩
    exact (List.mem_append.mp hc).elim (mem_digits_of_mem_replicate c) (hdigits.2 c)
  · simp only [body, fractionBody, exponentBody, List.append_nil]
    rfl
  · rw [Option.getD_some, ← List.append_assoc, show ['0'] = List.replicate 1 '0' from rfl,
      ← List.replicate_add, Decimal.natOfDigits_replicate_append, hback]
  · show (0 : Int) - ((List.replicate _ '0' ++ ds).length : Int) = d.exponent
    rw [List.length_append, List.length_replicate]
    omega

def writtenExponent (power : Int) : Bool × List Char := (decide (power < 0), digitsOf power.natAbs)

theorem powerOf_writtenExponent (power : Int) : powerOf (some (writtenExponent power)) = power := by
  rw [writtenExponent, powerOf, Decimal.natOfDigits_digitsOf]
  split
  · next h =>
    have hneg := of_decide_eq_true h
    omega
  · next h =>
    have hneg := of_decide_eq_false (Bool.not_eq_true _ ▸ h)
    omega

theorem exponentBody_writtenExponent (power : Int) :
    exponentBody (some (writtenExponent power))
      = 'e' :: ((if power < 0 then ['-'] else ['+']) ++ digitsOf power.natAbs) := by
  rw [writtenExponent, exponentBody]
  by_cases h : power < 0
  · rw [decide_eq_true h, if_pos h]
    rfl
  · rw [decide_eq_false h, if_neg h]
    rfl

/-- A number with an exponent has one digit before the point. -/
theorem exists_spells_exponent (negative : Bool) (d : Scaled) :
    ∃ l : NumberLiteral, l.negative = negative ∧ Spells l (numberLayout.exponentText d) d := by
  have hdigits := Decimal.run_digitsOf d.digits
  have hback := Decimal.natOfDigits_digitsOf d.digits
  have hpower := powerOf_writtenExponent d.leading
  have hexponent : ∀ p ∈ some (writtenExponent d.leading), Run Decimal.digits p.2 := fun p hp => by
    cases hp
    exact Decimal.run_digitsOf _
  have hleading : d.leading = d.exponent + ((digitsOf d.digits).length : Int) - 1 := rfl
  rw [Decimal.Layout.exponentText, List.append_assoc]
  rcases hds : digitsOf d.digits with _ | ⟨c, _ | ⟨c', rest⟩⟩ <;> rw [hds] at hdigits hback hleading
  · exact absurd rfl hdigits.1
  · refine ⟨⟨negative, [c], none, some (writtenExponent d.leading)⟩, rfl,
      ⟨hdigits, unpadded_singleton c, nofun, hexponent⟩, rfl, ?_, value_scaled hback ?_⟩
    · show [c] ++ exponentBody (some (writtenExponent d.leading)) = _
      rw [exponentBody_writtenExponent]
      rfl
    · show powerOf (some (writtenExponent d.leading)) - ((0 : Nat) : Int) = d.exponent
      rw [hpower, hleading]
      simp
  · have hfirst : c ∈ Decimal.digits := hdigits.2 c List.mem_cons_self
    have hbehind : Run Decimal.digits (c' :: rest) :=
      ⟨List.cons_ne_nil _ _, fun e he => hdigits.2 e (List.mem_cons_of_mem c he)⟩
    refine ⟨⟨negative, [c], some (c' :: rest), some (writtenExponent d.leading)⟩, rfl,
      ⟨⟨List.cons_ne_nil _ _, List.forall_mem_singleton.mpr hfirst⟩, unpadded_singleton c,
        fun fs hfs => ?_, hexponent⟩, rfl, ?_, value_scaled hback ?_⟩
    · cases hfs
      exact hbehind
    · show [c] ++ ('.' :: c' :: rest ++ exponentBody (some (writtenExponent d.leading))) = _
      rw [exponentBody_writtenExponent]
      rfl
    · show powerOf (some (writtenExponent d.leading)) - ((c' :: rest).length : Int) = d.exponent
      rw [hpower, hleading]
      simp only [List.length_cons]
      omega

theorem exists_spells (negative : Bool) {d : Scaled} (hd : d.digits = 0 → d.exponent = 0) :
    ∃ l : NumberLiteral, l.negative = negative ∧ Spells l (numberLayout.magnitude d) d := by
  unfold Decimal.Layout.magnitude
  split
  · by_cases he : 0 ≤ d.exponent
    · exact ⟨_, rfl, spells_whole negative hd he⟩
    · by_cases hlt : (-d.exponent).toNat < (digitsOf d.digits).length
      · exact ⟨_, rfl, spells_split negative (by omega) hlt⟩
      · exact ⟨_, rfl, spells_small negative (by omega) (by omega)⟩
  · exact exists_spells_exponent negative d

end NumberLiteral

/-! ## Numbers -/

open NumberLiteral

theorem toList_write_of_isFinite (layout : Decimal.Layout) {x : Float} (finite : x.isFinite = true) :
    (layout.write x).toList =
      (if (x.toBits >>> 63 == 1) && (layout.signedZero
          || (Decimal.Binary.ofBits x.toBits).significand != 0) then ['-'] else [])
        ++ layout.magnitude ((Decimal.Binary.ofBits x.toBits).shortest layout.tie) := by
  obtain ⟨hnan, hinf⟩ : x.isNaN = false ∧ x.isInf = false := by
    change x.toModel.unpack.isFinite = true at finite
    show x.toModel.unpack.isNaN = false ∧ x.toModel.unpack.isInf = false
    cases h : x.toModel.unpack <;> rw [h] at finite <;> first | exact ⟨rfl, rfl⟩ | cases finite
  rw [Decimal.Layout.write, hnan, if_neg Bool.false_ne_true]
  dsimp only
  rw [hinf, if_neg Bool.false_ne_true, String.toList_ofList]
  split <;> rfl

theorem exists_body_of_float {x : Float} (finite : x.isFinite = true) :
    ∃ l : NumberLiteral, l.WellFormed ∧ l.Denotes (.float x finite) ∧
      (numberLayout.write x).toList = (if l.negative then ['-'] else []) ++ l.body := by
  obtain ⟨l, hnegative, hspells⟩ := exists_spells (x.toBits >>> 63 == 1)
    (d := (Decimal.Binary.ofBits x.toBits).shortest numberLayout.tie)
    Decimal.exponent_shortest_eq_zero
  refine ⟨l, hspells.wellFormed, .float hspells.notInteger hnegative ?_, ?_⟩
  · rw [Decimal.readsBack_congr _ hspells.value, Decimal.readsBack_shortest]
  · rw [toList_write_of_isFinite numberLayout finite, hnegative, hspells.body]
    show (if (x.toBits >>> 63 == 1) && true then ['-'] else []) ++ _ = _
    rw [Bool.and_true]

theorem exists_body_of_nat (negative : Bool) (n : Nat) :
    let l : NumberLiteral := ⟨negative, digitsOf n, none, none⟩
    l.WellFormed ∧ l.body = digitsOf n := by
  refine ⟨⟨Decimal.run_digitsOf n, ?_, nofun, nofun⟩, List.append_nil _⟩
  by_cases hn : n = 0
  · subst hn
    exact unpadded_singleton '0'
  · exact unpadded_of_head (Decimal.head_digitsOf_ne hn)

theorem exists_body_of_integer (i : Int) :
    ∃ l : NumberLiteral, l.WellFormed ∧ l.Denotes (.integer i) ∧
      (toString i).toList = (if l.negative then ['-'] else []) ++ l.body := by
  cases i with
  | ofNat n =>
      obtain ⟨hformed, hbody⟩ := exists_body_of_nat false n
      refine ⟨_, hformed, .integer rfl rfl ?_, ?_⟩
      · show (n : Int) = natOfDigits (digitsOf n)
        rw [Decimal.natOfDigits_digitsOf]
      · rw [hbody]
        show n.repr.toList = digitsOf n
        exact Nat.toList_repr
  | negSucc n =>
      obtain ⟨hformed, hbody⟩ := exists_body_of_nat true (n + 1)
      refine ⟨_, hformed, .integer rfl rfl ?_, ?_⟩
      · show Int.negSucc n = -(natOfDigits (digitsOf (n + 1)) : Int)
        rw [Decimal.natOfDigits_digitsOf]
        rfl
      · rw [hbody]
        show ("-" ++ (n + 1).repr).toList = '-' :: digitsOf (n + 1)
        rw [String.toList_append, Nat.toList_repr]
        rfl

/-- A number is written as the spelling of a literal that says what it is. -/
theorem exists_body (n : Number) :
    ∃ l : NumberLiteral, l.WellFormed ∧ l.Denotes n ∧
      n.write.toList = (if l.negative then ['-'] else []) ++ l.body := by
  cases n with
  | integer i => exact exists_body_of_integer i
  | float x finite => exact exists_body_of_float finite

end FieldRules.Json

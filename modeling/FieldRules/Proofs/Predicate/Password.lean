/-
# `Proofs.Predicate.Password` — how the characters of a password are counted

`PasswordClass.holds` says of each class on its own which characters it has: the letters and digits of
ASCII, and the listed symbols.  The four do not overlap (`eq_of_holds`), so the class that is found by
asking for one after the other is the only one (`of?_eq_some_iff`), and how many characters count in a
class depends on no other class (`count_eq_countP`).

Whatever is said of strong passwords follows from `isStrongPassword_iff` and four facts about
counting: the order of the characters does not matter (`count_perm`), the counts of two texts add up
(`count_append`), so that text in front and behind takes nothing away (`count_le_count_append`), and
the counts of all classes together are at most the length (`sum_count_le_length`).
-/
import Mathlib.Algebra.Group.Nat.Defs
import Mathlib.Data.Nat.Basic
import Mathlib.Order.RelClasses
import FieldRules.Predicate.Password

namespace FieldRules.Predicate

namespace PasswordClass

/-! ## The classes -/

def holds : PasswordClass → Char → Bool
  | .uppercase, c => c.isUpper
  | .lowercase, c => c.isLower
  | .number, c => c.isDigit
  | .symbol, c => c ∈ passwordSymbols

theorem isUpper_iff_between {c : Char} : c.isUpper = true ↔ 'A' ≤ c ∧ c ≤ 'Z' :=
  decide_eq_true_iff

theorem isLower_iff_between {c : Char} : c.isLower = true ↔ 'a' ≤ c ∧ c ≤ 'z' :=
  Bool.and_eq_true_iff.trans (and_congr decide_eq_true_iff decide_eq_true_iff)

theorem isDigit_iff_between {c : Char} : c.isDigit = true ↔ '0' ≤ c ∧ c ≤ '9' :=
  Bool.and_eq_true_iff.trans (and_congr decide_eq_true_iff decide_eq_true_iff)

/-- No listed symbol is a letter or digit of ASCII. -/
theorem not_alphanumeric_of_symbol {c : Char} (h : c ∈ passwordSymbols) :
    ¬c.isUpper = true ∧ ¬c.isLower = true ∧ ¬c.isDigit = true := by
  have hall : passwordSymbols.all (fun c => !c.isUpper && !c.isLower && !c.isDigit) = true := rfl
  have hc := List.all_eq_true.mp hall c h
  simpa [and_assoc] using hc

theorem of?_eq (c : Char) :
    of? c =
      if c.isUpper = true then some .uppercase
      else if c.isLower = true then some .lowercase
      else if c.isDigit = true then some .number
      else if c ∈ passwordSymbols then some .symbol
      else none := by
  simp only [of?, isUpper_iff_between, isLower_iff_between, isDigit_iff_between]

theorem of?_eq_some_of_holds {k : PasswordClass} {c : Char} (h : k.holds c = true) :
    of? c = some k := by
  rw [of?_eq]
  cases k with
  | uppercase => exact if_pos h
  | lowercase =>
      have hupper : ¬c.isUpper = true := by
        have hlower : 'a'.toNat ≤ c.toNat := (isLower_iff_between.mp h).1
        rw [isUpper_iff_between]
        rintro ⟨-, hle⟩
        exact absurd (hlower.trans hle) (by decide)
      rw [if_neg hupper]
      exact if_pos h
  | number =>
      have hdigit : c.toNat ≤ '9'.toNat := (isDigit_iff_between.mp h).2
      have hupper : ¬c.isUpper = true := by
        rw [isUpper_iff_between]
        rintro ⟨hge, -⟩
        exact absurd (Nat.le_trans hge hdigit) (by decide)
      have hlower : ¬c.isLower = true := by
        rw [isLower_iff_between]
        rintro ⟨hge, -⟩
        exact absurd (Nat.le_trans hge hdigit) (by decide)
      rw [if_neg hupper, if_neg hlower]
      exact if_pos h
  | symbol =>
      have hmem : c ∈ passwordSymbols := of_decide_eq_true h
      obtain ⟨hupper, hlower, hdigit⟩ := not_alphanumeric_of_symbol hmem
      rw [if_neg hupper, if_neg hlower, if_neg hdigit]
      exact if_pos hmem

theorem holds_of_of?_eq_some {k : PasswordClass} {c : Char} (h : of? c = some k) :
    k.holds c = true := by
  rw [of?_eq] at h
  split_ifs at h with hupper hlower hdigit hsymbol
  · cases h
    exact hupper
  · cases h
    exact hlower
  · cases h
    exact hdigit
  · cases h
    exact decide_eq_true hsymbol

/-- In which order the classes are asked for does not matter. -/
theorem of?_eq_some_iff {k : PasswordClass} {c : Char} : of? c = some k ↔ k.holds c = true :=
  ⟨holds_of_of?_eq_some, of?_eq_some_of_holds⟩

theorem eq_of_holds {k l : PasswordClass} {c : Char} (hk : k.holds c = true)
    (hl : l.holds c = true) : k = l := by
  rw [← of?_eq_some_iff] at hk hl
  rw [hk] at hl
  exact Option.some.inj hl

/-! ## Counting -/

variable (k : PasswordClass)

theorem count_eq_countP (cs : List Char) : k.count cs = cs.countP k.holds := by
  refine List.countP_congr fun c _ => ?_
  rw [beq_iff_eq, of?_eq_some_iff]

@[simp] theorem count_nil : k.count [] = 0 := rfl

theorem count_cons (c : Char) (cs : List Char) :
    k.count (c :: cs) = k.count cs + if of? c = some k then 1 else 0 := by
  simp [count, List.countP_cons]

@[simp] theorem count_append (cs ds : List Char) : k.count (cs ++ ds) = k.count cs + k.count ds :=
  List.countP_append

theorem count_perm {cs ds : List Char} (h : cs.Perm ds) : k.count cs = k.count ds :=
  h.countP_eq _

/-- Text in front and behind takes nothing away. -/
theorem count_le_count_append (before cs after : List Char) :
    k.count cs ≤ k.count (before ++ cs ++ after) := by
  simp only [count_append]
  omega

/-- A character counts once at most, so all classes together count no more characters than there
are. -/
theorem sum_count_le_length (cs : List Char) :
    lowercase.count cs + uppercase.count cs + number.count cs + symbol.count cs ≤ cs.length := by
  induction cs with
  | nil => simp
  | cons c cs ih =>
      simp only [count_cons, List.length_cons]
      rcases of? c with _ | (_ | _ | _ | _) <;> simp <;> omega

end PasswordClass

/-! ## Strong passwords -/

namespace PasswordOptions

def minimum (o : PasswordOptions) : PasswordClass → Nat
  | .uppercase => o.minUppercase
  | .lowercase => o.minLowercase
  | .number => o.minNumbers
  | .symbol => o.minSymbols

/-- No minimum is above the one of the other options. -/
structure Eases (o' o : PasswordOptions) : Prop where
  minLength : o'.minLength ≤ o.minLength
  minimum : ∀ k, o'.minimum k ≤ o.minimum k

end PasswordOptions

variable {p : String} {o : PasswordOptions}

/-- A password is strong if it is long enough and each class reaches its minimum. -/
theorem isStrongPassword_iff :
    isStrongPassword p o = true ↔
      o.minLength ≤ p.length ∧ ∀ k : PasswordClass, o.minimum k ≤ k.count p.toList := by
  have hclasses : (∀ k : PasswordClass, o.minimum k ≤ k.count p.toList) ↔
      o.minLowercase ≤ PasswordClass.lowercase.count p.toList ∧
        o.minUppercase ≤ PasswordClass.uppercase.count p.toList ∧
        o.minNumbers ≤ PasswordClass.number.count p.toList ∧
        o.minSymbols ≤ PasswordClass.symbol.count p.toList := by
    constructor
    · intro h
      exact ⟨h .lowercase, h .uppercase, h .number, h .symbol⟩
    · rintro ⟨hlower, hupper, hnumber, hsymbol⟩ (_ | _ | _ | _)
      · exact hupper
      · exact hlower
      · exact hnumber
      · exact hsymbol
  rw [hclasses]
  simp only [isStrongPassword, Bool.and_eq_true, decide_eq_true_eq, String.length_toList, and_assoc]

theorem isStrongPassword_perm {q : String} (h : q.toList.Perm p.toList) :
    isStrongPassword q o = isStrongPassword p o := by
  have hlength : q.length = p.length := by
    rw [← String.length_toList, ← String.length_toList, h.length_eq]
  rw [Bool.eq_iff_iff, isStrongPassword_iff, isStrongPassword_iff, hlength]
  simp only [PasswordClass.count_perm _ h]

theorem isStrongPassword_append (a b : String) (h : isStrongPassword p o = true) :
    isStrongPassword (a ++ p ++ b) o = true := by
  rw [isStrongPassword_iff] at h ⊢
  obtain ⟨hlength, hcount⟩ := h
  constructor
  · rw [String.length_append, String.length_append]
    omega
  · intro k
    rw [String.toList_append, String.toList_append]
    exact (hcount k).trans (k.count_le_count_append _ _ _)

theorem isStrongPassword_of_eases {o' : PasswordOptions} (ho : o'.Eases o)
    (h : isStrongPassword p o = true) : isStrongPassword p o' = true := by
  rw [isStrongPassword_iff] at h ⊢
  exact ⟨ho.minLength.trans h.1, fun k => (ho.minimum k).trans (h.2 k)⟩

theorem isStrongPassword_eq_false
    (h : p.length < o.minLowercase + o.minUppercase + o.minNumbers + o.minSymbols) :
    isStrongPassword p o = false := by
  rw [← Bool.not_eq_true, isStrongPassword_iff]
  rintro ⟨-, hcount⟩
  have hsum := PasswordClass.sum_count_le_length p.toList
  have hlower : o.minLowercase ≤ _ := hcount .lowercase
  have hupper : o.minUppercase ≤ _ := hcount .uppercase
  have hnumber : o.minNumbers ≤ _ := hcount .number
  have hsymbol : o.minSymbols ≤ _ := hcount .symbol
  rw [String.length_toList] at hsum
  omega

/-- A password is strong if its length and the numbers of its lower-case letters, upper-case letters,
digits and symbols each reach their minimum; a character is in one of these classes at most.  So the
order of the characters does not matter, text in front and behind and lower minimums leave a strong
password strong, and no password is strong that has fewer characters than the minimums of the classes
ask for together. -/
theorem strong_passwords (p : String) (o : PasswordOptions) :
    (isStrongPassword p o = true ↔
      o.minLength ≤ p.length ∧
        o.minLowercase ≤ p.toList.countP Char.isLower ∧
        o.minUppercase ≤ p.toList.countP Char.isUpper ∧
        o.minNumbers ≤ p.toList.countP Char.isDigit ∧
        o.minSymbols ≤ p.toList.countP (fun c => c ∈ passwordSymbols)) ∧
      (∀ (c : Char) (k l : PasswordClass), k.holds c = true → l.holds c = true → k = l) ∧
      (∀ q : String, q.toList.Perm p.toList → isStrongPassword q o = isStrongPassword p o) ∧
      (isStrongPassword p o = true →
        (∀ a b : String, isStrongPassword (a ++ p ++ b) o = true) ∧
          ∀ o' : PasswordOptions, o'.Eases o → isStrongPassword p o' = true) ∧
      (p.length < o.minLowercase + o.minUppercase + o.minNumbers + o.minSymbols →
        isStrongPassword p o = false) := by
  refine ⟨?_, fun c k l hk hl => PasswordClass.eq_of_holds hk hl,
    fun q hq => isStrongPassword_perm hq, fun h => ⟨fun a b => isStrongPassword_append a b h,
      fun o' ho => isStrongPassword_of_eases ho h⟩, isStrongPassword_eq_false⟩
  have hlower : PasswordClass.lowercase.count p.toList = p.toList.countP Char.isLower :=
    PasswordClass.count_eq_countP _ _
  have hupper : PasswordClass.uppercase.count p.toList = p.toList.countP Char.isUpper :=
    PasswordClass.count_eq_countP _ _
  have hnumber : PasswordClass.number.count p.toList = p.toList.countP Char.isDigit :=
    PasswordClass.count_eq_countP _ _
  have hsymbol : PasswordClass.symbol.count p.toList = p.toList.countP (fun c => c ∈ passwordSymbols) :=
    PasswordClass.count_eq_countP _ _
  simp only [isStrongPassword, hlower, hupper, hnumber, hsymbol, Bool.and_eq_true,
    decide_eq_true_eq, String.length_toList, and_assoc]

/-- A symbol outside ASCII counts as one; the letters é and É count in no class. -/
theorem strong_passwords_of_pound_sign :
    let o : PasswordOptions := { minLength := 4 }
    isStrongPassword "aA1£" o = true ∧ isStrongPassword "£1Aa" o = true ∧
      isStrongPassword "éaA1£É" o = true ∧
      isStrongPassword "aA1£" { o with minUppercase := 0 } = true ∧
      isStrongPassword "aA£" { o with minLength := 0 } = false := by
  intro o
  obtain ⟨hverdict, -, hperm, hstrong, -⟩ := strong_passwords "aA1£" o
  have h : isStrongPassword "aA1£" o = true := hverdict.mpr (by decide +kernel)
  obtain ⟨hembed, hease⟩ := hstrong h
  refine ⟨h, ?_, hembed "é" "É", hease _ ⟨le_rfl, ?_⟩, ?_⟩
  · rw [hperm "£1Aa" (by decide +kernel), h]
  · intro k
    cases k <;> decide
  · exact (strong_passwords "aA£" _).2.2.2.2 (by decide +kernel)

end FieldRules.Predicate

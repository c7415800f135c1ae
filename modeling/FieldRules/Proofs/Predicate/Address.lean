/-
# `Proofs.Predicate.Address` — the grammar of addresses

An address has a mailbox, an at sign, labels with a dot behind each, and a last label of letters.
The grammar leaves open what a letter is: `Address.change` exchanges one kind of letters for
another, and `Address.letter_or_lt` says that nothing but a letter may lie outside ASCII.
-/

namespace FieldRules.Predicate

/-! ## The grammar -/

section Grammar

variable (letter : Char → Prop)

/-- A character of a mailbox: a letter, a digit or one of five signs. -/
def MailboxChar (c : Char) : Prop :=
  letter c ∨ c.isDigit = true ∨ c ∈ ['_', '\'', '+', '-', '.']

/-- A mailbox: it does not begin with a dot and does not end with one or with an apostrophe. -/
structure Mailbox (cs : List Char) : Prop where
  ne_nil : cs ≠ []
  chars : ∀ c ∈ cs, MailboxChar letter c
  head_ne : cs.head? ≠ some '.'
  last_ne_dot : cs.getLast? ≠ some '.'
  last_ne_apostrophe : cs.getLast? ≠ some '\''

/-- A label of a domain: a letter or digit, then letters, digits and hyphens. -/
def Label (cs : List Char) : Prop :=
  ∃ c rest, cs = c :: rest ∧ (letter c ∨ c.isDigit = true) ∧
    ∀ d ∈ rest, letter d ∨ d.isDigit = true ∨ d = '-'

/-- The last label of a domain: two or more letters. -/
def TopLabel (cs : List Char) : Prop := 2 ≤ cs.length ∧ ∀ c ∈ cs, letter c

/-- Labels with a dot behind each, one at least, and the last label. -/
def Domain (cs : List Char) : Prop :=
  ∃ labels top, cs = labels.flatMap (· ++ ['.']) ++ top ∧ labels ≠ [] ∧
    (∀ label ∈ labels, Label letter label) ∧ TopLabel letter top

/-- An address: a mailbox, an at sign and a domain, and nowhere two dots in a row. -/
def Address (cs : List Char) : Prop :=
  (∃ mailbox domain, cs = mailbox ++ '@' :: domain ∧ Mailbox letter mailbox ∧
    Domain letter domain) ∧ ¬ ['.', '.'] <:+: cs

end Grammar

/-! ## Letters -/

def AsciiLetter (c : Char) : Prop := c.isAlpha = true

/-- A letter of ASCII, or one of the two characters that are case variants of such letters: the long
s and the Kelvin sign. -/
def FoldedLetter (c : Char) : Prop := AsciiLetter c ∨ c = '\u017f' ∨ c = '\u212a'

theorem asciiLetter_iff_toNat {c : Char} :
    AsciiLetter c ↔ (65 ≤ c.toNat ∧ c.toNat ≤ 90) ∨ (97 ≤ c.toNat ∧ c.toNat ≤ 122) := by
  have hupper : c.isUpper = true ↔ 65 ≤ c.toNat ∧ c.toNat ≤ 90 := decide_eq_true_iff
  have hlower : c.isLower = true ↔ 97 ≤ c.toNat ∧ c.toNat ≤ 122 :=
    (Bool.and_eq_true_iff).trans (and_congr decide_eq_true_iff decide_eq_true_iff)
  exact Bool.or_eq_true_iff.trans (or_congr hupper hlower)

theorem foldedLetter_iff_toNat {c : Char} :
    FoldedLetter c ↔ (65 ≤ c.toNat ∧ c.toNat ≤ 90) ∨ (97 ≤ c.toNat ∧ c.toNat ≤ 122) ∨
      c.toNat = 0x17F ∨ c.toNat = 0x212A := by
  have hlong : c.toNat = 0x17F ↔ c = '\u017f' := Char.toNat_inj (d := '\u017f')
  have hkelvin : c.toNat = 0x212A ↔ c = '\u212a' := Char.toNat_inj (d := '\u212a')
  rw [FoldedLetter, asciiLetter_iff_toNat, hlong, hkelvin, or_assoc]

theorem AsciiLetter.lt {c : Char} (h : AsciiLetter c) : c.toNat < 128 := by
  rw [asciiLetter_iff_toNat] at h
  omega

theorem isDigit_iff_toNat {c : Char} : c.isDigit = true ↔ 48 ≤ c.toNat ∧ c.toNat ≤ 57 :=
  Char.isDigit_iff_toNat

theorem lt_of_isDigit {c : Char} (h : c.isDigit = true) : c.toNat < 128 := by
  rw [isDigit_iff_toNat] at h
  omega

/-! ## Letters of another kind -/

section Change

variable {letter other : Char → Prop} {cs : List Char}

theorem Mailbox.change (h : Mailbox letter cs) (hletter : ∀ c ∈ cs, letter c → other c) :
    Mailbox other cs :=
  { h with chars := fun c hc => (h.chars c hc).imp_left (hletter c hc) }

theorem Label.change (h : Label letter cs) (hletter : ∀ c ∈ cs, letter c → other c) :
    Label other cs := by
  obtain ⟨c, rest, rfl, hc, hrest⟩ := h
  exact ⟨c, rest, rfl, hc.imp_left (hletter c List.mem_cons_self), fun d hd =>
    (hrest d hd).imp_left (hletter d (List.mem_cons_of_mem c hd))⟩

theorem Domain.change (h : Domain letter cs) (hletter : ∀ c ∈ cs, letter c → other c) :
    Domain other cs := by
  obtain ⟨labels, top, rfl, hne, hlabels, hlength, htop⟩ := h
  refine ⟨labels, top, rfl, hne, fun label hlabel => ?_, hlength, fun c hc => ?_⟩
  · refine (hlabels label hlabel).change fun c hc => hletter c (List.mem_append_left _ ?_)
    exact List.mem_flatMap.mpr ⟨label, hlabel, List.mem_append_left _ hc⟩
  · exact hletter c (List.mem_append_right _ hc) (htop c hc)

/-- An address stays one if its letters are letters of another kind. -/
theorem Address.change (h : Address letter cs) (hletter : ∀ c ∈ cs, letter c → other c) :
    Address other cs := by
  obtain ⟨⟨mailbox, domain, rfl, hmailbox, hdomain⟩, hdouble⟩ := h
  refine ⟨⟨mailbox, domain, rfl, hmailbox.change fun c hc => ?_, hdomain.change fun c hc => ?_⟩,
    hdouble⟩
  · exact hletter c (List.mem_append_left _ hc)
  · exact hletter c (List.mem_append_right _ (List.mem_cons_of_mem _ hc))

end Change

/-! ## Characters outside ASCII -/

section Characters

variable {letter : Char → Prop} {cs : List Char} {c : Char}

theorem MailboxChar.letter_or_lt (h : MailboxChar letter c) : letter c ∨ c.toNat < 128 := by
  rcases h with hletter | hdigit | hsign
  · exact .inl hletter
  · exact .inr (lt_of_isDigit hdigit)
  · simp only [List.mem_cons, List.not_mem_nil, or_false] at hsign
    rcases hsign with rfl | rfl | rfl | rfl | rfl <;> exact .inr (by decide)

theorem Label.letter_or_lt (h : Label letter cs) (hc : c ∈ cs) : letter c ∨ c.toNat < 128 := by
  obtain ⟨first, rest, rfl, hfirst, hrest⟩ := h
  rcases List.mem_cons.mp hc with rfl | hlater
  · exact hfirst.imp_right lt_of_isDigit
  · rcases hrest c hlater with hletter | hdigit | rfl
    · exact .inl hletter
    · exact .inr (lt_of_isDigit hdigit)
    · exact .inr (by decide)

theorem Address.letter_or_lt (h : Address letter cs) (hc : c ∈ cs) :
    letter c ∨ c.toNat < 128 := by
  obtain ⟨⟨mailbox, _, rfl, hmailbox, labels, top, rfl, -, hlabels, -, htop⟩, -⟩ := h
  simp only [List.mem_append, List.mem_cons, List.mem_flatMap, List.not_mem_nil, or_false] at hc
  rcases hc with hc | rfl | ⟨label, hlabel, hc | rfl⟩ | hc
  · exact (hmailbox.chars c hc).letter_or_lt
  · exact .inr (by decide)
  · exact (hlabels label hlabel).letter_or_lt hc
  · exact .inr (by decide)
  · exact .inl (htop c hc)

end Characters

end FieldRules.Predicate

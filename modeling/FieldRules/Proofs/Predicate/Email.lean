/-
# `Proofs.Predicate.Email` — which texts are email addresses

The check cuts a text at its first at sign and at its dots.  In an address there is no other at sign
and no other dot where labels end, so cutting finds the parts that the grammar speaks of
(`isEmail_iff_address`), and the check is that of the pattern too (`isEmail_iff_grammar`).
-/
import FieldRules.Predicate.Email
import FieldRules.Proofs.Predicate.AddressPattern

namespace FieldRules.Predicate

/-! ## Characters -/

theorem isMailLetter_iff (c : Char) : isMailLetter c = true ↔ FoldedLetter c := by
  simp only [isMailLetter, foldedLetter_iff_toNat, Bool.or_eq_true, Bool.and_eq_true,
    decide_eq_true_eq, beq_iff_eq, or_assoc]
  exact or_left_comm

theorem isMailAlphanumeric_iff (c : Char) :
    isMailAlphanumeric c = true ↔ FoldedLetter c ∨ c.isDigit = true := by
  rw [isMailAlphanumeric, Bool.or_eq_true, isMailLetter_iff]
  simp [Char.isDigit, Char.le_def]

theorem isMailboxChar_iff (c : Char) : isMailboxChar c = true ↔ MailboxChar FoldedLetter c := by
  simp only [isMailboxChar, isMailboxEnd, Bool.or_eq_true, beq_iff_eq, isMailAlphanumeric_iff,
    MailboxChar, List.mem_cons, List.not_mem_nil, or_false]
  grind

theorem isMailboxEnd_iff (c : Char) :
    isMailboxEnd c = true ↔ MailboxChar FoldedLetter c ∧ c ≠ '.' ∧ c ≠ '\'' := by
  rw [← isMailboxChar_iff, isMailboxChar]
  constructor
  · intro h
    refine ⟨by simp [h], ?_, ?_⟩
    · rintro rfl
      exact absurd h (by decide)
    · rintro rfl
      exact absurd h (by decide)
  · rintro ⟨h, hdot, happ⟩
    simpa [hdot, happ] using h

theorem not_letter_of_sign {c : Char} (h : c = '.' ∨ c = '@') :
    ¬ (FoldedLetter c ∨ c.isDigit = true) := by
  rw [← isMailAlphanumeric_iff]
  rcases h with rfl | rfl <;> decide

theorem not_mailboxChar_at : ¬ MailboxChar FoldedLetter '@' := by
  rw [← isMailboxChar_iff]
  decide

/-! ## Parts -/

theorem hasDoubleDot_iff (cs : List Char) : hasDoubleDot cs = true ↔ ['.', '.'] <:+: cs := by
  fun_induction hasDoubleDot cs with
  | case1 rest => simp [List.infix_cons_iff]
  | case2 c rest hfirst ih =>
      have hprefix : ¬ ['.', '.'] <+: c :: rest := by
        rintro ⟨tail, htail⟩
        cases htail
        exact hfirst tail rfl rfl
      rw [ih, List.infix_cons_iff, or_iff_right hprefix]
  | case3 => simp

/-- A mailbox is one that does not begin with a dot. -/
theorem isMailbox_iff (cs : List Char) :
    (isMailbox cs = true ∧ cs.head? ≠ some '.') ↔ Mailbox FoldedLetter cs := by
  simp only [isMailbox, Bool.and_eq_true, List.all_eq_true, Option.any_eq_true, isMailboxChar_iff,
    isMailboxEnd_iff]
  constructor
  · rintro ⟨⟨hchars, last, hlast, -, hdot, happ⟩, hhead⟩
    refine ⟨?_, hchars, hhead, fun h => ?_, fun h => ?_⟩
    · rintro rfl
      cases hlast
    · exact hdot (Option.some.inj (hlast.symm.trans h))
    · exact happ (Option.some.inj (hlast.symm.trans h))
  · rintro ⟨hne, hchars, hhead, hdot, happ⟩
    have hlast := List.getLast?_eq_some_getLast hne
    refine ⟨⟨hchars, cs.getLast hne, hlast, hchars _ (List.getLast_mem hne), ?_, ?_⟩, hhead⟩
    · exact fun h => hdot (hlast.trans (congrArg some h))
    · exact fun h => happ (hlast.trans (congrArg some h))

theorem isMailLabel_iff (cs : List Char) : isMailLabel cs = true ↔ Label FoldedLetter cs := by
  cases cs with
  | nil => simp [isMailLabel, Label]
  | cons c rest =>
      simp only [isMailLabel, Label, Bool.and_eq_true, isMailAlphanumeric_iff, List.all_eq_true,
        Bool.or_eq_true, beq_iff_eq, or_assoc, List.cons.injEq]
      constructor
      · exact fun h => ⟨c, rest, ⟨rfl, rfl⟩, h⟩
      · rintro ⟨_, _, ⟨rfl, rfl⟩, h⟩
        exact h

theorem isTopLabel_iff (cs : List Char) : isTopLabel cs = true ↔ TopLabel FoldedLetter cs := by
  simp only [isTopLabel, TopLabel, Bool.and_eq_true, decide_eq_true_eq, List.all_eq_true,
    isMailLetter_iff]

theorem Label.dot_not_mem {cs : List Char} (h : Label FoldedLetter cs) : '.' ∉ cs := by
  obtain ⟨c, rest, rfl, hc, hrest⟩ := h
  have hdot := not_letter_of_sign (.inl rfl : '.' = '.' ∨ '.' = '@')
  rw [List.mem_cons, not_or]
  refine ⟨fun heq => hdot (heq ▸ hc), fun hmem => ?_⟩
  rcases hrest '.' hmem with hletter | hdigit | hhyphen
  · exact hdot (.inl hletter)
  · exact hdot (.inr hdigit)
  · exact absurd hhyphen (by decide)

theorem TopLabel.dot_not_mem {cs : List Char} (h : TopLabel FoldedLetter cs) : '.' ∉ cs :=
  fun hmem => not_letter_of_sign (.inl rfl) (.inl (h.2 '.' hmem))

/-! ## Labels with dots between -/

theorem flatMap_dot_append (labels : List (List Char)) (top : List Char) :
    labels.flatMap (· ++ ['.']) ++ top = ['.'].intercalate (labels ++ [top]) := by
  induction labels with
  | nil => simp
  | cons label labels ih =>
      obtain ⟨next, rest, hrest⟩ := List.exists_cons_of_ne_nil
        (List.append_ne_nil_of_right_ne_nil labels (List.cons_ne_nil top []))
      rw [List.flatMap_cons, List.append_assoc, ih, List.cons_append, hrest,
        List.intercalate_cons_cons]

theorem splitAt_flatMap_dot {labels : List (List Char)} {top : List Char}
    (hlabels : ∀ label ∈ labels, '.' ∉ label) (htop : '.' ∉ top) :
    Text.splitAt '.' (labels.flatMap (· ++ ['.']) ++ top) = labels ++ [top] := by
  rw [flatMap_dot_append, Text.splitAt_eq_splitOn]
  refine List.splitOn_intercalate '.' (fun piece hpiece => ?_)
    (List.append_ne_nil_of_right_ne_nil labels (List.cons_ne_nil top []))
  rcases List.mem_append.mp hpiece with hlabel | hlast
  · exact hlabels piece hlabel
  · exact List.mem_singleton.mp hlast ▸ htop

theorem exists_pieces (cs : List Char) :
    ∃ labels top, Text.splitAt '.' cs = labels ++ [top] ∧
      cs = labels.flatMap (· ++ ['.']) ++ top := by
  have hne := Text.splitAt_ne_nil '.' cs
  refine ⟨_, _, (List.dropLast_concat_getLast hne).symm, ?_⟩
  rw [flatMap_dot_append, List.dropLast_concat_getLast hne, Text.splitAt_eq_splitOn,
    List.intercalate_splitOn]

theorem isMailDomain_iff (cs : List Char) : isMailDomain cs = true ↔ Domain FoldedLetter cs := by
  have hpieces : ∀ labels top, Text.splitAt '.' cs = labels ++ [top] →
      (isMailDomain cs = true ↔ labels ≠ [] ∧ (∀ label ∈ labels, Label FoldedLetter label) ∧
        TopLabel FoldedLetter top) := by
    intro labels top hsplit
    simp only [isMailDomain, hsplit, Bool.and_eq_true, decide_eq_true_eq, List.dropLast_concat,
      List.getLast?_concat, Option.any_some, List.all_eq_true, isMailLabel_iff, isTopLabel_iff,
      List.length_append, List.length_singleton, and_assoc]
    refine and_congr_left fun _ => ?_
    rw [← List.length_pos_iff]
    omega
  constructor
  · intro h
    obtain ⟨labels, top, hsplit, hcs⟩ := exists_pieces cs
    exact ⟨labels, top, hcs, (hpieces labels top hsplit).mp h⟩
  · rintro ⟨labels, top, hcs, hne, hlabels, htop⟩
    have hsplit : Text.splitAt '.' cs = labels ++ [top] := by
      rw [hcs]
      exact splitAt_flatMap_dot (fun label hlabel => (hlabels label hlabel).dot_not_mem)
        htop.dot_not_mem
    exact (hpieces labels top hsplit).mpr ⟨hne, hlabels, htop⟩

/-! ## Addresses -/

/-- Cutting at the first at sign finds the mailbox, in which there is none. -/
theorem takeWhile_append_at {mailbox domain : List Char} (h : '@' ∉ mailbox) :
    (mailbox ++ '@' :: domain).takeWhile (· != '@') = mailbox ∧
      (mailbox ++ '@' :: domain).dropWhile (· != '@') = '@' :: domain := by
  have hall : ∀ c ∈ mailbox, (c != '@') = true := fun c hc =>
    bne_iff_ne.mpr (ne_of_mem_of_not_mem hc h)
  rw [List.takeWhile_append_of_pos hall, List.dropWhile_append_of_pos hall]
  simp

theorem isEmail_append_at (s : String) {mailbox domain : List Char} (hat : '@' ∉ mailbox)
    (hs : s.toList = mailbox ++ '@' :: domain) :
    isEmail s = true ↔ Mailbox FoldedLetter mailbox ∧ Domain FoldedLetter domain ∧
      ¬ ['.', '.'] <:+: s.toList := by
  obtain ⟨htake, hdrop⟩ := @takeWhile_append_at mailbox domain hat
  have hhead : mailbox ≠ [] → s.toList.head? = mailbox.head? := by
    intro hne
    obtain ⟨c, rest, rfl⟩ := List.exists_cons_of_ne_nil hne
    rw [hs]
    rfl
  have hne : isMailbox mailbox = true → mailbox ≠ [] := by
    rintro h rfl
    exact absurd h (by decide)
  rw [← isMailbox_iff, ← isMailDomain_iff, ← hasDoubleDot_iff]
  simp only [isEmail, hs, htake, hdrop, Bool.and_eq_true, bne_iff_ne, Bool.not_eq_true',
    Bool.not_eq_true]
  rw [← hs]
  constructor
  · rintro ⟨⟨hdot, hdouble⟩, hmailbox, hdomain⟩
    exact ⟨⟨hmailbox, hhead (hne hmailbox) ▸ hdot⟩, hdomain, hdouble⟩
  · rintro ⟨⟨hmailbox, hdot⟩, hdomain, hdouble⟩
    exact ⟨⟨hhead (hne hmailbox) ▸ hdot, hdouble⟩, hmailbox, hdomain⟩

theorem isEmail_iff_address (s : String) : isEmail s = true ↔ Address FoldedLetter s.toList := by
  constructor
  · intro h
    have hmem : '@' ∈ s.toList := Decidable.byContradiction fun hnone => by
      have hall : ∀ c ∈ s.toList, (c != '@') = true := fun c hc =>
        bne_iff_ne.mpr (ne_of_mem_of_not_mem hc hnone)
      have hdrop : s.toList.dropWhile (· != '@') = [] := by
        rw [← List.append_nil s.toList, List.dropWhile_append_of_pos hall, List.dropWhile_nil]
      simp [isEmail, hdrop] at h
    obtain ⟨mailbox, domain, hs, hat⟩ := List.eq_append_cons_of_mem hmem
    obtain ⟨hmailbox, hdomain, hdouble⟩ := (isEmail_append_at s hat hs).mp h
    exact ⟨⟨mailbox, domain, hs, hmailbox, hdomain⟩, hdouble⟩
  · rintro ⟨⟨mailbox, domain, hs, hmailbox, hdomain⟩, hdouble⟩
    have hat : '@' ∉ mailbox := fun hmem => not_mailboxChar_at (hmailbox.chars '@' hmem)
    exact (isEmail_append_at s hat hs).mpr ⟨hmailbox, hdomain, hdouble⟩

/-- The addresses are the texts that the pattern matches and that neither begin with a dot nor have
two in a row, and they are those of the grammar in which two characters outside ASCII count as
letters.  In ASCII they are those of the grammar with its own letters, and no other character outside
ASCII stands in any. -/
theorem isEmail_iff_grammar (s : String) :
    (∃ pattern, Pattern.Expr.read? addressPattern = some pattern ∧
      (isEmail s = true ↔ s.toList.head? ≠ some '.' ∧ ¬ ['.', '.'] <:+: s.toList ∧
        pattern.matchesIn s = true)) ∧
    (isEmail s = true ↔ Address FoldedLetter s.toList) ∧
    (Address AsciiLetter s.toList ↔ isEmail s = true ∧ ∀ c ∈ s.toList, c.toNat < 128) ∧
    (isEmail s = true → ∀ c ∈ s.toList, c.toNat < 128 ∨ c = '\u017f' ∨ c = '\u212a') := by
  have hfolded : ∀ c, FoldedLetter c → c.toNat < 128 ∨ c = '\u017f' ∨ c = '\u212a' :=
    fun c hc => hc.imp_left AsciiLetter.lt
  refine ⟨⟨addressExpr, read_addressPattern,
    (isEmail_iff_address s).trans (address_iff_matchesIn s)⟩, isEmail_iff_address s,
    ⟨fun h => ⟨?_, fun c hc => ?_⟩, ?_⟩, fun h c hc => ?_⟩
  · exact (isEmail_iff_address s).mpr (h.change fun c _ hc => .inl hc)
  · exact (h.letter_or_lt hc).elim AsciiLetter.lt id
  · rintro ⟨h, hascii⟩
    refine ((isEmail_iff_address s).mp h).change fun c hc hletter => ?_
    rcases hletter with hletter | rfl | rfl
    · exact hletter
    · exact absurd (hascii _ hc) (by decide)
    · exact absurd (hascii _ hc) (by decide)
  · rcases ((isEmail_iff_address s).mp h).letter_or_lt hc with hletter | hlt
    · exact hfolded c hletter
    · exact .inl hlt

/-- A long s is a letter of a mailbox, and a Kelvin sign one of a last label. -/
theorem long_s_counts_as_letter :
    isEmail "\u017f@example.com" = true ∧ isEmail "alice@example.co\u212a" = true ∧
      ¬ Address AsciiLetter "\u017f@example.com".toList := by
  have hemail : isEmail "\u017f@example.com" = true := by decide +kernel
  refine ⟨hemail, by decide +kernel, fun h => ?_⟩
  have hmem : '\u017f' ∈ "\u017f@example.com".toList := by decide +kernel
  rcases h.letter_or_lt hmem with hletter | hlt
  · exact absurd hletter.lt (by decide)
  · exact absurd hlt (by decide)

end FieldRules.Predicate

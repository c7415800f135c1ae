/-
# `Proofs.Predicate.AddressPattern` — the pattern of addresses and the grammar

Addresses are checked with a pattern and two tests of the whole text.  The pattern ignores case, and
case is that of all scripts: read as any pattern is, its classes take in the long s and the Kelvin
sign (`read_addressPattern`).  Its parts overlap, since a mailbox may go on with what it may end in,
and the labels of a domain with what the last label is made of; what it describes is the grammar
all the same, but for the two tests (`address_iff_matchesIn`).

Reading the pattern is a computation by the equations of what it runs.  Those of the core library are
stated here and there in Mathlib, which is why all of it is imported.
-/
import FieldRules.Pattern.Reader
import FieldRules.Proofs.Pattern.Meaning
import FieldRules.Proofs.Predicate.Address
import Mathlib

namespace FieldRules.Predicate

open Pattern (Expr CharSet meaningAll)

/-! ## The pattern -/

/-- The pattern of addresses. -/
def addressPattern : String :=
  r"(?i)^[a-z0-9_'+\-.]*[a-z0-9_+\-]@(?:[a-z0-9][a-z0-9\-]*\.)+[a-z]{2,}$"

def mailboxChars : CharSet :=
  ⟨[(39, 39), (43, 43), (45, 46), (48, 57), (65, 90), (95, 95), (97, 122), (383, 383),
    (8490, 8490)]⟩

def mailboxEnds : CharSet :=
  ⟨[(43, 43), (45, 45), (48, 57), (65, 90), (95, 95), (97, 122), (383, 383), (8490, 8490)]⟩

def labelStarts : CharSet := ⟨[(48, 57), (65, 90), (97, 122), (383, 383), (8490, 8490)]⟩

def labelChars : CharSet :=
  ⟨[(45, 45), (48, 57), (65, 90), (97, 122), (383, 383), (8490, 8490)]⟩

def topChars : CharSet := ⟨[(65, 90), (97, 122), (383, 383), (8490, 8490)]⟩

def labelExpr : Expr :=
  .concat [.set labelStarts, .repetition 0 none (.set labelChars), .set (.single '.')]

def addressExpr : Expr :=
  .concat [.look .start, .repetition 0 none (.set mailboxChars), .set mailboxEnds,
    .set (.single '@'), .repetition 1 none labelExpr, .repetition 2 none (.set topChars),
    .look .finish]

set_option maxRecDepth 100000 in
theorem read_addressPattern : Expr.read? addressPattern = some addressExpr := by cbv

/-! ## Classes -/

section Classes

variable {c : Char}

theorem contains_nil : (CharSet.mk []).contains c = true ↔ False := by
  simp [CharSet.contains]

theorem contains_cons {low high : Nat} {ranges : List (Nat × Nat)} :
    (CharSet.mk ((low, high) :: ranges)).contains c = true ↔
      (low ≤ c.toNat ∧ c.toNat ≤ high) ∨ (CharSet.mk ranges).contains c = true := by
  simp [CharSet.contains]

theorem contains_single {d : Char} : (CharSet.single d).contains c = true ↔ c = d := by
  rw [CharSet.single, CharSet.range, contains_cons, contains_nil, or_false, ← Char.toNat_inj]
  omega

theorem contains_topChars : topChars.contains c = true ↔ FoldedLetter c := by
  simp only [topChars, contains_cons, contains_nil, or_false, foldedLetter_iff_toNat]
  omega

theorem contains_labelStarts :
    labelStarts.contains c = true ↔ FoldedLetter c ∨ c.isDigit = true := by
  simp only [labelStarts, contains_cons, contains_nil, or_false, foldedLetter_iff_toNat,
    isDigit_iff_toNat]
  omega

theorem contains_labelChars :
    labelChars.contains c = true ↔ FoldedLetter c ∨ c.isDigit = true ∨ c = '-' := by
  have hhyphen : c = '-' ↔ c.toNat = 45 := Char.toNat_inj.symm
  simp only [labelChars, contains_cons, contains_nil, or_false, foldedLetter_iff_toNat,
    isDigit_iff_toNat, hhyphen]
  omega

theorem mailboxChar_iff_toNat :
    MailboxChar FoldedLetter c ↔ FoldedLetter c ∨ c.isDigit = true ∨
      c.toNat = 95 ∨ c.toNat = 39 ∨ c.toNat = 43 ∨ c.toNat = 45 ∨ c.toNat = 46 := by
  have hsign : ∀ d : Char, c = d ↔ c.toNat = d.toNat := fun d => Char.toNat_inj.symm
  simp only [MailboxChar, List.mem_cons, List.not_mem_nil, or_false, hsign]
  exact Iff.rfl

theorem contains_mailboxChars :
    mailboxChars.contains c = true ↔ MailboxChar FoldedLetter c := by
  simp only [mailboxChars, contains_cons, contains_nil, or_false, mailboxChar_iff_toNat,
    foldedLetter_iff_toNat, isDigit_iff_toNat]
  omega

theorem contains_mailboxEnds :
    mailboxEnds.contains c = true ↔ MailboxChar FoldedLetter c ∧ c ≠ '.' ∧ c ≠ '\'' := by
  have hdot : c = '.' ↔ c.toNat = 46 := Char.toNat_inj.symm
  have happ : c = '\'' ↔ c.toNat = 39 := Char.toNat_inj.symm
  simp only [mailboxEnds, contains_cons, contains_nil, or_false, mailboxChar_iff_toNat,
    foldedLetter_iff_toNat, isDigit_iff_toNat, ne_eq, hdot, happ]
  omega

end Classes

/-! ## Parts -/

section Parts

variable {before stretch after : List Char}

theorem meaning_single {d : Char} :
    (Expr.set (.single d)).meaning before stretch after ↔ stretch = [d] := by
  rw [Expr.meaning]
  simp [contains_single]

theorem meaning_labelExpr :
    labelExpr.meaning before stretch after ↔
      ∃ label, Label FoldedLetter label ∧ stretch = label ++ ['.'] := by
  rw [labelExpr, Expr.meaning]
  constructor
  · rintro ⟨_, _, rfl, ⟨c, rfl, hc⟩, rest, _, rfl, hrest, _, _, rfl, hdot, rfl⟩
    have hchars := (Pattern.meaning_repetition_set_iff.mp hrest).2
    obtain rfl := meaning_single.mp hdot
    exact ⟨c :: rest, ⟨c, rest, rfl, contains_labelStarts.mp hc, fun d hd =>
      contains_labelChars.mp (hchars d hd)⟩, by simp⟩
  · rintro ⟨_, ⟨c, rest, rfl, hc, hrest⟩, rfl⟩
    exact ⟨[c], rest ++ ['.'], rfl, ⟨c, rfl, contains_labelStarts.mpr hc⟩, rest, ['.'], rfl,
      Pattern.meaning_repetition_set_iff.mpr ⟨Nat.zero_le _, fun d hd =>
        contains_labelChars.mpr (hrest d hd)⟩,
      ['.'], [], rfl, meaning_single.mpr rfl, rfl⟩

theorem meaning_labels :
    (Expr.repetition 1 none labelExpr).meaning before stretch after ↔
      ∃ labels : List (List Char), labels ≠ [] ∧ (∀ label ∈ labels, Label FoldedLetter label) ∧
        stretch = labels.flatMap (· ++ ['.']) := by
  rw [Pattern.meaning_repetition_iff_flatten fun _ _ _ => meaning_labelExpr]
  constructor
  · rintro ⟨pieces, hlength, hpieces, rfl⟩
    have hdrop : ∀ piece ∈ pieces,
        Label FoldedLetter piece.dropLast ∧ piece.dropLast ++ ['.'] = piece := by
      intro piece hpiece
      obtain ⟨label, hlabel, rfl⟩ := hpieces piece hpiece
      rw [List.dropLast_concat]
      exact ⟨hlabel, rfl⟩
    refine ⟨pieces.map List.dropLast, ?_, ?_, ?_⟩
    · rw [ne_eq, List.map_eq_nil_iff]
      exact List.ne_nil_of_length_pos hlength
    · rintro label hlabel
      obtain ⟨piece, hpiece, rfl⟩ := List.mem_map.mp hlabel
      exact (hdrop piece hpiece).1
    · rw [List.flatMap_map, List.flatMap_def,
        List.map_congr_left fun piece hpiece => (hdrop piece hpiece).2, List.map_id']
  · rintro ⟨labels, hne, hlabels, rfl⟩
    refine ⟨labels.map (· ++ ['.']), ?_, fun piece hpiece => ?_, List.flatMap_def⟩
    · rw [List.length_map]
      exact List.length_pos_iff.mpr hne
    · obtain ⟨label, hlabel, rfl⟩ := List.mem_map.mp hpiece
      exact ⟨label, hlabels label hlabel, rfl⟩

/-- The pattern describes whole texts: a mailbox that may begin with a dot, an at sign, a domain. -/
theorem meaning_addressExpr :
    addressExpr.meaning before stretch after ↔ before = [] ∧ after = [] ∧
      ∃ first last domain, stretch = first ++ last :: '@' :: domain ∧
        (∀ c ∈ first, MailboxChar FoldedLetter c) ∧
        (MailboxChar FoldedLetter last ∧ last ≠ '.' ∧ last ≠ '\'') ∧
        Domain FoldedLetter domain := by
  rw [addressExpr, Expr.meaning]
  constructor
  · rintro ⟨_, _, rfl, ⟨rfl, hstart⟩, first, _, rfl, hfirst, _, _, rfl, ⟨last, rfl, hlast⟩,
      _, _, rfl, hat, _, _, rfl, hlabels, top, _, rfl, htop, _, _, rfl, ⟨rfl, hfinish⟩, rfl⟩
    have hmailbox := (Pattern.meaning_repetition_set_iff.mp hfirst).2
    obtain rfl := meaning_single.mp hat
    obtain ⟨labels, hne, hlabel, rfl⟩ := meaning_labels.mp hlabels
    obtain ⟨hlength, hletters⟩ := Pattern.meaning_repetition_set_iff.mp htop
    refine ⟨?_, ?_, first, last, _, ?_, fun c hc => contains_mailboxChars.mp (hmailbox c hc),
      contains_mailboxEnds.mp hlast, labels, top, rfl, hne, hlabel, hlength, fun c hc =>
        contains_topChars.mp (hletters c hc)⟩
    · simpa [Pattern.Look.holds] using hstart
    · simpa [Pattern.Look.holds] using hfinish
    · simp
  · rintro ⟨rfl, rfl, first, last, _, rfl, hfirst, hlast, labels, top, rfl, hne, hlabels, hlength,
      htop⟩
    refine ⟨[], _, rfl, ⟨rfl, rfl⟩, first, _, rfl,
      Pattern.meaning_repetition_set_iff.mpr ⟨Nat.zero_le _, fun c hc =>
        contains_mailboxChars.mpr (hfirst c hc)⟩,
      [last], _, rfl, ⟨last, rfl, contains_mailboxEnds.mpr hlast⟩,
      ['@'], _, rfl, meaning_single.mpr rfl,
      _, _, rfl, meaning_labels.mpr ⟨labels, hne, hlabels, rfl⟩,
      top, [], (List.append_nil top).symm, Pattern.meaning_repetition_set_iff.mpr ⟨hlength,
        fun c hc => contains_topChars.mpr (htop c hc)⟩,
      [], [], rfl, ⟨rfl, ?_⟩, rfl⟩
    simp [Pattern.Look.holds]

end Parts

/-! ## Addresses -/

/-- A mailbox is what the pattern says, if it does not begin with a dot. -/
theorem mailbox_concat_iff {first : List Char} {last : Char} :
    Mailbox FoldedLetter (first ++ [last]) ↔ (first ++ [last]).head? ≠ some '.' ∧
      (∀ c ∈ first, MailboxChar FoldedLetter c) ∧
      MailboxChar FoldedLetter last ∧ last ≠ '.' ∧ last ≠ '\'' := by
  constructor
  · rintro ⟨-, hchars, hhead, hdot, happ⟩
    rw [List.getLast?_concat] at hdot happ
    exact ⟨hhead, fun c hc => hchars c (List.mem_append_left _ hc),
      hchars last List.mem_concat_self, mt (congrArg some) hdot, mt (congrArg some) happ⟩
  · rintro ⟨hhead, hfirst, hlast, hdot, happ⟩
    refine ⟨List.concat_ne_nil last first, fun c hc => ?_, hhead, ?_, ?_⟩
    · rcases List.mem_append.mp hc with hc | hc
      · exact hfirst c hc
      · exact List.mem_singleton.mp hc ▸ hlast
    · rw [List.getLast?_concat]
      exact fun h => hdot (Option.some.inj h)
    · rw [List.getLast?_concat]
      exact fun h => happ (Option.some.inj h)

/-- The grammar is what the pattern says of a text that does not begin with a dot and has no two
dots in a row. -/
theorem address_iff_matchesIn (s : String) :
    Address FoldedLetter s.toList ↔
      s.toList.head? ≠ some '.' ∧ ¬ ['.', '.'] <:+: s.toList ∧ addressExpr.matchesIn s = true := by
  have hhead : ∀ (first : List Char) (last : Char) (domain : List Char),
      (first ++ last :: '@' :: domain).head? = (first ++ [last]).head? := by
    intro first last domain
    cases first <;> rfl
  simp only [Expr.matchesIn_iff, meaning_addressExpr]
  constructor
  · rintro ⟨⟨mailbox, domain, hs, hmailbox, hdomain⟩, hdouble⟩
    obtain ⟨first, last, rfl⟩ : ∃ first last, mailbox = first ++ [last] :=
      ⟨_, _, (List.dropLast_concat_getLast hmailbox.ne_nil).symm⟩
    obtain ⟨hdot, hfirst, hlast⟩ := mailbox_concat_iff.mp hmailbox
    rw [List.append_assoc, List.singleton_append] at hs
    refine ⟨?_, hdouble, [], s.toList, [], by simp, rfl, rfl, first, last, domain, hs, hfirst,
      hlast, hdomain⟩
    rwa [hs, hhead]
  · rintro ⟨hdot, hdouble, _, _, _, hs, rfl, rfl, first, last, domain, rfl, hfirst, hlast, hdomain⟩
    rw [List.nil_append, List.append_nil] at hs
    rw [hs, hhead] at hdot
    refine ⟨⟨first ++ [last], domain, ?_, mailbox_concat_iff.mpr ⟨hdot, hfirst, hlast⟩, hdomain⟩,
      hdouble⟩
    rw [hs, List.append_assoc, List.singleton_append]

end FieldRules.Predicate

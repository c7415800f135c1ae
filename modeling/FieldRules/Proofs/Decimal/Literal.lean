/-
# `Proofs.Decimal.Literal` — the grammar of a decimal literal

`IsLiteral` is the grammar: an optional sign, a mantissa and an optional exponent.
`isSome_read?_iff` says that reading takes the texts of the grammar and no others.

The reader cuts digits off the front for as long as there are any.  A text of the grammar is cut
where its parts meet, since what follows digits starts with no digit (`takeWhile_isDigit_append`).
-/
import Mathlib
import FieldRules.Decimal.Literal

namespace FieldRules.Decimal

/-! ## The grammar -/

def digits : List Char := "0123456789".toList

/-- One or more characters of a set. -/
def Run (set cs : List Char) : Prop := cs ≠ [] ∧ ∀ c ∈ cs, c ∈ set

instance (set cs : List Char) : Decidable (Run set cs) :=
  decidable_of_iff (cs ≠ [] ∧ cs.all (set.contains ·) = true) (by simp [Run])

inductive IsSign : List Char → Prop where
  | none : IsSign []
  | plus : IsSign ['+']
  | minus : IsSign ['-']

/-- Digits with an optional point and optional further digits, or a point and digits. -/
inductive IsMantissa : List Char → Prop where
  | whole {ds} (hds : Run digits ds) : IsMantissa ds
  | point {ds fs} (hds : Run digits ds) (hfs : ∀ c ∈ fs, c ∈ digits) : IsMantissa (ds ++ '.' :: fs)
  | fraction {fs} (hfs : Run digits fs) : IsMantissa ('.' :: fs)

/-- Nothing, or a mark, an optional sign and digits. -/
inductive IsExponent : List Char → Prop where
  | none : IsExponent []
  | some {mark sign ds} (hmark : mark = 'e' ∨ mark = 'E') (hsign : IsSign sign)
      (hds : Run digits ds) : IsExponent (mark :: (sign ++ ds))

/-- A sign, a mantissa and an exponent. -/
inductive IsLiteral : List Char → Prop where
  | intro {sign mantissa exponent} (hs : IsSign sign) (hm : IsMantissa mantissa)
      (he : IsExponent exponent) : IsLiteral (sign ++ (mantissa ++ exponent))

/-! ## Runs -/

section

variable {α : Type} {p : α → Bool} {xs rest : List α}

theorem takeWhile_append_of_head (hxs : ∀ x ∈ xs, p x = true)
    (hrest : ∀ x ∈ rest.head?, p x = false) : (xs ++ rest).takeWhile p = xs := by
  rw [List.takeWhile_append_of_pos hxs]
  cases rest with
  | nil => exact List.append_nil xs
  | cons x rest => rw [List.takeWhile_cons, hrest x rfl, if_neg Bool.false_ne_true, List.append_nil]

theorem dropWhile_append_of_head (hxs : ∀ x ∈ xs, p x = true)
    (hrest : ∀ x ∈ rest.head?, p x = false) : (xs ++ rest).dropWhile p = rest := by
  rw [List.dropWhile_append_of_pos hxs]
  cases rest with
  | nil => rfl
  | cons x rest => rw [List.dropWhile_cons, hrest x rfl, if_neg Bool.false_ne_true]

end

/-! ## Digits -/

theorem mem_iff_toNat_mem {c : Char} {cs : List Char} : c ∈ cs ↔ c.toNat ∈ cs.map Char.toNat := by
  rw [List.mem_map]
  constructor
  · exact fun h => ⟨c, h, rfl⟩
  · rintro ⟨d, hd, heq⟩
    rwa [← Char.toNat_inj.mp heq]

theorem isDigit_iff {c : Char} : isDigit c = true ↔ c ∈ digits := by
  have hrange : isDigit c = true ↔ 48 ≤ c.toNat ∧ c.toNat ≤ 57 := by
    unfold isDigit
    rw [Bool.and_eq_true, decide_eq_true_iff, decide_eq_true_iff]
    exact Iff.rfl
  have hcodes : digits.map Char.toNat = [48, 49, 50, 51, 52, 53, 54, 55, 56, 57] := rfl
  rw [hrange, mem_iff_toNat_mem, hcodes]
  simp only [List.mem_cons, List.not_mem_nil, or_false]
  omega

theorem ne_of_mem_digits {c d : Char} (hc : c ∈ digits) (hd : isDigit d = false) : c ≠ d := by
  rintro rfl
  rw [isDigit_iff.mpr hc] at hd
  exact Bool.noConfusion hd

def Undigited (cs : List Char) : Prop := ∀ c ∈ cs.head?, isDigit c = false

theorem takeWhile_isDigit_append {ds rest : List Char} (hds : ∀ c ∈ ds, c ∈ digits)
    (hrest : Undigited rest) : (ds ++ rest).takeWhile isDigit = ds :=
  takeWhile_append_of_head (fun c hc => isDigit_iff.mpr (hds c hc)) hrest

theorem dropWhile_isDigit_append {ds rest : List Char} (hds : ∀ c ∈ ds, c ∈ digits)
    (hrest : Undigited rest) : (ds ++ rest).dropWhile isDigit = rest :=
  dropWhile_append_of_head (fun c hc => isDigit_iff.mpr (hds c hc)) hrest

theorem mem_digits_of_mem_takeWhile {cs : List Char} :
    ∀ c ∈ cs.takeWhile isDigit, c ∈ digits :=
  fun _ hc => isDigit_iff.mp (List.mem_takeWhile_imp hc)

/-! ## The parts -/

theorem exists_sign_append (cs : List Char) : ∃ sign, IsSign sign ∧ cs = sign ++ (splitSign cs).2 := by
  unfold splitSign
  split
  · exact ⟨['-'], .minus, rfl⟩
  · exact ⟨['+'], .plus, rfl⟩
  · exact ⟨[], .none, rfl⟩

theorem snd_splitSign_append {sign : List Char} (hs : IsSign sign) {c : Char} (rest : List Char)
    (hplus : c ≠ '+') (hminus : c ≠ '-') : (splitSign (sign ++ c :: rest)).2 = c :: rest := by
  cases hs with
  | none =>
      show (splitSign (c :: rest)).2 = c :: rest
      unfold splitSign
      split
      · next heq => exact absurd (List.cons.inj heq).1 hminus
      · next heq => exact absurd (List.cons.inj heq).1 hplus
      · rfl
  | plus => rfl
  | minus => rfl

theorem snd_splitSign_append_run {sign ds : List Char} (hs : IsSign sign) (hds : Run digits ds) :
    (splitSign (sign ++ ds)).2 = ds := by
  obtain ⟨c, rest, rfl⟩ := List.exists_cons_of_ne_nil hds.1
  have hc := hds.2 c List.mem_cons_self
  exact snd_splitSign_append hs rest (ne_of_mem_digits hc rfl) (ne_of_mem_digits hc rfl)

theorem isSome_readExponent?_iff (cs : List Char) :
    (readExponent? cs).isSome = true ↔ IsExponent cs := by
  constructor
  · intro h
    unfold readExponent? at h
    split at h
    · exact .none
    · next mark rest =>
      split at h
      · next hmark =>
        obtain ⟨sign, hs, hrest⟩ := exists_sign_append rest
        dsimp only at h
        split at h
        · next hds =>
          rw [hrest]
          refine .some hmark hs ⟨hds.1, fun c hc => isDigit_iff.mp ?_⟩
          exact List.all_eq_true.mp hds.2 c hc
        · cases h
      · cases h
  · intro h
    cases h with
    | none => rfl
    | @some mark sign ds hmark hs hds =>
        have hall : ds.all isDigit = true :=
          List.all_eq_true.mpr fun c hc => isDigit_iff.mpr (hds.2 c hc)
        unfold readExponent?
        dsimp only
        rw [if_pos hmark, snd_splitSign_append_run hs hds, if_pos ⟨hds.1, hall⟩]
        rfl

theorem IsExponent.undigited {cs : List Char} (h : IsExponent cs) : Undigited cs := by
  intro c hc
  cases h with
  | none => cases hc
  | some hmark hs hds =>
      cases hc
      rcases hmark with rfl | rfl <;> rfl

theorem IsExponent.head?_ne {cs : List Char} (h : IsExponent cs) (rest : List Char) :
    cs ≠ '.' :: rest := by
  cases h with
  | none => exact List.cons_ne_nil _ _ ∘ Eq.symm
  | some hmark hs hds =>
      intro heq
      have hpoint := (List.cons.inj heq).1
      rw [hpoint] at hmark
      revert hmark
      decide

/-! ## The whole -/

/-- The fraction and the exponent behind the digits in front. -/
def splitFraction : List Char → List Char × List Char
  | '.' :: rest => (rest.takeWhile isDigit, rest.dropWhile isDigit)
  | rest => ([], rest)

theorem isSome_read?_iff_parts (cs : List Char) :
    (Literal.read? cs).isSome = true ↔
      ¬(((splitSign cs).2.takeWhile isDigit) = [] ∧
        (splitFraction ((splitSign cs).2.dropWhile isDigit)).1 = []) ∧
      IsExponent (splitFraction ((splitSign cs).2.dropWhile isDigit)).2 := by
  have hread : Literal.read? cs
      = if ((splitSign cs).2.takeWhile isDigit) = [] ∧
          (splitFraction ((splitSign cs).2.dropWhile isDigit)).1 = [] then none
        else (readExponent? (splitFraction ((splitSign cs).2.dropWhile isDigit)).2).map fun exponent =>
          ⟨(splitSign cs).1, (splitSign cs).2.takeWhile isDigit,
            (splitFraction ((splitSign cs).2.dropWhile isDigit)).1, exponent⟩ := by
    unfold Literal.read? splitFraction
    rfl
  rw [hread, ← isSome_readExponent?_iff]
  split
  · next h => exact ⟨fun hnone => absurd hnone Bool.false_ne_true, fun hparts => absurd h hparts.1⟩
  · next h => rw [Option.isSome_map, and_iff_right h]

/-- The digits in front, the fraction and the rest make a mantissa and what follows it. -/
theorem isMantissa_of_parts {body : List Char}
    (h : ¬(body.takeWhile isDigit = [] ∧ (splitFraction (body.dropWhile isDigit)).1 = [])) :
    ∃ mantissa, IsMantissa mantissa ∧
      body = mantissa ++ (splitFraction (body.dropWhile isDigit)).2 := by
  have hbody := (List.takeWhile_append_dropWhile (p := isDigit) (l := body)).symm
  have hwhole : ∀ c ∈ body.takeWhile isDigit, c ∈ digits := mem_digits_of_mem_takeWhile
  unfold splitFraction at h ⊢
  split at h
  · next rest hrest =>
    have hsplit := (List.takeWhile_append_dropWhile (p := isDigit) (l := rest)).symm
    rw [hrest] at hbody
    by_cases hnil : body.takeWhile isDigit = []
    · have hfraction : rest.takeWhile isDigit ≠ [] := fun hf => h ⟨hnil, hf⟩
      refine ⟨_, .fraction ⟨hfraction, mem_digits_of_mem_takeWhile⟩, ?_⟩
      rw [hnil] at hbody
      show body = '.' :: (rest.takeWhile isDigit ++ rest.dropWhile isDigit)
      rw [← hsplit]
      exact hbody
    · have hfraction : ∀ c ∈ rest.takeWhile isDigit, c ∈ digits := mem_digits_of_mem_takeWhile
      refine ⟨_, .point ⟨hnil, hwhole⟩ hfraction, ?_⟩
      rw [List.append_assoc]
      show body = body.takeWhile isDigit ++ '.' :: (rest.takeWhile isDigit ++ rest.dropWhile isDigit)
      rw [← hsplit]
      exact hbody
  · exact ⟨_, .whole ⟨fun hnil => h ⟨hnil, rfl⟩, hwhole⟩, hbody⟩

theorem IsMantissa.exists_cons {cs : List Char} (h : IsMantissa cs) :
    ∃ c rest, cs = c :: rest ∧ c ≠ '+' ∧ c ≠ '-' := by
  have hrun : ∀ {ds : List Char}, Run digits ds → ∃ c rest, ds = c :: rest ∧ c ≠ '+' ∧ c ≠ '-' := by
    intro ds hds
    obtain ⟨c, rest, rfl⟩ := List.exists_cons_of_ne_nil hds.1
    have hc := hds.2 c List.mem_cons_self
    exact ⟨c, rest, rfl, ne_of_mem_digits hc rfl, ne_of_mem_digits hc rfl⟩
  cases h with
  | whole hds => exact hrun hds
  | point hds hfs =>
      obtain ⟨c, rest, rfl, hc⟩ := hrun hds
      exact ⟨c, rest ++ _, rfl, hc⟩
  | fraction hfs => exact ⟨'.', _, rfl, by decide⟩

theorem parts_of_isMantissa {mantissa exponent : List Char} (hm : IsMantissa mantissa)
    (he : IsExponent exponent) :
    ¬((mantissa ++ exponent).takeWhile isDigit = [] ∧
        (splitFraction ((mantissa ++ exponent).dropWhile isDigit)).1 = []) ∧
      (splitFraction ((mantissa ++ exponent).dropWhile isDigit)).2 = exponent := by
  have hpoint : ∀ cs : List Char, Undigited ('.' :: cs) := fun cs c hc => by
    cases hc
    rfl
  cases hm with
  | whole hds =>
      rw [takeWhile_isDigit_append hds.2 he.undigited, dropWhile_isDigit_append hds.2 he.undigited]
      refine ⟨fun h => hds.1 h.1, ?_⟩
      unfold splitFraction
      split
      · next rest => exact absurd rfl (he.head?_ne rest)
      · rfl
  | @point ds fs hds hfs =>
      rw [List.append_assoc, List.cons_append, takeWhile_isDigit_append hds.2 (hpoint _),
        dropWhile_isDigit_append hds.2 (hpoint _)]
      exact ⟨fun h => hds.1 h.1, dropWhile_isDigit_append hfs he.undigited⟩
  | @fraction fs hfs =>
      have hnil : ∀ c ∈ ([] : List Char), c ∈ digits := fun _ hc => absurd hc List.not_mem_nil
      have htake := takeWhile_isDigit_append hnil (hpoint (fs ++ exponent))
      have hdrop := dropWhile_isDigit_append hnil (hpoint (fs ++ exponent))
      rw [List.cons_append, ← List.nil_append ('.' :: (fs ++ exponent)), htake, hdrop]
      refine ⟨fun h => hfs.1 ?_, dropWhile_isDigit_append hfs.2 he.undigited⟩
      rw [← takeWhile_isDigit_append hfs.2 he.undigited]
      exact h.2

/-- A text is read exactly if it is a literal. -/
theorem isSome_read?_iff (cs : List Char) : (Literal.read? cs).isSome = true ↔ IsLiteral cs := by
  rw [isSome_read?_iff_parts]
  constructor
  · rintro ⟨hparts, he⟩
    obtain ⟨sign, hs, hcs⟩ := exists_sign_append cs
    obtain ⟨mantissa, hm, hbody⟩ := isMantissa_of_parts hparts
    rw [hcs, hbody]
    exact .intro hs hm he
  · rintro ⟨hs, hm, he⟩
    obtain ⟨c, rest, rfl, hplus, hminus⟩ := hm.exists_cons
    rw [List.cons_append, snd_splitSign_append hs _ hplus hminus, ← List.cons_append]
    obtain ⟨hparts, hexponent⟩ := parts_of_isMantissa hm he
    rw [hexponent]
    exact ⟨hparts, he⟩

end FieldRules.Decimal

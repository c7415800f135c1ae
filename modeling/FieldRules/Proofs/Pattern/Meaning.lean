/-
# `Proofs.Pattern.Meaning` — what expressions say, and that the search finds it

An expression says something of a stretch of a text between what stands before it and behind it
(`Meaning`); a set of characters looks at the stretch alone, a condition only at what surrounds it.
The search knows nothing of stretches: it carries sets of places from part to part, and it repeats a
part until no place is new.

`computes_reach` says that it finds the ends of exactly the stretches that the expression describes,
for every expression, text and set of places to begin at; `Expr.matchesIn_iff` says it of a whole
text.  A repetition without a limit is what needs an argument: a turn that ends where it began can
be left out (`times_shorten`), so no more turns count than a text has characters.
-/
import Mathlib.Tactic.Common
import FieldRules.Pattern.Expr

namespace FieldRules.Pattern

/-! ## Meanings -/

/-- What is said of a stretch of a text, given what stands before it and behind it. -/
abbrev Meaning := (before stretch after : List Char) → Prop

namespace Meaning

def nothing : Meaning := fun _ stretch _ => stretch = []

/-- The stretch is one of each meaning, the second behind the first. -/
def seq (m m' : Meaning) : Meaning := fun before stretch after =>
  ∃ first second, stretch = first ++ second ∧
    m before first (second ++ after) ∧ m' (before ++ first) second after

/-- The stretch is a number of stretches of one meaning, each behind the one before. -/
def times (m : Meaning) : Nat → Meaning
  | 0 => nothing
  | n + 1 => m.seq (m.times n)

/-- The stretch is any number of stretches of one meaning, up to a limit if there is one. -/
def upTo (m : Meaning) (limit : Option Nat) : Meaning := fun before stretch after =>
  ∃ n, (∀ most ∈ limit, n ≤ most) ∧ m.times n before stretch after

end Meaning

mutual

/-- What an expression says. -/
def Expr.meaning : Expr → Meaning
  | .empty => .nothing
  | .set chars => fun _ stretch _ => ∃ c, stretch = [c] ∧ chars.contains c = true
  | .look condition => fun before stretch after =>
    stretch = [] ∧ condition.holds (before ++ after).toArray before.length = true
  | .concat parts => meaningAll parts
  | .alternatives branches => meaningAny branches
  | .repetition least most body =>
    (body.meaning.times least).seq (body.meaning.upTo (most.map (· - least)))
  | .capture body => body.meaning

def meaningAll : List Expr → Meaning
  | [] => .nothing
  | e :: rest => e.meaning.seq (meaningAll rest)

def meaningAny : List Expr → Meaning
  | [] => fun _ _ _ => False
  | e :: rest => fun before stretch after =>
    e.meaning before stretch after ∨ meaningAny rest before stretch after

end

namespace Meaning

/-! ## Stretches and their ends -/

/-- A stretch of a text that begins at one place and ends at another is of the meaning. -/
def Spans (m : Meaning) (cs : List Char) (p q : Nat) : Prop :=
  ∃ before stretch after, cs = before ++ stretch ++ after ∧ p = before.length ∧
    q = p + stretch.length ∧ m before stretch after

variable {m m' : Meaning} {cs : List Char} {p q r n : Nat}

theorem Spans.le (h : m.Spans cs p q) : q ≤ cs.length := by
  obtain ⟨before, stretch, after, rfl, rfl, rfl, -⟩ := h
  rw [List.length_append, List.length_append]
  omega

theorem spans_nothing (hp : p ≤ cs.length) : nothing.Spans cs p q ↔ q = p := by
  constructor
  · rintro ⟨before, stretch, after, -, -, rfl, rfl⟩
    rfl
  · rintro rfl
    refine ⟨cs.take q, [], cs.drop q, ?_, (List.length_take_of_le hp).symm, rfl, rfl⟩
    rw [List.append_nil, List.take_append_drop]

theorem spans_seq : (m.seq m').Spans cs p r ↔ ∃ q, m.Spans cs p q ∧ m'.Spans cs q r := by
  constructor
  · rintro ⟨before, _, after, rfl, rfl, rfl, first, second, rfl, hfirst, hsecond⟩
    refine ⟨before.length + first.length, ⟨before, first, second ++ after, ?_, rfl, rfl, hfirst⟩,
      ⟨before ++ first, second, after, ?_, List.length_append.symm, ?_, hsecond⟩⟩
    · simp only [List.append_assoc]
    · simp only [List.append_assoc]
    · rw [List.length_append, Nat.add_assoc]
  · rintro ⟨_, ⟨before, first, rest, hcs, rfl, rfl, hfirst⟩,
      ⟨before', second, after, hcs', hlength, rfl, hsecond⟩⟩
    rw [← List.length_append] at hlength
    rw [hcs, List.append_assoc before'] at hcs'
    obtain ⟨rfl, rfl⟩ := List.append_inj hcs' hlength
    refine ⟨before, first ++ second, after, ?_, rfl, ?_, first, second, rfl, hfirst, hsecond⟩
    · rw [hcs]
      simp only [List.append_assoc]
    · rw [List.length_append, Nat.add_assoc]

theorem spans_times_succ :
    (m.times (n + 1)).Spans cs p r ↔ ∃ q, m.Spans cs p q ∧ (m.times n).Spans cs q r := spans_seq

theorem spans_upTo {limit : Option Nat} :
    (m.upTo limit).Spans cs p q ↔ ∃ n, (∀ most ∈ limit, n ≤ most) ∧ (m.times n).Spans cs p q := by
  constructor
  · rintro ⟨before, stretch, after, hcs, hp, hq, n, hn, h⟩
    exact ⟨n, hn, before, stretch, after, hcs, hp, hq, h⟩
  · rintro ⟨n, hn, before, stretch, after, hcs, hp, hq, h⟩
    exact ⟨before, stretch, after, hcs, hp, hq, n, hn, h⟩

/-- Turns that end where they began may be left out: then each of the others takes a character. -/
theorem times_shorten {before stretch after : List Char} (h : m.times n before stretch after) :
    ∃ k ≤ stretch.length, m.times k before stretch after := by
  induction n generalizing before stretch with
  | zero => exact ⟨0, Nat.zero_le _, h⟩
  | succ n ih =>
      obtain ⟨first, second, rfl, hfirst, hsecond⟩ := h
      cases first with
      | nil =>
          rw [List.append_nil] at hsecond
          exact ih hsecond
      | cons c more =>
          obtain ⟨k, hk, hsecond⟩ := ih hsecond
          refine ⟨k + 1, ?_, c :: more, second, rfl, hfirst, hsecond⟩
          rw [List.length_append, List.length_cons]
          omega

/-- In a text, a limit that is not below its length is no limit. -/
theorem spans_upTo_none {limit : Nat} (hlimit : cs.length ≤ limit) :
    (m.upTo none).Spans cs p q ↔ (m.upTo (some limit)).Spans cs p q := by
  constructor
  · rintro ⟨before, stretch, after, rfl, hp, hq, n, -, h⟩
    obtain ⟨k, hk, h⟩ := times_shorten h
    refine ⟨before, stretch, after, rfl, hp, hq, k, fun most hmost => ?_, h⟩
    rw [List.length_append, List.length_append] at hlimit
    rw [← Option.some.inj hmost]
    omega
  · rintro ⟨before, stretch, after, hcs, hp, hq, n, -, h⟩
    exact ⟨before, stretch, after, hcs, hp, hq, n,
      fun most hmost => absurd hmost (Option.not_mem_none most), h⟩

/-- Turns that look at nothing but their own stretches join to the whole stretch. -/
theorem times_iff_flatten {P : List Char → Prop}
    (h : ∀ before stretch after, m before stretch after ↔ P stretch)
    {before stretch after : List Char} :
    m.times n before stretch after ↔
      ∃ pieces : List (List Char), pieces.length = n ∧ (∀ piece ∈ pieces, P piece) ∧
        stretch = pieces.flatten := by
  induction n generalizing before stretch with
  | zero =>
      constructor
      · rintro rfl
        exact ⟨[], rfl, fun _ hpiece => absurd hpiece List.not_mem_nil, rfl⟩
      · rintro ⟨pieces, hlength, -, rfl⟩
        rw [List.eq_nil_of_length_eq_zero hlength]
        rfl
  | succ n ih =>
      constructor
      · rintro ⟨first, second, rfl, hfirst, hsecond⟩
        obtain ⟨pieces, hlength, hpieces, rfl⟩ := ih.mp hsecond
        exact ⟨first :: pieces, congrArg (· + 1) hlength,
          List.forall_mem_cons.mpr ⟨(h _ _ _).mp hfirst, hpieces⟩, rfl⟩
      · rintro ⟨_ | ⟨piece, pieces⟩, hlength, hpieces, rfl⟩
        · exact absurd hlength (Nat.succ_ne_zero n).symm
        · obtain ⟨hpiece, hpieces⟩ := List.forall_mem_cons.mp hpieces
          exact ⟨piece, pieces.flatten, rfl, (h _ _ _).mpr hpiece,
            ih.mpr ⟨pieces, Nat.succ.inj hlength, hpieces, rfl⟩⟩

end Meaning

theorem meaning_repetition_iff_flatten {body : Expr} {P : List Char → Prop}
    (h : ∀ before stretch after, body.meaning before stretch after ↔ P stretch) {least : Nat}
    {before stretch after : List Char} :
    (Expr.repetition least none body).meaning before stretch after ↔
      ∃ pieces : List (List Char), least ≤ pieces.length ∧ (∀ piece ∈ pieces, P piece) ∧
        stretch = pieces.flatten := by
  rw [Expr.meaning]
  constructor
  · rintro ⟨_, _, rfl, hfirst, n, -, hsecond⟩
    obtain ⟨pieces, hlength, hpieces, rfl⟩ := (Meaning.times_iff_flatten h).mp hfirst
    obtain ⟨more, -, hmore, rfl⟩ := (Meaning.times_iff_flatten h).mp hsecond
    refine ⟨pieces ++ more, ?_, ?_, List.flatten_append.symm⟩
    · rw [List.length_append, hlength]
      exact Nat.le_add_right least _
    · exact fun piece hpiece => (List.mem_append.mp hpiece).elim (hpieces piece) (hmore piece)
  · rintro ⟨pieces, hlength, hpieces, rfl⟩
    refine ⟨(pieces.take least).flatten, (pieces.drop least).flatten, ?_, ?_,
      (pieces.drop least).length, fun _ hmost => absurd hmost (Option.not_mem_none _), ?_⟩
    · rw [← List.flatten_append, List.take_append_drop]
    · exact (Meaning.times_iff_flatten h).mpr ⟨_, List.length_take_of_le hlength,
        fun piece hpiece => hpieces piece (List.mem_of_mem_take hpiece), rfl⟩
    · exact (Meaning.times_iff_flatten h).mpr ⟨_, rfl,
        fun piece hpiece => hpieces piece (List.mem_of_mem_drop hpiece), rfl⟩

theorem meaning_repetition_set_iff {chars : CharSet} {least : Nat}
    {before stretch after : List Char} :
    (Expr.repetition least none (.set chars)).meaning before stretch after ↔
      least ≤ stretch.length ∧ ∀ c ∈ stretch, chars.contains c = true := by
  rw [meaning_repetition_iff_flatten (P := fun piece => ∃ c, piece = [c] ∧ chars.contains c = true)
    fun _ _ _ => by rw [Expr.meaning]]
  constructor
  · rintro ⟨pieces, hlength, hpieces, rfl⟩
    have hsingle : ∀ piece ∈ pieces, piece.length = 1 := by
      intro piece hpiece
      obtain ⟨c, rfl, -⟩ := hpieces piece hpiece
      rfl
    have hflatten : pieces.flatten.length = pieces.length := by
      rw [List.length_flatten, List.map_congr_left hsingle, List.map_const', List.sum_replicate_nat,
        Nat.mul_one]
    refine ⟨hflatten ▸ hlength, fun c hc => ?_⟩
    obtain ⟨piece, hpiece, hc⟩ := List.mem_flatten.mp hc
    obtain ⟨d, rfl, hd⟩ := hpieces piece hpiece
    exact List.mem_singleton.mp hc ▸ hd
  · rintro ⟨hlength, hchars⟩
    refine ⟨stretch.map ([·]), (List.length_map _).symm ▸ hlength, fun piece hpiece => ?_, ?_⟩
    · obtain ⟨c, hc, rfl⟩ := List.mem_map.mp hpiece
      exact ⟨c, rfl, hchars c hc⟩
    · rw [← List.flatMap_def, List.flatMap_singleton']

/-! ## Steps of the search -/

theorem Places.mem_union {xs ys : Places} {p : Nat} : p ∈ xs.union ys ↔ p ∈ xs ∨ p ∈ ys := by
  fun_induction Places.union xs ys with
  | case1 => simp
  | case2 => simp
  | case3 x xs y ys hlt ih => rw [List.mem_cons, ih, List.mem_cons (a := p) (l := xs), or_assoc]
  | case4 x xs y ys hlt hgt ih =>
      rw [List.mem_cons, ih, List.mem_cons (a := p) (l := ys)]
      exact or_left_comm
  | case5 x xs y ys hlt hgt ih =>
      have heq : x = y := by omega
      subst heq
      rw [List.mem_cons, ih, List.mem_cons, List.mem_cons]
      exact or_or_distrib_left

/-- From any places of a text, a step of the search gives the ends of the stretches of a meaning
that begin at one of them. -/
def Computes (cs : List Char) (step : Places → Places) (m : Meaning) : Prop :=
  ∀ places, (∀ p ∈ places, p ≤ cs.length) → ∀ q, q ∈ step places ↔ ∃ p ∈ places, m.Spans cs p q

section Steps

variable {cs : List Char} {step step' : Places → Places} {m m' : Meaning} {places : Places}

theorem Computes.valid (h : Computes cs step m) (hplaces : ∀ p ∈ places, p ≤ cs.length) :
    ∀ q ∈ step places, q ≤ cs.length := by
  intro q hq
  obtain ⟨p, -, hspan⟩ := (h places hplaces q).mp hq
  exact hspan.le

theorem computes_nothing : Computes cs (fun places => places) .nothing := by
  intro places hplaces q
  constructor
  · exact fun hq => ⟨q, hq, (Meaning.spans_nothing (hplaces q hq)).mpr rfl⟩
  · rintro ⟨p, hp, hspan⟩
    exact (Meaning.spans_nothing (hplaces p hp)).mp hspan ▸ hp

theorem Computes.seq (h : Computes cs step m) (h' : Computes cs step' m') :
    Computes cs (fun places => step' (step places)) (m.seq m') := by
  intro places hplaces r
  rw [h' _ (h.valid hplaces)]
  simp only [h places hplaces, Meaning.spans_seq]
  constructor
  · rintro ⟨q, ⟨p, hp, hfirst⟩, hsecond⟩
    exact ⟨p, hp, q, hfirst, hsecond⟩
  · rintro ⟨p, hp, q, hfirst, hsecond⟩
    exact ⟨q, ⟨p, hp, hfirst⟩, hsecond⟩

/-- Where a step adds no place, no number of turns does. -/
theorem Computes.times_mem (h : Computes cs step m) (hplaces : ∀ p ∈ places, p ≤ cs.length)
    (hclosed : ∀ q ∈ step places, q ∈ places) {n p q : Nat} (hp : p ∈ places)
    (hspan : (m.times n).Spans cs p q) : q ∈ places := by
  induction n generalizing p with
  | zero => exact (Meaning.spans_nothing (hplaces p hp)).mp hspan ▸ hp
  | succ n ih =>
      obtain ⟨middle, hfirst, hrest⟩ := Meaning.spans_times_succ.mp hspan
      exact ih (hclosed middle ((h places hplaces middle).mpr ⟨p, hp, hfirst⟩)) hrest

/-- Where a step changes no place, every place ends as many turns as there are to be. -/
theorem Computes.exists_times (h : Computes cs step m) (hplaces : ∀ p ∈ places, p ≤ cs.length)
    (hfixed : step places = places) (n : Nat) {q : Nat} (hq : q ∈ places) :
    ∃ p ∈ places, (m.times n).Spans cs p q := by
  induction n generalizing q with
  | zero => exact ⟨q, hq, (Meaning.spans_nothing (hplaces q hq)).mpr rfl⟩
  | succ n ih =>
      obtain ⟨middle, hmiddle, hrest⟩ := ih hq
      obtain ⟨p, hp, hfirst⟩ := (h places hplaces middle).mp (hfixed.symm ▸ hmiddle)
      exact ⟨p, hp, Meaning.spans_times_succ.mpr ⟨middle, hfirst, hrest⟩⟩

theorem Computes.iterate (h : Computes cs step m) (n : Nat) :
    Computes cs (iterate step n) (m.times n) := by
  induction n with
  | zero => exact computes_nothing
  | succ n ih =>
      intro places hplaces q
      rw [Pattern.iterate]
      by_cases hfixed : step places = places
      · rw [if_pos (beq_iff_eq.mpr hfixed)]
        exact ⟨h.exists_times hplaces hfixed (n + 1), fun ⟨p, hp, hspan⟩ =>
          h.times_mem hplaces (fun q hq => hfixed ▸ hq) hp hspan⟩
      · rw [if_neg (mt beq_iff_eq.mp hfixed)]
        exact h.seq ih places hplaces q

theorem Computes.mem_upTo (h : Computes cs step m) (hplaces : ∀ p ∈ places, p ≤ cs.length)
    {n q : Nat} : q ∈ upTo step n places ↔ ∃ p ∈ places, ∃ k ≤ n, (m.times k).Spans cs p q := by
  induction n generalizing places with
  | zero =>
      rw [Pattern.upTo]
      constructor
      · exact fun hq => ⟨q, hq, 0, Nat.le_refl 0, (Meaning.spans_nothing (hplaces q hq)).mpr rfl⟩
      · rintro ⟨p, hp, k, hk, hspan⟩
        rw [Nat.le_zero.mp hk] at hspan
        exact (Meaning.spans_nothing (hplaces p hp)).mp hspan ▸ hp
  | succ n ih =>
      have hmore : ∀ p, p ∈ places.union (step places) ↔
          p ∈ places ∨ ∃ p' ∈ places, m.Spans cs p' p :=
        fun p => by rw [Places.mem_union, h places hplaces]
      have hvalid : ∀ p ∈ places.union (step places), p ≤ cs.length := by
        intro p hp
        exact (Places.mem_union.mp hp).elim (hplaces p) (h.valid hplaces p)
      rw [Pattern.upTo]
      by_cases hfixed : places.union (step places) = places
      · have hclosed : ∀ p ∈ step places, p ∈ places := fun p hp =>
          hfixed ▸ Places.mem_union.mpr (.inr hp)
        rw [if_pos (beq_iff_eq.mpr hfixed)]
        constructor
        · exact fun hq => ⟨q, hq, 0, Nat.zero_le _, (Meaning.spans_nothing (hplaces q hq)).mpr rfl⟩
        · rintro ⟨p, hp, k, -, hspan⟩
          exact h.times_mem hplaces hclosed hp hspan
      · rw [if_neg (mt beq_iff_eq.mp hfixed), ih hvalid]
        constructor
        · rintro ⟨p, hp, k, hk, hspan⟩
          rcases (hmore p).mp hp with hp | ⟨p', hp', hfirst⟩
          · exact ⟨p, hp, k, Nat.le_succ_of_le hk, hspan⟩
          · exact ⟨p', hp', k + 1, Nat.succ_le_succ hk,
              Meaning.spans_times_succ.mpr ⟨p, hfirst, hspan⟩⟩
        · rintro ⟨p, hp, k, hk, hspan⟩
          cases k with
          | zero => exact ⟨p, (hmore p).mpr (.inl hp), 0, Nat.zero_le n, hspan⟩
          | succ k =>
              obtain ⟨middle, hfirst, hrest⟩ := Meaning.spans_times_succ.mp hspan
              exact ⟨middle, (hmore middle).mpr (.inr ⟨p, hp, hfirst⟩), k,
                Nat.le_of_succ_le_succ hk, hrest⟩

theorem Computes.upTo (h : Computes cs step m) (n : Nat) :
    Computes cs (upTo step n) (m.upTo (some n)) := by
  intro places hplaces q
  rw [h.mem_upTo hplaces]
  simp only [Meaning.spans_upTo, Option.mem_some_iff, forall_eq']

end Steps

/-! ## The search -/

theorem computes_set (cs : List Char) (chars : CharSet) :
    Computes cs ((Expr.set chars).reach cs.toArray) (Expr.set chars).meaning := by
  intro places hplaces q
  simp only [Expr.reach, List.mem_filterMap, Option.ite_none_right_eq_some, Option.some.injEq]
  refine exists_congr fun p => and_congr_right fun _ => ?_
  rw [List.getElem?_toArray, Option.any_eq_true]
  constructor
  · rintro ⟨⟨c, hget, hc⟩, rfl⟩
    obtain ⟨hlt, hget⟩ := List.getElem?_eq_some_iff.mp hget
    refine ⟨cs.take p, [c], cs.drop (p + 1), ?_, (List.length_take_of_le (Nat.le_of_lt hlt)).symm,
      rfl, c, rfl, hc⟩
    rw [List.append_assoc, ← hget, List.singleton_append, List.getElem_cons_drop,
      List.take_append_drop]
  · rintro ⟨before, stretch, after, rfl, rfl, rfl, c, rfl, hc⟩
    refine ⟨⟨c, ?_, hc⟩, rfl⟩
    rw [List.append_assoc, List.getElem?_append_right (Nat.le_refl _), Nat.sub_self,
      List.singleton_append, List.getElem?_cons_zero]

theorem computes_look (cs : List Char) (condition : Look) :
    Computes cs ((Expr.look condition).reach cs.toArray) (Expr.look condition).meaning := by
  intro places hplaces q
  rw [Expr.reach, List.mem_filter]
  constructor
  · rintro ⟨hq, hholds⟩
    refine ⟨q, hq, cs.take q, [], cs.drop q, ?_, (List.length_take_of_le (hplaces q hq)).symm, rfl,
      rfl, ?_⟩
    · rw [List.append_nil, List.take_append_drop]
    · rw [List.take_append_drop, List.length_take_of_le (hplaces q hq)]
      exact hholds
  · rintro ⟨p, hp, before, stretch, after, rfl, rfl, rfl, rfl, hholds⟩
    rw [List.append_nil]
    exact ⟨hp, hholds⟩

mutual

/-- The search finds the ends of the stretches that an expression describes. -/
theorem computes_reach (cs : List Char) :
    ∀ e : Expr, Computes cs (e.reach cs.toArray) e.meaning
  | .empty => by
      simpa only [Expr.reach, Expr.meaning] using computes_nothing
  | .set chars => computes_set cs chars
  | .look condition => computes_look cs condition
  | .concat parts => by
      simpa only [Expr.reach, Expr.meaning] using computes_reachAll cs parts
  | .alternatives branches => by
      simpa only [Expr.reach, Expr.meaning] using computes_reachAny cs branches
  | .repetition least most body => by
      have hbody := computes_reach cs body
      cases most with
      | some most =>
          simpa only [Expr.reach, Expr.meaning, Option.map_some] using
            (hbody.iterate least).seq (hbody.upTo (most - least))
      | none =>
          intro places hplaces q
          have hsize : cs.length ≤ cs.toArray.size + 1 := by
            rw [List.size_toArray]
            exact Nat.le_succ _
          have hseq := (hbody.iterate least).seq (hbody.upTo (cs.toArray.size + 1)) places hplaces q
          rw [Expr.reach, Expr.meaning]
          simpa only [Option.map_none, Meaning.spans_seq, Meaning.spans_upTo_none hsize] using hseq
  | .capture body => by
      simpa only [Expr.reach, Expr.meaning] using computes_reach cs body

theorem computes_reachAll (cs : List Char) :
    ∀ parts : List Expr, Computes cs (reachAll cs.toArray parts) (meaningAll parts)
  | [] => by
      simpa only [reachAll, meaningAll] using computes_nothing
  | e :: rest => by
      simpa only [reachAll, meaningAll] using (computes_reach cs e).seq (computes_reachAll cs rest)

theorem computes_reachAny (cs : List Char) :
    ∀ branches : List Expr, Computes cs (reachAny cs.toArray branches) (meaningAny branches)
  | [] => by
      intro places hplaces q
      simp [reachAny, meaningAny, Meaning.Spans]
  | e :: rest => by
      intro places hplaces q
      rw [reachAny, Places.mem_union, computes_reach cs e places hplaces,
        computes_reachAny cs rest places hplaces, meaningAny]
      simp only [Meaning.Spans]
      grind

end

/-- A text matches if some stretch of it is one that the expression describes. -/
theorem Expr.matchesIn_iff (e : Expr) (text : String) :
    e.matchesIn text = true ↔ ∃ before stretch after,
      text.toList = before ++ stretch ++ after ∧ e.meaning before stretch after := by
  have hplaces : ∀ p ∈ List.range (text.toList.length + 1), p ≤ text.toList.length := fun p hp =>
    Nat.le_of_lt_succ (List.mem_range.mp hp)
  have hreach := computes_reach text.toList e _ hplaces
  rw [Expr.matchesIn, Bool.not_eq_true', List.isEmpty_eq_false_iff_exists_mem, List.size_toArray]
  constructor
  · rintro ⟨q, hq⟩
    obtain ⟨_, -, before, stretch, after, hcs, -, -, h⟩ := (hreach q).mp hq
    exact ⟨before, stretch, after, hcs, h⟩
  · rintro ⟨before, stretch, after, hcs, h⟩
    refine ⟨_, (hreach _).mpr ⟨before.length, ?_, before, stretch, after, hcs, rfl, rfl, h⟩⟩
    rw [List.mem_range, hcs, List.length_append, List.length_append]
    omega

end FieldRules.Pattern

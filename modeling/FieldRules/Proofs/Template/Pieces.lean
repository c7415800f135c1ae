/-
# `Proofs.Template.Pieces` — a template is read once, from left to right

A template is a row of pieces.  Where a placeholder starts it is one piece, and the reading goes on
behind it; every other character is a piece of its own and is copied.  `Reads` says this of any text
and says nothing of parameters: which characters form names is all that it depends on.  Rendering
fills the pieces one by one (`fillFrom_eq_flatMap`), so what is filled in is not read again.

Neither brace belongs to a name.  That is why placeholders do not overlap, why a text has only one
reading (`Reads.unique`), in which every placeholder that stands anywhere in the text is a piece, and
why texts are read apart where the first ends with a closing brace or the second starts with an
opening one (`Reads.append`).
-/
import FieldRules.Proofs.Decimal.Digits
import FieldRules.Proofs.Text.Ranges
import FieldRules.Template

namespace FieldRules.Template

open Json (Value)

/-! ## Pieces -/

/-- One or more characters of names. -/
def IsName (isName : Char → Bool) (name : List Char) : Prop :=
  name ≠ [] ∧ ∀ c ∈ name, isName c = true

/-- A piece of a template: a character that is copied, or a placeholder. -/
inductive Piece where
  | copied (c : Char)
  | hole (name : List Char)

def Piece.source : Piece → List Char
  | .copied c => [c]
  | .hole name => placeholder name

/-- `Reads isName cs pieces`: read from left to right, the text is these pieces. -/
inductive Reads (isName : Char → Bool) : List Char → List Piece → Prop where
  | done : Reads isName [] []
  | hole {name rest pieces} (hname : IsName isName name) (hrest : Reads isName rest pieces) :
      Reads isName (placeholder name ++ rest) (.hole name :: pieces)
  | copied {c rest pieces}
      (hnone : ∀ name, IsName isName name → ¬ placeholder name <+: c :: rest)
      (hrest : Reads isName rest pieces) : Reads isName (c :: rest) (.copied c :: pieces)

/-! ## Placeholders -/

section Placeholders

variable {isName : Char → Bool}

theorem placeholder_append (name rest : List Char) :
    placeholder name ++ rest = '{' :: (name ++ '}' :: rest) := by
  rw [placeholder, List.cons_append, List.cons_append, List.append_assoc, List.singleton_append]

theorem IsName.not_mem {name : List Char} (h : IsName isName name) {c : Char}
    (hc : isName c = false) : c ∉ name := by
  intro hmem
  rw [h.2 c hmem] at hc
  exact Bool.noConfusion hc

/-- A name ends where its placeholder is closed. -/
theorem cut_name (hclose : isName '}' = false) {name : List Char} (h : IsName isName name)
    (rest : List Char) :
    (name ++ '}' :: rest).takeWhile isName = name ∧
      (name ++ '}' :: rest).dropWhile isName = '}' :: rest := by
  have hhead : ∀ c ∈ ('}' :: rest).head?, isName c = false := by
    intro c hc
    cases hc
    exact hclose
  exact ⟨Decimal.takeWhile_append_of_head h.2 hhead, Decimal.dropWhile_append_of_head h.2 hhead⟩

/-- Where a placeholder starts, its name and what stands behind it are settled. -/
theorem placeholder_append_inj (hclose : isName '}' = false) {name name' rest rest' : List Char}
    (h : IsName isName name) (h' : IsName isName name')
    (heq : placeholder name ++ rest = placeholder name' ++ rest') : name = name' ∧ rest = rest' := by
  rw [placeholder_append, placeholder_append] at heq
  have hbehind := (List.cons.inj heq).2
  obtain ⟨htake, hdrop⟩ := cut_name hclose h rest
  obtain ⟨htake', hdrop'⟩ := cut_name hclose h' rest'
  rw [hbehind] at htake hdrop
  rw [htake'] at htake
  rw [hdrop'] at hdrop
  exact ⟨htake.symm, (List.cons.inj hdrop).2.symm⟩

def startingName? (isName : Char → Bool) : List Char → Option (List Char)
  | [] => none
  | c :: rest =>
    if c = '{' ∧ rest.takeWhile isName ≠ [] ∧ (rest.dropWhile isName).head? = some '}' then
      some (rest.takeWhile isName)
    else none

def placeholderNames (isName : Char → Bool) (cs : List Char) : List (List Char) :=
  cs.tails.filterMap (startingName? isName)

theorem startingName?_eq_some_iff (hclose : isName '}' = false) {cs name : List Char} :
    startingName? isName cs = some name ↔ IsName isName name ∧ placeholder name <+: cs := by
  constructor
  · intro h
    cases cs with
    | nil => cases h
    | cons c rest =>
        rw [startingName?, Option.ite_none_right_eq_some] at h
        obtain ⟨⟨rfl, hne, hhead⟩, heq⟩ := h
        obtain rfl : rest.takeWhile isName = name := Option.some.inj heq
        obtain ⟨behind, hbehind⟩ : ∃ behind, rest.dropWhile isName = '}' :: behind :=
          List.head?_eq_some_iff.mp hhead
        refine ⟨⟨hne, fun c hc => List.mem_takeWhile_imp hc⟩, behind, ?_⟩
        rw [placeholder_append, ← hbehind, List.takeWhile_append_dropWhile]
  · rintro ⟨hname, behind, rfl⟩
    obtain ⟨htake, hdrop⟩ := cut_name hclose hname behind
    rw [placeholder_append, startingName?, htake, hdrop]
    exact if_pos ⟨rfl, hname.1, rfl⟩

theorem mem_placeholderNames (hclose : isName '}' = false) {cs name : List Char} :
    name ∈ placeholderNames isName cs ↔ IsName isName name ∧ placeholder name <:+: cs := by
  rw [placeholderNames, List.mem_filterMap]
  constructor
  · rintro ⟨suffix, hsuffix, hname⟩
    obtain ⟨hname, hprefix⟩ := (startingName?_eq_some_iff hclose).mp hname
    exact ⟨hname, hprefix.isInfix.trans ((List.mem_tails _ _).mp hsuffix).isInfix⟩
  · rintro ⟨hname, before, behind, rfl⟩
    refine ⟨placeholder name ++ behind, (List.mem_tails _ _).mpr ⟨before, by simp⟩, ?_⟩
    exact (startingName?_eq_some_iff hclose).mpr ⟨hname, List.prefix_append _ _⟩

/-- Names of any kind are texts without braces. -/
def unbraced (c : Char) : Bool := c != '{' && c != '}'

theorem IsName.unbraced (hopen : isName '{' = false) (hclose : isName '}' = false)
    {name : List Char} (h : IsName isName name) : IsName Template.unbraced name := by
  refine ⟨h.1, fun c hc => ?_⟩
  rw [Template.unbraced, Bool.and_eq_true, bne_iff_ne, bne_iff_ne]
  exact ⟨fun heq => h.not_mem hopen (heq ▸ hc), fun heq => h.not_mem hclose (heq ▸ hc)⟩

/-! ## Readings -/

theorem Reads.flatMap_source {cs : List Char} {pieces : List Piece} (h : Reads isName cs pieces) :
    pieces.flatMap Piece.source = cs := by
  induction h with
  | done => rfl
  | hole _ _ ih => rw [List.flatMap_cons, ih, Piece.source]
  | copied _ _ ih => rw [List.flatMap_cons, ih, Piece.source, List.singleton_append]

theorem exists_reads (isName : Char → Bool) (cs : List Char) : ∃ pieces, Reads isName cs pieces := by
  -- behind a placeholder the text is shorter by more than one character
  induction hlength : cs.length using Nat.strongRecOn generalizing cs with
  | ind n ih =>
      cases cs with
      | nil => exact ⟨[], .done⟩
      | cons c rest =>
          by_cases hstart : ∃ name, IsName isName name ∧ placeholder name <+: c :: rest
          · obtain ⟨name, hname, behind, hbehind⟩ := hstart
            have hshorter : behind.length < n := by
              rw [← hlength, ← hbehind, placeholder_append, List.length_cons, List.length_append,
                List.length_cons]
              omega
            obtain ⟨pieces, hpieces⟩ := ih behind.length hshorter behind rfl
            exact ⟨.hole name :: pieces, hbehind ▸ .hole hname hpieces⟩
          · have hshorter : rest.length < n := by
              rw [← hlength, List.length_cons]
              omega
            obtain ⟨pieces, hpieces⟩ := ih rest.length hshorter rest rfl
            exact ⟨.copied c :: pieces, .copied (fun name hname hprefix =>
              hstart ⟨name, hname, hprefix⟩) hpieces⟩

theorem Reads.unique (hclose : isName '}' = false) {cs : List Char} {pieces pieces' : List Piece}
    (h : Reads isName cs pieces) (h' : Reads isName cs pieces') : pieces = pieces' := by
  induction h generalizing pieces' with
  | done =>
      cases h' with
      | done => rfl
  | @hole name rest pieces hname hrest ih =>
      generalize hcs : placeholder name ++ rest = cs at h'
      cases h' with
      | done => exact absurd hcs (List.cons_ne_nil _ _)
      | hole hname' hrest' =>
          obtain ⟨rfl, rfl⟩ := placeholder_append_inj hclose hname hname' hcs
          rw [ih hrest']
      | copied hnone' hrest' => exact absurd ⟨rest, hcs⟩ (hnone' name hname)
  | @copied c rest pieces hnone hrest ih =>
      generalize hcs : c :: rest = cs at h'
      cases h' with
      | done => cases hcs
      | @hole name' rest' _ hname' hrest' => exact absurd ⟨rest', hcs.symm⟩ (hnone name' hname')
      | copied hnone' hrest' =>
          cases hcs
          rw [ih hrest']

/-! ## Texts that are read apart -/

/-- No placeholder starts in the first of two texts and ends in the second, if the first ends with a
closing brace or the second starts with an opening one. -/
theorem not_placeholder_prefix_append (hopen : isName '{' = false) (hclose : isName '}' = false)
    {cs rest : List Char} (hne : cs ≠ [])
    (hborder : cs.getLast? = some '}' ∨ rest.head? = some '{')
    (hnone : ∀ name, IsName isName name → ¬ placeholder name <+: cs) :
    ∀ name, IsName isName name → ¬ placeholder name <+: cs ++ rest := by
  intro name hname hprefix
  -- the placeholder goes on where the first text ends
  have hlonger : cs <+: placeholder name :=
    (List.prefix_or_prefix_of_prefix hprefix (List.prefix_append cs rest)).resolve_left
      (hnone name hname)
  obtain ⟨more, hmore⟩ := hlonger
  have hmore_ne : more ≠ [] := by
    rintro rfl
    rw [List.append_nil] at hmore
    exact hnone name hname (hmore ▸ List.prefix_rfl)
  rcases hborder with hlast | hhead
  · obtain ⟨init, last, rfl⟩ := (List.eq_nil_or_concat more).resolve_left hmore_ne
    have hinside : cs ++ init = '{' :: name := by
      rw [List.concat_eq_append, ← List.append_assoc] at hmore
      exact (List.append_inj' hmore rfl).1
    have hmem : '}' ∈ '{' :: name :=
      hinside ▸ List.mem_append_left init (List.mem_of_getLast? hlast)
    rcases List.mem_cons.mp hmem with heq | hmem
    · exact absurd heq (by decide)
    · exact hname.not_mem hclose hmem
  · obtain ⟨behind, hbehind⟩ := hprefix
    rw [← hmore, List.append_assoc, List.append_cancel_left_eq] at hbehind
    obtain ⟨c, more, rfl⟩ := List.exists_cons_of_ne_nil hmore_ne
    obtain ⟨first, cs, rfl⟩ := List.exists_cons_of_ne_nil hne
    have hc : c = '{' := by
      rw [← hbehind] at hhead
      exact Option.some.inj hhead
    have hmem : '{' ∈ name ++ ['}'] := by
      have htail : cs ++ c :: more = name ++ ['}'] := (List.cons.inj hmore).2
      rw [← htail, hc]
      exact List.mem_append_right cs List.mem_cons_self
    rcases List.mem_append.mp hmem with hmem | hmem
    · exact hname.not_mem hopen hmem
    · exact absurd (List.mem_singleton.mp hmem) (by decide)

/-- Texts that meet at a brace are read apart. -/
theorem Reads.append (hopen : isName '{' = false) (hclose : isName '}' = false)
    {a b : List Char} {pieces pieces' : List Piece} (h : Reads isName a pieces)
    (h' : Reads isName b pieces')
    (hborder : (∀ c ∈ a.getLast?, c = '}') ∨ b.head? = some '{') :
    Reads isName (a ++ b) (pieces ++ pieces') := by
  induction h with
  | done => exact h'
  | @hole name rest pieces hname hrest ih =>
      rw [List.append_assoc]
      refine .hole hname (ih (hborder.imp_left fun hlast c hc => hlast c ?_))
      rw [List.getLast?_append, Option.mem_def.mp hc]
      rfl
  | @copied c rest pieces hnone hrest ih =>
      have hlast : (c :: rest).getLast? = some '}' ∨ b.head? = some '{' :=
        hborder.imp_left fun hlast => by
          rw [List.getLast?_cons] at hlast ⊢
          exact congrArg some (hlast _ rfl)
      refine .copied (not_placeholder_prefix_append hopen hclose (List.cons_ne_nil c rest) hlast hnone)
        (ih (hborder.imp_left fun hlast c' hc' => hlast c' ?_))
      rw [List.getLast?_cons, Option.mem_def.mp hc']
      rfl

/-- The placeholders of a reading are those that stand anywhere in the text. -/
theorem Reads.hole_mem_iff (hopen : isName '{' = false) (hclose : isName '}' = false)
    {cs : List Char} {pieces : List Piece} (h : Reads isName cs pieces) {name : List Char} :
    .hole name ∈ pieces ↔ IsName isName name ∧ placeholder name <:+: cs := by
  constructor
  · intro hmem
    induction h with
    | done => exact absurd hmem List.not_mem_nil
    | @hole name' rest pieces hname hrest ih =>
        rcases List.mem_cons.mp hmem with heq | hmem
        · cases heq
          exact ⟨hname, (List.prefix_append _ _).isInfix⟩
        · obtain ⟨hname, hinfix⟩ := ih hmem
          exact ⟨hname, hinfix.trans (List.suffix_append _ _).isInfix⟩
    | @copied c rest pieces hnone hrest ih =>
        rcases List.mem_cons.mp hmem with heq | hmem
        · cases heq
        · obtain ⟨hname, hinfix⟩ := ih hmem
          exact ⟨hname, hinfix.trans (List.suffix_cons _ _).isInfix⟩
  · rintro ⟨hname, before, behind, rfl⟩
    obtain ⟨earlier, hearlier⟩ := exists_reads isName before
    obtain ⟨later, hlater⟩ := exists_reads isName behind
    have hsplit := hearlier.append hopen hclose (.hole hname hlater) (.inr rfl)
    rw [← List.append_assoc] at hsplit
    rw [h.unique hclose hsplit]
    exact List.mem_append_right earlier List.mem_cons_self

/-! ## Filling -/

def Piece.fill (fill : List Char → Option String) : Piece → List Char
  | .copied c => [c]
  | .hole name =>
    match fill name with
    | some text => text.toList
    | none => placeholder name

variable {fill : List Char → Option String}

/-- Characters of names are kept until it is seen what comes behind them. -/
theorem fillFrom_names (pending : List Char) {name : List Char}
    (h : ∀ c ∈ name, isName c = true) (rest : List Char) :
    fillFrom isName fill (some pending) (name ++ rest)
      = fillFrom isName fill (some (name.reverse ++ pending)) rest := by
  induction name generalizing pending with
  | nil => rfl
  | cons c name ih =>
      rw [List.cons_append, fillFrom, if_pos (h c List.mem_cons_self),
        ih (c :: pending) fun d hd => h d (List.mem_cons_of_mem c hd), List.reverse_cons,
        List.append_assoc, List.singleton_append]

theorem fillFrom_placeholder (hclose : isName '}' = false) {name : List Char}
    (h : IsName isName name) (rest : List Char) :
    fillFrom isName fill none (placeholder name ++ rest)
      = (Piece.hole name).fill fill ++ fillFrom isName fill none rest := by
  have hne : name.reverse ≠ [] := fun hnil => h.1 (List.reverse_eq_nil_iff.mp hnil)
  rw [placeholder_append, fillFrom, if_pos rfl, fillFrom_names [] h.2, List.append_nil, fillFrom,
    if_neg (by rw [hclose]; exact Bool.false_ne_true), if_pos ⟨rfl, hne⟩, List.reverse_reverse]
  rfl

/-- An opening brace at which no placeholder starts is copied, and so are the characters of names
behind it. -/
theorem fillFrom_pending (hopen : isName '{' = false) {pending cs : List Char}
    (hpending : ∀ c ∈ pending, isName c = true)
    (hnone : ∀ name, IsName isName name → ¬ placeholder name <+: '{' :: (pending.reverse ++ cs)) :
    fillFrom isName fill (some pending) cs
      = '{' :: (pending.reverse ++ fillFrom isName fill none cs) := by
  induction cs generalizing pending with
  | nil => rw [fillFrom, fillFrom, List.append_nil]
  | cons c rest ih =>
      rw [fillFrom, fillFrom]
      by_cases hc : isName c = true
      · have hne : c ≠ '{' := by
          rintro rfl
          rw [hc] at hopen
          exact Bool.noConfusion hopen
        have hkept : ∀ d ∈ c :: pending, isName d = true := by
          intro d hd
          rcases List.mem_cons.mp hd with rfl | hd
          · exact hc
          · exact hpending d hd
        rw [if_pos hc, if_neg hne, ih hkept (by simpa using hnone)]
        simp
      · rw [if_neg hc]
        by_cases hend : c = '}' ∧ pending ≠ []
        · -- a placeholder would end here
          obtain ⟨rfl, hne⟩ := hend
          have hname : IsName isName pending.reverse :=
            ⟨fun hnil => hne (List.reverse_eq_nil_iff.mp hnil),
              fun d hd => hpending d (List.mem_reverse.mp hd)⟩
          exact absurd ⟨rest, placeholder_append _ _⟩ (hnone _ hname)
        · rw [if_neg hend]
          by_cases hbrace : c = '{'
          · rw [if_pos hbrace, if_pos hbrace]
            rfl
          · rw [if_neg hbrace, if_neg hbrace]
            rfl

theorem fillFrom_copied (hopen : isName '{' = false) {c : Char} {rest : List Char}
    (hnone : ∀ name, IsName isName name → ¬ placeholder name <+: c :: rest) :
    fillFrom isName fill none (c :: rest) = c :: fillFrom isName fill none rest := by
  rw [fillFrom]
  by_cases hc : c = '{'
  · subst hc
    rw [if_pos rfl, fillFrom_pending hopen (fun d hd => absurd hd List.not_mem_nil) hnone]
    rfl
  · rw [if_neg hc]

/-- Filling goes piece by piece. -/
theorem fillFrom_eq_flatMap (hopen : isName '{' = false) (hclose : isName '}' = false)
    {cs : List Char} {pieces : List Piece} (h : Reads isName cs pieces) :
    fillFrom isName fill none cs = pieces.flatMap (Piece.fill fill) := by
  induction h with
  | done => rfl
  | hole hname _ ih => rw [fillFrom_placeholder hclose hname, ih, List.flatMap_cons]
  | copied hnone _ ih => rw [fillFrom_copied hopen hnone, ih, List.flatMap_cons]; rfl

theorem flatMap_fill_congr {fill' : List Char → Option String} {pieces : List Piece}
    (h : ∀ name, .hole name ∈ pieces → fill name = fill' name) :
    pieces.flatMap (Piece.fill fill) = pieces.flatMap (Piece.fill fill') := by
  refine List.flatMap_congr fun piece hpiece => ?_
  cases piece with
  | copied c => rw [Piece.fill, Piece.fill]
  | hole name => rw [Piece.fill, Piece.fill, h name hpiece]

/-- Copying a placeholder that could be filled is seen, unless what would fill it starts with a
brace too. -/
theorem flatMap_fill_eq_iff {fill' : List Char → Option String} {pieces : List Piece}
    (h : ∀ name, .hole name ∈ pieces → fill name = fill' name ∨ fill name = none ∧
      ∃ text, fill' name = some text ∧ text.toList ≠ [] ∧ text.toList.head? ≠ some '{') :
    pieces.flatMap (Piece.fill fill) = pieces.flatMap (Piece.fill fill') ↔
      ∀ name, .hole name ∈ pieces → fill name = fill' name := by
  induction pieces with
  | nil => exact ⟨fun _ name hname => absurd hname List.not_mem_nil, fun _ => rfl⟩
  | cons piece pieces ih =>
      specialize ih fun name hname => h name (List.mem_cons_of_mem piece hname)
      rw [List.flatMap_cons, List.flatMap_cons]
      cases piece with
      | copied c =>
          simp only [Piece.fill, List.append_cancel_left_eq, ih, List.mem_cons, reduceCtorEq,
            false_or]
      | hole name =>
          rcases h name List.mem_cons_self with heq | ⟨hnone, text, htext, hne, hhead⟩
          · simp only [Piece.fill, heq, List.append_cancel_left_eq, ih, List.mem_cons,
              Piece.hole.injEq, forall_eq_or_imp, true_and]
          · -- the copy starts with the brace, and the text does not
            obtain ⟨c, rest, hcons⟩ := List.exists_cons_of_ne_nil hne
            constructor
            · intro heq
              simp only [Piece.fill, hnone, htext, hcons, placeholder_append, List.cons_append,
                List.cons.injEq] at heq
              exact absurd (by rw [hcons, ← heq.1]; rfl) hhead
            · intro heq
              rw [heq name List.mem_cons_self, htext] at hnone
              cases hnone

end Placeholders

/-! ## Parameters -/

/-- The characters of names: of words if the parameters have names, and digits if they have places. -/
def isNameFor : Value → Char → Bool
  | .object _ => Text.isWord
  | _ => Text.isDecimalDigit

/-- The place that a name spells: zeros in front count for nothing, and digits of other scripts than
ASCII spell none. -/
def place? (name : List Char) : Option Nat :=
  if ∀ c ∈ name, c ∈ Decimal.digits then some (Nat.ofDigitChars 10 name 0) else none

/-- The parameter of a name: the member of that name, the element at that place, or the value itself
at the place zero. -/
def parameter? (name : List Char) : Value → Option Value
  | .object members => Json.Fields.get? (String.ofList name) members
  | .array items => (place? name).bind fun place => items[place]?
  | single => if place? name = some 0 then some single else none

/-- What a piece is filled with: a placeholder with the text of its parameter, unless there is none
or it is null, and then it is copied as any other character is. -/
def Piece.filled (params : Value) : Piece → List Char
  | .copied c => [c]
  | .hole name =>
    match parameter? name params with
    | none | some .null => placeholder name
    | some v => (Coercion.text v).toList

theorem isNameFor_brace (params : Value) {c : Char} (h : c = '{' ∨ c = '}') :
    isNameFor params c = false := by
  cases params with
  | object members => exact Text.isWord_brace h
  | _ => exact Text.isDecimalDigit_brace h

theorem positional?_eq_bind (items : List Value) (name : List Char) :
    positional? items name = ((place? name).bind fun place => items[place]?).bind parameterText? := by
  unfold positional? place?
  have hdigits : name.all Decimal.isDigit = true ↔ ∀ c ∈ name, c ∈ Decimal.digits := by
    simp only [List.all_eq_true, Decimal.isDigit_iff]
  by_cases h : ∀ c ∈ name, c ∈ Decimal.digits
  · rw [if_pos (hdigits.mpr h), if_pos h, Decimal.natOfDigits_eq_ofDigitChars, Option.bind_some]
  · rw [if_neg (mt hdigits.mp h), if_neg h]
    rfl

theorem toList_render (template : String) (params : Value) :
    (render template params).toList = fillFrom (isNameFor params)
      (fun name => (parameter? name params).bind parameterText?) none template.toList := by
  have hlist : ∀ items : List Value, positional? items
      = fun name => ((place? name).bind fun place => items[place]?).bind parameterText? :=
    fun items => funext (positional?_eq_bind items)
  have hsingle : ∀ single : Value, positional? [single]
      = fun name => (if place? name = some 0 then some single else none).bind parameterText? := by
    intro single
    rw [hlist]
    funext name
    cases place? name with
    | none => rfl
    | some place => cases place <;> rfl
  cases params with
  | object members => exact String.toList_ofList
  | array items =>
      exact String.toList_ofList.trans (congrArg (fillFrom _ · none _) (hlist items))
  | _ => exact String.toList_ofList.trans (congrArg (fillFrom _ · none _) (hsingle _))

theorem filled_eq_fill (params : Value) :
    Piece.filled params = Piece.fill fun name => (parameter? name params).bind parameterText? := by
  funext piece
  cases piece with
  | copied c => rfl
  | hole name =>
      simp only [Piece.filled, Piece.fill]
      cases parameter? name params with
      | none => rfl
      | some v => cases v <;> rfl

theorem toList_render_of_reads {template : String} {params : Value} {pieces : List Piece}
    (h : Reads (isNameFor params) template.toList pieces) :
    (render template params).toList = pieces.flatMap (Piece.filled params) := by
  rw [toList_render, filled_eq_fill]
  exact fillFrom_eq_flatMap (isNameFor_brace params (.inl rfl)) (isNameFor_brace params (.inr rfl)) h

/-! ## Rendering -/

/-- Templates that meet at a brace are rendered apart. -/
theorem render_append {a b : String} (params : Value)
    (hborder : b.toList.head? = some '{' ∨ a.toList.getLast? = some '}') :
    render (a ++ b) params = render a params ++ render b params := by
  obtain ⟨pieces, hpieces⟩ := exists_reads (isNameFor params) a.toList
  obtain ⟨pieces', hpieces'⟩ := exists_reads (isNameFor params) b.toList
  have hborder' : (∀ c ∈ a.toList.getLast?, c = '}') ∨ b.toList.head? = some '{' := by
    refine hborder.symm.imp_left fun hlast c hc => ?_
    rw [hlast] at hc
    exact (Option.some.inj hc).symm
  have happend : Reads (isNameFor params) (a ++ b).toList (pieces ++ pieces') := by
    rw [String.toList_append]
    exact hpieces.append (isNameFor_brace params (.inl rfl)) (isNameFor_brace params (.inr rfl))
      hpieces' hborder'
  rw [← String.toList_inj, String.toList_append, toList_render_of_reads happend,
    toList_render_of_reads hpieces, toList_render_of_reads hpieces', List.flatMap_append]

/-- A template whose placeholders have no parameters, or null ones, is rendered as it is. -/
theorem render_eq_self {template : String} {params : Value}
    (hnone : ∀ name, IsName (isNameFor params) name → placeholder name <:+: template.toList →
      ∀ v, parameter? name params = some v → v = .null) : render template params = template := by
  obtain ⟨pieces, hpieces⟩ := exists_reads (isNameFor params) template.toList
  have hcopied : ∀ piece ∈ pieces, piece.filled params = piece.source := by
    intro piece hpiece
    cases piece with
    | copied c => rfl
    | hole name =>
        obtain ⟨hname, hinfix⟩ := (hpieces.hole_mem_iff (isNameFor_brace params (.inl rfl))
          (isNameFor_brace params (.inr rfl))).mp hpiece
        rw [Piece.filled, Piece.source]
        cases hparam : parameter? name params with
        | none => rfl
        | some v => rw [hnone name hname hinfix v hparam]
  rw [← String.toList_inj, toList_render_of_reads hpieces, List.flatMap_congr hcopied,
    hpieces.flatMap_source]

/-- A template is rendered in one pass.  It has one reading from left to right, in which every
placeholder that stands in it is a piece, and its pieces are filled with their parameters or copied.
So templates that meet at a brace are rendered apart, and a template whose placeholders have no
parameters is rendered as it is. -/
theorem render_one_pass (params : Value) :
    (∀ template : String, ∃ pieces,
      (∀ reading, Reads (isNameFor params) template.toList reading ↔ reading = pieces) ∧
      (∀ name, .hole name ∈ pieces ↔
        IsName (isNameFor params) name ∧ placeholder name <:+: template.toList) ∧
      (render template params).toList = pieces.flatMap (Piece.filled params)) ∧
    (∀ a b : String, b.toList.head? = some '{' ∨ a.toList.getLast? = some '}' →
      render (a ++ b) params = render a params ++ render b params) ∧
    (∀ template : String, (∀ name, IsName (isNameFor params) name →
        placeholder name <:+: template.toList → ∀ v, parameter? name params = some v → v = .null) →
      render template params = template) := by
  have hopen := isNameFor_brace params (.inl rfl)
  have hclose := isNameFor_brace params (.inr rfl)
  refine ⟨fun template => ?_, fun _ _ => render_append params, fun _ => render_eq_self⟩
  obtain ⟨pieces, hpieces⟩ := exists_reads (isNameFor params) template.toList
  exact ⟨pieces, fun reading => ⟨fun h => h.unique hclose hpieces, fun h => h ▸ hpieces⟩,
    fun name => hpieces.hole_mem_iff hopen hclose, toList_render_of_reads hpieces⟩

/-- A parameter that looks like a placeholder itself, and placeholders whose parameters are null or
are not there. -/
theorem render_one_pass_of_braces :
    let params : Value := .array [.string "{1}", .string "x"]
    let nulls : Value := .array [.null, .null]
    (r"{{00}".toList.getLast? = some '}' ∧
      render (r"{{00}" ++ r"1}{1") params
        = render r"{{00}" params ++ render r"1}{1" params) ∧
    ((∀ name, IsName (isNameFor nulls) name → placeholder name <:+: "{1} {2}".toList →
        ∀ v, parameter? name nulls = some v → v = .null) ∧
      render "{1} {2}" nulls = "{1} {2}") := by
  intro params nulls
  have hlast : r"{{00}".toList.getLast? = some '}' := by decide
  have hnull : ∀ name v, parameter? name nulls = some v → v = .null := by
    intro name v hv
    have hbind : ((place? name).bind fun place => [Value.null, .null][place]?) = some v := hv
    obtain ⟨place, -, hget⟩ := Option.bind_eq_some_iff.mp hbind
    have hmem : v ∈ [Value.null, .null] := List.mem_of_getElem? hget
    simpa using hmem
  obtain ⟨-, happend, -⟩ := render_one_pass params
  obtain ⟨-, -, hself⟩ := render_one_pass nulls
  exact ⟨⟨hlast, happend _ _ (.inr hlast)⟩, fun name _ _ => hnull name,
    hself _ fun name _ _ => hnull name⟩

end FieldRules.Template

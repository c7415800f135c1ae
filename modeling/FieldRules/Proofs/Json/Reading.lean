/-
# `Proofs.Json.Reading` — what is written is read

The compact text of a value is JSON, and its tree is that of the value: `Denotes` says so part by
part, with the members of an object in their order.  The tree is before any judgement of its numbers,
so this holds of every value, however deep and whatever its numbers (`parse?_compact`).

Reading is one state passing over the text: `resume r cs` is the state after `cs`, from the state
`r`.  A lexeme takes one step (`resume_lexeme`), and a value takes a state that expects one to the
state in which the value is finished (`resume_compact`, by induction on the value).
-/
import FieldRules.Json.Node
import FieldRules.Proofs.Json.Numbers

namespace FieldRules.Json

/-! ## Strings -/

open Token (stringBody joinSurrogates unit? next? tokens? isSpace)

theorem unit?_control : ∀ n < 32,
    unit? '0' '0' (hexDigit (n / 16)) (hexDigit (n % 16)) = some n := by decide

theorem stringBody_short {letter c : Char} (h : Token.shortEscape? letter = some c)
    (rest : List Char) :
    stringBody ('\\' :: letter :: rest) = (stringBody rest).map fun p => (c.toNat :: p.1, p.2) := by
  rw [stringBody]
  · rw [h]
    cases stringBody rest <;> rfl
  · rintro _ _ _ _ _ rfl
    cases h

/-- A character is read from what stands for it. -/
theorem stringBody_escape_append (c : Char) (rest : List Char) :
    stringBody (escape c ++ rest) = (stringBody rest).map fun p => (c.toNat :: p.1, p.2) := by
  unfold escape
  split_ifs with hquote hslash hn hr ht hb hf hcontrol
  · subst hquote
    exact stringBody_short rfl rest
  · subst hslash
    exact stringBody_short rfl rest
  · subst hn
    exact stringBody_short rfl rest
  · subst hr
    exact stringBody_short rfl rest
  · subst ht
    exact stringBody_short rfl rest
  · obtain rfl : c = '\x08' := Char.toNat_inj.mp hb
    exact stringBody_short rfl rest
  · obtain rfl : c = '\x0c' := Char.toNat_inj.mp hf
    exact stringBody_short rfl rest
  · show stringBody ('\\' :: 'u' :: '0' :: '0' :: _ :: _ :: rest) = _
    rw [stringBody, unit?_control _ hcontrol]
    cases stringBody rest <;> rfl
  · show stringBody (c :: rest) = _
    rw [stringBody]
    · rw [if_neg (by simp [hcontrol, hslash])]
      cases stringBody rest <;> rfl
    · exact fun h => hquote h
    · rintro _ _ _ _ _ h
      exact absurd h hslash
    · rintro _ _ h
      exact absurd h hslash

theorem stringBody_flatMap_escape (cs rest : List Char) :
    stringBody (cs.flatMap escape ++ '"' :: rest) = some (cs.map Char.toNat, rest) := by
  induction cs with
  | nil => rfl
  | cons c cs ih =>
      rw [List.flatMap_cons, List.append_assoc, stringBody_escape_append, ih]
      rfl

theorem joinSurrogates_map_toNat (cs : List Char) : joinSurrogates (cs.map Char.toNat) = some cs := by
  induction cs with
  | nil => rfl
  | cons c cs ih =>
      have hvalid : c.toNat < 0xD800 ∨ 0xDFFF < c.toNat := c.valid.imp id And.left
      have hhigh : Token.isHighSurrogate c.toNat = false := by
        simp only [Token.isHighSurrogate, Bool.and_eq_false_iff, decide_eq_false_iff_not]
        omega
      have hlow : Token.isLowSurrogate c.toNat = false := by
        simp only [Token.isLowSurrogate, Bool.and_eq_false_iff, decide_eq_false_iff_not]
        omega
      rw [List.map_cons]
      unfold joinSurrogates
      rw [hhigh, hlow, if_neg Bool.false_ne_true, if_neg Bool.false_ne_true, ih, Option.map_some,
        Char.ofNat_toNat]

/-! ## Lexemes -/

/-- A text is a lexeme in front of what follows it. -/
structure Lexeme (cs : List Char) (token : Token) (rest : List Char) : Prop where
  next : next? (cs ++ rest) = some (token, rest)
  head : ∃ c tail, cs = c :: tail ∧ isSpace c = false

theorem tokens?_append {cs : List Char} {token : Token} {rest : List Char}
    (h : Lexeme cs token rest) : tokens? (cs ++ rest) = (tokens? rest).map (token :: ·) := by
  obtain ⟨c, tail, rfl, hspace⟩ := h.head
  have hlength : rest.length < (c :: (tail ++ rest)).length := by
    rw [List.length_cons, List.length_append]
    omega
  rw [List.cons_append, tokens?, if_neg (by rw [hspace]; exact Bool.false_ne_true),
    show next? (c :: (tail ++ rest)) = _ from h.next]
  exact if_pos hlength

theorem lexeme_quote (s : String) (rest : List Char) :
    Lexeme (quote s).toList (.string (some s)) rest := by
  have hquote : (quote s).toList = '"' :: (s.toList.flatMap escape ++ ['"']) := String.toList_ofList
  refine ⟨?_, _, _, hquote, rfl⟩
  have hbody := stringBody_flatMap_escape s.toList rest
  rw [hquote, List.cons_append, List.append_assoc]
  show (stringBody (s.toList.flatMap escape ++ '"' :: rest)).bind _ = _
  rw [hbody]
  show some (Token.string ((joinSurrogates (s.toList.map Char.toNat)).map String.ofList), rest) = _
  rw [joinSurrogates_map_toNat, Option.map_some, String.ofList_toList]

theorem next?_digit {c : Char} (hc : c ∈ Decimal.digits) (cs : List Char) :
    next? (c :: cs) = (Token.number? false (c :: cs)).map fun (l, rest) => (.number l, rest) := by
  have hhead : ∀ d rest, Decimal.isDigit d = false → c :: cs ≠ d :: rest := fun d rest hd heq =>
    Decimal.ne_of_mem_digits hc hd (List.cons.inj heq).1
  rw [next?] <;> exact fun _ => hhead _ _ rfl

theorem lexeme_number {l : NumberLiteral} (hl : l.WellFormed) {rest : List Char}
    (h : Delimited rest) :
    Lexeme ((if l.negative then ['-'] else []) ++ l.body) (.number l) rest := by
  have hnumber := NumberLiteral.number?_body_append hl h
  obtain ⟨c, tail, hwhole⟩ := List.exists_cons_of_ne_nil hl.whole.1
  have hc : c ∈ Decimal.digits := hl.whole.2 c (hwhole ▸ List.mem_cons_self)
  obtain ⟨more, hbody⟩ : ∃ more, l.body = c :: more := ⟨_, by rw [NumberLiteral.body, hwhole]; rfl⟩
  cases hnegative : l.negative with
  | true =>
      rw [hnegative] at hnumber
      refine ⟨?_, '-', l.body, rfl, rfl⟩
      show (Token.number? true (l.body ++ rest)).map _ = _
      rw [hnumber]
      rfl
  | false =>
      rw [hnegative, hbody] at hnumber
      refine ⟨?_, c, more, hbody, ?_⟩
      · show next? (l.body ++ rest) = _
        rw [hbody, List.cons_append, next?_digit hc, ← List.cons_append, hnumber]
        rfl
      · have hall : Decimal.digits.all (fun c => !isSpace c) = true := rfl
        exact (Bool.not_eq_true' _).mp (List.all_eq_true.mp hall c hc)

/-! ## Trees -/

namespace Node

mutual

/-- A tree is that of a value. -/
inductive Denotes : Node → Value → Prop where
  | null : Denotes .null .null
  | bool (b : Bool) : Denotes (.bool b) (.bool b)
  | number {l : NumberLiteral} {n : Number} (h : l.Denotes n) : Denotes (.number l) (.number n)
  | string (s : String) : Denotes (.string (some s)) (.string s)
  | array {nodes : List Node} {items : List Value} (h : DenoteItems nodes items) :
      Denotes (.array nodes) (.array items)
  | object {nodes : List (Option String × Node)} {members : List (String × Value)}
      (h : DenoteMembers nodes members) : Denotes (.object nodes) (.object members)

inductive DenoteItems : List Node → List Value → Prop where
  | nil : DenoteItems [] []
  | cons {node : Node} {v : Value} {nodes : List Node} {items : List Value} (h : Denotes node v)
      (hrest : DenoteItems nodes items) : DenoteItems (node :: nodes) (v :: items)

inductive DenoteMembers : List (Option String × Node) → List (String × Value) → Prop where
  | nil : DenoteMembers [] []
  | cons (k : String) {node : Node} {v : Value} {nodes : List (Option String × Node)}
      {members : List (String × Value)} (h : Denotes node v) (hrest : DenoteMembers nodes members) :
      DenoteMembers ((some k, node) :: nodes) ((k, v) :: members)

end

namespace Reading

/-- The state behind a text, from a state before it. -/
def resume (r : Reading) (cs : List Char) : Option Reading :=
  (tokens? cs).bind fun tokens => tokens.foldlM step r

theorem resume_lexeme {r r' : Reading} {cs : List Char} {token : Token} {rest : List Char}
    (h : Lexeme cs token rest) (hstep : r.step token = some r') :
    r.resume (cs ++ rest) = r'.resume rest := by
  unfold resume
  rw [tokens?_append h]
  cases tokens? rest with
  | none => rfl
  | some tokens =>
      show (token :: tokens).foldlM step r = tokens.foldlM step r'
      rw [List.foldlM_cons, hstep]
      rfl

/-- A state that expects a value. -/
inductive Opens : Expect → Prop where
  | value : Opens .value
  | valueOrClose : Opens .valueOrClose

/-- Texts behind the first one, with the commas before them. -/
def behind (texts : List String) : List Char := texts.flatMap fun t => ',' :: t.toList

theorem toList_intercalate_cons (t : String) (texts : List String) :
    (",".intercalate (t :: texts)).toList = t.toList ++ behind texts := by
  induction texts generalizing t with
  | nil => rw [String.intercalate_singleton, behind, List.flatMap_nil, List.append_nil]
  | cons u texts ih =>
      rw [String.intercalate_cons_cons, String.toList_append, String.toList_append, ih u,
        List.append_assoc]
      rfl

theorem delimited_behind (texts : List String) {c : Char} (hc : c ∈ [',', ']', '}'])
    (rest : List Char) : Delimited (behind texts ++ c :: rest) := by
  intro d hd
  cases texts with
  | nil =>
      cases hd
      exact hc
  | cons t texts =>
      cases hd
      exact List.mem_cons_self

theorem step_of_start {e : Expect} (he : Opens e) {frames : List Frame} {token : Token}
    {r : Reading} (h : start frames token = some r) : step ⟨e, frames, .null⟩ token = some r := by
  cases he with
  | value => exact h
  | valueOrClose => cases token <;> first | exact h | cases h

theorem resume_punctuation {r r' : Reading} {c : Char} {token : Token} {rest : List Char}
    (h : next? (c :: rest) = some (token, rest)) (hspace : isSpace c = false)
    (hstep : r.step token = some r') : r.resume (c :: rest) = r'.resume rest := by
  have hlexeme : Lexeme [c] token rest := ⟨h, c, [], rfl, hspace⟩
  exact resume_lexeme hlexeme hstep

mutual

/-- A value is read from its text, wherever one is expected. -/
theorem resume_compact : ∀ v : Value, ∃ node, Denotes node v ∧
    ∀ {e : Expect}, Opens e → ∀ (frames : List Frame) {rest : List Char}, Delimited rest →
      resume ⟨e, frames, .null⟩ (v.compact.toList ++ rest) = (finish node frames).resume rest
  | .null => by
      refine ⟨.null, .null, fun he frames rest _ => ?_⟩
      rw [Value.compact]
      exact resume_lexeme ⟨rfl, _, _, rfl, rfl⟩ (step_of_start he rfl)
  | .bool true => by
      refine ⟨.bool true, .bool true, fun he frames rest _ => ?_⟩
      rw [Value.compact]
      exact resume_lexeme ⟨rfl, _, _, rfl, rfl⟩ (step_of_start he rfl)
  | .bool false => by
      refine ⟨.bool false, .bool false, fun he frames rest _ => ?_⟩
      rw [Value.compact]
      exact resume_lexeme ⟨rfl, _, _, rfl, rfl⟩ (step_of_start he rfl)
  | .number n => by
      obtain ⟨l, hformed, hdenotes, htext⟩ := exists_body n
      refine ⟨.number l, .number hdenotes, fun he frames rest hrest => ?_⟩
      rw [Value.compact, htext]
      exact resume_lexeme (lexeme_number hformed hrest) (step_of_start he rfl)
  | .string s => by
      refine ⟨.string (some s), .string s, fun he frames rest _ => ?_⟩
      rw [Value.compact]
      exact resume_lexeme (lexeme_quote s rest) (step_of_start he rfl)
  | .array [] => by
      refine ⟨.array [], .array .nil, fun he frames rest _ => ?_⟩
      rw [Value.compact, Value.compactItems]
      show resume _ ('[' :: ']' :: rest) = _
      rw [resume_punctuation rfl rfl (step_of_start he rfl)]
      exact resume_punctuation rfl rfl rfl
  | .array (v :: items) => by
      obtain ⟨node, hnode, hv⟩ := resume_compact v
      obtain ⟨nodes, hnodes, hitems⟩ := resume_items items
      refine ⟨.array (node :: nodes), .array (.cons hnode hnodes), fun he frames rest _ => ?_⟩
      have htext : (Value.array (v :: items)).compact.toList ++ rest
          = '[' :: (v.compact.toList ++ (behind (Value.compactItems items) ++ ']' :: rest)) := by
        rw [Value.compact, Value.compactItems, String.toList_append, String.toList_append,
          toList_intercalate_cons]
        simp
      rw [htext, resume_punctuation rfl rfl (step_of_start he rfl),
        hv .valueOrClose _ (delimited_behind _ (by decide) rest)]
      exact hitems [node] frames rest
  | .object [] => by
      refine ⟨.object [], .object .nil, fun he frames rest _ => ?_⟩
      rw [Value.compact, Value.compactMembers]
      show resume _ ('{' :: '}' :: rest) = _
      rw [resume_punctuation rfl rfl (step_of_start he rfl)]
      exact resume_punctuation rfl rfl rfl
  | .object ((k, v) :: members) => by
      obtain ⟨node, hnode, hv⟩ := resume_compact v
      obtain ⟨nodes, hnodes, hmembers⟩ := resume_members members
      refine ⟨.object ((some k, node) :: nodes), .object (.cons k hnode hnodes),
        fun he frames rest _ => ?_⟩
      have htext : (Value.object ((k, v) :: members)).compact.toList ++ rest
          = '{' :: ((quote k).toList ++ ':' :: (v.compact.toList
            ++ (behind (Value.compactMembers members) ++ '}' :: rest))) := by
        rw [Value.compact, Value.compactMembers, String.toList_append, String.toList_append,
          toList_intercalate_cons]
        simp
      rw [htext, resume_punctuation rfl rfl (step_of_start he rfl),
        resume_lexeme (lexeme_quote k _) rfl, resume_punctuation rfl rfl rfl,
        hv .value _ (delimited_behind _ (by decide) rest)]
      exact hmembers [(some k, node)] none frames rest

theorem resume_items : ∀ items : List Value, ∃ nodes, DenoteItems nodes items ∧
    ∀ (done : List Node) (frames : List Frame) (rest : List Char),
      resume ⟨.separator, .list done :: frames, .null⟩
        (behind (Value.compactItems items) ++ ']' :: rest)
        = (finish (.array (done.reverse ++ nodes)) frames).resume rest
  | [] => by
      refine ⟨[], .nil, fun done frames rest => ?_⟩
      rw [Value.compactItems, List.append_nil]
      exact resume_punctuation rfl rfl rfl
  | v :: items => by
      obtain ⟨node, hnode, hv⟩ := resume_compact v
      obtain ⟨nodes, hnodes, hitems⟩ := resume_items items
      refine ⟨node :: nodes, .cons hnode hnodes, fun done frames rest => ?_⟩
      have htext : behind (Value.compactItems (v :: items)) ++ ']' :: rest
          = ',' :: (v.compact.toList ++ (behind (Value.compactItems items) ++ ']' :: rest)) := by
        rw [Value.compactItems, behind, List.flatMap_cons]
        simp [behind]
      rw [htext, resume_punctuation rfl rfl rfl, hv .value _ (delimited_behind _ (by decide) rest)]
      have hrest := hitems (node :: done) frames rest
      rw [List.reverse_cons, List.append_assoc] at hrest
      exact hrest

theorem resume_members : ∀ members : List (String × Value), ∃ nodes, DenoteMembers nodes members ∧
    ∀ (done : List (Option String × Node)) (key : Option String) (frames : List Frame)
      (rest : List Char),
      resume ⟨.separator, .members done key :: frames, .null⟩
        (behind (Value.compactMembers members) ++ '}' :: rest)
        = (finish (.object (done.reverse ++ nodes)) frames).resume rest
  | [] => by
      refine ⟨[], .nil, fun done key frames rest => ?_⟩
      rw [Value.compactMembers, List.append_nil]
      exact resume_punctuation rfl rfl rfl
  | (k, v) :: members => by
      obtain ⟨node, hnode, hv⟩ := resume_compact v
      obtain ⟨nodes, hnodes, hmembers⟩ := resume_members members
      refine ⟨(some k, node) :: nodes, .cons k hnode hnodes, fun done key frames rest => ?_⟩
      have htext : behind (Value.compactMembers ((k, v) :: members)) ++ '}' :: rest
          = ',' :: ((quote k).toList ++ ':' :: (v.compact.toList
            ++ (behind (Value.compactMembers members) ++ '}' :: rest))) := by
        rw [Value.compactMembers, behind, List.flatMap_cons]
        simp [behind]
      rw [htext, resume_punctuation rfl rfl rfl, resume_lexeme (lexeme_quote k _) rfl,
        resume_punctuation rfl rfl rfl, hv .value _ (delimited_behind _ (by decide) rest)]
      have hrest := hmembers ((some k, node) :: done) none frames rest
      rw [List.reverse_cons, List.append_assoc] at hrest
      exact hrest

end

end Reading

/-- The compact text of a value is JSON, and its tree is that of the value. -/
theorem parse?_compact (v : Value) : ∃ node, parse? v.compact = some node ∧ node.Denotes v := by
  obtain ⟨node, hnode, hv⟩ := Reading.resume_compact v
  refine ⟨node, ?_, hnode⟩
  have hnothing : Delimited [] := fun _ h => by cases h
  have hread := hv .value [] hnothing
  rw [List.append_nil] at hread
  have hend : (Reading.finish node []).resume [] = some ⟨.nothing, [], node⟩ := by
    rw [Reading.resume, tokens?]
    rfl
  rw [hend, Reading.resume] at hread
  unfold parse?
  cases htokens : tokens? v.compact.toList with
  | none =>
      rw [htokens] at hread
      cases hread
  | some tokens =>
      rw [htokens, Option.bind_some] at hread
      show (tokens.foldlM Reading.step ⟨.value, [], .null⟩).bind _ = _
      rw [hread]
      rfl

end Node

/-! ## Lines -/

/-- No control character stands in a text. -/
def Printable (cs : List Char) : Prop := cs.all (fun c => 32 ≤ c.toNat) = true

theorem printable_iff {cs : List Char} : Printable cs ↔ ∀ c ∈ cs, 32 ≤ c.toNat := by
  rw [Printable, List.all_eq_true]
  exact forall₂_congr fun c _ => decide_eq_true_iff

theorem Printable.append {cs ds : List Char} (hcs : Printable cs) (hds : Printable ds) :
    Printable (cs ++ ds) := by
  rw [printable_iff] at *
  exact fun c hc => (List.mem_append.mp hc).elim (hcs c) (hds c)

theorem printable_digits {ds : List Char} (h : ∀ c ∈ ds, c ∈ Decimal.digits) : Printable ds := by
  have hall : Printable Decimal.digits := rfl
  exact printable_iff.mpr fun c hc => printable_iff.mp hall c (h c hc)

theorem printable_flatMap {α : Type} {f : α → List Char} {xs : List α}
    (h : ∀ x ∈ xs, Printable (f x)) : Printable (xs.flatMap f) := by
  refine printable_iff.mpr fun c hc => ?_
  obtain ⟨x, hx, hc⟩ := List.mem_flatMap.mp hc
  exact printable_iff.mp (h x hx) c hc

theorem printable_escape (c : Char) : Printable (escape c) := by
  have hhex : ∀ n < 32, Printable ['\\', 'u', '0', '0', hexDigit (n / 16), hexDigit (n % 16)] := by
    unfold Printable
    decide
  unfold escape
  split_ifs with hquote hslash hn hr ht hb hf hcontrol
  iterate 7 · rfl
  · exact hhex c.toNat hcontrol
  · refine printable_iff.mpr fun d hd => ?_
    rw [List.mem_singleton.mp hd]
    omega

theorem printable_quote (s : String) : Printable (quote s).toList := by
  have hmark : Printable ['"'] := rfl
  rw [quote, String.toList_ofList]
  exact hmark.append ((printable_flatMap fun c _ => printable_escape c).append hmark)

theorem printable_number (n : Number) : Printable n.write.toList := by
  obtain ⟨l, hformed, -, htext⟩ := exists_body n
  have hsign : Printable (if l.negative then ['-'] else []) := by split <;> rfl
  have hfraction : Printable (NumberLiteral.fractionBody l.fraction) := by
    cases h : l.fraction with
    | none => rfl
    | some ds =>
        have hpoint : Printable ['.'] := rfl
        exact hpoint.append (printable_digits (hformed.fraction ds h).2)
  have hexponent : Printable (NumberLiteral.exponentBody l.exponent) := by
    cases h : l.exponent with
    | none => rfl
    | some e =>
        have hmark : Printable ['e', if e.1 then '-' else '+'] := by split <;> rfl
        exact hmark.append (printable_digits (hformed.exponent e h).2)
  rw [htext]
  exact hsign.append ((printable_digits hformed.whole.2).append (hfraction.append hexponent))

theorem printable_intercalate {texts : List String} (h : ∀ t ∈ texts, Printable t.toList) :
    Printable (",".intercalate texts).toList := by
  cases texts with
  | nil =>
      rw [String.intercalate_nil]
      rfl
  | cons t texts =>
      have hcomma : Printable [','] := rfl
      obtain ⟨ht, htexts⟩ := List.forall_mem_cons.mp h
      rw [Node.Reading.toList_intercalate_cons]
      exact ht.append (printable_flatMap fun u hu => hcomma.append (htexts u hu))

theorem printable_bracket {opening closing : String} {texts : List String}
    (ho : Printable opening.toList) (hc : Printable closing.toList)
    (h : ∀ t ∈ texts, Printable t.toList) :
    Printable (opening ++ ",".intercalate texts ++ closing).toList := by
  rw [String.toList_append, String.toList_append]
  exact (ho.append (printable_intercalate h)).append hc

namespace Value

mutual

/-- A compact text holds no control character, and so no line break. -/
theorem printable_compact : ∀ v : Value, Printable v.compact.toList
  | .null => by
      rw [compact]
      rfl
  | .bool true => by
      rw [compact]
      rfl
  | .bool false => by
      rw [compact]
      rfl
  | .number n => by
      rw [compact]
      exact printable_number n
  | .string s => by
      rw [compact]
      exact printable_quote s
  | .array items => by
      rw [compact]
      exact printable_bracket rfl rfl (printable_items items)
  | .object members => by
      rw [compact]
      exact printable_bracket rfl rfl (printable_members members)

theorem printable_items : ∀ items : List Value, ∀ t ∈ compactItems items, Printable t.toList
  | [] => by
      rw [compactItems]
      exact nofun
  | v :: items => by
      rw [compactItems]
      exact List.forall_mem_cons.mpr ⟨printable_compact v, printable_items items⟩

theorem printable_members : ∀ members : List (String × Value),
    ∀ t ∈ compactMembers members, Printable t.toList
  | [] => by
      rw [compactMembers]
      exact nofun
  | (k, v) :: members => by
      have hcolon : Printable ":".toList := rfl
      rw [compactMembers]
      refine List.forall_mem_cons.mpr ⟨?_, printable_members members⟩
      rw [String.toList_append, String.toList_append]
      exact ((printable_quote k).append hcolon).append (printable_compact v)

end

end Value

end FieldRules.Json

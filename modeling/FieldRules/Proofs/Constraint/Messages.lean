/-
# `Proofs.Constraint.Messages` — what the built-in messages say of a constraint

A message comes from three places that know nothing of each other: the kind of a constraint gives
the key of its template, the constraint hands out parameters, and the template names places.  Here
they are held against each other, for every constraint of every type.

`Constraint.parameters` are the parameters as they are declared, each at its place.  Every constraint
has a template, which names places of parameters that are there (`exists_template`), and what is
handed out is laid out by places (`laid_params`): a list of values as one parameter, not as many.  So
a message is the template with every placeholder filled — but for one kind of parameter.  A bound that
is not finite is handed out as null, and null fills nothing: its placeholder stays in what the user
reads (`failed_check_eq`), although such a bound has a text like any other.
-/
import FieldRules.Messages.BuiltIn
import FieldRules.Proofs.Schema.Reports
import FieldRules.Proofs.Template.Pieces

namespace FieldRules

open Json (Value)
open Messages (Table)
open Template (IsName Piece Reads isNameFor parameter? parameterText? place? placeholder
  placeholderNames unbraced)

/-! ## Parameters -/

inductive Parameter where
  | count (n : Nat)
  | number (x : Float)
  | text (s : String)
  | list (items : List Value)

namespace Parameter

/-- The text of a parameter, the one that an input of its value is converted to. -/
def written : Parameter → String
  | .count n => toString n
  | .number x => Coercion.textOfFloat x
  | .text s => s
  | .list items => Coercion.text (.array items)

/-- Whether the parameter is a value: of numbers the finite ones are. -/
def isFinite : Parameter → Bool
  | .number x => x.isFinite
  | _ => true

def told? (p : Parameter) : Option String := if p.isFinite then some p.written else none

def toValue : Parameter → Value
  | .count n => .ofNat n
  | .number x => .ofFloat x
  | .text s => .string s
  | .list items => .array items

theorem parameterText?_toValue (p : Parameter) : parameterText? p.toValue = p.told? := by
  cases p with
  | number x =>
      rw [toValue, Value.ofFloat, Json.Number.ofFloat?, told?, isFinite]
      by_cases h : x.isFinite = true
      · rw [dif_pos h, if_pos h]
        rfl
      · rw [dif_neg h, if_neg h]
        rfl
  | _ => rfl

/-- The text of a parameter that is not finite does not start with a brace. -/
theorem head?_written_of_not_finite {p : Parameter} (h : p.isFinite = false) :
    p.written.toList ≠ [] ∧ p.written.toList.head? ≠ some '{' := by
  cases p with
  | number x =>
      have hcases : x.isNaN = true ∨ x.isInf = true := by
        change x.toModel.unpack.isFinite = false at h
        show x.toModel.unpack.isNaN = true ∨ x.toModel.unpack.isInf = true
        cases hu : x.toModel.unpack <;> rw [hu] at h <;>
          first | exact .inl rfl | exact .inr rfl | cases h
      rw [written, Coercion.textOfFloat, Decimal.Layout.write]
      by_cases hnan : x.isNaN = true
      · rw [if_pos hnan]
        exact ⟨by decide, by decide⟩
      · rw [if_neg hnan]
        dsimp only
        rw [if_pos (hcases.resolve_left hnan)]
        split
        · exact ⟨by decide, by decide⟩
        · exact ⟨by decide, by decide⟩
  | _ => cases h

end Parameter

namespace Constraint

variable {t : FieldType}

/-- The parameters of a constraint, at the places by which messages name them.  The minimums of a
password have names instead. -/
def parameters : {t : FieldType} → t.Constraint → List Parameter
  | .string, .min n | .string, .max n | .string, .len n => [.count n]
  | .string, .range low high | .string, .byteLen low high => [.count low, .count high]
  | .string, .equal s | .string, .contain s | .string, .startsWith s | .string, .endsWith s =>
      [.text s]
  | .string, .regex pattern => [.text pattern.source]
  | .string, .ip version => (version.map fun v => .count v.number).toList
  | .string, .uppercase | .string, .lowercase | .string, .alphanumeric | .string, .phone
  | .string, .email | .string, .url | .string, .password _ => []
  | .number, .min x | .number, .max x | .number, .gt x | .number, .lt x | .number, .equal x =>
      [.number x]
  | .number, .range low high => [.number low, .number high]
  | .number, .decimal digits => [.count digits]
  | .number, .integer | .number, .positive | .number, .negative | .number, .nonnegative
  | .number, .nonpositive | .number, .port => []
  | .array, .min n | .array, .max n | .array, .len n => [.count n]
  | .array, .range low high => [.count low, .count high]
  | .array, .includes values | .array, .excludes values => [.list values]
  | .array, .unique => []

/-- How many of its parameters the message of a constraint names.  Patterns, versions of addresses
and what makes a password strong are not shown. -/
def named : {t : FieldType} → t.Constraint → Nat
  | .string, .regex _ | .string, .ip _ | .string, .password _ => 0
  | _, c => (parameters c).length

def key (c : t.Constraint) : String := t.name ++ "." ++ kind c

/-! ## Templates -/

theorem get?_builtIn : ∀ entry ∈ Messages.builtInTemplates,
    Table.builtIn.get? entry.1 = some entry.2 := by
  decide +kernel

/-- Between braces the template of a constraint has the places of the parameters that it names. -/
theorem lookup_key (c : t.Constraint) :
    (Messages.builtInTemplates.lookup (key c)).map
        (fun template => placeholderNames unbraced template.toList)
      = some ((List.range (named c)).map Decimal.digitsOf) := by
  cases t <;> cases c <;>
    dsimp only [key, kind, TextConstraint.kind, NumberConstraint.kind, ListConstraint.kind, named,
      parameters, List.length_cons, List.length_nil, FieldType.name] <;>
    decide +kernel

/-- Every constraint has a template, and its placeholders are the places of parameters. -/
theorem exists_template (c : t.Constraint) :
    ∃ template, Table.builtIn.get? (key c) = some template ∧
      ∀ name, IsName unbraced name ∧ placeholder name <:+: template.toList ↔
        ∃ place < named c, name = Decimal.digitsOf place := by
  obtain ⟨template, hlookup, hnames⟩ := Option.map_eq_some_iff.mp (lookup_key c)
  obtain ⟨before, behind, hentries, -⟩ := List.lookup_eq_some_iff.mp hlookup
  have hentry : (key c, template) ∈ Messages.builtInTemplates := by
    rw [hentries]
    exact List.mem_append_right before List.mem_cons_self
  refine ⟨template, get?_builtIn (key c, template) hentry, fun name => ?_⟩
  rw [← Template.mem_placeholderNames (by decide), hnames]
  simp only [List.mem_map, List.mem_range, eq_comm]

/-! ## What is handed out -/

/-- Parameters as a message finds them by their places.  One parameter may stand for itself, unless
it is a list, whose elements would be taken for parameters. -/
inductive Laid : Value → List Parameter → Prop where
  | one {p : Parameter} (hp : ∀ items, p ≠ .list items) : Laid p.toValue [p]
  | many (ps : List Parameter) : Laid (.array (ps.map Parameter.toValue)) ps

theorem Laid.isNameFor_eq {v : Value} {ps : List Parameter} (h : Laid v ps) :
    isNameFor v = Text.isDecimalDigit := by
  cases h with
  | @one p hp =>
      cases p with
      | number x =>
          rw [Parameter.toValue, Value.ofFloat]
          split <;> rfl
      | _ => rfl
  | many ps => rfl

theorem Laid.bind_parameter? {v : Value} {ps : List Parameter} (h : Laid v ps) (name : List Char) :
    (parameter? name v).bind parameterText?
      = ((place? name).bind fun place => ps[place]?).bind Parameter.told? := by
  cases h with
  | @one p hp =>
      have hsingle : parameter? name p.toValue
          = (place? name).bind fun place => [p.toValue][place]? := by
        have hzero : (if place? name = some 0 then some p.toValue else none)
            = (place? name).bind fun place => [p.toValue][place]? := by
          rcases place? name with _ | _ | place <;> rfl
        refine Eq.trans ?_ hzero
        cases p with
        | list items => exact absurd rfl (hp items)
        | number x =>
            rw [Parameter.toValue, Value.ofFloat]
            split <;> rfl
        | _ => rfl
      rw [hsingle]
      rcases place? name with _ | _ | place
      · rfl
      · exact p.parameterText?_toValue
      · rfl
  | many ps =>
      have hlist : parameter? name (.array (ps.map Parameter.toValue))
          = (place? name).bind fun place => (ps.map Parameter.toValue)[place]? := rfl
      rw [hlist]
      cases place? name with
      | none => rfl
      | some place =>
          rw [Option.bind_some, Option.bind_some, List.getElem?_map]
          cases ps[place]? with
          | none => rfl
          | some p => exact p.parameterText?_toValue

/-- A constraint whose message names parameters hands them out by their places. -/
theorem laid_params : {t : FieldType} → (c : t.Constraint) → 0 < named c →
    Laid (params c) (parameters c)
  | .string, .min n, _ | .string, .max n, _ | .string, .len n, _ | .array, .min n, _
  | .array, .max n, _ | .array, .len n, _ => .one (p := .count n) nofun
  | .string, .range low high, _ | .string, .byteLen low high, _ | .array, .range low high, _ =>
      .many [.count low, .count high]
  | .string, .equal s, _ | .string, .contain s, _ | .string, .startsWith s, _
  | .string, .endsWith s, _ => .one (p := .text s) nofun
  | .number, .min x, _ | .number, .max x, _ | .number, .gt x, _ | .number, .lt x, _
  | .number, .equal x, _ => .one (p := .number x) nofun
  | .number, .range low high, _ => .many [.number low, .number high]
  | .number, .decimal digits, _ => .one (p := .count digits) nofun
  | .array, .includes values, _ | .array, .excludes values, _ => .many [.list values]

/-- The parameters that messages do not name are those of constraints on texts, and finite. -/
theorem isFinite_or_named (c : t.Constraint) :
    (∀ p ∈ parameters c, p.isFinite = true) ∨ named c = (parameters c).length := by
  cases t with
  | string =>
      refine .inl ?_
      cases c with
      | ip version => cases version <;> simp [parameters, Parameter.isFinite]
      | _ => simp [parameters, Parameter.isFinite]
  | number => exact .inr rfl
  | array => exact .inr rfl

theorem named_le (c : t.Constraint) : named c ≤ (parameters c).length := by
  unfold named
  split <;> omega

/-! ## Messages -/

def parameterAt (c : t.Constraint) (name : List Char) : Option Parameter :=
  (place? name).bind fun place => (parameters c)[place]?

theorem place?_digitsOf (place : Nat) : place? (Decimal.digitsOf place) = some place := by
  rw [place?, if_pos (Decimal.run_digitsOf place).2, ← Decimal.natOfDigits_eq_ofDigitChars,
    Decimal.natOfDigits_digitsOf]

theorem parameterAt_digitsOf (c : t.Constraint) (place : Nat) :
    parameterAt c (Decimal.digitsOf place) = (parameters c)[place]? := by
  rw [parameterAt, place?_digitsOf, Option.bind_some]

/-- Read with the names of its parameters, the template of a constraint has the same placeholders. -/
theorem exists_pieces (c : t.Constraint) :
    ∃ template pieces, Table.builtIn.get? (key c) = some template ∧
      Reads (isNameFor (params c)) template.toList pieces ∧
      ∀ name, .hole name ∈ pieces ↔ ∃ place < named c, name = Decimal.digitsOf place := by
  obtain ⟨template, hget, hnames⟩ := exists_template c
  obtain ⟨pieces, hpieces⟩ := Template.exists_reads (isNameFor (params c)) template.toList
  have hopen := Template.isNameFor_brace (params c) (.inl rfl)
  have hclose := Template.isNameFor_brace (params c) (.inr rfl)
  refine ⟨template, pieces, hget, hpieces, fun name => ?_⟩
  rw [hpieces.hole_mem_iff hopen hclose]
  constructor
  · rintro ⟨hname, hinfix⟩
    exact (hnames name).mp ⟨hname.unbraced hopen hclose, hinfix⟩
  · intro hplace
    obtain ⟨-, hinfix⟩ := (hnames name).mpr hplace
    obtain ⟨place, hlt, rfl⟩ := hplace
    refine ⟨⟨Nat.toDigits_ne_nil, fun d hd => ?_⟩, hinfix⟩
    rw [(laid_params c (Nat.zero_lt_of_lt hlt)).isNameFor_eq]
    exact Text.isDecimalDigit_of_isDigit (Nat.isDigit_of_mem_toDigits (by decide) (by decide) hd)

theorem tableMessage_eq {c : t.Constraint} {table : Table} {template : String}
    (hget : table.get? (key c) = some template) :
    (failure c).tableMessage table = Template.render template (params c) := by
  show Template.render ((table.get? (key c)).getD table.default) (params c) = _
  rw [hget, Option.getD_some]

/-- A message tells what is finite of the parameters that its placeholders stand for. -/
theorem toList_tableMessage (c : t.Constraint) {table : Table} {template : String}
    {pieces : List Piece} (hget : table.get? (key c) = some template)
    (hpieces : Reads (isNameFor (params c)) template.toList pieces)
    (hnames : ∀ name, .hole name ∈ pieces ↔ ∃ place < named c, name = Decimal.digitsOf place) :
    ((failure c).tableMessage table).toList
      = pieces.flatMap (Piece.fill fun name => (parameterAt c name).bind Parameter.told?) := by
  rw [tableMessage_eq hget, Template.toList_render_of_reads hpieces, Template.filled_eq_fill]
  refine Template.flatMap_fill_congr fun name hname => ?_
  obtain ⟨place, hlt, -⟩ := (hnames name).mp hname
  exact (laid_params c (Nat.zero_lt_of_lt hlt)).bind_parameter? name

/-- A message tells all that its placeholders stand for if and only if all parameters are finite. -/
theorem flatMap_told_eq_iff (c : t.Constraint) {pieces : List Piece}
    (hnames : ∀ name, .hole name ∈ pieces ↔ ∃ place < named c, name = Decimal.digitsOf place) :
    pieces.flatMap (Piece.fill fun name => (parameterAt c name).bind Parameter.told?)
        = pieces.flatMap (Piece.fill fun name => (parameterAt c name).map Parameter.written) ↔
      ∀ p ∈ parameters c, p.isFinite = true := by
  have hfilled : ∀ p : Parameter, p.told? = some p.written ↔ p.isFinite = true := by
    intro p
    rw [Parameter.told?, Option.ite_none_right_eq_some]
    exact and_iff_left rfl
  rw [Template.flatMap_fill_eq_iff]
  · constructor
    · intro hall p hp
      rcases isFinite_or_named c with hfinite | hnamed
      · exact hfinite p hp
      · obtain ⟨place, hlt, rfl⟩ := List.getElem_of_mem hp
        have hplace := hall _ ((hnames _).mpr ⟨place, hnamed ▸ hlt, rfl⟩)
        rw [parameterAt_digitsOf, List.getElem?_eq_getElem hlt] at hplace
        exact (hfilled _).mp hplace
    · intro hfinite name _
      cases hparameter : parameterAt c name with
      | none => rfl
      | some p =>
          obtain ⟨place, -, hget⟩ := Option.bind_eq_some_iff.mp hparameter
          exact (hfilled p).mpr (hfinite p (List.mem_of_getElem? hget))
  · intro name _
    cases parameterAt c name with
    | none => exact .inl rfl
    | some p =>
        cases hfinite : p.isFinite with
        | true => exact .inl ((hfilled p).mpr hfinite)
        | false =>
            refine .inr ⟨?_, p.written, rfl, p.head?_written_of_not_finite hfinite⟩
            rw [Option.bind_some, Parameter.told?, hfinite]
            rfl

/-- A constraint that fails without an override reports, in any schema of a factory with the built-in
table, its template with every placeholder filled with the text of a parameter that is there, provided
that the parameters are finite.  A placeholder of a parameter that is not stays as it is written in
the template. -/
theorem failed_check_eq {m : Type → Type} [Monad m] [LawfulMonad m] (c : t.Constraint) :
    ∃ (template : String) (pieces : List Piece),
      Table.builtIn.get? (key c) = some template ∧
      Reads (isNameFor (params c)) template.toList pieces ∧
      (∀ name, .hole name ∈ pieces → ∃ p ∈ parameters c, parameterAt c name = some p) ∧
      let told := pieces.flatMap (Piece.fill fun name => (parameterAt c name).bind Parameter.told?)
      let full := pieces.flatMap (Piece.fill fun name => (parameterAt c name).map Parameter.written)
      (told = full ↔ ∀ p ∈ parameters c, p.isFinite = true) ∧
      ∀ (tables : Tables) (owner : Nat), tables owner = Table.builtIn →
        ∀ (before behind : List (Item m t)) (exemption : Option Exemption) (input : Value)
          (value : t.Carrier), exemption.any (·.covers input) = false →
          t.coerce? input = some value → test c value = false →
          (⟨owner, before ++ .descriptor (.check c none) :: behind, exemption⟩ : Schema m t).check
              tables input
            = (fun earlier => some (earlier.getD (String.ofList told))) <$>
                (⟨owner, before, exemption⟩ : Schema m t).check tables input := by
  obtain ⟨template, pieces, hget, hpieces, hnames⟩ := exists_pieces c
  refine ⟨template, pieces, hget, hpieces, fun name hname => ?_, flatMap_told_eq_iff c hnames,
    fun tables owner htable before behind exemption input value hnot hvalue hfails => ?_⟩
  · obtain ⟨place, hlt, rfl⟩ := (hnames name).mp hname
    have hthere : place < (parameters c).length := hlt.trans_le (named_le c)
    rw [parameterAt_digitsOf, List.getElem?_eq_getElem hthere]
    exact ⟨_, List.getElem_mem hthere, rfl⟩
  · refine Schema.check_of_report_eq ?_ before behind
    have hreport : (⟨owner, [], exemption⟩ : Schema m t).report tables input
        (.descriptor (.check c none)) = Descriptor.report (tables owner) value input (.check c none) :=
      Schema.descriptorReport_of_coerce?_eq_some tables _ hnot hvalue
    rw [hreport, htable, Descriptor.report, hfails, if_neg Bool.false_ne_true, Failure.message, pure_bind,
      ← toList_tableMessage c hget hpieces hnames, String.ofList_toList]

/-- A range with finite bounds, and a number above it. -/
theorem failed_check_eq_of_range :
    let c : NumberConstraint := .range 1.5 2.5
    let input : Value := .number (.integer 5)
    (none : Option Exemption).any (·.covers input) = false ∧
      FieldType.number.coerce? input = some (Float.ofInt 5) ∧
      test (t := .number) c (Float.ofInt 5) = false ∧
      (∀ p ∈ parameters (t := .number) c, p.isFinite = true) ∧
      ∃ template pieces, Table.builtIn.get? (key (t := .number) c) = some template ∧
        Reads Text.isDecimalDigit template.toList pieces ∧
        (⟨0, [.descriptor (.check c none)], none⟩ : Schema Id .number).check
            (fun _ => Table.builtIn) input
          = some (String.ofList (pieces.flatMap
              (Piece.fill fun name => (parameterAt (t := .number) c name).map Parameter.written))) := by
  intro c input
  have hvalue : FieldType.number.coerce? (.number (.integer 5)) = some (Float.ofInt 5) := by rfl
  have hfails : test (t := .number) c (Float.ofInt 5) = false := by rfl
  have hfinite : ∀ p ∈ parameters (t := .number) c, p.isFinite = true := by
    intro p hp
    rcases List.mem_pair.mp hp with rfl | rfl <;> rfl
  obtain ⟨template, pieces, hget, hpieces, -, htold, hcheck⟩ :=
    failed_check_eq (m := Id) (t := .number) c
  refine ⟨rfl, hvalue, hfails, hfinite, template, pieces, hget, hpieces, ?_⟩
  rw [← htold.mpr hfinite]
  exact hcheck (fun _ => Table.builtIn) 0 rfl [] [] none input (Float.ofInt 5) rfl hvalue hfails

/-- Of a bound that is infinite a message shows the placeholder, although infinity has a text. -/
theorem placeholder_stays_of_infinite_min :
    let s : Schema Id .number := Schema.constrain { owner := 0 } (.min Coercion.infinity)
    let report : Option String := s.check (fun _ => Table.builtIn) (.number (.integer 5))
    Table.builtIn.get? (key (t := .number) (.min Coercion.infinity)) = some "最小值为 {0}" ∧
      Coercion.textOfFloat Coercion.infinity = "Infinity" ∧
      report = some "最小值为 {0}" ∧ report ≠ some "最小值为 Infinity" := by
  intro s report
  have hkey : key (t := .number) (.min Coercion.infinity) = "number.min" := by decide
  have hget : Table.builtIn.get? (key (t := .number) (.min Coercion.infinity))
      = some "最小值为 {0}" := by
    rw [hkey]
    exact get?_builtIn ("number.min", "最小值为 {0}") (by decide +kernel)
  have hmessage : (failure (t := .number) (.min Coercion.infinity)).tableMessage Table.builtIn
      = "最小值为 {0}" := by
    have hnull : ∀ name v, parameter? name .null = some v → v = .null := by
      intro name v hv
      have hsingle : parameter? name .null = if place? name = some 0 then some .null else none :=
        rfl
      rw [hsingle, Option.ite_none_right_eq_some] at hv
      exact (Option.some.inj hv.2).symm
    rw [tableMessage_eq hget]
    exact Template.render_eq_self fun name _ _ => hnull name
  have hvalue : FieldType.number.coerce? (.number (.integer 5)) = some (Float.ofInt 5) := by rfl
  have hfails : test (t := .number) (.min Coercion.infinity) (Float.ofInt 5) = false := by rfl
  have hreport : report = some "最小值为 {0}" := by
    refine Schema.check_of_report_eq ?_ [] []
    refine (Schema.descriptorReport_of_coerce?_eq_some (fun _ => Table.builtIn) _ rfl hvalue).trans ?_
    rw [Descriptor.report, hfails, if_neg Bool.false_ne_true, Failure.message, pure_bind, hmessage]
  refine ⟨hget, by rfl, hreport, ?_⟩
  rw [hreport]
  decide

end Constraint

end FieldRules

/-
# `Proofs.Document.RoundTrip` — a written document reads back as itself

A document is written as a JSON value and read from one, and the two sides agree field by field: a
field that was left out is not written, one that was given is written in a form that its reader takes
back, and the form of the inputs to be let through tells a truth value from a list.  Two things have
no written form of their own, because null is what a reader takes for a field that was left out:
a bound that is no finite double (it is written as null) and a value that is null.  `Writable` says
that a document has neither.

No document that is read from a JSON text has either (`writable_of_read?`): a reader lets through no
null, and no literal denotes an infinity (`isFinite_toFloat_of_ofLiteral?`).
-/
import FieldRules.Document.Reading
import FieldRules.Proofs.Decimal.Finite
import FieldRules.Proofs.Source.Records

namespace FieldRules

open Json (Value Fields Number NumberLiteral)

/-! ## Numbers of a JSON text -/

theorem Json.NumberLiteral.natAbs_lt_of_integer? {l : NumberLiteral} {i : Int}
    (h : l.integer? = some i) : i.natAbs < 2 ^ 64 := by
  unfold integer? at h
  split at h
  · dsimp only at h
    split at h
    · split at h
      · cases h
        omega
      · cases h
    · split at h
      · next hle =>
          cases h
          have hlimit : significandLimit = 2 ^ 64 - 1 := rfl
          omega
      · cases h
  · cases h

theorem Json.Number.ofFloat?_ne_integer (x : Float) (i : Int) : ofFloat? x ≠ some (.integer i) := by
  unfold ofFloat?
  split <;> simp

theorem Json.Number.isFinite_toFloat_of_ofLiteral? {l : NumberLiteral} {n : Number}
    (h : Number.ofLiteral? l = some n) : n.toFloat.isFinite = true := by
  cases n with
  | float x hx => exact hx
  | integer i =>
      unfold Number.ofLiteral? at h
      split at h
      · next hi =>
          cases h
          exact Decimal.isFinite_ofInt (NumberLiteral.natAbs_lt_of_integer? hi)
      · obtain ⟨x, -, hx⟩ := Option.bind_eq_some_iff.mp h
        exact absurd hx (ofFloat?_ne_integer _ i)

theorem Json.Node.eq_null_of_value? {levels : Nat} {node : Json.Node}
    (h : node.value? levels = some .null) : node = .null := by
  cases node with
  | null => rfl
  | bool b => cases h
  | number l =>
      unfold value? at h
      obtain ⟨n, -, hn⟩ := Option.map_eq_some_iff.mp h
      cases hn
  | string s =>
      unfold value? at h
      obtain ⟨s, -, hs⟩ := Option.map_eq_some_iff.mp h
      cases hs
  | array items =>
      cases levels with
      | zero => cases h
      | succ levels =>
          unfold value? at h
          obtain ⟨vs, -, hvs⟩ := Option.map_eq_some_iff.mp h
          cases hvs
  | object members =>
      cases levels with
      | zero => cases h
      | succ levels =>
          unfold value? at h
          obtain ⟨pairs, -, hpairs⟩ := Option.map_eq_some_iff.mp h
          cases hpairs

/-! ## What can be written -/

/-- The bounds of a rule are finite, and its value is not null. -/
structure RuleSpec.Writable (r : RuleSpec) : Prop where
  min : ∀ x, r.min = some x → x.isFinite = true
  max : ∀ x, r.max = some x → x.isFinite = true
  value : r.value ≠ some .null

/-- So are those of all rules. -/
def Document.Writable (d : Document) : Prop := ∀ r ∈ d.rules, r.Writable

/-! ## Rules -/

theorem FieldType.read?_name (t : FieldType) : FieldType.read? (Value.string t.name) = some t := by
  cases t <;> rfl

theorem OptionalSpec.ofValue?_toValue (o : OptionalSpec) : ofValue? o.toValue = some o := by
  cases o <;> rfl

/-- The written form of a finite double is a number, which denotes it. -/
theorem Json.Value.read_ofFloat {x : Float} (h : x.isFinite = true) :
    Source.isNull? (Value.ofFloat x) = some false ∧ Source.float? (Value.ofFloat x) = some x := by
  have hofFloat : Value.ofFloat x = .number (.float x h) := by
    unfold Value.ofFloat Number.ofFloat?
    rw [dif_pos h]
  rw [hofFloat]
  exact ⟨rfl, rfl⟩

theorem keys_optional (name : String) (v : Option Value) :
    ((v.toList.map fun v => (name, v)).map Prod.fst).Sublist [name] := by
  cases v with
  | none => exact List.nil_sublist _
  | some v => exact List.Sublist.refl _

theorem RuleSpec.members_sublist (r : RuleSpec) :
    (r.members.map Prod.fst).Sublist fieldNames := by
  simp only [members, List.map_append]
  exact ((((((keys_optional "kind" _).append (keys_optional "value" _)).append
    (keys_optional "message" _)).append (keys_optional "required" _)).append
    (keys_optional "min" _)).append (keys_optional "max" _)).append (keys_optional "type" _)

theorem RuleSpec.record?_toValue (r : RuleSpec) :
    Source.record? fieldNames true 0 r.toValue
      = some [r.kind.map .string, r.value, r.message.map .string, r.required.map .bool,
          r.min.map .ofFloat, r.max.map .ofFloat, r.type.map fun t => .string t.name] := by
  have hnodup : (r.members.map Prod.fst).Nodup := r.members_sublist.nodup (by decide)
  refine (Source.record?_ofList true 0 hnodup r.members_sublist.subset).trans ?_
  simp [members, fieldNames, Fields.get?_append, Fields.get?_optional]

theorem RuleSpec.read?_toValue {r : RuleSpec} (h : r.Writable) : read? r.toValue = some r := by
  have htext : ∀ field : Option String,
      Source.optional? Source.text? (field.map Value.string) = some field :=
    fun _ => Source.optional?_map fun _ _ => ⟨rfl, rfl⟩
  have hvalue : Source.optional? Source.value? r.value = some r.value := by
    have hsome : ∀ v, r.value = some v → Source.isNull? v = some false := by
      intro v hv
      cases v with
      | null => exact absurd hv h.value
      | _ => rfl
    have hread : Source.optional? Source.value? (r.value.map id) = some r.value :=
      Source.optional?_map fun v hv => ⟨hsome v hv, rfl⟩
    rwa [Option.map_id] at hread
  have hrequired : Source.optional? Source.flag? (r.required.map Value.bool) = some r.required :=
    Source.optional?_map fun _ _ => ⟨rfl, rfl⟩
  have hmin : Source.optional? Source.float? (r.min.map Value.ofFloat) = some r.min :=
    Source.optional?_map fun x hx => Value.read_ofFloat (h.min x hx)
  have hmax : Source.optional? Source.float? (r.max.map Value.ofFloat) = some r.max :=
    Source.optional?_map fun x hx => Value.read_ofFloat (h.max x hx)
  have htype : Source.optional? FieldType.read? (r.type.map fun t => Value.string t.name)
      = some r.type :=
    Source.optional?_map fun t _ => ⟨rfl, t.read?_name⟩
  unfold read?
  rw [record?_toValue]
  simp only [Option.bind_eq_bind, Option.bind_some, htext, hvalue, hrequired, hmin, hmax, htype]
  rfl

/-! ## Documents -/

theorem Document.record?_toValue (d : Document) :
    Source.record? fieldNames true 1 d.toValue
      = some [some (.string d.type.name), d.optional.map OptionalSpec.toValue,
          some (.array (d.rules.map RuleSpec.toValue))] := by
  have hkeys : (d.members.map Prod.fst).Sublist ["type", "rules", "optional"] := by
    obtain ⟨t, o, rs⟩ := d
    cases o <;> simp [members]
  have hsub : d.members.map Prod.fst ⊆ fieldNames :=
    List.Subset.trans hkeys.subset (by decide)
  refine (Source.record?_ofList true 1 (hkeys.nodup (by decide)) hsub).trans ?_
  obtain ⟨t, o, rs⟩ := d
  cases o <;> simp [members, fieldNames, Fields.get?]

theorem RuleSpec.mapM_read?_toValue {rs : List RuleSpec} (h : ∀ r ∈ rs, r.Writable) :
    (rs.map toValue).mapM read? = some rs := by
  induction rs with
  | nil => rfl
  | cons r rs ih =>
      obtain ⟨hr, hrs⟩ := List.forall_mem_cons.mp h
      rw [List.map_cons, List.mapM_cons, read?_toValue hr, ih hrs]
      rfl

theorem Document.read?_toValue {d : Document} (h : d.Writable) : read? d.toValue = some d := by
  have hoptional : Source.optional? (fun s => (Source.strictValue? s).bind OptionalSpec.ofValue?)
      (d.optional.map OptionalSpec.toValue) = some d.optional := by
    refine Source.optional?_map fun o _ => ⟨?_, o.ofValue?_toValue⟩
    cases o <;> rfl
  have hrules : (Source.list? (Value.array (d.rules.map RuleSpec.toValue))).bind
      (·.mapM RuleSpec.read?) = some d.rules := RuleSpec.mapM_read?_toValue h
  unfold read?
  rw [record?_toValue]
  simp only [Option.bind_eq_bind, Option.bind_some, FieldType.read?_name, hoptional, hrules]
  rfl

/-! ## Documents from JSON texts -/

/-- A bound that a JSON text gives is finite. -/
theorem Json.Rooted.isFinite_of_float? {source : Json.Rooted} {x : Float}
    (h : Source.float? source = some x) : x.isFinite = true := by
  obtain ⟨node, levels⟩ := source
  cases node with
  | number l =>
      obtain ⟨n, hn, hx⟩ := Option.map_eq_some_iff.mp h
      subst hx
      exact Number.isFinite_toFloat_of_ofLiteral? hn
  | _ => cases h

theorem RuleSpec.writable_of_read? {source : Json.Rooted} {r : RuleSpec}
    (h : read? source = some r) : r.Writable := by
  have hbound : ∀ {field : Option Json.Rooted} {bound : Option Float},
      Source.optional? Source.float? field = some bound →
        ∀ x, bound = some x → x.isFinite = true := by
    intro field bound hread x hx
    subst hx
    obtain ⟨source, -, -, hfloat⟩ := Source.exists_of_optional? hread
    exact Json.Rooted.isFinite_of_float? hfloat
  unfold read? at h
  obtain ⟨fields, -, h⟩ := Option.bind_eq_some_iff.mp h
  split at h
  · next kind value message required min max type =>
    obtain ⟨kind, -, h⟩ := Option.bind_eq_some_iff.mp h
    obtain ⟨value, hvalue, h⟩ := Option.bind_eq_some_iff.mp h
    obtain ⟨message, -, h⟩ := Option.bind_eq_some_iff.mp h
    obtain ⟨required, -, h⟩ := Option.bind_eq_some_iff.mp h
    obtain ⟨min, hmin, h⟩ := Option.bind_eq_some_iff.mp h
    obtain ⟨max, hmax, h⟩ := Option.bind_eq_some_iff.mp h
    obtain ⟨type, -, h⟩ := Option.bind_eq_some_iff.mp h
    cases h
    refine ⟨hbound hmin, hbound hmax, fun hnull => ?_⟩
    subst hnull
    obtain ⟨source, -, hsource, hread⟩ := Source.exists_of_optional? hvalue
    -- a field whose tree is null was left out, and only that tree has the value null
    have hnode : source.node = .null := Json.Node.eq_null_of_value? hread
    have hnot : source.isNull = false := Option.some.inj hsource
    rw [Json.Rooted.isNull, hnode] at hnot
    cases hnot
  · cases h

theorem RuleSpec.writable_of_mapM_read? {sources : List Json.Rooted} {rs : List RuleSpec}
    (h : sources.mapM read? = some rs) : ∀ r ∈ rs, r.Writable := by
  induction sources generalizing rs with
  | nil =>
      cases h
      exact fun _ hr => absurd hr List.not_mem_nil
  | cons source sources ih =>
      rw [List.mapM_cons] at h
      obtain ⟨r, hr, h⟩ := Option.bind_eq_some_iff.mp h
      obtain ⟨rest, hrest, h⟩ := Option.bind_eq_some_iff.mp h
      cases h
      exact List.forall_mem_cons.mpr ⟨writable_of_read? hr, ih hrest⟩

theorem Document.writable_of_read? {source : Json.Rooted} {d : Document}
    (h : read? source = some d) : d.Writable := by
  unfold read? at h
  obtain ⟨fields, -, h⟩ := Option.bind_eq_some_iff.mp h
  split at h
  · next type optional rules =>
    obtain ⟨type, -, h⟩ := Option.bind_eq_some_iff.mp h
    obtain ⟨optional, -, h⟩ := Option.bind_eq_some_iff.mp h
    cases rules with
    | none =>
        cases h
        exact fun _ hr => absurd hr List.not_mem_nil
    | some source =>
        obtain ⟨rs, hrs, h⟩ := Option.bind_eq_some_iff.mp h
        obtain ⟨sources, -, hrs⟩ := Option.bind_eq_some_iff.mp hrs
        cases h
        exact RuleSpec.writable_of_mapM_read? hrs
  · cases h

/-! ## The round trip -/

variable {m : Type → Type}

/-- Every document that is read from a JSON text can be written, and a document that can be written
is read back from its written form as it was: with the type, with the inputs to be let through, and
with each rule in its place and in each rule the fields that were given and no others.  So a schema
is built from what was read back, or refused, as from the document itself. -/
theorem Document.written_reads_back :
    (∀ text d, parse? .json text = some d → d.Writable) ∧
      ∀ d : Document, d.Writable →
        read? d.toValue = some d ∧
          ∀ (owner : Nat) (factory : Factory m),
            (read? d.toValue).map (build owner factory) = some (build owner factory d) := by
  refine ⟨fun text d h => ?_, fun d h => ⟨read?_toValue h, fun owner factory => ?_⟩⟩
  · obtain ⟨source, -, hread⟩ := Option.bind_eq_some_iff.mp h
    exact writable_of_read? hread
  · rw [read?_toValue h]
    rfl

/-- Blank inputs are not let through, as the document says and not by default; a length is an
integer, the bounds of a form's rule are doubles, and one of them is minus zero. -/
theorem Document.written_reads_back_of_mixed_rules :
    let d : Document := {
      type := .string
      optional := some (.enabled false)
      rules := [
        ⟨some "min", some (.number (.integer 3)), some "", none, none, none, none⟩,
        ⟨none, none, some "between", some true, some (-0.0), some 1.5, some .number⟩,
        ⟨some "own", some (.array [.null, .bool false]), none, none, none, none, none⟩] }
    d.Writable ∧ read? d.toValue = some d := by
  intro d
  have hwritable : d.Writable := by
    intro r hr
    simp only [d, List.mem_cons, List.not_mem_nil, or_false] at hr
    obtain rfl | rfl | rfl := hr
    · exact ⟨nofun, nofun, nofun⟩
    · refine ⟨fun x hx => ?_, fun x hx => ?_, nofun⟩
      · cases hx
        rfl
      · cases hx
        rfl
    · exact ⟨nofun, nofun, nofun⟩
  exact ⟨hwritable, ((written_reads_back (m := Id)).2 d hwritable).1⟩

end FieldRules

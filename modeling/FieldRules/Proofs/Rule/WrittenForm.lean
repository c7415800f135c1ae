/-
# `Proofs.Rule.WrittenForm` — what a rule shows of itself reads back

A rule shows its fields as a JSON value.  Fields that it does not have are left out, the events that
run it are a name or a list of names, and bounds are numbers.  The reader takes more than the writer
writes: null for a field that is left out, a list of all fields, integers for the bounds, and any
list of event names, one name or several in any order and with repetitions.

`Trigger.ofEvents?_eq_some_iff` settles the events: a list of names stands for the trigger with the
same set of events, if there is one.  Hence reading the events that a trigger is written as gives the
trigger back (`Trigger.ofValue?_toValue`), and which lists are taken is `Trigger.isSome_ofValue?_iff`.

The only thing that has no written form is a bound that is not finite, which is written as null; a
`Meta` without such bounds is `Writable`, and reads back as itself (`Meta.read?_toValue`).  Whatever
was read is writable, because no number of a JSON text or of a JSON value denotes an infinity
(`Meta.writable_of_read?`).
-/
import FieldRules.Proofs.Document.RoundTrip
import FieldRules.Proofs.Constraint.Integers

namespace FieldRules

open Json (Value Fields)

/-! ## Events -/

namespace Trigger

theorem ofEvents?_of_known {names : List String}
    (h : ∀ name ∈ names, name = "change" ∨ name = "blur") :
    ofEvents? names =
      match names.contains "change", names.contains "blur" with
      | true, true => some .both
      | true, false => some .change
      | false, true => some .blur
      | false, false => none := by
  have hall : (names.all fun n => n == "change" || n == "blur") = true := by
    simpa [List.all_eq_true] using h
  exact if_pos hall

theorem known_of_mem_events {t : Trigger} {name : String} (h : name ∈ t.events) :
    name = "change" ∨ name = "blur" := by
  cases t <;> simp_all [events]

theorem events_ne_nil (t : Trigger) : t.events ≠ [] := by
  cases t <;> simp [events]

/-- A list of names stands for the trigger that has them as its events, whatever their order and
however often they are repeated. -/
theorem ofEvents?_eq_some_iff {names : List String} {t : Trigger} :
    ofEvents? names = some t ↔ ∀ name, name ∈ t.events ↔ name ∈ names := by
  constructor
  · intro h
    have hknown : ∀ name ∈ names, name = "change" ∨ name = "blur" := by
      by_contra hnot
      have hall : ¬(names.all fun n => n == "change" || n == "blur") = true := by
        simpa [List.all_eq_true] using hnot
      rw [ofEvents?, if_neg hall] at h
      cases h
    rw [ofEvents?_of_known hknown] at h
    intro name
    constructor
    · intro hevent
      split at h <;> cases h <;> simp_all [events]
      rcases hevent with rfl | rfl <;> assumption
    · intro hname
      split at h <;> cases h <;> rcases hknown name hname with rfl | rfl <;>
        simp_all [events]
  · intro h
    have hknown : ∀ name ∈ names, name = "change" ∨ name = "blur" :=
      fun name hname => known_of_mem_events ((h name).mpr hname)
    have hchange : names.contains "change" = decide ("change" ∈ t.events) := by
      simp [h]
    have hblur : names.contains "blur" = decide ("blur" ∈ t.events) := by
      simp [h]
    rw [ofEvents?_of_known hknown, hchange, hblur]
    cases t <;> rfl

theorem ofEvents?_congr {names other : List String} (h : ∀ name, name ∈ names ↔ name ∈ other) :
    ofEvents? names = ofEvents? other := by
  refine Option.ext fun t => ?_
  rw [ofEvents?_eq_some_iff, ofEvents?_eq_some_iff]
  simp only [h]

theorem isSome_ofEvents?_iff {names : List String} :
    (ofEvents? names).isSome = true ↔
      names ≠ [] ∧ ∀ name ∈ names, name = "change" ∨ name = "blur" := by
  rw [Option.isSome_iff_exists]
  constructor
  · rintro ⟨t, ht⟩
    rw [ofEvents?_eq_some_iff] at ht
    refine ⟨?_, fun name hname => known_of_mem_events ((ht name).mpr hname)⟩
    rintro rfl
    exact t.events_ne_nil (List.eq_nil_iff_forall_not_mem.mpr fun name hname =>
      List.not_mem_nil ((ht name).mp hname))
  · rintro ⟨hne, hknown⟩
    obtain ⟨name, hname⟩ := List.exists_mem_of_ne_nil names hne
    rw [ofEvents?_of_known hknown]
    rcases hknown name hname with rfl | rfl
    · rw [List.contains_iff_mem.mpr hname]
      cases names.contains "blur" <;> exact ⟨_, rfl⟩
    · rw [List.contains_iff_mem.mpr hname]
      cases names.contains "change" <;> exact ⟨_, rfl⟩

/-! ## The written form of events -/

theorem mapM_asString?_map (names : List String) :
    (names.map Value.string).mapM Value.asString? = some names := by
  induction names with
  | nil => rfl
  | cons name names ih =>
      rw [List.map_cons, List.mapM_cons, ih]
      rfl

theorem eq_map_of_mapM_asString? {items : List Value} {names : List String}
    (h : items.mapM Value.asString? = some names) : items = names.map Value.string := by
  induction items generalizing names with
  | nil =>
      cases h
      rfl
  | cons item items ih =>
      rw [List.mapM_cons] at h
      obtain ⟨name, hname, h⟩ := Option.bind_eq_some_iff.mp h
      obtain ⟨rest, hrest, h⟩ := Option.bind_eq_some_iff.mp h
      cases h
      rw [List.map_cons, ih hrest]
      cases item with
      | string s =>
          cases hname
          rfl
      | _ => cases hname

theorem ofValue?_names (names : List String) :
    ofValue? (.array (names.map .string)) = ofEvents? names := by
  rw [ofValue?, mapM_asString?_map]
  rfl

theorem ofValue?_toValue (t : Trigger) : ofValue? t.toValue = some t := by
  cases t <;> rfl

/-- A trigger is read from the name of an event, and from a list of such names that is not empty. -/
theorem isSome_ofValue?_iff {v : Value} :
    (ofValue? v).isSome = true ↔
      (v = .string "change" ∨ v = .string "blur") ∨
        ∃ items, v = .array items ∧ items ≠ [] ∧
          ∀ item ∈ items, item = .string "change" ∨ item = .string "blur" := by
  constructor
  · intro h
    cases v with
    | string name =>
        have hknown := (isSome_ofEvents?_iff.mp h).2 name List.mem_cons_self
        rcases hknown with rfl | rfl
        · exact .inl (.inl rfl)
        · exact .inl (.inr rfl)
    | array items =>
        obtain ⟨t, ht⟩ := Option.isSome_iff_exists.mp h
        obtain ⟨names, hnames, ht⟩ := Option.bind_eq_some_iff.mp ht
        obtain ⟨hne, hknown⟩ := isSome_ofEvents?_iff.mp (Option.isSome_of_mem ht)
        rw [eq_map_of_mapM_asString? hnames]
        refine .inr ⟨_, rfl, by simpa using hne, ?_⟩
        simpa using hknown
    | _ => cases h
  · rintro ((rfl | rfl) | ⟨items, rfl, hne, hknown⟩)
    · rfl
    · rfl
    · have hitems : items ∈ Set.range (List.map Value.string) := by
        rw [Set.range_list_map]
        intro item hitem
        rcases hknown item hitem with rfl | rfl <;> exact ⟨_, rfl⟩
      obtain ⟨names, rfl⟩ := hitems
      rw [ofValue?_names, isSome_ofEvents?_iff]
      exact ⟨by simpa using hne, by simpa using hknown⟩

end Trigger

/-! ## Values of a JSON text

A value that was read from a text, or put together by a program, holds integers of 64 bits only. -/

/-- Every integer in a value is in the signed or the unsigned 64-bit range. -/
inductive Json.Value.Ranged : Value → Prop
  | null : Ranged .null
  | bool (b : Bool) : Ranged (.bool b)
  | integer (w : Word) : Ranged w.value
  | float (x : Float) (h : x.isFinite = true) : Ranged (.number (.float x h))
  | string (s : String) : Ranged (.string s)
  | array {items : List Value} (h : ∀ v ∈ items, Ranged v) : Ranged (.array items)
  | object {members : Fields Value} (h : ∀ p ∈ members, Ranged p.2) : Ranged (.object members)

theorem Json.Value.Ranged.isFinite_of_float? {v : Value} (hv : v.Ranged) {x : Float}
    (h : Source.float? v = some x) : x.isFinite = true := by
  cases hv with
  | integer w =>
      cases h
      exact Decimal.isFinite_ofInt w.natAbs_lt
  | float x hx =>
      cases h
      exact hx
  | _ => cases h

namespace Rule.Meta

/-! ## Writing -/

structure Writable (m : Meta) : Prop where
  min : ∀ x, m.min = some x → x.isFinite = true
  max : ∀ x, m.max = some x → x.isFinite = true

theorem member_eq (name : String) (v : Option Value) :
    member name v = v.toList.map fun v => (name, v) := by
  cases v <;> rfl

theorem keys_member (name : String) (v : Option Value) :
    ((member name v).map Prod.fst).Sublist [name] := by
  rw [member_eq]
  exact keys_optional name v

theorem members_sublist (m : Meta) : (m.members.map Prod.fst).Sublist fieldNames := by
  simp only [members, List.map_append]
  exact ((((((keys_member "type" _).append (keys_member "required" _)).append
    (keys_member "message" _)).append (keys_member "min" _)).append
    (keys_member "max" _)).append (keys_member "trigger" _)).append (List.Sublist.refl _)

theorem nodup_members (m : Meta) : (m.members.map Prod.fst).Nodup :=
  m.members_sublist.nodup (by decide)

/-! ## Reading -/

/-- The members of the written form with another value for the trigger. -/
def withTrigger (m : Meta) (v : Value) : Value :=
  .object (Fields.insert "trigger" v (Fields.ofList m.members))

/-- Reading the written form reads the trigger from whatever stands in its place. -/
theorem read?_of_trigger {m : Meta} (h : m.Writable) {fields : Fields Value}
    (hasc : fields.Ascending) (hsub : fields.map Prod.fst ⊆ fieldNames)
    (hget : ∀ name, name ≠ "trigger" → fields.get? name = Fields.get? name m.members) :
    read? (Value.object fields)
      = (Source.optional? Trigger.ofValue? (fields.get? "trigger")).map fun t =>
          { m with trigger := t } := by
  have hrecord : Source.record? fieldNames false fieldNames.length (Value.object fields)
      = some [m.type.map fun t => .string t.name, m.required.map .bool, m.message.map .string,
          m.min.map .ofFloat, m.max.map .ofFloat, fields.get? "trigger",
          some (.bool m.validator)] := by
    rw [Source.record?_object false _ hasc hsub]
    simp [fieldNames, hget, members, member_eq, Fields.get?_append, Fields.get?_optional, Fields.get?]
  have htype : Source.optional? (fun s => (Source.name? s).bind FieldType.ofName?)
      (m.type.map fun t => Value.string t.name) = some m.type :=
    Source.optional?_map fun t _ => ⟨rfl, t.read?_name⟩
  have hrequired : Source.optional? Source.flag? (m.required.map Value.bool) = some m.required :=
    Source.optional?_map fun _ _ => ⟨rfl, rfl⟩
  have hmessage : Source.optional? Source.text? (m.message.map Value.string) = some m.message :=
    Source.optional?_map fun _ _ => ⟨rfl, rfl⟩
  have hmin : Source.optional? Source.float? (m.min.map Value.ofFloat) = some m.min :=
    Source.optional?_map fun x hx => Value.read_ofFloat (h.min x hx)
  have hmax : Source.optional? Source.float? (m.max.map Value.ofFloat) = some m.max :=
    Source.optional?_map fun x hx => Value.read_ofFloat (h.max x hx)
  have htrigger : Source.optional? (fun s => (Source.value? s).bind Trigger.ofValue?)
      (fields.get? "trigger") = Source.optional? Trigger.ofValue? (fields.get? "trigger") := rfl
  unfold read?
  rw [hrecord]
  simp only [Option.bind_eq_bind, Option.bind_some, htype, hrequired, hmessage, hmin, hmax, htrigger]
  cases Source.optional? Trigger.ofValue? (fields.get? "trigger") <;> rfl

theorem read?_toValue {m : Meta} (h : m.Writable) : read? m.toValue = some m := by
  have hget : ∀ name, (Fields.ofList m.members).get? name = Fields.get? name m.members :=
    fun name => Fields.get?_ofList name m.nodup_members
  have hsub : (Fields.ofList m.members).map Prod.fst ⊆ fieldNames := fun name hname =>
    m.members_sublist.subset ((Fields.mem_keys_ofList m.nodup_members).mp hname)
  have htrigger : Fields.get? "trigger" m.members = m.trigger.map Trigger.toValue := by
    simp [members, member_eq, Fields.get?_append, Fields.get?_optional, Fields.get?]
  have hread : Source.optional? Trigger.ofValue? (m.trigger.map Trigger.toValue)
      = some m.trigger :=
    Source.optional?_map fun t _ => ⟨by cases t <;> rfl, t.ofValue?_toValue⟩
  rw [toValue, read?_of_trigger h (Fields.ascending_ofList _) hsub fun name _ => hget name, hget,
    htrigger, hread]
  rfl

theorem read?_withTrigger {m : Meta} (h : m.Writable) {v : Value} (hv : v ≠ .null) :
    read? (m.withTrigger v) = (Trigger.ofValue? v).map fun t => { m with trigger := some t } := by
  have hget : ∀ name, name ≠ "trigger" →
      ((Fields.ofList m.members).insert "trigger" v).get? name = Fields.get? name m.members := by
    intro name hname
    rw [Fields.get?_insert_of_ne hname, Fields.get?_ofList name m.nodup_members]
  have hsub : ((Fields.ofList m.members).insert "trigger" v).map Prod.fst ⊆ fieldNames := by
    intro name hname
    rcases Fields.mem_keys_insert hname with rfl | hname
    · decide
    · exact m.members_sublist.subset ((Fields.mem_keys_ofList m.nodup_members).mp hname)
  have hnull : Source.isNull? v = some false := by
    cases v <;> first | rfl | exact absurd rfl hv
  rw [withTrigger, read?_of_trigger h (Fields.ascending_insert _ _ (Fields.ascending_ofList _)) hsub
    hget, Fields.get?_insert_self]
  simp only [Source.optional?, hnull, Option.bind_eq_bind, Option.bind_some]
  cases Trigger.ofValue? v <;> rfl

/-! ## What was read can be written -/

/-- If no number of the source is an infinity, what is read from it is writable. -/
theorem writable_of_read? {σ : Type} [Source σ] {source : σ} {m : Meta}
    (hfinite : ∀ fields, Source.record? fieldNames false fieldNames.length source = some fields →
      ∀ s, some s ∈ fields → ∀ x, Source.float? s = some x → x.isFinite = true)
    (h : read? source = some m) : m.Writable := by
  unfold read? at h
  obtain ⟨fields, hfields, h⟩ := Option.bind_eq_some_iff.mp h
  have hbound : ∀ {field : Option σ} {bound : Option Float}, field ∈ fields →
      Source.optional? Source.float? field = some bound →
        ∀ x, bound = some x → x.isFinite = true := by
    intro field bound hfield hread x hx
    subst hx
    obtain ⟨s, rfl, -, hfloat⟩ := Source.exists_of_optional? hread
    exact hfinite fields hfields s hfield x hfloat
  split at h
  · obtain ⟨type, -, h⟩ := Option.bind_eq_some_iff.mp h
    obtain ⟨required, -, h⟩ := Option.bind_eq_some_iff.mp h
    obtain ⟨message, -, h⟩ := Option.bind_eq_some_iff.mp h
    obtain ⟨min, hmin, h⟩ := Option.bind_eq_some_iff.mp h
    obtain ⟨max, hmax, h⟩ := Option.bind_eq_some_iff.mp h
    obtain ⟨trigger, -, h⟩ := Option.bind_eq_some_iff.mp h
    obtain ⟨validator, -, h⟩ := Option.bind_eq_some_iff.mp h
    cases h
    exact ⟨hbound (by simp) hmin, hbound (by simp) hmax⟩
  · cases h

theorem writable_of_read?_text {source : Json.Rooted} {m : Meta} (h : read? source = some m) :
    m.Writable :=
  writable_of_read? (fun _ _ _ _ _ => Json.Rooted.isFinite_of_float?) h

theorem writable_of_read?_value {v : Value} (hv : v.Ranged) {m : Meta} (h : read? v = some m) :
    m.Writable := by
  refine writable_of_read? (fun fields hfields s hs x hx => ?_) h
  have hranged : s.Ranged := by
    rcases Source.mem_of_record? hfields hs with ⟨items, hitems, hmem⟩ | ⟨members, name, hmembers, hmem⟩
    · cases hv with
      | array hall =>
          cases hitems
          exact hall s hmem
      | _ => cases hitems
    · cases hv with
      | object hall =>
          cases hmembers
          exact hall (name, s) hmem
      | _ => cases hmembers
  exact hranged.isFinite_of_float? hx

/-! ## The round trip -/

/-- What a rule shows of itself reads back: a meta with finite bounds from its written form, and
whatever was read, from a value or a text, from the form in which it is written again.  Where the
trigger stands, the name of an event is read, or a list of such names that is not empty, and nothing
else but null.  A list of names stands for the trigger with the same set of events, if there is one
name at least and all are known; their order and repetitions do not matter. -/
theorem written_meta_reads_back :
    (∀ m : Meta, m.Writable → read? m.toValue = some m) ∧
      (∀ v : Value, v.Ranged → ∀ m, read? v = some m → read? m.toValue = some m) ∧
      (∀ text source m, Json.Rooted.parse? text = some source → read? source = some m →
        read? m.toValue = some m) ∧
      (∀ m : Meta, m.Writable → ∀ v : Value, v ≠ .null →
        read? (m.withTrigger v) = (Trigger.ofValue? v).map fun t => { m with trigger := some t }) ∧
      (∀ v : Value, (Trigger.ofValue? v).isSome = true ↔
        (v = .string "change" ∨ v = .string "blur") ∨
          ∃ items, v = .array items ∧ items ≠ [] ∧
            ∀ item ∈ items, item = .string "change" ∨ item = .string "blur") ∧
      ∀ names : List String,
        Trigger.ofValue? (.array (names.map .string)) = Trigger.ofEvents? names ∧
        ((Trigger.ofEvents? names).isSome = true ↔
          names ≠ [] ∧ ∀ name ∈ names, name = "change" ∨ name = "blur") ∧
        (∀ t, Trigger.ofEvents? names = some t ↔ ∀ name, name ∈ t.events ↔ name ∈ names) ∧
        ∀ other : List String, (∀ name, name ∈ names ↔ name ∈ other) →
          Trigger.ofEvents? names = Trigger.ofEvents? other := by
  refine ⟨fun m => read?_toValue, fun v hv m h => ?_, fun text source m _ h => ?_,
    fun m hm v => read?_withTrigger hm, fun v => Trigger.isSome_ofValue?_iff, fun names =>
      ⟨Trigger.ofValue?_names names, Trigger.isSome_ofEvents?_iff,
        fun t => Trigger.ofEvents?_eq_some_iff, fun other => Trigger.ofEvents?_congr⟩⟩
  · exact read?_toValue (writable_of_read?_value hv h)
  · exact read?_toValue (writable_of_read?_text h)

/-- All fields in a list, the bounds as integers, and each event twice. -/
theorem written_meta_reads_back_of_listed_fields :
    let v : Value := .array [.object [("number", .null)], .bool true, .null,
      .number (.integer (-3)), .number (.integer 18446744073709551615),
      .array [.string "blur", .string "change", .string "blur", .string "change"], .bool false]
    let m : Meta := { type := some .number, required := some true, min := some (-3.0),
                      max := some 18446744073709551616.0, trigger := some .both, validator := false }
    v.Ranged ∧ read? v = some m ∧ read? m.toValue = some m := by
  intro v m
  have hv : v.Ranged := by
    have hname : (Value.object [("number", .null)]).Ranged := .object fun p hp => by
      rw [List.mem_singleton.mp hp]
      exact .null
    have hevents : (Value.array [.string "blur", .string "change", .string "blur",
        .string "change"]).Ranged := .array fun v hv => by
      simp only [List.mem_cons, List.not_mem_nil, or_false] at hv
      rcases hv with rfl | rfl | rfl | rfl <;> exact .string _
    refine .array fun v hv => ?_
    simp only [List.mem_cons, List.not_mem_nil, or_false] at hv
    rcases hv with rfl | rfl | rfl | rfl | rfl | rfl | rfl
    · exact hname
    · exact .bool true
    · exact .null
    · exact .integer ⟨-3, by decide⟩
    · exact .integer ⟨18446744073709551615, by decide⟩
    · exact hevents
    · exact .bool false
  have hread : read? v = some m := rfl
  exact ⟨hv, hread, written_meta_reads_back.2.1 v hv m hread⟩

end Rule.Meta

end FieldRules

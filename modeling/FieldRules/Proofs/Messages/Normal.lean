/-
# `Proofs.Messages.Normal` — tables hold no dotted keys

An override may spell a path with dots at any depth, and a merge cuts every key it meets.  So a
table that is only ever merged into holds keys of one segment each, in order, down to its leaves: it
is in normal form (`Normal`, throughout the table).  Three things come of this.

* Every leaf has its flat key: a path of keys without dots is spelt by exactly one key.
* Merging a table in normal form goes member by member (`get?_mergeMembers`): a leaf of it takes the
  place of what was there, a mapping merges into the mapping there, and the rest stays.
* A table is read back from its own value.

`Table.Reachable` are the tables that merging makes out of the empty and the built-in one.  What is
merged is arbitrary: any value, and any table, in normal form or not.
-/
import FieldRules.Messages.BuiltIn
import FieldRules.Proofs.Messages.Entries
import Mathlib.Logic.ExistsUnique

namespace FieldRules.Messages

open Json (Value Fields)

/-! ## Keys of one segment -/

def Undotted (key : String) : Prop := '.' ∉ key.toList

theorem undotted_of_mem_segments {key segment : String} (h : segment ∈ segments key) :
    Undotted segment := by
  obtain ⟨piece, hpiece, rfl⟩ := List.mem_map.mp h
  unfold Undotted
  rw [String.toList_ofList]
  exact Text.not_mem_of_mem_splitAt hpiece

/-- A key is spelt by its segments. -/
theorem eq_of_segments_eq {a b : String} (h : segments a = segments b) : a = b := by
  have hpieces : Text.splitAt '.' a.toList = Text.splitAt '.' b.toList :=
    (List.map_inj_right fun _ _ => String.ofList_inj.mp).mp h
  rw [Text.splitAt_eq_splitOn, Text.splitAt_eq_splitOn] at hpieces
  have hjoined := congrArg ['.'].intercalate hpieces
  rwa [List.intercalate_splitOn, List.intercalate_splitOn, String.toList_inj] at hjoined

theorem exists_segments_eq {path : List String} (hne : path ≠ [])
    (h : ∀ key ∈ path, Undotted key) : ∃ key, segments key = path := by
  refine ⟨String.ofList (['.'].intercalate (path.map String.toList)), ?_⟩
  have hpieces : ∀ piece ∈ path.map String.toList, '.' ∉ piece := by
    intro piece hpiece
    obtain ⟨key, hkey, rfl⟩ := List.mem_map.mp hpiece
    exact h key hkey
  have hne' : path.map String.toList ≠ [] := fun hnil => hne (List.map_eq_nil_iff.mp hnil)
  rw [segments, String.toList_ofList, Text.splitAt_eq_splitOn,
    List.splitOn_intercalate '.' hpieces hne', List.map_map]
  simp [Function.comp_def]

theorem segments_of_undotted {key : String} (h : Undotted key) : segments key = [key] := by
  have hpieces : key.toList.splitOn '.' = [key.toList] :=
    List.splitOnP_eq_singleton fun c hc => beq_eq_false_iff_ne.mpr (ne_of_mem_of_not_mem hc h)
  rw [segments, Text.splitAt_eq_splitOn, hpieces]
  simp

/-! ## Normal form -/

/-- Members in order, whose keys hold no dots. -/
structure Normal (fields : Fields Value) : Prop where
  ascending : fields.Ascending
  undotted : ∀ key ∈ fields.map Prod.fst, Undotted key

theorem stable_normal : Stable Normal where
  nil := ⟨List.Pairwise.nil, nofun⟩
  insert v _ hkey h :=
    ⟨Fields.ascending_insert _ v h.ascending, fun _ hother =>
      (Fields.mem_keys_insert hother).elim (fun heq => heq ▸ undotted_of_mem_segments hkey)
        (h.undotted _)⟩

theorem Throughout.ascending {fields : Fields Value} (h : Throughout Normal fields) :
    Throughout Fields.Ascending fields := h.mono fun _ hnormal => hnormal.ascending

theorem undotted_of_lookupPath {fields : Fields Value} (h : Throughout Normal fields)
    {path : List String} {v : Value} (hget : lookupPath path fields = some v) :
    ∀ key ∈ path, Undotted key := by
  induction path generalizing fields with
  | nil => cases hget
  | cons key path ih =>
      have hfound : (fields.get? key).isSome = true := by
        cases path with
        | nil => exact Option.isSome_of_eq_some hget
        | cons next rest =>
            cases hkey : fields.get? key with
            | some _ => rfl
            | none =>
                rw [lookupPath_cons key (List.cons_ne_nil next rest), child, hkey,
                  lookupPath_nil_fields] at hget
                cases hget
      have hundotted : Undotted key :=
        h.here.undotted key ((Fields.mem_keys_iff key fields).mpr hfound)
      intro other hother
      rcases List.mem_cons.mp hother with rfl | hbehind
      · exact hundotted
      · have hne : path ≠ [] := List.ne_nil_of_mem hbehind
        rw [lookupPath_cons key hne] at hget
        exact ih (h.child stable_normal key) hget other hbehind

/-! ## Merging a table in normal form -/

/-- A value over the members that stand at its place: a mapping merges into them, anything else
replaces them. -/
def overlay : Value → Fields Value → Value
  | .object members, below => .object (mergeMembers members below)
  | leaf, _ => leaf

theorem leaf?_overlay (v : Value) (below : Fields Value) : leaf? (overlay v below) = leaf? v := by
  cases v <;> rfl

theorem mergeValue_single (key : String) (v : Value) (fields : Fields Value) :
    mergeValue [key] v fields = fields.insert key (overlay v (child fields key)) := by
  cases v <;> rfl

/-- Members in normal form are merged in one by one. -/
theorem get?_mergeMembers {members : Fields Value} (h : Normal members) (fields : Fields Value)
    (key : String) :
    (mergeMembers members fields).get? key
      = match members.get? key with
        | some v => some (overlay v (child fields key))
        | none => fields.get? key := by
  induction members generalizing fields with
  | nil => rfl
  | cons p rest ih =>
      obtain ⟨k, v⟩ := p
      obtain ⟨hfirst, hascending⟩ := List.pairwise_cons.mp h.ascending
      have hrest : Normal rest := ⟨hascending, fun k hk => h.undotted k (List.mem_cons_of_mem _ hk)⟩
      rw [mergeMembers, segments_of_undotted (h.undotted k List.mem_cons_self), mergeValue_single,
        ih hrest, Fields.get?]
      by_cases hkey : k = key
      · -- the members behind the first have other keys
        subst hkey
        rw [Fields.get?_eq_none_of_lt hfirst, if_pos rfl, Fields.get?_insert_self]
      · rw [if_neg hkey, Fields.get?_insert_of_ne (Ne.symm hkey), child_insert_of_ne (Ne.symm hkey)]

theorem child_mergeMembers {members : Fields Value} (h : Normal members) (fields : Fields Value)
    (key : String) :
    child (mergeMembers members fields) key
      = match members.get? key with
        | some (.object below) => mergeMembers below (child fields key)
        | some _ => []
        | none => child fields key := by
  rw [child, get?_mergeMembers h]
  cases members.get? key with
  | none => rfl
  | some v => cases v <;> rfl

theorem mergeMembers_nil_fields {fields : Fields Value} (h : Throughout Normal fields) :
    mergeMembers fields [] = fields := by
  induction h with
  | @intro fields here below ih =>
      have hmerged := Throughout.mergeMembers stable_normal fields (.nil stable_normal)
      refine hmerged.here.ascending.ext here.ascending fun key => ?_
      rw [get?_mergeMembers here]
      cases hget : fields.get? key with
      | none => rfl
      | some v =>
          cases v with
          | object members =>
              have hmembers : mergeMembers members [] = members := ih key members hget
              exact congrArg (fun below => some (Value.object below)) hmembers
          | _ => rfl

/-! ## The tables that come about -/

namespace Table

/-- The tables that are made of the empty and the built-in one. -/
inductive Reachable : Table → Prop where
  | empty : Reachable empty
  | builtIn : Reachable builtIn
  | insert {t : Table} (key template : String) : Reachable t → Reachable (t.insert key template)
  | merge {t merged : Table} (override : Value) : Reachable t → t.merge override = .ok merged →
      Reachable merged
  | mergeTable {t : Table} (other : Table) : Reachable t → Reachable (t.mergeTable other)
  | ofValue {t : Table} (v : Value) : ofValue v = .ok t → Reachable t

theorem normal_mergeFields {t : Table} (h : Throughout Normal t.entries) (members : Fields Value) :
    Throughout Normal (t.mergeFields members).entries := h.mergeMembers stable_normal members

theorem normal_of_merge {t merged : Table} {override : Value}
    (ht : Throughout Normal t.entries) (h : t.merge override = .ok merged) :
    Throughout Normal merged.entries := by
  cases override with
  | object members =>
      cases h
      exact normal_mergeFields ht members
  | _ => cases h

theorem normal_builtIn : Throughout Normal builtIn.entries := by
  have hfold : ∀ (templates : List (String × String)) (t : Table), Throughout Normal t.entries →
      Throughout Normal (templates.foldl (fun t p => t.insert p.1 p.2) t).entries := by
    intro templates
    induction templates with
    | nil => exact fun _ ht => ht
    | cons p templates ih => exact fun t ht => ih (t.insert p.1 p.2) (normal_mergeFields ht _)
  exact hfold builtInTemplates .empty (Throughout.nil stable_normal)

theorem Reachable.normal {t : Table} (h : t.Reachable) : Throughout Normal t.entries := by
  induction h with
  | empty => exact Throughout.nil stable_normal
  | builtIn => exact normal_builtIn
  | insert key template _ ih => exact normal_mergeFields ih _
  | merge override _ hmerge ih => exact normal_of_merge ih hmerge
  | mergeTable other _ ih => exact normal_mergeFields ih other.entries
  | ofValue v hv => exact normal_of_merge (Throughout.nil stable_normal) hv

/-- No key of a table that comes about holds a dot, at the root or in a mapping below it.  So each
of its texts is found under one key, and the table is what its own value describes. -/
theorem Reachable.keys_of_one_segment {t : Table} (h : t.Reachable) :
    Throughout (fun members => ∀ key ∈ members.map Prod.fst, '.' ∉ key.toList) t.entries ∧
    (∀ path s, lookupPath path t.entries = some (.string s) →
      ∃! key, segments key = path ∧ t.get? key = some s) ∧
    Table.ofValue t.toValue = .ok t := by
  have hnormal := h.normal
  refine ⟨hnormal.mono fun _ hmembers => hmembers.undotted, fun path s hs => ?_, ?_⟩
  · have hne : path ≠ [] := by
      rintro rfl
      cases hs
    obtain ⟨key, hkey⟩ := exists_segments_eq hne (undotted_of_lookupPath hnormal hs)
    refine ⟨key, ⟨hkey, ?_⟩, fun other hother => ?_⟩
    · rw [get?, hkey, hs]
      rfl
    · exact eq_of_segments_eq (hother.1.trans hkey.symm)
  · have hself : Table.empty.mergeFields t.entries = t := Table.ext (mergeMembers_nil_fields hnormal)
    exact congrArg Except.ok hself

/-- A table with dotted keys is merged in, one of which goes on behind the other's text. -/
theorem Reachable.keys_of_one_segment_of_overlap :
    ∃ other : Table, other.entries = [("a.b", .object [("c", .string "x"), ("c.d", .string "y")])] ∧
      let t := (Table.empty.insert "a" "u").mergeTable other
      t.Reachable ∧ t.get? "a.b.c.d" = some "y" ∧
        Throughout (fun members => ∀ key ∈ members.map Prod.fst, '.' ∉ key.toList) t.entries ∧
        (∀ path s, lookupPath path t.entries = some (.string s) →
          ∃! key, segments key = path ∧ t.get? key = some s) ∧
        Table.ofValue t.toValue = .ok t := by
  let below : Fields Value := [("c", .string "x"), ("c.d", .string "y")]
  have hascending : below.Ascending :=
    show ["c", "c.d"].Pairwise (· < ·) by decide +kernel
  have hbelow : Throughout Fields.Ascending below := .intro hascending fun key members hget => by
    have hmem := hascending.mem_iff.mpr hget
    simp [below] at hmem
  have hsingle : Fields.Ascending [("a.b", Value.object below)] := List.pairwise_singleton _ _
  have hordered : Throughout Fields.Ascending [("a.b", .object below)] :=
    .intro hsingle fun key members hget => by
      obtain ⟨-, rfl⟩ : key = "a.b" ∧ members = below := by
        simpa using hsingle.mem_iff.mpr hget
      exact hbelow
  refine ⟨⟨_, hordered⟩, rfl, ?_⟩
  intro t
  have ht : t.Reachable := .mergeTable _ (.insert "a" "u" .empty)
  have hget : (lookupPath (segments "a.b.c.d") (mergeMembers
      [("a.b", .object [("c", .string "x"), ("c.d", .string "y")])]
      [("a", .string "u")])).bind Value.asString? = some "y" := by decide +kernel
  exact ⟨ht, hget, ht.keys_of_one_segment⟩

end Table

end FieldRules.Messages

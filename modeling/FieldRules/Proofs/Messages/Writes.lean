/-
# `Proofs.Messages.Writes` — an override is a list of writes

An override of a message table nests mappings and writes some of their keys with dots.  `writes`
lists what it puts where, in the order in which merging comes to it: the members of a mapping in
their order, a mapping before its members, and every key cut at its dots.  `mergeMembers_eq_replay`
says that merging the override is nothing but making these writes one after the other.

Members are in ascending order of their keys, so this order is that of the keys and, below a key, of
the depth.  The statements do not depend on it.
-/
import FieldRules.Messages.Table
import FieldRules.Proofs.Json.Fields

namespace FieldRules.Messages

open Json (Value Fields)

/-! ## Changing the members at a path -/

theorem segments_ne_nil (key : String) : segments key ≠ [] := by
  unfold segments
  intro h
  exact Text.splitAt_ne_nil _ _ (List.map_eq_nil_iff.mp h)

@[simp] theorem child_insert_self (key : String) (members fields : Fields Value) :
    child (fields.insert key (.object members)) key = members := by
  rw [child, Fields.get?_insert_self]

theorem updateAt_append (change : Fields Value → Fields Value) (path rest : List String)
    (fields : Fields Value) :
    updateAt change (path ++ rest) fields = updateAt (updateAt change rest) path fields := by
  induction path generalizing fields with
  | nil => rfl
  | cons key path ih => rw [List.cons_append, updateAt, updateAt, ih]

theorem updateAt_updateAt (change earlier : Fields Value → Fields Value) (path : List String)
    (fields : Fields Value) :
    updateAt change path (updateAt earlier path fields)
      = updateAt (change ∘ earlier) path fields := by
  induction path generalizing fields with
  | nil => rfl
  | cons key path ih =>
      rw [updateAt, updateAt, updateAt, child_insert_self, ih, Fields.insert_insert_self]

theorem setLeaf_append (leaf : Value) (path : List String) {rest : List String} (h : rest ≠ [])
    (fields : Fields Value) :
    setLeaf leaf (path ++ rest) fields = updateAt (setLeaf leaf rest) path fields := by
  induction path generalizing fields with
  | nil => rfl
  | cons key path ih =>
      have hne : path ++ rest ≠ [] := fun hnil => h (List.append_eq_nil_iff.mp hnil).2
      rw [List.cons_append, updateAt, ← ih]
      cases hcons : path ++ rest with
      | nil => exact absurd hcons hne
      | cons next behind => rfl

/-! ## Writes -/

/-- One write: a leaf at a path, or a mapping if there is none. -/
structure Write where
  path : List String
  leaf? : Option Value

namespace Write

def apply (fields : Fields Value) (w : Write) : Fields Value :=
  match w.leaf? with
  | some leaf => setLeaf leaf w.path fields
  | none => updateAt id w.path fields

def under (path : List String) (w : Write) : Write := { w with path := path ++ w.path }

/-- A write goes somewhere, and its leaf is no mapping. -/
structure Proper (w : Write) : Prop where
  path_ne_nil : w.path ≠ []
  leaf_eq : ∀ leaf, w.leaf? = some leaf → leaf.asObject? = none

theorem apply_under (path : List String) {w : Write} (hw : w.Proper)
    (earlier : Fields Value → Fields Value) (fields : Fields Value) :
    (w.under path).apply (updateAt earlier path fields)
      = updateAt (fun members => w.apply (earlier members)) path fields := by
  obtain ⟨below, leaf?⟩ := w
  cases leaf? with
  | some leaf =>
      show setLeaf leaf (path ++ below) (updateAt earlier path fields) = _
      rw [setLeaf_append leaf path hw.path_ne_nil, updateAt_updateAt]
      rfl
  | none =>
      show updateAt id (path ++ below) (updateAt earlier path fields) = _
      rw [updateAt_append, updateAt_updateAt]
      rfl

end Write

def replay (ws : List Write) (fields : Fields Value) : Fields Value := ws.foldl Write.apply fields

/-- Writes below a path, made where the members at the path were changed, change them further. -/
theorem replay_map_under (path : List String) {ws : List Write} (hws : ∀ w ∈ ws, w.Proper)
    (earlier : Fields Value → Fields Value) (fields : Fields Value) :
    replay (ws.map (Write.under path)) (updateAt earlier path fields)
      = updateAt (fun members => replay ws (earlier members)) path fields := by
  induction ws generalizing earlier with
  | nil => rfl
  | cons w ws ih =>
      show replay (ws.map (Write.under path))
          ((w.under path).apply (updateAt earlier path fields)) = _
      rw [Write.apply_under path (hws w List.mem_cons_self),
        ih fun u hu => hws u (List.mem_cons_of_mem _ hu)]
      rfl

/-! ## The writes of an override -/

mutual

/-- The writes of a value at a path. -/
def valueWrites (path : List String) : Value → List Write
  | .object members => ⟨path, none⟩ :: writes path members
  | leaf => [⟨path, some leaf⟩]

/-- The writes of the members of a mapping at a path. -/
def writes (path : List String) : List (String × Value) → List Write
  | [] => []
  | (key, value) :: rest => valueWrites (path ++ segments key) value ++ writes path rest

end

mutual

theorem valueWrites_append (path below : List String) :
    ∀ v : Value, valueWrites (path ++ below) v = (valueWrites below v).map (Write.under path)
  | .object members => by
      rw [valueWrites, valueWrites, List.map_cons, writes_append path below members]
      rfl
  | .null | .bool _ | .number _ | .string _ | .array _ => rfl

theorem writes_append (path below : List String) :
    ∀ members : List (String × Value),
      writes (path ++ below) members = (writes below members).map (Write.under path)
  | [] => rfl
  | (key, value) :: rest => by
      rw [writes, writes, List.map_append, List.append_assoc,
        valueWrites_append path (below ++ segments key) value, writes_append path below rest]

end

/-- The writes of a mapping at a path are its writes from the root, below the path. -/
theorem writes_eq_map_under (path : List String) (members : List (String × Value)) :
    writes path members = (writes [] members).map (Write.under path) := by
  have h := writes_append path [] members
  rwa [List.append_nil] at h

mutual

theorem proper_of_mem_valueWrites {path : List String} (hpath : path ≠ []) :
    ∀ (v : Value), ∀ w ∈ valueWrites path v, w.Proper
  | .object members => by
      intro w hw
      rw [valueWrites] at hw
      rcases List.mem_cons.mp hw with rfl | hw
      · exact ⟨hpath, nofun⟩
      · exact proper_of_mem_writes path members w hw
  | .null | .bool _ | .number _ | .string _ | .array _ => by
      intro w hw
      cases List.mem_singleton.mp hw
      exact ⟨hpath, fun leaf hleaf => by cases hleaf; rfl⟩

theorem proper_of_mem_writes (path : List String) :
    ∀ (members : List (String × Value)), ∀ w ∈ writes path members, w.Proper
  | [] => fun w hw => absurd hw List.not_mem_nil
  | (key, value) :: rest => by
      intro w hw
      rw [writes] at hw
      have hne : path ++ segments key ≠ [] := fun hnil =>
        segments_ne_nil key (List.append_eq_nil_iff.mp hnil).2
      rcases List.mem_append.mp hw with hw | hw
      · exact proper_of_mem_valueWrites hne value w hw
      · exact proper_of_mem_writes path rest w hw

end

/-! ## Merging is replaying -/

mutual

theorem mergeValue_eq_replay (path : List String) :
    ∀ (v : Value) (fields : Fields Value),
      mergeValue path v fields = replay (valueWrites path v) fields
  | .object members, fields => by
      have hmembers : mergeMembers members = replay (writes [] members) :=
        funext (mergeMembers_eq_replay members)
      have hunder := replay_map_under path (proper_of_mem_writes [] members) id fields
      rw [mergeValue, hmembers, valueWrites, writes_eq_map_under path members]
      exact hunder.symm
  | .null, _ | .bool _, _ | .number _, _ | .string _, _ | .array _, _ => rfl

/-- Merging an override makes its writes, in their order. -/
theorem mergeMembers_eq_replay :
    ∀ (members : List (String × Value)) (fields : Fields Value),
      mergeMembers members fields = replay (writes [] members) fields
  | [], _ => rfl
  | (key, value) :: rest, fields => by
      rw [mergeMembers, mergeMembers_eq_replay rest, mergeValue_eq_replay (segments key) value,
        writes]
      exact List.foldl_append.symm

end

end FieldRules.Messages

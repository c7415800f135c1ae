/-
# `Proofs.Messages.Entries` — the last write that concerns a path decides its entry

What a table holds at a path is a leaf, a mapping or nothing.  A write *concerns* a path if it is a
leaf at the path or on the way to it, a mapping at the path, or anything behind the path; the way to
a path through mappings is not touched by making them once more.  A write that concerns a path says
what stands there afterwards, and any other leaves it alone: `entryAt_apply` is this for one write,
and `entryAt_replay` for a run of them.

Mappings whose members are in order throughout are equal if they hold the same at every path
(`eq_of_entryAt`), and so tables are what they hold (`Table.ext_entryAt`).
-/
import FieldRules.Proofs.Messages.Writes

namespace FieldRules.Messages

open Json (Value Fields)

/-! ## Entries -/

/-- A value that is no mapping. -/
def leaf? : Value → Option Value
  | .object _ => none
  | leaf => some leaf

/-- What stands at a path: a leaf, or a mapping if it is no leaf. -/
def entryAt (path : List String) (fields : Fields Value) : Option (Option Value) :=
  (lookupPath path fields).map leaf?

theorem leaf?_eq_none_iff {v : Value} : leaf? v = none ↔ ∃ members, v = .object members := by
  cases v <;> simp [leaf?]

theorem eq_of_leaf?_eq_some {v leaf : Value} (h : leaf? v = some leaf) : v = leaf := by
  cases v with
  | object members => cases h
  | _ => exact Option.some.inj h

theorem leaf?_of_asObject? {v : Value} (h : v.asObject? = none) : leaf? v = some v := by
  cases v with
  | object members => cases h
  | _ => rfl

theorem lookupPath_nil_fields (path : List String) : lookupPath path [] = none := by
  cases path with
  | nil => rfl
  | cons key path => cases path <;> rfl

theorem lookupPath_cons (key : String) {path : List String} (h : path ≠ [])
    (fields : Fields Value) :
    lookupPath (key :: path) fields = lookupPath path (child fields key) := by
  obtain ⟨next, rest, rfl⟩ := List.exists_cons_of_ne_nil h
  unfold child
  rw [lookupPath]
  · cases fields.get? key with
    | none => rw [lookupPath_nil_fields]
    | some v => cases v <;> simp only [lookupPath_nil_fields]
  · exact List.cons_ne_nil _ _

@[simp] theorem entryAt_nil (fields : Fields Value) : entryAt [] fields = none := rfl

@[simp] theorem entryAt_nil_fields (path : List String) : entryAt path [] = none := by
  rw [entryAt, lookupPath_nil_fields, Option.map_none]

theorem entryAt_single (key : String) (fields : Fields Value) :
    entryAt [key] fields = (fields.get? key).map leaf? := rfl

theorem entryAt_cons (key : String) {path : List String} (h : path ≠ []) (fields : Fields Value) :
    entryAt (key :: path) fields = entryAt path (child fields key) := by
  rw [entryAt, lookupPath_cons key h, entryAt]

/-! ## Behind one member that is set -/

theorem child_insert_leaf (key : String) {leaf : Value} (h : leaf.asObject? = none)
    (fields : Fields Value) : child (fields.insert key leaf) key = [] := by
  rw [child, Fields.get?_insert_self]
  cases leaf with
  | object members => cases h
  | _ => rfl

theorem child_insert_of_ne {key other : String} (h : other ≠ key) (v : Value)
    (fields : Fields Value) : child (fields.insert key v) other = child fields other := by
  rw [child, Fields.get?_insert_of_ne h, child]

theorem entryAt_insert_object (key : String) (path : List String) (members fields : Fields Value) :
    entryAt (key :: path) (fields.insert key (.object members))
      = if path = [] then some none else entryAt path members := by
  cases path with
  | nil =>
      rw [entryAt_single, Fields.get?_insert_self]
      rfl
  | cons next rest =>
      rw [entryAt_cons key (List.cons_ne_nil next rest), child_insert_self,
        if_neg (List.cons_ne_nil next rest)]

theorem entryAt_insert_leaf (key : String) {leaf : Value} (hleaf : leaf.asObject? = none)
    (path : List String) (fields : Fields Value) :
    entryAt (key :: path) (fields.insert key leaf)
      = if path = [] then some (some leaf) else none := by
  cases path with
  | nil =>
      rw [entryAt_single, Fields.get?_insert_self, Option.map_some, leaf?_of_asObject? hleaf]
      rfl
  | cons next rest =>
      rw [entryAt_cons key (List.cons_ne_nil next rest), child_insert_leaf key hleaf,
        entryAt_nil_fields, if_neg (List.cons_ne_nil next rest)]

theorem entryAt_insert_of_ne {key other : String} (h : other ≠ key) (path : List String)
    (v : Value) (fields : Fields Value) :
    entryAt (other :: path) (fields.insert key v) = entryAt (other :: path) fields := by
  cases path with
  | nil => rw [entryAt_single, entryAt_single, Fields.get?_insert_of_ne h]
  | cons next rest =>
      rw [entryAt_cons _ (List.cons_ne_nil next rest), entryAt_cons _ (List.cons_ne_nil next rest),
        child_insert_of_ne h]

/-! ## The writes that concern a path -/

namespace Write

/-- `w.Concerns key`: the write is a leaf at the key or on the way to it, a mapping at the key, or
anything behind the key. -/
def Concerns (w : Write) (key : List String) : Prop :=
  (w.leaf?.isSome ∧ w.path <+: key) ∨ (w.leaf?.isNone ∧ w.path = key) ∨
    (key <+: w.path ∧ key ≠ w.path)

instance (w : Write) (key : List String) : Decidable (w.Concerns key) :=
  inferInstanceAs (Decidable (_ ∨ _ ∨ _))

/-- What a write that concerns a key leaves at it: what it writes if it is there, a mapping if it
goes on behind the key, and nothing if it is a leaf on the way. -/
def outcome (w : Write) (key : List String) : Option (Option Value) :=
  if w.path = key then some w.leaf? else if key <+: w.path then some none else none

theorem concerns_cons_iff {key : String} {path rest : List String} {leaf? : Option Value} :
    Concerns ⟨key :: path, leaf?⟩ (key :: rest) ↔ Concerns ⟨path, leaf?⟩ rest := by
  simp only [Concerns, List.cons_prefix_cons, List.cons.injEq, true_and, ne_eq]

theorem not_concerns_of_ne {key other : String} (h : other ≠ key) {path rest : List String}
    {leaf? : Option Value} : ¬ Concerns ⟨key :: path, leaf?⟩ (other :: rest) := by
  simp only [Concerns, List.cons_prefix_cons, List.cons.injEq, h, Ne.symm h, false_and, and_false,
    or_false, not_false_eq_true]

theorem outcome_cons (key : String) (path rest : List String) (leaf? : Option Value) :
    outcome ⟨key :: path, leaf?⟩ (key :: rest) = outcome ⟨path, leaf?⟩ rest := by
  simp only [outcome, List.cons.injEq, true_and, List.cons_prefix_cons]

/-! ## One write -/

/-- The writes by the first key of their path: a mapping at no path, which changes nothing, a leaf
under one key, and a write in the mapping under a key. -/
inductive Grounded : Write → Prop where
  | root : Grounded ⟨[], none⟩
  | leaf (key : String) {leaf : Value} : leaf.asObject? = none → Grounded ⟨[key], some leaf⟩
  | under (key : String) {path : List String} {leaf? : Option Value} :
      Grounded ⟨path, leaf?⟩ → Grounded ⟨key :: path, leaf?⟩

theorem Proper.grounded {w : Write} (hw : w.Proper) : w.Grounded := by
  obtain ⟨path, leaf?⟩ := w
  induction path with
  | nil => exact absurd rfl hw.path_ne_nil
  | cons key path ih =>
      cases path with
      | nil =>
          cases leaf? with
          | none => exact .under key .root
          | some leaf => exact .leaf key (hw.leaf_eq leaf rfl)
      | cons next rest => exact .under key (ih ⟨List.cons_ne_nil next rest, hw.leaf_eq⟩)

theorem Grounded.path_ne_nil_or {path : List String} {leaf? : Option Value}
    (h : Grounded ⟨path, leaf?⟩) : path ≠ [] ∨ leaf? = none := by
  cases h with
  | root => exact Or.inr rfl
  | leaf | under => exact Or.inl (List.cons_ne_nil _ _)

theorem apply_under_key (key : String) {path : List String} {leaf? : Option Value}
    (h : Grounded ⟨path, leaf?⟩) (fields : Fields Value) :
    apply fields ⟨key :: path, leaf?⟩
      = fields.insert key (.object (apply (child fields key) ⟨path, leaf?⟩)) := by
  cases leaf? with
  | none => rfl
  | some leaf =>
      have hpath : path ≠ [] := h.path_ne_nil_or.resolve_right (Option.some_ne_none leaf)
      exact setLeaf_append leaf [key] hpath fields

theorem Grounded.concerns_nil {w : Write} (h : w.Grounded) : w.Concerns [] := by
  cases h with
  | root => exact Or.inr (Or.inl ⟨rfl, rfl⟩)
  | leaf | under => exact Or.inr (Or.inr ⟨List.nil_prefix, (List.cons_ne_nil _ _).symm⟩)

theorem Grounded.outcome_nil {w : Write} (h : w.Grounded) : w.outcome [] = some none := by
  cases h with
  | root => rfl
  | leaf | under => rw [outcome, if_neg (List.cons_ne_nil _ _), if_pos List.nil_prefix]

end Write

open Write

/-- A write decides the entries at the paths that it concerns and leaves all others alone. -/
theorem entryAt_apply {w : Write} (hw : w.Grounded) {key : List String} (hkey : key ≠ [])
    (fields : Fields Value) :
    entryAt key (w.apply fields)
      = if w.Concerns key then w.outcome key else entryAt key fields := by
  obtain ⟨k, rest, rfl⟩ := List.exists_cons_of_ne_nil hkey
  induction hw generalizing k rest fields with
  | root =>
      rw [if_neg (by simp [Concerns])]
      rfl
  | @leaf first leaf hleaf =>
      have happly : apply fields ⟨[first], some leaf⟩ = fields.insert first leaf := rfl
      rw [happly]
      by_cases hfirst : k = first
      · subst hfirst
        have hconcerns : Concerns ⟨[k], some leaf⟩ (k :: rest) :=
          Or.inl ⟨rfl, List.cons_prefix_cons.mpr ⟨rfl, List.nil_prefix⟩⟩
        rw [entryAt_insert_leaf k hleaf, if_pos hconcerns, outcome_cons]
        cases rest with
        | nil => rfl
        | cons next rest => simp [outcome]
      · rw [entryAt_insert_of_ne hfirst, if_neg (not_concerns_of_ne hfirst)]
  | @under first path leaf? hw ih =>
      rw [apply_under_key first hw]
      by_cases hfirst : k = first
      · subst hfirst
        rw [entryAt_insert_object, outcome_cons]
        simp only [concerns_cons_iff]
        cases rest with
        | nil => rw [if_pos rfl, if_pos hw.concerns_nil, hw.outcome_nil]
        | cons next rest =>
            have hrest : next :: rest ≠ [] := List.cons_ne_nil next rest
            rw [if_neg hrest, ih (child fields k) next rest hrest, entryAt_cons k hrest]
      · rw [entryAt_insert_of_ne hfirst, if_neg (not_concerns_of_ne hfirst)]

/-! ## A run of writes -/

theorem exists_append_of_findRev? {ws : List Write} {path : List String} {w : Write}
    (h : (ws.findRev? fun w => w.Concerns path) = some w) :
    w.Concerns path ∧ ∃ before behind, ws = before ++ w :: behind
      ∧ ∀ u ∈ behind, ¬ u.Concerns path := by
  rw [List.findRev?_eq_find?_reverse, List.find?_eq_some_iff_append] at h
  obtain ⟨hw, behind, before, hws, hbehind⟩ := h
  refine ⟨of_decide_eq_true hw, before.reverse, behind.reverse, ?_, fun u hu => ?_⟩
  · have hrev := congrArg List.reverse hws
    simpa using hrev
  · simpa using hbehind u (List.mem_reverse.mp hu)

theorem mem_of_findRev?_concerns {ws : List Write} {path : List String} {w : Write}
    (h : (ws.findRev? fun w => w.Concerns path) = some w) : w ∈ ws ∧ w.Concerns path := by
  obtain ⟨hconcerns, before, behind, rfl, -⟩ := exists_append_of_findRev? h
  exact ⟨List.mem_append_right before List.mem_cons_self, hconcerns⟩

theorem findRev?_concerns_eq_none_iff {ws : List Write} {path : List String} :
    (ws.findRev? fun w => w.Concerns path) = none ↔ ∀ w ∈ ws, ¬ w.Concerns path := by
  rw [List.findRev?_eq_find?_reverse, List.find?_eq_none]
  simp

/-- The last write that concerns a path decides its entry. -/
theorem entryAt_replay {ws : List Write} (hws : ∀ w ∈ ws, w.Proper) {key : List String}
    (hkey : key ≠ []) (fields : Fields Value) :
    entryAt key (replay ws fields)
      = match ws.findRev? fun w => w.Concerns key with
        | some w => w.outcome key
        | none => entryAt key fields := by
  induction ws generalizing fields with
  | nil => rfl
  | cons w ws ih =>
      have hstep := entryAt_apply (hws w List.mem_cons_self).grounded hkey fields
      show entryAt key (replay ws (w.apply fields)) = _
      rw [ih (fun u hu => hws u (List.mem_cons_of_mem _ hu)), List.findRev?]
      cases ws.findRev? fun w => w.Concerns key with
      | some u => rfl
      | none =>
          show entryAt key (w.apply fields) = _
          rw [hstep]
          by_cases hc : w.Concerns key
          · simp [hc]
          · simp [hc]

/-! ## Tables by their entries -/

/-- Mappings with their members in order are equal if they hold the same at every path. -/
theorem eq_of_entryAt {a b : Fields Value} (ha : Throughout Fields.Ascending a)
    (hb : Throughout Fields.Ascending b) (h : ∀ path, entryAt path a = entryAt path b) : a = b := by
  induction ha generalizing b with
  | @intro a here below ih =>
      refine here.ext hb.here fun key => ?_
      have hkey := h [key]
      rw [entryAt_single, entryAt_single] at hkey
      cases hget : a.get? key with
      | none =>
          rw [hget, Option.map_none] at hkey
          exact (Option.map_eq_none_iff.mp hkey.symm).symm
      | some v =>
          rw [hget, Option.map_some] at hkey
          obtain ⟨v', hget', hleaf⟩ := Option.map_eq_some_iff.mp hkey.symm
          rw [hget']
          cases hv : leaf? v with
          | some leaf =>
              rw [hv] at hleaf
              rw [eq_of_leaf?_eq_some hv, eq_of_leaf?_eq_some hleaf]
          | none =>
              -- both are mappings, which hold the same below the key
              rw [hv] at hleaf
              obtain ⟨members, rfl⟩ := leaf?_eq_none_iff.mp hv
              obtain ⟨members', rfl⟩ := leaf?_eq_none_iff.mp hleaf
              have hbelow : ∀ path, entryAt path members = entryAt path members' := by
                intro path
                by_cases hpath : path = []
                · rw [hpath, entryAt_nil, entryAt_nil]
                · have hcons := h (key :: path)
                  rwa [entryAt_cons key hpath, entryAt_cons key hpath, child, child, hget,
                    hget'] at hcons
              rw [ih key members hget (hb.of_get? hget') hbelow]

theorem Table.ext_entryAt {a b : Table}
    (h : ∀ path, entryAt path a.entries = entryAt path b.entries) : a = b :=
  Table.ext (eq_of_entryAt a.ordered b.ordered h)

end FieldRules.Messages

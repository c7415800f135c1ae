/-
# `Proofs.Registry.Installations` — what a registry makes of installations

A registry takes an installation or refuses it, and what it refuses leaves no trace.  A registry
that began empty is decided by the installations that it took (`accepted`): under a name there is
the method of the last of them (`find?_afterAll`).  It never takes a reserved name and keeps the
names of a type in order; both are in `WellFormed`, which one installation preserves and therefore
any number.
-/
import FieldRules.Registry
import FieldRules.Proofs.Json.Fields

namespace FieldRules.Registry

variable {m : Type → Type}

/-! ## Putting a method -/

theorem find?_put_self (r : Registry m) (t : FieldType) (name : String) (e : Extension m) :
    (r.put t name e).find? t name = some e := by
  unfold find? put
  dsimp only
  rw [if_pos rfl]
  exact Json.Fields.get?_insert_self name e (r.methods t)

theorem find?_put_of_ne (r : Registry m) {t u : FieldType} {name other : String}
    (h : (u, other) ≠ (t, name)) (e : Extension m) :
    (r.put t name e).find? u other = r.find? u other := by
  unfold find? put
  dsimp only
  by_cases htype : u = t
  · subst htype
    have hname : other ≠ name := fun heq => h (by rw [heq])
    rw [if_pos rfl]
    exact Json.Fields.get?_insert_of_ne hname e (r.methods u)
  · rw [if_neg htype]

/-! ## One installation -/

namespace Installation

def type : Installation m → FieldType
  | .add t _ _ => t
  | .replace t _ _ => t

def name : Installation m → String
  | .add _ name _ => name
  | .replace _ name _ => name

def method : Installation m → Extension m
  | .add _ _ e => e
  | .replace _ _ e => e

/-- Whether the installation is for a name of a type. -/
def isFor (t : FieldType) (name : String) (i : Installation m) : Bool :=
  i.type == t && i.name == name

theorem isFor_iff {t : FieldType} {name : String} {i : Installation m} :
    i.isFor t name = true ↔ i.type = t ∧ i.name = name := by
  rw [isFor, Bool.and_eq_true, beq_iff_eq, beq_iff_eq]

end Installation

theorem install_add (r : Registry m) (t : FieldType) (name : String) (e : Extension m) :
    r.install (.add t name e)
      = if t.isBuiltIn name then .error (.reservedName t name)
        else if r.contains t name then .error (.duplicateMethod t name)
        else .ok (r.put t name e, none) := by
  rw [install, add]
  cases t.isBuiltIn name with
  | true => rfl
  | false => cases r.contains t name <;> rfl

theorem install_replace (r : Registry m) (t : FieldType) (name : String) (e : Extension m) :
    r.install (.replace t name e)
      = if t.isBuiltIn name then .error (.reservedName t name)
        else .ok (r.put t name e, some (r.contains t name)) := by
  rw [install, replace]
  cases t.isBuiltIn name <;> rfl

theorem install_eq_ok {r s : Registry m} {i : Installation m} {before : Option Bool}
    (h : r.install i = .ok (s, before)) :
    i.type.isBuiltIn i.name = false ∧ s = r.put i.type i.name i.method := by
  cases i with
  | add t name e =>
      rw [install_add] at h
      split at h
      · cases h
      · next hname =>
          split at h
          · cases h
          · cases h
            exact ⟨Bool.eq_false_iff.mpr hname, rfl⟩
  | replace t name e =>
      rw [install_replace] at h
      split at h
      · cases h
      · next hname =>
          cases h
          exact ⟨Bool.eq_false_iff.mpr hname, rfl⟩

def accepts (r : Registry m) (i : Installation m) : Bool := (r.install i).isOk

/-- The registry after an installation, which is the same if the installation is refused. -/
def after (r : Registry m) (i : Installation m) : Registry m :=
  match r.install i with
  | .ok (registry, _) => registry
  | .error _ => r

theorem after_of_accepts {r : Registry m} {i : Installation m} (h : r.accepts i = true) :
    i.type.isBuiltIn i.name = false ∧ r.after i = r.put i.type i.name i.method := by
  unfold accepts at h
  unfold after
  cases hi : r.install i with
  | error e => rw [hi] at h; cases h
  | ok installed =>
      obtain ⟨s, before⟩ := installed
      exact install_eq_ok hi

theorem after_of_refused {r : Registry m} {i : Installation m} (h : r.accepts i = false) :
    r.after i = r := by
  unfold accepts at h
  unfold after
  cases hi : r.install i with
  | ok installed => rw [hi] at h; cases h
  | error e => rfl

/-! ## Many installations -/

def afterAll (r : Registry m) (is : List (Installation m)) : Registry m := is.foldl after r

/-- The installations of a list that succeed, made one after the other. -/
def accepted (r : Registry m) : List (Installation m) → List (Installation m)
  | [] => []
  | i :: rest => if r.accepts i then i :: (r.after i).accepted rest else (r.after i).accepted rest

/-- The method that installations give last to a name of a type. -/
def lastMethod (is : List (Installation m)) (t : FieldType) (name : String) :
    Option (Extension m) :=
  ((is.filter (·.isFor t name)).getLast?).map Installation.method

theorem lastMethod_cons_of_isFor {i : Installation m} {t : FieldType} {name : String}
    (h : i.isFor t name = true) (rest : List (Installation m)) :
    lastMethod (i :: rest) t name = (lastMethod rest t name).or (some i.method) := by
  rw [lastMethod, lastMethod, List.filter_cons_of_pos h, List.getLast?_cons]
  cases (rest.filter (·.isFor t name)).getLast? <;> rfl

theorem lastMethod_cons_of_not_isFor {i : Installation m} {t : FieldType} {name : String}
    (h : i.isFor t name = false) (rest : List (Installation m)) :
    lastMethod (i :: rest) t name = lastMethod rest t name := by
  rw [lastMethod, lastMethod, List.filter_cons_of_neg (by rw [h]; exact Bool.false_ne_true)]

theorem lastMethod_isSome_iff (is : List (Installation m)) (t : FieldType) (name : String) :
    (lastMethod is t name).isSome = true ↔ ∃ i ∈ is, i.type = t ∧ i.name = name := by
  rw [lastMethod, Option.isSome_map, List.getLast?_isSome]
  constructor
  · intro h
    obtain ⟨i, hi⟩ := List.exists_mem_of_ne_nil _ h
    obtain ⟨hmem, hfor⟩ := List.mem_filter.mp hi
    exact ⟨i, hmem, Installation.isFor_iff.mp hfor⟩
  · rintro ⟨i, hmem, hfor⟩
    exact List.ne_nil_of_mem (List.mem_filter.mpr ⟨hmem, Installation.isFor_iff.mpr hfor⟩)

/-- Under a name there is the method that was put there last. -/
theorem find?_afterAll (r : Registry m) (is : List (Installation m)) (t : FieldType)
    (name : String) :
    (r.afterAll is).find? t name = (lastMethod (r.accepted is) t name).or (r.find? t name) := by
  induction is generalizing r with
  | nil => rfl
  | cons i rest ih =>
      show ((r.after i).afterAll rest).find? t name = _
      rw [ih, accepted]
      cases haccepts : r.accepts i with
      | false => rw [after_of_refused haccepts, if_neg Bool.false_ne_true]
      | true =>
          obtain ⟨_, hafter⟩ := after_of_accepts haccepts
          rw [if_pos rfl]
          cases hfor : i.isFor t name with
          | false =>
              -- the installation is for another name, or for another type
              have hne : (t, name) ≠ (i.type, i.name) := by
                rintro heq
                cases heq
                rw [Installation.isFor_iff.mpr ⟨rfl, rfl⟩] at hfor
                cases hfor
              rw [lastMethod_cons_of_not_isFor hfor, hafter, find?_put_of_ne r hne]
          | true =>
              rw [lastMethod_cons_of_isFor hfor]
              obtain ⟨rfl, rfl⟩ := Installation.isFor_iff.mp hfor
              rw [hafter, find?_put_self]
              cases lastMethod ((r.put i.type i.name i.method).accepted rest) i.type i.name <;> rfl

/-! ## Reserved names and the order of names -/

/-- No method has a reserved name, and the names of each type are in ascending order. -/
structure WellFormed (r : Registry m) : Prop where
  reserved (t : FieldType) (name : String) :
    t.isBuiltIn name = true → r.contains t name = false
  ascending (t : FieldType) : (r.methods t).Ascending

namespace WellFormed

theorem empty : WellFormed (empty : Registry m) := ⟨fun _ _ _ => rfl, fun _ => .nil⟩

theorem put {r : Registry m} (h : WellFormed r) {t : FieldType} {name : String}
    (hname : t.isBuiltIn name = false) (e : Extension m) : WellFormed (r.put t name e) where
  reserved u other hother := by
    have hne : (u, other) ≠ (t, name) := by
      rintro heq
      cases heq
      rw [hname] at hother
      cases hother
    rw [contains, find?_put_of_ne r hne]
    exact h.reserved u other hother
  ascending u := by
    unfold Registry.put
    dsimp only
    split
    · exact Json.Fields.ascending_insert name e (h.ascending u)
    · exact h.ascending u

theorem after {r : Registry m} (h : WellFormed r) (i : Installation m) :
    WellFormed (r.after i) := by
  cases haccepts : r.accepts i with
  | false =>
      rw [after_of_refused haccepts]
      exact h
  | true =>
      obtain ⟨hname, hafter⟩ := after_of_accepts haccepts
      rw [hafter]
      exact h.put hname i.method

theorem afterAll {r : Registry m} (h : WellFormed r) (is : List (Installation m)) :
    WellFormed (r.afterAll is) := by
  induction is generalizing r with
  | nil => exact h
  | cons i rest ih => exact ih (h.after i)

end WellFormed

theorem mem_names_iff (r : Registry m) (t : FieldType) (name : String) :
    name ∈ r.names t ↔ r.contains t name = true := Json.Fields.mem_keys_iff name (r.methods t)

end FieldRules.Registry

/-
# `Proofs.Source.Records` — records that are written as objects

A record is read from an object by its keys, and an object that is made from members of different
keys gives back each of them (`record?_ofList`), in whatever order they were given and whichever were
left out.  Whatever a record was read from, its fields are items or members of it (`mem_of_record?`).
A field that may be absent or null comes back as it was if its written form is neither null nor
misread (`optional?_map`); and what such a field was read from was no null (`exists_of_optional?`).
-/
import FieldRules.Source
import FieldRules.Proofs.Json.Fields

namespace FieldRules.Source

open Json (Value Fields)

variable {σ α : Type}

/-! ## Fields of a record -/

theorem assign_eq {names : List String} (strict : Bool) {members : List (String × σ)}
    (hnodup : (members.map Prod.fst).Nodup) (hsub : members.map Prod.fst ⊆ names) :
    assign names strict members = some members := by
  induction members with
  | nil => rfl
  | cons p rest ih =>
      obtain ⟨name, source⟩ := p
      obtain ⟨hfresh, hrest⟩ := List.nodup_cons.mp hnodup
      obtain ⟨hname, hsub⟩ := List.cons_subset.mp hsub
      have hunassigned : ¬rest.any (·.1 == name) = true := by
        rw [List.any_eq_true]
        rintro ⟨q, hmem, heq⟩
        exact hfresh (List.mem_map.mpr ⟨q, hmem, beq_iff_eq.mp heq⟩)
      rw [assign, ih hrest hsub]
      exact (if_pos hname).trans (if_neg hunassigned)

/-- Reading a record from an object whose members are fields finds in each field the member of its
name. -/
theorem record?_object {names : List String} (strict : Bool) (needed : Nat) {fields : Fields Value}
    (hasc : fields.Ascending) (hsub : fields.map Prod.fst ⊆ names) :
    record? names strict needed (Value.object fields)
      = some (names.map fun name => fields.get? name) := by
  have hassign : assign names strict fields = some fields := assign_eq strict hasc.nodup hsub
  calc record? names strict needed (Value.object fields)
      = (assign names strict fields).bind fun assigned =>
          some (names.map fun name => assigned.lookup name) := rfl
    _ = some (names.map fun name => fields.lookup name) := by
        rw [hassign]
        rfl
    _ = some (names.map fun name => fields.get? name) := by
        simp only [Fields.get?_eq_lookup]

/-- An object that is made from members of different names gives back each of them. -/
theorem record?_ofList {names : List String} (strict : Bool) (needed : Nat)
    {pairs : List (String × Value)} (hnodup : (pairs.map Prod.fst).Nodup)
    (hsub : pairs.map Prod.fst ⊆ names) :
    record? names strict needed (Value.object (Fields.ofList pairs))
      = some (names.map fun name => Fields.get? name pairs) := by
  have hkeys : (Fields.ofList pairs).map Prod.fst ⊆ names := fun key hkey =>
    hsub ((Fields.mem_keys_ofList hnodup).mp hkey)
  rw [record?_object strict needed (Fields.ascending_ofList pairs) hkeys]
  simp only [Fields.get?_ofList _ hnodup]

theorem sublist_of_assign {names : List String} {strict : Bool}
    {members assigned : List (String × σ)} (h : assign names strict members = some assigned) :
    assigned.Sublist members := by
  induction members generalizing assigned with
  | nil =>
      cases h
      exact List.Sublist.refl _
  | cons p rest ih =>
      obtain ⟨name, source⟩ := p
      obtain ⟨kept, hkept, h⟩ := Option.bind_eq_some_iff.mp h
      split at h
      · split at h
        · cases h
        · cases h
          exact (ih hkept).cons_cons _
      · split at h
        · cases h
        · cases h
          exact (ih hkept).cons _

/-- What a field was read from is an item or the value of a member. -/
theorem mem_of_record? [Source σ] {names : List String} {strict : Bool} {needed : Nat} {source : σ}
    {fields : List (Option σ)} (h : record? names strict needed source = some fields) {s : σ}
    (hs : some s ∈ fields) :
    (∃ items, listedFields? source = some items ∧ s ∈ items) ∨
      ∃ members name, members? source = some members ∧ (name, s) ∈ members := by
  unfold record? at h
  split at h
  · next items hitems =>
    split at h
    · cases h
      rcases List.mem_append.mp hs with hs | hs
      · obtain ⟨item, hitem, heq⟩ := List.mem_map.mp hs
        cases heq
        exact .inl ⟨items, hitems, hitem⟩
      · cases List.eq_of_mem_replicate hs
    · cases h
  · obtain ⟨members, hmembers, h⟩ := Option.bind_eq_some_iff.mp h
    obtain ⟨assigned, hassigned, h⟩ := Option.bind_eq_some_iff.mp h
    cases h
    obtain ⟨name, -, hlookup⟩ := List.mem_map.mp hs
    obtain ⟨before, after, heq, -⟩ := List.lookup_eq_some_iff.mp hlookup
    have hmem : (name, s) ∈ assigned := by
      rw [heq]
      exact List.mem_append_right _ List.mem_cons_self
    exact .inr ⟨members, name, hmembers, (sublist_of_assign hassigned).subset hmem⟩

/-! ## Fields that may be left out -/

variable [Source σ]

/-- A field comes back as it was if its written form is no null and is read as what was written. -/
theorem optional?_map {read : σ → Option α} {write : α → σ} {field : Option α}
    (h : ∀ a, field = some a → isNull? (write a) = some false ∧ read (write a) = some a) :
    optional? read (field.map write) = some field := by
  cases field with
  | none => rfl
  | some a =>
      obtain ⟨hnull, hread⟩ := h a rfl
      simp [optional?, hnull, hread]

theorem exists_of_optional? {read : σ → Option α} {field : Option σ} {a : α}
    (h : optional? read field = some (some a)) :
    ∃ source, field = some source ∧ isNull? source = some false ∧ read source = some a := by
  cases field with
  | none => cases h
  | some source =>
      obtain ⟨null, hnull, hread⟩ := Option.bind_eq_some_iff.mp h
      cases null with
      | true => cases hread
      | false =>
          obtain ⟨b, hb, heq⟩ := Option.map_eq_some_iff.mp hread
          cases heq
          exact ⟨source, rfl, hnull, hb⟩

end FieldRules.Source

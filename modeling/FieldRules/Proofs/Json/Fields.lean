/-
# `Proofs.Json.Fields` — members of an object, by key

What `Fields.insert` does to `Fields.get?`.  None of it needs the keys to be in order: a member goes
in front of the first key above its own or over the first one equal to it, and either way it is the
member that is found.  Where the keys are in order, they stay so (`ascending_insert`), and an object
is what is found in it (`Ascending.ext`).  What is found in an object that is made from a list of
members is the last that the list gives for the key (`get?_ofList_eq_get?_reverse`).
-/
import FieldRules.Json.Value

namespace FieldRules.Json.Fields

variable {α : Type}

@[simp] theorem get?_insert_self (key : String) (value : α) (fields : Fields α) :
    (fields.insert key value).get? key = some value := by
  induction fields with
  | nil => simp [insert, get?]
  | cons p rest ih =>
      obtain ⟨k, v⟩ := p
      unfold insert
      split
      · simp [get?]
      · split
        · simp [get?]
        · next hne =>
            rw [get?, if_neg (Ne.symm hne)]
            exact ih

theorem get?_insert_of_ne {key other : String} (h : other ≠ key) (value : α) (fields : Fields α) :
    (fields.insert key value).get? other = fields.get? other := by
  induction fields with
  | nil => simp [insert, get?, Ne.symm h]
  | cons p rest ih =>
      obtain ⟨k, v⟩ := p
      unfold insert
      split
      · rw [get?, if_neg (Ne.symm h)]
      · split
        · next heq =>
            subst heq
            rw [get?, if_neg (Ne.symm h), get?, if_neg (Ne.symm h)]
        · rw [get?, get?, ih]

/-- What is found after setting a member is what was set or was found before. -/
theorem forall_get?_insert {good : α → Prop} {key : String} {value : α} {fields : Fields α}
    (h : ∀ {name found}, fields.get? name = some found → good found) (hvalue : good value)
    {name : String} {found : α} (hfound : (fields.insert key value).get? name = some found) :
    good found := by
  by_cases hname : name = key
  · subst hname
    rw [get?_insert_self] at hfound
    cases hfound
    exact hvalue
  · rw [get?_insert_of_ne hname] at hfound
    exact h hfound

theorem insert_insert_self (key : String) (value earlier : α) (fields : Fields α) :
    (fields.insert key earlier).insert key value = fields.insert key value := by
  have hself : ∀ rest : Fields α,
      insert key value ((key, earlier) :: rest) = (key, value) :: rest := by
    intro rest
    rw [insert, if_neg (String.lt_irrefl key), if_pos rfl]
  induction fields with
  | nil => exact hself []
  | cons p rest ih =>
      obtain ⟨k, v⟩ := p
      by_cases hlt : key < k
      · rw [insert, insert, if_pos hlt, if_pos hlt, hself]
      · by_cases heq : key = k
        · rw [insert, insert, if_neg hlt, if_neg hlt, if_pos heq, if_pos heq, hself]
        · rw [insert, if_neg hlt, if_neg heq, insert, if_neg hlt, if_neg heq, insert, if_neg hlt,
            if_neg heq, ih]

theorem get?_map {β : Type} (f : α → β) (key : String) (fields : Fields α) :
    get? key (fields.map fun (k, v) => (k, f v)) = (fields.get? key).map f := by
  induction fields with
  | nil => rfl
  | cons p rest ih =>
      obtain ⟨k, v⟩ := p
      rw [List.map_cons, get?, get?, ih]
      split <;> rfl

/-! ## Keys -/

theorem mem_keys_iff (key : String) (fields : Fields α) :
    key ∈ fields.map Prod.fst ↔ (fields.get? key).isSome = true := by
  induction fields with
  | nil => simp [get?]
  | cons p rest ih =>
      obtain ⟨k, v⟩ := p
      rw [List.map_cons, List.mem_cons, ih, get?]
      by_cases hkey : k = key
      · simp [hkey]
      · simp [hkey, Ne.symm hkey]

theorem mem_keys_insert {key other : String} {value : α} {fields : Fields α}
    (h : other ∈ (fields.insert key value).map Prod.fst) :
    other = key ∨ other ∈ fields.map Prod.fst := by
  by_cases hother : other = key
  · exact .inl hother
  · rw [mem_keys_iff, get?_insert_of_ne hother, ← mem_keys_iff] at h
    exact .inr h

theorem get?_eq_none_of_lt {key : String} {fields : Fields α}
    (h : ∀ other ∈ fields.map Prod.fst, key < other) : fields.get? key = none := by
  rw [← Option.not_isSome_iff_eq_none, ← mem_keys_iff]
  exact fun hmem => String.lt_irrefl key (h key hmem)

/-- Two objects with their keys in order are equal if the same is found in them. -/
theorem Ascending.ext {a b : Fields α} (ha : a.Ascending) (hb : b.Ascending)
    (h : ∀ key, a.get? key = b.get? key) : a = b := by
  induction a generalizing b with
  | nil =>
      cases b with
      | nil => rfl
      | cons q b => simpa [get?] using h q.1
  | cons p a ih =>
      obtain ⟨k, v⟩ := p
      obtain ⟨hk, ha'⟩ := List.pairwise_cons.mp ha
      cases b with
      | nil => simpa [get?] using h k
      | cons q b =>
          obtain ⟨k', v'⟩ := q
          obtain ⟨hk', hb'⟩ := List.pairwise_cons.mp hb
          have hfirst : k = k' := by
            have hmem : k ∈ ((k', v') :: b).map Prod.fst := by
              rw [mem_keys_iff, ← h k]
              simp [get?]
            have hmem' : k' ∈ ((k, v) :: a).map Prod.fst := by
              rw [mem_keys_iff, h k']
              simp [get?]
            rcases List.mem_cons.mp hmem with hkk | hbehind
            · exact hkk
            · rcases List.mem_cons.mp hmem' with hkk | hbehind'
              · exact hkk.symm
              · exact absurd (String.lt_trans (hk k' hbehind') (hk' k hbehind))
                  (String.lt_irrefl k)
          subst hfirst
          have hvalue : v = v' := by simpa [get?] using h k
          have hrest : ∀ key, get? key a = get? key b := by
            intro key
            by_cases hkey : k = key
            · subst hkey
              rw [get?_eq_none_of_lt hk, get?_eq_none_of_lt hk']
            · simpa [get?, hkey] using h key
          rw [hvalue, ih ha' hb' hrest]

theorem ascending_insert (key : String) (value : α) {fields : Fields α} (h : fields.Ascending) :
    (fields.insert key value).Ascending := by
  induction fields with
  | nil => exact List.pairwise_singleton _ _
  | cons p rest ih =>
      obtain ⟨k, v⟩ := p
      obtain ⟨hk, hrest⟩ := List.pairwise_cons.mp h
      unfold insert
      split
      · next hlt =>
          -- a key in front of the first one is in front of all
          refine List.pairwise_cons.mpr ⟨fun other hother => ?_, h⟩
          obtain rfl | hlater := List.mem_cons.mp hother
          · exact hlt
          · exact String.lt_trans hlt (hk other hlater)
      · next hge =>
          split
          · next heq =>
              subst heq
              exact List.pairwise_cons.mpr ⟨hk, hrest⟩
          · next hne =>
              have hbehind : k < key :=
                Std.lt_of_le_of_ne (String.not_lt.mp hge) (Ne.symm hne)
              refine List.pairwise_cons.mpr ⟨fun other hother => ?_, ih hrest⟩
              obtain rfl | hlater := mem_keys_insert hother
              · exact hbehind
              · exact hk other hlater

/-! ## Objects from lists of members -/

theorem get?_eq_lookup (key : String) (fields : Fields α) :
    fields.get? key = fields.lookup key := by
  induction fields with
  | nil => rfl
  | cons p rest ih =>
      obtain ⟨k, v⟩ := p
      rw [get?, List.lookup_cons, ih]
      by_cases hkey : k = key
      · rw [if_pos hkey, beq_iff_eq.mpr hkey.symm]
      · rw [if_neg hkey, beq_false_of_ne (Ne.symm hkey)]

theorem get?_append (key : String) (a b : Fields α) :
    get? key (a ++ b) = (a.get? key).or (b.get? key) := by
  simp only [get?_eq_lookup, List.lookup_append]

/-- A member that may be left out is found if it is not. -/
theorem get?_optional (key name : String) (value : Option α) :
    get? key (value.toList.map fun v => (name, v)) = if name = key then value else none := by
  cases value with
  | none => exact (ite_self none).symm
  | some v => rfl

theorem get?_foldl_insert (key : String) (pairs : List (String × α)) (fields : Fields α) :
    (pairs.foldl (fun fields p => fields.insert p.1 p.2) fields).get? key
      = (get? key pairs.reverse).or (fields.get? key) := by
  induction pairs generalizing fields with
  | nil => rfl
  | cons p rest ih =>
      obtain ⟨k, v⟩ := p
      rw [List.foldl_cons, ih, List.reverse_cons, get?_append, Option.or_assoc]
      congr 1
      by_cases hkey : k = key
      · subst hkey
        simp [get?]
      · simp [get?, hkey, get?_insert_of_ne (Ne.symm hkey)]

/-- Of the pairs of one key the last is what an object that is made from them holds. -/
theorem get?_ofList_eq_get?_reverse (key : String) (pairs : List (String × α)) :
    (ofList pairs).get? key = get? key pairs.reverse :=
  (get?_foldl_insert key pairs []).trans Option.or_none

/-- What is found in an object that is made from pairs stands in a pair with none of its key
behind. -/
theorem exists_append_of_get?_ofList {key : String} {value : α} {pairs : List (String × α)}
    (h : (ofList pairs).get? key = some value) :
    ∃ before behind, pairs = before ++ (key, value) :: behind ∧ ∀ p ∈ behind, p.1 ≠ key := by
  rw [get?_ofList_eq_get?_reverse, get?_eq_lookup, List.lookup_eq_some_iff] at h
  obtain ⟨behind, before, hpairs, hbehind⟩ := h
  refine ⟨before.reverse, behind.reverse, ?_, fun p hp => ?_⟩
  · rw [← List.reverse_reverse pairs, hpairs]
    simp
  · have hne := hbehind p (List.mem_reverse.mp hp)
    exact fun heq => bne_iff_ne.mp hne heq.symm

theorem isSome_get?_ofList {key : String} {pairs : List (String × α)}
    (h : key ∈ pairs.map Prod.fst) : ((ofList pairs).get? key).isSome := by
  rw [get?_ofList_eq_get?_reverse, ← mem_keys_iff, List.map_reverse]
  exact List.mem_reverse.mpr h

theorem get?_reverse (key : String) {pairs : List (String × α)}
    (h : (pairs.map Prod.fst).Nodup) : get? key pairs.reverse = get? key pairs := by
  induction pairs with
  | nil => rfl
  | cons p rest ih =>
      obtain ⟨k, v⟩ := p
      obtain ⟨hk, hrest⟩ := List.nodup_cons.mp h
      rw [List.reverse_cons, get?_append, ih hrest]
      by_cases hkey : k = key
      · subst hkey
        rw [mem_keys_iff, Option.not_isSome_iff_eq_none] at hk
        simp [get?, hk]
      · simp [get?, hkey]

theorem get?_ofList (key : String) {pairs : List (String × α)} (h : (pairs.map Prod.fst).Nodup) :
    (ofList pairs).get? key = get? key pairs := by
  rw [get?_ofList_eq_get?_reverse, get?_reverse key h]

theorem ascending_ofList (pairs : List (String × α)) : (ofList pairs).Ascending := by
  have hfold : ∀ fields : Fields α, fields.Ascending →
      (pairs.foldl (fun fields p => fields.insert p.1 p.2) fields).Ascending := by
    induction pairs with
    | nil => exact fun _ h => h
    | cons p rest ih => exact fun _ h => ih _ (ascending_insert p.1 p.2 h)
  exact hfold [] List.Pairwise.nil

theorem Ascending.nodup {fields : Fields α} (h : fields.Ascending) :
    (fields.map Prod.fst).Nodup := by
  refine List.Pairwise.imp ?_ h
  intro a b hab heq
  subst heq
  exact String.lt_irrefl a hab

/-- Where the keys are in order, the members are what is found. -/
theorem Ascending.mem_iff {fields : Fields α} (h : fields.Ascending) {key : String} {value : α} :
    (key, value) ∈ fields ↔ fields.get? key = some value := by
  induction fields with
  | nil => simp [get?]
  | cons p rest ih =>
      obtain ⟨k, v⟩ := p
      obtain ⟨hk, hrest⟩ := List.pairwise_cons.mp h
      rw [List.mem_cons, ih hrest, get?]
      by_cases hkey : k = key
      · subst hkey
        rw [get?_eq_none_of_lt hk]
        simp [eq_comm]
      · simp [hkey, Ne.symm hkey]

theorem mem_keys_ofList {key : String} {pairs : List (String × α)}
    (h : (pairs.map Prod.fst).Nodup) :
    key ∈ (ofList pairs).map Prod.fst ↔ key ∈ pairs.map Prod.fst := by
  rw [mem_keys_iff, mem_keys_iff, get?_ofList key h]

end FieldRules.Json.Fields

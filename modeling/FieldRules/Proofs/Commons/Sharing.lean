/-
# `Proofs.Commons.Sharing` — who sees a change

A commons is sound when it is empty, and every effect keeps it so (`Sound.perform`).  What makes a
table shared is the handle of a factory: a factory keeps the handle that it was made with
(`handle_perform`), a factory over a table of its own has one that no other has, and one over the
messages of another factory has the handle of that one.
-/
import FieldRules.Proofs.Commons.Effects
import FieldRules.Proofs.Json.Fields

namespace FieldRules

open Json (Value Fields)
open Messages (Table)

variable {m : Type → Type}

namespace Commons

/-! ## Handles -/

theorem rootOf_le {adoptions : List (Nat × Nat)} (h : ∀ pair ∈ adoptions, pair.2 < pair.1)
    (place : Nat) : rootOf adoptions place ≤ place := by
  induction adoptions generalizing place with
  | nil => exact Nat.le_refl _
  | cons pair earlier ih =>
      obtain ⟨adopter, source⟩ := pair
      obtain ⟨hpair, hearlier⟩ := List.forall_mem_cons.mp h
      refine Nat.le_trans (ih hearlier _) ?_
      split
      · next heq =>
          subst heq
          exact Nat.le_of_lt hpair
      · exact Nat.le_refl _

/-- A factory that was not made over the messages of another one has its own place as its handle. -/
theorem rootOf_of_forall_ne {adoptions : List (Nat × Nat)} {place : Nat}
    (h : ∀ pair ∈ adoptions, pair.1 ≠ place) : rootOf adoptions place = place := by
  induction adoptions with
  | nil => rfl
  | cons pair earlier ih =>
      obtain ⟨adopter, source⟩ := pair
      obtain ⟨hpair, hearlier⟩ := List.forall_mem_cons.mp h
      rw [rootOf, if_neg (Ne.symm hpair)]
      exact ih hearlier

namespace Sound

variable {c : Commons m}

theorem handle_le (h : c.Sound) (place : Nat) : c.handle place ≤ place :=
  rootOf_le (fun pair hpair => (h.adoptions pair hpair).1) place

theorem handle_of_size_le (h : c.Sound) {place : Nat} (hplace : c.size ≤ place) :
    c.handle place = place :=
  rootOf_of_forall_ne fun pair hpair => by
    have := (h.adoptions pair hpair).2
    omega

end Sound

/-! ## Factories after an effect -/

variable {c : Commons m}

theorem getElem?_addFactory (w : Workspace m) (name : String) (f : Factory m) (place : Nat) :
    (w.addFactory name f).factories[place]?
      = if place = w.factories.length then some f else w.factories[place]? := by
  show (w.factories ++ [f])[place]? = _
  by_cases hplace : place = w.factories.length
  · rw [if_pos hplace, hplace]
    exact List.getElem?_concat_length
  · rw [if_neg hplace]
    rcases Nat.lt_or_gt_of_ne hplace with hlt | hgt
    · exact List.getElem?_append_left hlt
    · rw [List.getElem?_eq_none (Nat.le_of_lt hgt), List.getElem?_eq_none]
      rw [List.length_append, List.length_singleton]
      exact hgt

theorem getElem?_setFactory (c : Commons m) (place : Nat) (f : Factory m) (other : Nat) :
    (c.setFactory place f).workspace.factories[other]?
      = (c.workspace.factories[other]?).map fun g =>
          if other = place then f
          else if c.handle other = c.handle place then { g with messages := f.messages }
          else g :=
  List.getElem?_mapIdx

theorem getElem?_setFactory_self {place : Nat} {f : Factory m}
    (hf : c.workspace.factories[place]? = some f) (g : Factory m) :
    (c.setFactory place g).workspace.factories[place]? = some g := by
  rw [getElem?_setFactory, hf, Option.map_some, if_pos rfl]

/-- A factory that shares the messages of the changed one gets its table and keeps its methods. -/
theorem getElem?_setFactory_sharer {place other : Nat} {f : Factory m}
    (hf : c.workspace.factories[other]? = some f) (hne : other ≠ place)
    (hhandle : c.handle other = c.handle place) (g : Factory m) :
    (c.setFactory place g).workspace.factories[other]? = some { f with messages := g.messages } := by
  rw [getElem?_setFactory, hf, Option.map_some, if_neg hne, if_pos hhandle]

theorem getElem?_setFactory_other {place other : Nat} {f : Factory m}
    (hf : c.workspace.factories[other]? = some f) (hhandle : c.handle other ≠ c.handle place)
    (g : Factory m) : (c.setFactory place g).workspace.factories[other]? = some f := by
  have hne : other ≠ place := fun heq => hhandle (congrArg c.handle heq)
  rw [getElem?_setFactory, hf, Option.map_some, if_neg hne, if_neg hhandle]

theorem size_addFactory (c : Commons m) (name : String) (f : Factory m)
    (adoptions : List (Nat × Nat)) :
    Commons.size ⟨c.workspace.addFactory name f, adoptions, c.snapshots⟩ = c.size + 1 :=
  List.length_append

theorem size_setFactory (c : Commons m) (place : Nat) (f : Factory m) :
    (c.setFactory place f).size = c.size :=
  List.length_mapIdx

theorem size_perform_found (c : Commons m) (name : String) (table : Table) :
    (c.perform (.found name table)).size = c.size + 1 :=
  c.size_addFactory name _ _

theorem size_perform_adopt (c : Commons m) (name : String) (source : Nat) (table : Table) :
    (c.perform (.adopt name source table)).size = c.size + 1 :=
  c.size_addFactory name _ _

theorem size_le_perform (c : Commons m) (e : Effect m) : c.size ≤ (c.perform e).size := by
  cases e with
  | found name table =>
      rw [size_perform_found]
      exact Nat.le_succ _
  | adopt name source table =>
      rw [size_perform_adopt]
      exact Nat.le_succ _
  | change place f => exact Nat.le_of_eq (c.size_setFactory place f).symm
  | _ => exact Nat.le_refl _

/-- A factory keeps the handle that it was made with. -/
theorem handle_perform (c : Commons m) (e : Effect m) {place : Nat} (h : place < c.size) :
    (c.perform e).handle place = c.handle place := by
  cases e with
  | adopt name source table =>
      show rootOf c.adoptions (if place = c.size then source else place) = _
      rw [if_neg (Nat.ne_of_lt h)]
      rfl
  | _ => rfl

theorem handle_perform_adopt (c : Commons m) (name : String) (source : Nat) (table : Table) :
    (c.perform (.adopt name source table)).handle c.size = c.handle source := by
  show rootOf c.adoptions (if c.size = c.size then source else c.size) = _
  rw [if_pos rfl]
  rfl

/-! ## Soundness -/

theorem SoundSlot.mono {slot : Slot m} {size size' : Nat} (h : SoundSlot size slot)
    (hle : size ≤ size') : SoundSlot size' slot :=
  ⟨fun place hplace => Nat.lt_of_lt_of_le (h.makers place hplace) hle, h.owners⟩

theorem Sound.empty : (Commons.empty : Commons m).Sound where
  names := nofun
  slots := nofun
  snapshots := nofun
  adoptions := nofun
  shared := fun h => by cases h

theorem Sound.addFactory (h : c.Sound) (name : String) (f : Factory m)
    {adoptions : List (Nat × Nat)}
    (hadoptions : ∀ pair ∈ adoptions, pair.2 < pair.1 ∧ pair.1 < c.size + 1)
    (hhandle : ∀ place < c.size, rootOf adoptions place = c.handle place)
    (htable : ∀ place g, c.workspace.factories[place]? = some g →
      c.handle place = rootOf adoptions c.size → g.messages = f.messages) :
    Sound ⟨c.workspace.addFactory name f, adoptions, c.snapshots⟩ := by
  refine ⟨?_, ?_, ?_, ?_, ?_⟩
  · rw [size_addFactory]
    exact Fields.forall_get?_insert (fun hname => Nat.lt_succ_of_lt (h.names hname))
      (Nat.lt_succ_self _)
  · rw [size_addFactory]
    exact fun hslot => (h.slots hslot).mono (Nat.le_succ _)
  · rw [size_addFactory]
    exact fun hcopy => Nat.lt_succ_of_lt (h.snapshots hcopy)
  · rw [size_addFactory]
    exact hadoptions
  · intro p q g g' hp hq hpq
    have hpq : rootOf adoptions p = rootOf adoptions q := hpq
    rw [getElem?_addFactory] at hp hq
    split at hp
    · next hpn =>
        cases hp
        split at hq
        · cases hq
          rfl
        · have hlt := (List.getElem?_eq_some_iff.mp hq).1
          refine (htable q g' hq ?_).symm
          rw [← hhandle q hlt, ← hpq, hpn]
          rfl
    · have hlt := (List.getElem?_eq_some_iff.mp hp).1
      split at hq
      · next hqn =>
          cases hq
          refine htable p g hp ?_
          rw [← hhandle p hlt, hpq, hqn]
          rfl
      · have hlt' := (List.getElem?_eq_some_iff.mp hq).1
        exact h.shared hp hq ((hhandle p hlt).symm.trans (hpq.trans (hhandle q hlt')))

theorem Sound.setFactory (h : c.Sound) {place : Nat} (f : Factory m) (hplace : place < c.size) :
    (c.setFactory place f).Sound := by
  refine ⟨?_, ?_, ?_, ?_, ?_⟩
  · rw [size_setFactory]
    exact h.names
  · rw [size_setFactory]
    exact h.slots
  · rw [size_setFactory]
    exact h.snapshots
  · rw [size_setFactory]
    exact h.adoptions
  · intro p q g g' hp hq hpq
    have hpq : c.handle p = c.handle q := hpq
    rw [getElem?_setFactory] at hp hq
    obtain ⟨f₁, hf₁, rfl⟩ := Option.map_eq_some_iff.mp hp
    obtain ⟨f₂, hf₂, rfl⟩ := Option.map_eq_some_iff.mp hq
    have hmessages : ∀ (other : Nat) (g : Factory m),
        (if other = place then f else if c.handle other = c.handle place then
          { g with messages := f.messages } else g).messages
          = if c.handle other = c.handle place then f.messages else g.messages := by
      intro other g
      by_cases hother : other = place
      · subst hother
        rw [if_pos rfl, if_pos rfl]
      · rw [if_neg hother]
        split <;> rfl
    rw [hmessages, hmessages, hpq, h.shared hf₁ hf₂ hpq]

/-- Every effect keeps a commons sound. -/
theorem Sound.perform (h : c.Sound) {action : Action m} {e : Effect m} (he : c.Possible action e) :
    (c.perform e).Sound := by
  have hlater : ∀ pair ∈ c.adoptions, pair.2 < pair.1 ∧ pair.1 < c.size + 1 := fun pair hpair =>
    ⟨(h.adoptions pair hpair).1, Nat.lt_succ_of_lt (h.adoptions pair hpair).2⟩
  cases he with
  | nothing => exact h
  | found name table _ =>
      refine h.addFactory name { messages := table } hlater (fun _ _ => rfl) ?_
      -- no factory has the place of the new one as its handle
      intro place g hg hhandle
      have hlt := (List.getElem?_eq_some_iff.mp hg).1
      have hle := h.handle_le place
      have hself : rootOf c.adoptions c.size = c.size := h.handle_of_size_le (Nat.le_refl _)
      have hsize : place < c.size := hlt
      omega
  | @adopt name source f _ hf =>
      have hsource : source < c.size := (List.getElem?_eq_some_iff.mp hf).1
      refine h.addFactory name { messages := f.messages } ?_ ?_ ?_
      · exact List.forall_mem_cons.mpr ⟨⟨hsource, Nat.lt_succ_self _⟩, hlater⟩
      · exact fun place hplace => c.handle_perform (.adopt name source f.messages) hplace
      · intro place g hg hhandle
        rw [show rootOf ((c.size, source) :: c.adoptions) c.size = c.handle source from
          c.handle_perform_adopt name source f.messages] at hhandle
        show g.messages = f.messages
        exact h.shared hg hf hhandle
  | share copy _ hplace =>
      exact ⟨Fields.forall_get?_insert h.names hplace, h.slots, h.snapshots, h.adoptions, h.shared⟩
  | keep target _ hslot =>
      exact ⟨h.names, Fields.forall_get?_insert h.slots hslot, h.snapshots, h.adoptions, h.shared⟩
  | change _ hf hchange => exact h.setFactory _ (lt_of_factory? hf)
  | @snapshot _ target _ _ _ hf =>
      exact ⟨h.names, h.slots,
        Fields.forall_get?_insert h.snapshots (lt_of_factory? hf), h.adoptions, h.shared⟩

end Commons

end FieldRules

/-
# `Proofs.Commons.Mirror` — a commons without some of its factories

Some factories of a commons are hidden, and with them what was made from them: schemas, rules and
copies of tables, and factories over their messages.  A second commons mirrors the first one without
what is hidden (`Mirrors`): a factory that is left has the same methods there, and the same table
unless it shares its messages with one that is hidden; and what is kept under a name is the same or,
with such a factory, alike.  Since factories that were never made leave no place behind, those that
are left have other places there, each its `rank`.

Names may be taken over.  What the first commons keeps under a name for a hidden factory leaves the
second one with what the name stood for before, so that it may know more under a name than it should
(`Tracks`).

The two go on mirroring each other when related effects come of what is done in both
(`Mirrors.perform`), and when something comes of what is done to a hidden factory in one
(`Mirrors.perform_hidden`).  Both are said of an earlier state of a run, since it is only known at its
end who shares messages with whom (`Earlier`).
-/
import FieldRules.Proofs.Commons.Alike
import FieldRules.Proofs.Commons.Sharing
import Mathlib.Data.Nat.Count

namespace FieldRules

open Json (Value Fields)
open Messages (Table)

variable {m : Type → Type}

/-! ## Names in two runs -/

/-- What a name stands for in a run, and in one without what is hidden: nothing in both, related
things, or something that is hidden and whatever was there before. -/
inductive Tracks {α β : Type} (hidden : α → Bool) (related : α → β → Prop) :
    Option α → Option β → Prop where
  | neither : Tracks hidden related none none
  | hidden {a : α} : hidden a = true → (b : Option β) → Tracks hidden related (some a) b
  | both {a : α} {b : β} : related a b → Tracks hidden related (some a) (some b)

namespace Tracks

variable {α β : Type} {hidden : α → Bool} {related : α → β → Prop} {full : Fields α}
  {reduced : Fields β}

theorem insert (h : ∀ name, Tracks hidden related (full.get? name) (reduced.get? name))
    (key : String) {a : α} {b : β} (hab : related a b) (name : String) :
    Tracks hidden related ((full.insert key a).get? name) ((reduced.insert key b).get? name) := by
  by_cases hname : name = key
  · subst hname
    rw [Fields.get?_insert_self, Fields.get?_insert_self]
    exact .both hab
  · rw [Fields.get?_insert_of_ne hname, Fields.get?_insert_of_ne hname]
    exact h name

theorem insert_hidden (h : ∀ name, Tracks hidden related (full.get? name) (reduced.get? name))
    (key : String) {a : α} (ha : hidden a = true) (name : String) :
    Tracks hidden related ((full.insert key a).get? name) (reduced.get? name) := by
  by_cases hname : name = key
  · subst hname
    rw [Fields.get?_insert_self]
    exact .hidden ha _
  · rw [Fields.get?_insert_of_ne hname]
    exact h name

theorem exists_of_eq_some {o : Option α} {o' : Option β} (h : Tracks hidden related o o') {a : α}
    (ho : o = some a) (ha : hidden a = false) : ∃ b, o' = some b ∧ related a b := by
  cases h with
  | neither => cases ho
  | hidden hhidden b =>
      cases ho
      rw [ha] at hhidden
      cases hhidden
  | @both a b hab =>
      cases ho
      exact ⟨b, rfl, hab⟩

theorem eq_none {o : Option α} {o' : Option β} (h : Tracks hidden related o o') (ho : o = none) :
    o' = none := by
  cases h with
  | neither => rfl
  | hidden => cases ho
  | both => cases ho

end Tracks

namespace Commons

/-! ## Hidden factories -/

/-- Whether the factory at a place is hidden, or was made over the messages of one that is. -/
def hiddenIn (hide : Nat → Bool) : List (Nat × Nat) → Nat → Bool
  | [], place => hide place
  | (adopter, source) :: earlier, place =>
    if place = adopter then hide place || hiddenIn hide earlier source
    else hiddenIn hide earlier place

/-- Whether a factory is hidden: it is one of those to hide, or over the messages of a hidden one. -/
def hidden (c : Commons m) (hide : Nat → Bool) (place : Nat) : Bool :=
  hiddenIn hide c.adoptions place

/-- Whether a hidden factory shares the messages of a handle. -/
def touched (c : Commons m) (hide : Nat → Bool) (handle : Nat) : Bool :=
  (List.range c.size).any fun place => c.hidden hide place && c.handle place == handle

/-- The place that a factory has when the hidden ones before it were never made. -/
def rank (c : Commons m) (hide : Nat → Bool) (place : Nat) : Nat :=
  Nat.count (fun p => c.hidden hide p = false) place

variable {c : Commons m} {hide : Nat → Bool}

theorem touched_of_hidden {place : Nat} (hplace : place < c.size)
    (hhidden : c.hidden hide place = true) : c.touched hide (c.handle place) = true := by
  refine List.any_eq_true.mpr ⟨place, List.mem_range.mpr hplace, ?_⟩
  rw [hhidden, beq_self_eq_true]
  rfl

theorem hiddenIn_of_forall_ne {adoptions : List (Nat × Nat)} {place : Nat}
    (h : ∀ pair ∈ adoptions, pair.1 ≠ place) : hiddenIn hide adoptions place = hide place := by
  induction adoptions with
  | nil => rfl
  | cons pair earlier ih =>
      obtain ⟨adopter, source⟩ := pair
      obtain ⟨hpair, hearlier⟩ := List.forall_mem_cons.mp h
      rw [hiddenIn, if_neg (Ne.symm hpair)]
      exact ih hearlier

theorem hidden_perform (c : Commons m) (hide : Nat → Bool) (e : Effect m) {place : Nat}
    (h : place < c.size) : (c.perform e).hidden hide place = c.hidden hide place := by
  cases e with
  | adopt name source table =>
      show (if place = c.size then _ else hiddenIn hide c.adoptions place) = _
      rw [if_neg (Nat.ne_of_lt h)]
      rfl
  | _ => rfl

theorem hidden_perform_adopt (c : Commons m) (hide : Nat → Bool) (name : String) (source : Nat)
    (table : Table) : (c.perform (.adopt name source table)).hidden hide c.size
      = (hide c.size || c.hidden hide source) := by
  show (if c.size = c.size then hide c.size || hiddenIn hide c.adoptions source else _) = _
  rw [if_pos rfl]
  rfl

/-! ## Earlier and later -/

/-- What is known of the factories that there are stays so. -/
structure Earlier (c final : Commons m) : Prop where
  size : c.size ≤ final.size
  handle : ∀ {place}, place < c.size → final.handle place = c.handle place
  hidden : ∀ (hide : Nat → Bool) {place}, place < c.size →
    final.hidden hide place = c.hidden hide place

theorem Earlier.refl (c : Commons m) : c.Earlier c :=
  ⟨Nat.le_refl _, fun _ => rfl, fun _ _ _ => rfl⟩

theorem Earlier.trans {a b final : Commons m} (h : a.Earlier b) (h' : b.Earlier final) :
    a.Earlier final where
  size := Nat.le_trans h.size h'.size
  handle hplace := (h'.handle (Nat.lt_of_lt_of_le hplace h.size)).trans (h.handle hplace)
  hidden hide _ hplace :=
    (h'.hidden hide (Nat.lt_of_lt_of_le hplace h.size)).trans (h.hidden hide hplace)

theorem earlier_perform (c : Commons m) (e : Effect m) : c.Earlier (c.perform e) where
  size := c.size_le_perform e
  handle := c.handle_perform e
  hidden hide _ := c.hidden_perform hide e

/-! ## Mirrors -/

/-- Two slots stand for each other: the second one keeps what is alike, with the places that the
factories have without the hidden ones. -/
def SlotMirrors (final : Commons m) (hide : Nat → Bool) (s t : Slot m) : Prop :=
  Holding.Alike (s.makers.any fun place => final.touched hide (final.handle place))
    (final.rank hide) s.holding t.holding

def SnapshotMirrors (final : Commons m) (hide : Nat → Bool) (s t : Snapshot) : Prop :=
  final.touched hide (final.handle s.owner) = false → t.table = s.table

/-- The commons `d` is `c` without its hidden factories and what was made from them.  Who is hidden
and who shares messages with whom is as in `final`, where a run ends. -/
structure Mirrors (final : Commons m) (hide : Nat → Bool) (c d : Commons m) : Prop where
  left : c.Sound
  right : d.Sound
  size : d.size = final.rank hide c.size
  handle : ∀ {p q}, p < c.size → q < c.size → final.hidden hide p = false →
    final.hidden hide q = false →
      (d.handle (final.rank hide p) = d.handle (final.rank hide q)
        ↔ final.handle p = final.handle q)
  factory : ∀ {p f}, c.workspace.factories[p]? = some f → final.hidden hide p = false →
    ∃ g, d.workspace.factories[final.rank hide p]? = some g ∧
      Factory.Alike (final.touched hide (final.handle p)) f g
  names : ∀ name, Tracks (final.hidden hide) (fun p q => q = final.rank hide p)
    (c.workspace.names.get? name) (d.workspace.names.get? name)
  slots : ∀ name, Tracks (fun s => s.makers.any (final.hidden hide)) (SlotMirrors final hide)
    (c.workspace.slots.get? name) (d.workspace.slots.get? name)
  snapshots : ∀ name, Tracks (fun s => final.hidden hide s.owner) (SnapshotMirrors final hide)
    (c.snapshots.get? name) (d.snapshots.get? name)

/-- Effects on factories that are not hidden and stand for each other. -/
inductive Mirrored (final : Commons m) (hide : Nat → Bool) (c : Commons m) :
    Effect m → Effect m → Prop where
  | nothing : Mirrored final hide c .nothing .nothing
  | found (name : String) (table : Table) : final.hidden hide c.size = false →
      Mirrored final hide c (.found name table) (.found name table)
  | adopt (name : String) {place : Nat} {t u : Table} : place < c.size →
      final.hidden hide place = false → final.hidden hide c.size = false →
      (final.touched hide (final.handle place) = false → u = t) →
        Mirrored final hide c (.adopt name place t) (.adopt name (final.rank hide place) u)
  | share (copy : String) (place : Nat) :
      Mirrored final hide c (.share copy place) (.share copy (final.rank hide place))
  | keep (target : String) {s t : Slot m} : SlotMirrors final hide s t →
      Mirrored final hide c (.keep target s) (.keep target t)
  | change {place : Nat} {f g : Factory m} : place < c.size → final.hidden hide place = false →
      Factory.Alike (final.touched hide (final.handle place)) f g →
        Mirrored final hide c (.change place f) (.change (final.rank hide place) g)
  | snapshot (target : String) {owner owner' : Nat} {t u : Table} :
      SnapshotMirrors final hide ⟨owner, t⟩ ⟨owner', u⟩ →
        Mirrored final hide c (.snapshot target owner t) (.snapshot target owner' u)

theorem rank_succ_of_hidden {final : Commons m} {place : Nat}
    (h : final.hidden hide place = true) : final.rank hide (place + 1) = final.rank hide place := by
  rw [rank, Nat.count_succ, if_neg (by rw [h]; exact Bool.true_eq_false.mp)]
  rfl

theorem rank_succ_of_not_hidden {final : Commons m} {place : Nat}
    (h : final.hidden hide place = false) :
    final.rank hide (place + 1) = final.rank hide place + 1 := by
  rw [rank, Nat.count_succ, if_pos h]
  rfl

theorem rank_lt_rank {final : Commons m} {p q : Nat} (h : final.hidden hide p = false)
    (hpq : p < q) : final.rank hide p < final.rank hide q :=
  Nat.count_strict_mono h hpq

/-- Factories that are not hidden have places of their own. -/
theorem rank_inj {final : Commons m} {p q : Nat} (hp : final.hidden hide p = false)
    (hq : final.hidden hide q = false) (h : final.rank hide p = final.rank hide q) : p = q :=
  Nat.count_injective hp hq h

namespace Mirrors

variable {final d : Commons m}

theorem rank_lt_size (M : Mirrors final hide c d) {place : Nat} (hplace : place < c.size)
    (hvisible : final.hidden hide place = false) : final.rank hide place < d.size := by
  rw [M.size]
  exact rank_lt_rank hvisible hplace

theorem addFactory (M : Mirrors final hide c d) (name : String) {t u : Table}
    {adoptions adoptions' : List (Nat × Nat)}
    (hleft : Sound ⟨c.workspace.addFactory name { messages := t }, adoptions, c.snapshots⟩)
    (hright : Sound ⟨d.workspace.addFactory name { messages := u }, adoptions', d.snapshots⟩)
    (hvisible : final.hidden hide c.size = false)
    (hold : ∀ place < d.size, rootOf adoptions' place = d.handle place)
    (hnew : ∀ q < c.size, final.hidden hide q = false →
      (rootOf adoptions' d.size = d.handle (final.rank hide q)
        ↔ final.handle c.size = final.handle q))
    (htable : final.touched hide (final.handle c.size) = false → u = t) :
    Mirrors final hide ⟨c.workspace.addFactory name { messages := t }, adoptions, c.snapshots⟩
      ⟨d.workspace.addFactory name { messages := u }, adoptions', d.snapshots⟩ := by
  refine ⟨hleft, hright, ?_, ?_, ?_, ?_, M.slots, M.snapshots⟩
  · rw [size_addFactory, size_addFactory, rank_succ_of_not_hidden hvisible, M.size]
  · intro p q hp hq hvp hvq
    rw [size_addFactory] at hp hq
    show rootOf adoptions' _ = rootOf adoptions' _ ↔ _
    -- the new factory has the rank that is the number of those that were there
    rcases Nat.lt_succ_iff_lt_or_eq.mp hp with hp | rfl <;>
      rcases Nat.lt_succ_iff_lt_or_eq.mp hq with hq | rfl
    · rw [hold _ (M.rank_lt_size hp hvp), hold _ (M.rank_lt_size hq hvq)]
      exact M.handle hp hq hvp hvq
    · rw [hold _ (M.rank_lt_size hp hvp), ← M.size, eq_comm, hnew p hp hvp]
      exact eq_comm
    · rw [hold _ (M.rank_lt_size hq hvq), ← M.size]
      exact hnew q hq hvq
    · exact iff_of_true rfl rfl
  · intro p f hf hvp
    rw [getElem?_addFactory] at hf
    rw [getElem?_addFactory]
    split at hf
    · next hpn =>
        have hpn : p = c.size := hpn
        cases hf
        refine ⟨{ messages := u }, if_pos ?_, rfl, ?_⟩
        · rw [hpn]
          exact M.size.symm
        · rw [hpn]
          exact htable
    · have hp : p < c.size := (List.getElem?_eq_some_iff.mp hf).1
      have hrank := M.rank_lt_size hp hvp
      obtain ⟨g, hg, halike⟩ := M.factory hf hvp
      exact ⟨g, (if_neg (Nat.ne_of_lt hrank)).trans hg, halike⟩
  · exact Tracks.insert M.names name M.size

theorem setFactory (M : Mirrors final hide c d) (hearlier : c.Earlier final) {place : Nat}
    {f g : Factory m} (hplace : place < c.size) (hvisible : final.hidden hide place = false)
    (halike : Factory.Alike (final.touched hide (final.handle place)) f g)
    (hleft : (c.setFactory place f).Sound)
    (hright : (d.setFactory (final.rank hide place) g).Sound) :
    Mirrors final hide (c.setFactory place f) (d.setFactory (final.rank hide place) g) := by
  refine ⟨hleft, hright, ?_, ?_, ?_, M.names, M.slots, M.snapshots⟩
  · rw [size_setFactory, size_setFactory]
    exact M.size
  · rw [size_setFactory]
    exact M.handle
  · intro p after hafter hvp
    rw [getElem?_setFactory] at hafter
    obtain ⟨before, hbefore, rfl⟩ := Option.map_eq_some_iff.mp hafter
    have hp : p < c.size := (List.getElem?_eq_some_iff.mp hbefore).1
    obtain ⟨other, hother, hothers⟩ := M.factory hbefore hvp
    rw [getElem?_setFactory, hother]
    refine ⟨_, rfl, ?_⟩
    have hsame : final.rank hide p = final.rank hide place ↔ p = place :=
      ⟨rank_inj hvp hvisible, fun heq => heq ▸ rfl⟩
    have hshares : d.handle (final.rank hide p) = d.handle (final.rank hide place)
        ↔ c.handle p = c.handle place := by
      rw [M.handle hp hplace hvp hvisible, hearlier.handle hp, hearlier.handle hplace]
    simp only [hsame, hshares]
    split
    · next heq =>
        subst heq
        exact halike
    · split
      · next hhandle =>
          refine ⟨hothers.registry, ?_⟩
          rw [hearlier.handle hp, hhandle, ← hearlier.handle hplace]
          exact halike.messages
      · exact hothers

/-- Effects that stand for each other keep two commons the mirror of each other. -/
theorem perform (M : Mirrors final hide c d) {e e' : Effect m} (he : Mirrored final hide c e e')
    (hlater : (c.perform e).Earlier final) (hleft : (c.perform e).Sound)
    (hright : (d.perform e').Sound) : Mirrors final hide (c.perform e) (d.perform e') := by
  have hearlier : c.Earlier final := (c.earlier_perform e).trans hlater
  cases he with
  | nothing => exact M
  | found name table hvisible =>
      refine M.addFactory name hleft hright hvisible (fun _ _ => rfl) ?_ fun _ => rfl
      intro q hq hvq
      have hsize : c.size < (c.perform (.found name table)).size := by
        rw [size_perform_found]
        exact Nat.lt_succ_self _
      -- a factory over a table of its own shares it with no other one
      have hfinal : final.handle c.size = c.size :=
        (hlater.handle hsize).trans (M.left.handle_of_size_le (Nat.le_refl _))
      have hself : d.handle d.size = d.size := M.right.handle_of_size_le (Nat.le_refl _)
      have hrank := M.rank_lt_size hq hvq
      have hle := M.right.handle_le (final.rank hide q)
      have hle' := M.left.handle_le q
      rw [hfinal, hearlier.handle hq]
      show d.handle d.size = _ ↔ _
      constructor
      · intro heq
        omega
      · intro heq
        omega
  | @adopt name place t u hplace hvp hvisible htable =>
      have hsize : c.size < (c.perform (.adopt name place t)).size := by
        rw [size_perform_adopt]
        exact Nat.lt_succ_self _
      have hfinal : final.handle c.size = final.handle place := by
        rw [hlater.handle hsize, handle_perform_adopt, hearlier.handle hplace]
      refine M.addFactory name hleft hright hvisible ?_ ?_ ?_
      · exact fun place' hplace' =>
          d.handle_perform (.adopt name (final.rank hide place) u) hplace'
      · intro q hq hvq
        rw [hfinal, show rootOf ((d.size, final.rank hide place) :: d.adoptions) d.size
            = d.handle (final.rank hide place) from
          d.handle_perform_adopt name (final.rank hide place) u]
        exact M.handle hplace hq hvp hvq
      · rw [hfinal]
        exact htable
  | share copy place =>
      exact ⟨hleft, hright, M.size, M.handle, M.factory, Tracks.insert M.names copy rfl, M.slots,
        M.snapshots⟩
  | keep target hslots =>
      exact ⟨hleft, hright, M.size, M.handle, M.factory, M.names,
        Tracks.insert M.slots target hslots, M.snapshots⟩
  | change hplace hvisible halike => exact M.setFactory hearlier hplace hvisible halike hleft hright
  | snapshot target hcopies =>
      exact ⟨hleft, hright, M.size, M.handle, M.factory, M.names, M.slots,
        Tracks.insert M.snapshots target hcopies⟩

/-- A hidden factory that is made in the first commons alone leaves no place behind. -/
theorem addFactory_hidden (M : Mirrors final hide c d) (name : String) {f : Factory m}
    {adoptions : List (Nat × Nat)}
    (hleft : Sound ⟨c.workspace.addFactory name f, adoptions, c.snapshots⟩)
    (hhidden : final.hidden hide c.size = true) :
    Mirrors final hide ⟨c.workspace.addFactory name f, adoptions, c.snapshots⟩ d := by
  -- whoever is not hidden was there before
  have hold : ∀ {p}, p < c.size + 1 → final.hidden hide p = false → p < c.size := by
    intro p hp hvp
    rcases Nat.lt_succ_iff_lt_or_eq.mp hp with hlt | rfl
    · exact hlt
    · rw [hhidden] at hvp
      cases hvp
  refine ⟨hleft, M.right, ?_, ?_, ?_, ?_, M.slots, M.snapshots⟩
  · rw [size_addFactory, rank_succ_of_hidden hhidden]
    exact M.size
  · intro p q hp hq hvp hvq
    rw [size_addFactory] at hp hq
    exact M.handle (hold hp hvp) (hold hq hvq) hvp hvq
  · intro p g hg hvp
    rw [getElem?_addFactory] at hg
    split at hg
    · next hpn =>
        have hpn : p = c.size := hpn
        rw [hpn, hhidden] at hvp
        cases hvp
    · exact M.factory hg hvp
  · exact Tracks.insert_hidden M.names name hhidden

/-- A hidden factory that is changed in the first commons alone changes nothing but the tables of
factories that share their messages with a hidden one. -/
theorem setFactory_hidden (M : Mirrors final hide c d) (hearlier : c.Earlier final) {place : Nat}
    {f : Factory m} (hplace : place < c.size) (hhidden : final.hidden hide place = true)
    (hleft : (c.setFactory place f).Sound) : Mirrors final hide (c.setFactory place f) d := by
  refine ⟨hleft, M.right, ?_, ?_, ?_, M.names, M.slots, M.snapshots⟩
  · rw [size_setFactory]
    exact M.size
  · rw [size_setFactory]
    exact M.handle
  · intro p after hafter hvp
    rw [getElem?_setFactory] at hafter
    obtain ⟨before, hbefore, rfl⟩ := Option.map_eq_some_iff.mp hafter
    have hp : p < c.size := (List.getElem?_eq_some_iff.mp hbefore).1
    obtain ⟨other, hother, hothers⟩ := M.factory hbefore hvp
    refine ⟨other, hother, ?_⟩
    have hne : p ≠ place := by
      rintro rfl
      rw [hhidden] at hvp
      cases hvp
    rw [if_neg hne]
    split
    · next hhandle =>
        refine ⟨hothers.registry, fun hdiffer => ?_⟩
        have htouched := touched_of_hidden (Nat.lt_of_lt_of_le hplace hearlier.size) hhidden
        rw [hearlier.handle hplace, ← hhandle, ← hearlier.handle hp, hdiffer] at htouched
        cases htouched
    · exact hothers

/-- What comes of an action that concerns a hidden factory leaves the mirror of a commons as it is. -/
theorem perform_hidden (M : Mirrors final hide c d) {action : Action m} {e : Effect m}
    (he : c.Possible action e) (hlater : (c.perform e).Earlier final)
    (hhidden : (c.concerns action).any (final.hidden hide) = true) :
    Mirrors final hide (c.perform e) d := by
  have hearlier : c.Earlier final := (c.earlier_perform e).trans hlater
  have hleft : (c.perform e).Sound := M.left.perform he
  have hone : ∀ {place}, c.concerns action = [place] → final.hidden hide place = true := by
    intro place hplace
    rwa [hplace, List.any_cons, List.any_nil, Bool.or_false] at hhidden
  cases he with
  | nothing => exact M
  | found name table hplace => exact M.addFactory_hidden name hleft (hone hplace)
  | @adopt name source f hplaces hf =>
      refine M.addFactory_hidden name hleft ?_
      have hsource : source < c.size := (List.getElem?_eq_some_iff.mp hf).1
      have hsize : c.size < (c.perform (.adopt name source f.messages)).size := by
        rw [size_perform_adopt]
        exact Nat.lt_succ_self _
      have hnew := (hlater.hidden hide hsize).trans
        (c.hidden_perform_adopt hide name source f.messages)
      rw [hplaces, List.any_cons, List.any_cons, List.any_nil, Bool.or_false, Bool.or_eq_true]
        at hhidden
      rcases hhidden with hhidden | hhidden
      · rw [hnew, ← hearlier.hidden hide hsource, hhidden, Bool.or_true]
      · exact hhidden
  | share copy hplace _ =>
      exact ⟨hleft, M.right, M.size, M.handle, M.factory,
        Tracks.insert_hidden M.names copy (hone hplace), M.slots, M.snapshots⟩
  | keep target hmakers _ =>
      rw [hmakers] at hhidden
      exact ⟨hleft, M.right, M.size, M.handle, M.factory, M.names,
        Tracks.insert_hidden M.slots target hhidden, M.snapshots⟩
  | change haction hf hchange =>
      subst haction
      exact M.setFactory_hidden hearlier (lt_of_factory? hf) (hone (placeOf_of_factory? hf)) hleft
  | @snapshot factory target owner f haction hf =>
      subst haction
      exact ⟨hleft, M.right, M.size, M.handle, M.factory, M.names, M.slots,
        Tracks.insert_hidden M.snapshots target (hone (placeOf_of_factory? hf))⟩

end Mirrors

end Commons

end FieldRules

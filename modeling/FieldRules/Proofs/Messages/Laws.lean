/-
# `Proofs.Messages.Laws` — merging again, and in another order

A merge leaves at a path what the last write of the override that concerns the path puts there, on
whatever table it is made, and leaves alone what no write concerns.  Two laws follow, entry by entry.

* Merging an override again changes nothing (`Table.merge_again`), even if the override overwrites
  itself: what it discards on the way is gone the second time, and what it puts in its place is there.
* Two overrides may be merged in either order if they keep apart (`Apart`): no leaf of one is at a
  path of the other or on the way to one.  All that both concern is then mappings, which stand after
  either of them, also where a leaf stood before (`Table.merge_comm_of_apart`).

Entries are enough, since tables are equal if they hold the same at every path.
-/
import FieldRules.Proofs.Messages.Loading

namespace FieldRules.Messages

open Json (Value Fields)

/-! ## What an override concerns -/

/-- Whether an override has a write that concerns a path. -/
def Touches (override : Fields Value) (path : List String) : Prop :=
  ∃ w ∈ writes [] override, w.Concerns path

instance (override : Fields Value) (path : List String) : Decidable (Touches override path) :=
  inferInstanceAs (Decidable (∃ w ∈ writes [] override, w.Concerns path))

theorem findRev?_writes_eq_none_iff {override : Fields Value} {path : List String} :
    ((writes [] override).findRev? fun w => w.Concerns path) = none ↔ ¬ Touches override path := by
  rw [findRev?_concerns_eq_none_iff]
  exact ⟨fun h ⟨w, hw, hconcerns⟩ => h w hw hconcerns, fun h w hw hconcerns => h ⟨w, hw, hconcerns⟩⟩

/-- What an override leaves at a path that it touches does not depend on the table. -/
theorem Touches.entryAt_eq {override : Fields Value} {path : List String}
    (h : Touches override path) (fields other : Fields Value) :
    entryAt path (mergeMembers override fields) = entryAt path (mergeMembers override other) := by
  by_cases hpath : path = []
  · rw [hpath, entryAt_nil, entryAt_nil]
  cases hlast : (writes [] override).findRev? fun w => w.Concerns path with
  | some w => rw [entryAt_merged_of_last hpath hlast, entryAt_merged_of_last hpath hlast]
  | none => exact absurd h (findRev?_writes_eq_none_iff.mp hlast)

theorem entryAt_of_not_touches {override : Fields Value} {path : List String}
    (h : ¬ Touches override path) (fields : Fields Value) :
    entryAt path (mergeMembers override fields) = entryAt path fields := by
  by_cases hpath : path = []
  · rw [hpath, entryAt_nil, entryAt_nil]
  · exact entryAt_merged_of_none hpath (findRev?_writes_eq_none_iff.mpr h) fields

/-! ## Merging again -/

theorem Table.mergeFields_again (t : Table) (override : Fields Value) :
    (t.mergeFields override).mergeFields override = t.mergeFields override := by
  refine Table.ext_entryAt fun path => ?_
  by_cases htouches : Touches override path
  · exact htouches.entryAt_eq _ _
  · exact entryAt_of_not_touches htouches _

/-- Whatever is merged, there is one override that is merged into every table, or one reason why
nothing is merged into any. -/
theorem Merge.exists_override (c : Merge) :
    ∃ override : Except Error (Fields Value), ∀ t : Table, c.into t = override.map t.mergeFields := by
  have htext : ∀ format text, ∃ override : Except Error (Fields Value), ∀ t : Table,
      t.mergeText format text = override.map t.mergeFields := by
    intro format text
    refine ⟨(Table.parse format text).map Table.entries, fun t => ?_⟩
    rw [Table.mergeText]
    cases Table.parse format text <;> rfl
  cases c with
  | value override =>
      cases override with
      | object members => exact ⟨.ok members, fun _ => rfl⟩
      | _ => exact ⟨.error (.notAMapping _), fun _ => rfl⟩
  | table other => exact ⟨.ok other.entries, fun _ => rfl⟩
  | text format written => exact htext format written
  | file path content =>
      cases content with
      | ok text => exact htext (Format.ofPath path) text
      | error reason => exact ⟨.error (.unreadable path reason), fun _ => rfl⟩

/-- Whatever is merged, merging it again changes nothing, and what is refused is refused again. -/
theorem Merge.into_again (t : Table) (c : Merge) : (c.into t).bind c.into = c.into t := by
  obtain ⟨override, hinto⟩ := c.exists_override
  cases override with
  | error cause => rw [hinto]; rfl
  | ok members =>
      have hok : ∀ t, c.into t = .ok (t.mergeFields members) := hinto
      rw [hok t]
      exact (hok _).trans (by rw [t.mergeFields_again])

/-! ## Merging in another order -/

/-- Overrides that keep apart: no leaf of one is at a path of the other or on the way to one.  Paths
are those of leaves and of mappings, with keys cut at their dots. -/
def Apart (p q : Fields Value) : Prop :=
  ∀ w ∈ writes [] p, ∀ u ∈ writes [] q,
    (w.leaf?.isSome → ¬ w.path <+: u.path) ∧ (u.leaf?.isSome → ¬ u.path <+: w.path)

instance (p q : Fields Value) : Decidable (Apart p q) :=
  inferInstanceAs (Decidable (∀ w ∈ writes [] p, ∀ u ∈ writes [] q, _ ∧ _))

/-- A write that concerns a path is a leaf at it or on the way to it, or makes a mapping of it. -/
theorem Write.Concerns.leaf_or_mapping {w : Write} {path : List String} (h : w.Concerns path) :
    (w.leaf?.isSome ∧ w.path <+: path) ∨ (path <+: w.path ∧ w.outcome path = some none) := by
  obtain hleaf | ⟨hmapping, heq⟩ | ⟨hbehind, hne⟩ := h
  · exact Or.inl hleaf
  · refine Or.inr ⟨heq ▸ List.prefix_rfl, ?_⟩
    rw [outcome, if_pos heq, Option.isNone_iff_eq_none.mp hmapping]
  · refine Or.inr ⟨hbehind, ?_⟩
    rw [outcome, if_neg (Ne.symm hne), if_pos hbehind]

namespace Apart

variable {p q : Fields Value}

theorem symm (h : Apart p q) : Apart q p := fun w hw u hu => (h u hu w hw).symm

/-- A write that concerns a path which the other override touches makes a mapping of it. -/
theorem outcome_eq (h : Apart p q) {path : List String} {w : Write} (hw : w ∈ writes [] p)
    (hconcerns : w.Concerns path) (hq : Touches q path) : w.outcome path = some none := by
  obtain ⟨u, hu, hconcerns'⟩ := hq
  obtain ⟨hclear, hclear'⟩ := h w hw u hu
  obtain ⟨hleaf, hway⟩ | ⟨-, houtcome⟩ := hconcerns.leaf_or_mapping
  · obtain ⟨hleaf', hway'⟩ | ⟨hbehind, -⟩ := hconcerns'.leaf_or_mapping
    · -- of two leaves on the way to one path, one is on the way to the other
      rcases List.prefix_or_prefix_of_prefix hway hway' with hpre | hpre
      · exact absurd hpre (hclear hleaf)
      · exact absurd hpre (hclear' hleaf')
    · exact absurd (hway.trans hbehind) (hclear hleaf)
  · exact houtcome

/-- Both make a mapping of what both touch. -/
theorem entryAt_of_both (h : Apart p q) {path : List String} (hpath : path ≠ [])
    (hp : Touches p path) (hq : Touches q path) (fields : Fields Value) :
    entryAt path (mergeMembers p fields) = some none := by
  rw [entryAt_merged hpath]
  cases hlast : (writes [] p).findRev? fun w => w.Concerns path with
  | some w =>
      obtain ⟨hw, hconcerns⟩ := mem_of_findRev?_concerns hlast
      exact h.outcome_eq hw hconcerns hq
  | none => exact absurd hp (findRev?_writes_eq_none_iff.mp hlast)

theorem entryAt_eq (h : Apart p q) {path : List String} (hp : Touches p path)
    (fields : Fields Value) :
    entryAt path (mergeMembers q (mergeMembers p fields))
      = entryAt path (mergeMembers p fields) := by
  by_cases hpath : path = []
  · rw [hpath, entryAt_nil, entryAt_nil]
  by_cases hq : Touches q path
  · rw [h.symm.entryAt_of_both hpath hq hp, h.entryAt_of_both hpath hp hq]
  · exact entryAt_of_not_touches hq _

theorem mergeFields_comm (h : Apart p q) (t : Table) :
    (t.mergeFields p).mergeFields q = (t.mergeFields q).mergeFields p := by
  refine Table.ext_entryAt fun path => ?_
  show entryAt path (mergeMembers q (mergeMembers p t.entries))
    = entryAt path (mergeMembers p (mergeMembers q t.entries))
  by_cases hp : Touches p path
  · rw [h.entryAt_eq hp]
    exact hp.entryAt_eq _ _
  · rw [entryAt_of_not_touches hp]
    by_cases hq : Touches q path
    · exact hq.entryAt_eq _ _
    · rw [entryAt_of_not_touches hq, entryAt_of_not_touches hq, entryAt_of_not_touches hp]

end Apart

namespace Table

/-- Merging an override again leaves the table that merging it once left, in which every entry is
what the last write that concerns it left, or else what it was.  The same holds of whatever else may
be merged, and what is refused once is refused again. -/
theorem merge_again (t : Table) :
    (∀ override : Fields Value, ∃ merged, t.merge (.object override) = .ok merged ∧
      merged.merge (.object override) = .ok merged ∧
      ∀ path ≠ [], entryAt path merged.entries
        = match (writes [] override).findRev? fun w => w.Concerns path with
          | some w => w.outcome path
          | none => entryAt path t.entries) ∧
    ∀ c : Merge, (c.into t).bind c.into = c.into t := by
  refine ⟨fun override => ⟨_, t.merge_object override, ?_, fun path hpath =>
    entryAt_merged hpath override t.entries⟩, Merge.into_again t⟩
  rw [merge_object, mergeFields_again]

/-- An override that cuts off what it rebuilds, over a table with an entry beside. -/
theorem merge_again_of_overlap :
    let t := empty.insert "a.e" "u"
    let override :=
      [("a", .string "x"), ("a.b", .object [("c", .string "y"), ("c.d", .string "z")])]
    ∃ merged, t.merge (.object override) = .ok merged ∧
      merged.merge (.object override) = .ok merged ∧
      merged.get? "a.b.c.d" = some "z" ∧ merged.get? "a.b.c" = none ∧
      merged.get? "a.e" = none := by
  intro t override
  obtain ⟨merged, honce, hagain, -⟩ := (merge_again t).1 override
  obtain rfl : t.mergeFields override = merged :=
    Except.ok.inj ((t.merge_object override).symm.trans honce)
  exact ⟨_, honce, hagain, by decide +kernel, by decide +kernel, by decide +kernel⟩

/-- Overrides that keep apart may be merged in either order.  In the table that both leave stands
what the one put at the paths that it touches, what the other put at those that it touches, and at
all others what was there, even where leaves stood on the way to the paths of both. -/
theorem merge_comm_of_apart (t : Table) {p q : Fields Value} (h : Apart p q) :
    ∃ afterP afterQ merged, t.merge (.object p) = .ok afterP ∧ t.merge (.object q) = .ok afterQ ∧
      afterP.merge (.object q) = .ok merged ∧ afterQ.merge (.object p) = .ok merged ∧
      ∀ path,
        (Touches p path → entryAt path merged.entries = entryAt path afterP.entries) ∧
        (Touches q path → entryAt path merged.entries = entryAt path afterQ.entries) ∧
        (¬ Touches p path → ¬ Touches q path →
          entryAt path merged.entries = entryAt path t.entries) := by
  refine ⟨_, _, (t.mergeFields p).mergeFields q, t.merge_object p, t.merge_object q,
    merge_object _ q, ?_, fun path => ⟨fun hp => h.entryAt_eq hp t.entries, fun hq => ?_,
    fun hp hq => ?_⟩⟩
  · rw [merge_object, h.mergeFields_comm]
  · rw [h.mergeFields_comm]
    exact h.symm.entryAt_eq hq t.entries
  · exact (entryAt_of_not_touches hq _).trans (entryAt_of_not_touches hp _)

/-- Both make a mapping where a leaf stands. -/
theorem merge_comm_of_apart_of_shared_leaf :
    let t := empty.insert "a" "u"
    let p := [("a.b", .string "x")]
    let q := [("a", .object [("c", .string "y")])]
    Apart p q ∧
      ∃ afterP afterQ merged, t.merge (.object p) = .ok afterP ∧ t.merge (.object q) = .ok afterQ ∧
        afterP.merge (.object q) = .ok merged ∧ afterQ.merge (.object p) = .ok merged ∧
        entryAt ["a", "b"] merged.entries = some (some (.string "x")) ∧
        entryAt ["a", "c"] merged.entries = some (some (.string "y")) := by
  intro t p q
  have hapart : Apart p q := by decide
  obtain ⟨afterP, afterQ, merged, hp, hq, hpq, hqp, hentries⟩ := merge_comm_of_apart t hapart
  obtain rfl : t.mergeFields p = afterP :=
    Except.ok.inj ((t.merge_object p).symm.trans hp)
  obtain rfl : t.mergeFields q = afterQ :=
    Except.ok.inj ((t.merge_object q).symm.trans hq)
  refine ⟨hapart, _, _, merged, hp, hq, hpq, hqp, ?_, ?_⟩
  · exact ((hentries ["a", "b"]).1 (by decide)).trans (by rfl)
  · exact ((hentries ["a", "c"]).2.1 (by decide)).trans (by rfl)

end Table

end FieldRules.Messages

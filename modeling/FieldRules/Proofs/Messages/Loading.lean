/-
# `Proofs.Messages.Loading` — an override that is loaded before it is merged

An override in code is merged as it is: its writes are made one after the other, on the table.  One
in a text or a file is first loaded, that is merged into nothing, and the table that comes of it is
merged.  What is loaded holds the result of the override's writes and not their course.  So the two
differ where an override overwrites itself: a leaf on the way to an entry discards it when it is
written, and when the override goes on to make a mapping of that place, the table that is loaded
from it has no such leaf.  Of the entry it then says nothing (`Forgets`), and the entry stays.

This is the only difference.  `entryAt_mergeMembers` is what a table in normal form does to each
entry of a table that it is merged into, `covered_loaded_iff` finds the leaf above a path in what is
loaded, and `mergeTable_ofValue_eq_merge_iff` compares the two ways.
-/
import FieldRules.Messages.Reading
import FieldRules.Proofs.Messages.Normal

namespace FieldRules.Messages

open Json (Value Fields)

/-! ## A table that is merged into another -/

/-- `Covered path fields`: a leaf stands on the way to the path. -/
def Covered (path : List String) (fields : Fields Value) : Prop :=
  ∃ above leaf, above <+: path ∧ above ≠ path ∧ entryAt above fields = some (some leaf)

theorem not_covered_nil_fields (path : List String) : ¬ Covered path [] := by
  rintro ⟨above, leaf, -, -, h⟩
  rw [entryAt_nil_fields] at h
  cases h

/-- The leaf on the way is at the first key or behind it. -/
theorem covered_cons_iff (key : String) (path : List String) (fields : Fields Value) :
    Covered (key :: path) fields
      ↔ path ≠ [] ∧ ((∃ leaf, entryAt [key] fields = some (some leaf))
        ∨ Covered path (child fields key)) := by
  constructor
  · rintro ⟨above, leaf, hpre, hne, hleaf⟩
    cases above with
    | nil => cases hleaf
    | cons first above =>
        obtain ⟨rfl, hbehind⟩ := List.cons_prefix_cons.mp hpre
        have hne' : above ≠ path := fun h => hne (h ▸ rfl)
        have hpath : path ≠ [] := by
          rintro rfl
          exact hne' (List.prefix_nil.mp hbehind)
        refine ⟨hpath, ?_⟩
        by_cases habove : above = []
        · subst habove
          exact Or.inl ⟨leaf, hleaf⟩
        · rw [entryAt_cons first habove] at hleaf
          exact Or.inr ⟨above, leaf, hbehind, hne', hleaf⟩
  · rintro ⟨hpath, ⟨leaf, hleaf⟩ | ⟨above, leaf, hpre, hne, hleaf⟩⟩
    · exact ⟨[key], leaf, List.cons_prefix_cons.mpr ⟨rfl, List.nil_prefix⟩,
        fun h => hpath (List.cons.inj h).2.symm, hleaf⟩
    · have habove : above ≠ [] := by
        rintro rfl
        cases hleaf
      refine ⟨key :: above, leaf, List.cons_prefix_cons.mpr ⟨rfl, hpre⟩,
        fun h => hne (List.cons.inj h).2, ?_⟩
      rwa [entryAt_cons key habove]

open Classical in
/-- A table in normal form puts its own entries over those of a table that it is merged into, and
discards what was below its leaves. -/
theorem entryAt_mergeMembers {members : Fields Value} (h : Throughout Normal members)
    (path : List String) (fields : Fields Value) :
    entryAt path (mergeMembers members fields)
      = (entryAt path members).or (if Covered path members then none else entryAt path fields) := by
  induction path generalizing members fields with
  | nil => simp
  | cons key path ih =>
      by_cases hpath : path = []
      · subst hpath
        rw [if_neg fun hcovered => ((covered_cons_iff key [] members).mp hcovered).1 rfl,
          entryAt_single, entryAt_single, entryAt_single, get?_mergeMembers h.here]
        cases members.get? key with
        | none => rfl
        | some v => simp [leaf?_overlay]
      · have hmembers := h.child stable_normal key
        rw [entryAt_cons key hpath, entryAt_cons key hpath, entryAt_cons key hpath,
          child_mergeMembers h.here]
        simp only [covered_cons_iff, ne_eq, hpath, not_false_eq_true, true_and]
        rw [entryAt_single]
        unfold child at hmembers ⊢
        cases hget : members.get? key with
        | none => simp [not_covered_nil_fields]
        | some v =>
            rw [hget] at hmembers
            cases v with
            | object below => simpa [leaf?] using ih hmembers _
            | _ => simp [leaf?]

/-! ## What the writes of an override say of the way to a path -/

namespace Write

theorem Concerns.outcome_eq_none_iff {w : Write} {path : List String} (h : w.Concerns path) :
    w.outcome path = none ↔ w.path <+: path ∧ w.path ≠ path := by
  unfold outcome
  constructor
  · intro hnone
    split at hnone
    · cases hnone
    · next hne =>
        split at hnone
        · cases hnone
        · next hbehind =>
            obtain ⟨-, hpre⟩ | ⟨-, heq⟩ | ⟨hbehind', -⟩ := h
            · exact ⟨hpre, hne⟩
            · exact absurd heq hne
            · exact absurd hbehind' hbehind
  · rintro ⟨hpre, hne⟩
    have hbehind : ¬ path <+: w.path := fun h' =>
      hne (hpre.eq_of_length (Nat.le_antisymm hpre.length_le h'.length_le))
    rw [if_neg hne, if_neg hbehind]

theorem Concerns.leaf?_isSome {w : Write} {path : List String} (h : w.Concerns path)
    (hpre : w.path <+: path) (hne : w.path ≠ path) : w.leaf?.isSome = true := by
  obtain ⟨hleaf, -⟩ | ⟨-, heq⟩ | ⟨hbehind, -⟩ := h
  · exact hleaf
  · exact absurd heq hne
  · exact absurd (hpre.eq_of_length
      (Nat.le_antisymm hpre.length_le hbehind.length_le)) hne

theorem path_eq_of_outcome_eq_leaf {w : Write} {path : List String} {leaf : Value}
    (h : w.outcome path = some (some leaf)) : w.path = path := by
  unfold outcome at h
  split at h
  · assumption
  · split at h <;> cases h

theorem concerns_of_leaf {w : Write} (hleaf : w.leaf?.isSome = true) {path : List String}
    (h : w.path <+: path ∨ path <+: w.path) : w.Concerns path := by
  obtain hpre | hbehind := h
  · exact Or.inl ⟨hleaf, hpre⟩
  · by_cases heq : path = w.path
    · exact Or.inl ⟨hleaf, heq ▸ List.prefix_rfl⟩
    · exact Or.inr (Or.inr ⟨hbehind, heq⟩)

/-- A write that concerns the way to a path and not the path makes a mapping on the way. -/
theorem Concerns.outcome_of_not_concerns {w : Write} {above path : List String}
    (h : w.Concerns above) (hpre : above <+: path) (hnot : ¬ w.Concerns path) :
    w.outcome above = some none := by
  obtain ⟨hleaf, hway⟩ | ⟨hnone, heq⟩ | ⟨hbehind, hne⟩ := h
  · exact absurd (Or.inl ⟨hleaf, hway.trans hpre⟩) hnot
  · rw [outcome, if_pos heq, Option.isNone_iff_eq_none.mp hnone]
  · rw [outcome, if_neg (Ne.symm hne), if_pos hbehind]

end Write

open Write

/-- Writes that do not concern a path leave the way to it alone or make mappings of it. -/
theorem entryAt_replay_above {ws : List Write} (hws : ∀ w ∈ ws, w.Proper) {path : List String}
    (hnot : ∀ w ∈ ws, ¬ w.Concerns path) {above : List String} (hpre : above <+: path)
    (fields : Fields Value) :
    entryAt above (replay ws fields) = entryAt above fields
      ∨ entryAt above (replay ws fields) = some none := by
  by_cases habove : above = []
  · subst habove
    exact Or.inl rfl
  · rw [entryAt_replay hws habove]
    cases hlast : ws.findRev? fun w => w.Concerns above with
    | none => exact Or.inl rfl
    | some w =>
        obtain ⟨hconcerns, before, behind, rfl, -⟩ := exists_append_of_findRev? hlast
        have hmem : w ∈ before ++ w :: behind := List.mem_append_right _ List.mem_cons_self
        exact Or.inr (hconcerns.outcome_of_not_concerns hpre (hnot w hmem))

/-! ## What is forgotten -/

/-- The members of the table that is loaded from an override. -/
def loaded (override : Fields Value) : Fields Value := mergeMembers override []

/-- `Forgets override path`: the last write of the override that concerns the path is a leaf on the
way to it, and the override goes on to make a mapping of that place. -/
def Forgets (override : Fields Value) (path : List String) : Prop :=
  ∃ w, ((writes [] override).findRev? fun w => w.Concerns path) = some w ∧
    w.path <+: path ∧ w.path ≠ path ∧ entryAt w.path (loaded override) = some none

theorem loaded_eq_replay (override : Fields Value) :
    loaded override = replay (writes [] override) [] := mergeMembers_eq_replay override []

theorem normal_loaded (override : Fields Value) : Throughout Normal (loaded override) :=
  Throughout.mergeMembers stable_normal override (.nil stable_normal)

theorem not_covered_loaded {override : Fields Value} {path : List String}
    (h : ∀ w ∈ writes [] override, ¬ w.Concerns path) : ¬ Covered path (loaded override) := by
  rintro ⟨above, leaf, hpre, -, hleaf⟩
  rw [loaded_eq_replay] at hleaf
  obtain hsame | hmapping := entryAt_replay_above (proper_of_mem_writes [] override) h hpre []
  · rw [hsame, entryAt_nil_fields] at hleaf
    cases hleaf
  · rw [hmapping] at hleaf
    cases hleaf

/-- Where the last write that concerns a path is a leaf on the way to it, the loaded table has on the
way what that write left, or mappings that came later. -/
theorem entryAt_loaded_above {override : Fields Value} {path : List String} {w : Write}
    (hlast : ((writes [] override).findRev? fun w => w.Concerns path) = some w)
    (hpre : w.path <+: path) (hleaf : w.leaf?.isSome = true) {above : List String}
    (habove : above <+: path) (hnil : above ≠ []) :
    entryAt above (loaded override) = w.outcome above
      ∨ entryAt above (loaded override) = some none := by
  obtain ⟨-, before, behind, hws, hbehind⟩ := exists_append_of_findRev? hlast
  have hproper : ∀ u ∈ before ++ w :: behind, u.Proper :=
    hws ▸ proper_of_mem_writes [] override
  have hw : w.Proper := hproper w (by simp)
  have hloaded : loaded override = replay behind (w.apply (replay before [])) := by
    rw [loaded_eq_replay, hws]
    exact List.foldl_append
  have hconcerns : w.Concerns above :=
    concerns_of_leaf hleaf (List.prefix_or_prefix_of_prefix hpre habove)
  have hleft : entryAt above (w.apply (replay before [])) = w.outcome above := by
    rw [entryAt_apply hw.grounded hnil, if_pos hconcerns]
  rw [hloaded, ← hleft]
  exact entryAt_replay_above (fun u hu => hproper u (by simp [hu])) hbehind habove _

/-- Such a leaf is still in the loaded table, or a mapping is in its place; no other leaf is on the
way. -/
theorem covered_loaded_iff {override : Fields Value} {path : List String} {w : Write}
    (hlast : ((writes [] override).findRev? fun w => w.Concerns path) = some w)
    (hpre : w.path <+: path) (hne : w.path ≠ path) :
    Covered path (loaded override) ↔ entryAt w.path (loaded override) ≠ some none := by
  obtain ⟨hmem, hconcerns⟩ := mem_of_findRev?_concerns hlast
  have hw : w.Proper := proper_of_mem_writes [] override w hmem
  have hsome : w.leaf?.isSome = true := hconcerns.leaf?_isSome hpre hne
  constructor
  · rintro ⟨above, leaf, habove, -, hleaf⟩
    have hnil : above ≠ [] := by
      rintro rfl
      cases hleaf
    have houtcome : w.outcome above = some (some leaf) := by
      rcases entryAt_loaded_above hlast hpre hsome habove hnil with h | h
      · rw [← h, hleaf]
      · rw [h] at hleaf
        cases hleaf
    rw [path_eq_of_outcome_eq_leaf houtcome, hleaf]
    simp
  · intro hnot
    obtain ⟨leaf, hleaf⟩ := Option.isSome_iff_exists.mp hsome
    have hhere : entryAt w.path (loaded override) = some (some leaf) := by
      rw [(entryAt_loaded_above hlast hpre hsome hpre hw.path_ne_nil).resolve_right hnot, outcome,
        if_pos rfl, hleaf]
    exact ⟨w.path, leaf, hpre, hne, hhere⟩

/-- The last write of an override that concerns a path decides the entry, and without one it
stays. -/
theorem entryAt_merged {path : List String} (hpath : path ≠ []) (override fields : Fields Value) :
    entryAt path (mergeMembers override fields)
      = match (writes [] override).findRev? fun w => w.Concerns path with
        | some w => w.outcome path
        | none => entryAt path fields := by
  rw [mergeMembers_eq_replay]
  exact entryAt_replay (proper_of_mem_writes [] override) hpath fields

theorem entryAt_merged_of_last {override : Fields Value} {path : List String} (hpath : path ≠ [])
    {w : Write} (hlast : ((writes [] override).findRev? fun w => w.Concerns path) = some w)
    (fields : Fields Value) : entryAt path (mergeMembers override fields) = w.outcome path := by
  rw [entryAt_merged hpath, hlast]

theorem entryAt_merged_of_none {override : Fields Value} {path : List String} (hpath : path ≠ [])
    (hlast : ((writes [] override).findRev? fun w => w.Concerns path) = none)
    (fields : Fields Value) :
    entryAt path (mergeMembers override fields) = entryAt path fields := by
  rw [entryAt_merged hpath, hlast]

/-- The entry at a path that is forgotten is discarded by the override and kept by the table that is
loaded from it. -/
theorem entryAt_of_forgets {override : Fields Value} {path : List String}
    (h : Forgets override path) (fields : Fields Value) :
    entryAt path (mergeMembers override fields) = none ∧
      entryAt path (mergeMembers (loaded override) fields) = entryAt path fields := by
  obtain ⟨w, hlast, hpre, hne, hmapping⟩ := h
  have hpath : path ≠ [] := by
    rintro rfl
    exact hne (List.prefix_nil.mp hpre)
  obtain ⟨hconcerns, -⟩ := exists_append_of_findRev? hlast
  have houtcome : w.outcome path = none := hconcerns.outcome_eq_none_iff.mpr ⟨hpre, hne⟩
  have hnot : ¬ Covered path (loaded override) := fun hcovered =>
    (covered_loaded_iff hlast hpre hne).mp hcovered hmapping
  constructor
  · rw [entryAt_merged_of_last hpath hlast, houtcome]
  · rw [entryAt_mergeMembers (normal_loaded override), if_neg hnot, loaded,
      entryAt_merged_of_last hpath hlast, houtcome, Option.none_or]

/-- Of all other paths the loaded table says what the override says. -/
theorem entryAt_of_not_forgets {override : Fields Value} {path : List String}
    (h : ¬ Forgets override path) (fields : Fields Value) :
    entryAt path (mergeMembers (loaded override) fields)
      = entryAt path (mergeMembers override fields) := by
  by_cases hpath : path = []
  · rw [hpath, entryAt_nil, entryAt_nil]
  rw [entryAt_mergeMembers (normal_loaded override)]
  cases hlast : (writes [] override).findRev? fun w => w.Concerns path with
  | none =>
      have hnone := findRev?_concerns_eq_none_iff.mp hlast
      rw [if_neg (not_covered_loaded hnone), loaded, entryAt_merged_of_none hpath hlast,
        entryAt_merged_of_none hpath hlast, entryAt_nil_fields, Option.none_or]
  | some w =>
      rw [loaded, entryAt_merged_of_last hpath hlast, entryAt_merged_of_last hpath hlast]
      cases houtcome : w.outcome path with
      | some entry => exact Option.some_or
      | none =>
          -- the leaf on the way is in the loaded table, too
          obtain ⟨hconcerns, -⟩ := exists_append_of_findRev? hlast
          obtain ⟨hpre, hne⟩ := hconcerns.outcome_eq_none_iff.mp houtcome
          have hcovered : Covered path (loaded override) :=
            (covered_loaded_iff hlast hpre hne).mpr fun hmapping =>
              h ⟨w, hlast, hpre, hne, hmapping⟩
          exact if_pos hcovered

/-! ## Both ways to merge an override -/

namespace Table

theorem merge_object (t : Table) (override : Fields Value) :
    t.merge (.object override) = .ok (t.mergeFields override) := rfl

theorem map_mergeTable_ofValue (t : Table) (override : Fields Value) :
    (ofValue (.object override)).map t.mergeTable
      = .ok (t.mergeFields (loaded override)) := rfl

/-- An override means the same loaded or not unless it forgets an entry of the table: one that a
leaf of the override discards on the way, whose place the override itself makes a mapping again.
Such an entry is discarded by the override and kept by the table that is loaded from it; all others
are the same.  A text or a file that holds the override is merged by loading it. -/
theorem mergeTable_ofValue_eq_merge_iff (t : Table) (override : Fields Value) :
    ((ofValue (.object override)).map t.mergeTable = t.merge (.object override)
      ↔ ∀ path, (entryAt path t.entries).isSome → ¬ Forgets override path) ∧
    (∃ direct through, t.merge (.object override) = .ok direct ∧
      (ofValue (.object override)).map t.mergeTable = .ok through ∧
      ∀ path, (Forgets override path → entryAt path direct.entries = none ∧
          entryAt path through.entries = entryAt path t.entries) ∧
        (¬ Forgets override path → entryAt path through.entries = entryAt path direct.entries)) ∧
    (∀ format text, Value.read? format text = some (.object override) →
      t.mergeText format text = (ofValue (.object override)).map t.mergeTable) ∧
    (∀ file text, Value.read? (Format.ofPath file) text = some (.object override) →
      t.mergeFile file (.ok text) = (ofValue (.object override)).map t.mergeTable) := by
  have htext : ∀ format text, Value.read? format text = some (.object override) →
      t.mergeText format text = (ofValue (.object override)).map t.mergeTable := by
    intro format text hread
    rw [mergeText, parse, hread]
  refine ⟨?_, ⟨_, _, t.merge_object override, t.map_mergeTable_ofValue override, fun path =>
      ⟨fun h => entryAt_of_forgets h t.entries, fun h => entryAt_of_not_forgets h t.entries⟩⟩,
    htext, fun file text hread => htext _ text hread⟩
  rw [merge_object, map_mergeTable_ofValue, Except.ok.injEq]
  constructor
  · intro heq path hsome hforgets
    obtain ⟨hdirect, hthrough⟩ := entryAt_of_forgets hforgets t.entries
    have hentries : mergeMembers (loaded override) t.entries = mergeMembers override t.entries :=
      congrArg Table.entries heq
    rw [← hthrough, hentries, hdirect] at hsome
    cases hsome
  · intro hnone
    refine Table.ext_entryAt fun path => ?_
    by_cases hforgets : Forgets override path
    · -- there was nothing to forget
      have habsent : entryAt path t.entries = none := by
        rw [← Option.not_isSome_iff_eq_none]
        exact fun hsome => hnone path hsome hforgets
      obtain ⟨hdirect, hthrough⟩ := entryAt_of_forgets hforgets t.entries
      exact hthrough.trans (habsent.trans hdirect.symm)
    · exact entryAt_of_not_forgets hforgets t.entries

/-- A text for all of a type and one for a kind of it, in one override: merged as it is, it takes
the other kinds' texts from the table, and loaded before, it leaves them. -/
theorem mergeTable_ofValue_ne_merge_of_overlap :
    let t := empty.insert "string.max" "long"
    let override := [("string", .string "bad"), ("string.min", .string "short")]
    (ofValue (.object override)).map t.mergeTable ≠ t.merge (.object override) ∧
      ((ofValue (.object override)).map t.mergeTable).map (·.get? "string.max")
        = .ok (some "long") ∧
      (t.merge (.object override)).map (·.get? "string.max") = .ok none := by
  intro t override
  have hthrough : (t.mergeFields (loaded override)).get? "string.max" = some "long" := by
    decide +kernel
  have hdirect : (t.mergeFields override).get? "string.max" = none := by
    decide +kernel
  refine ⟨fun heq => ?_, congrArg Except.ok hthrough, congrArg Except.ok hdirect⟩
  have htables : t.mergeFields (loaded override) = t.mergeFields override := Except.ok.inj heq
  rw [htables, hdirect] at hthrough
  cases hthrough

/-- The entry that is discarded by the one and kept by the other is the one that is forgotten. -/
theorem mergeTable_ofValue_eq_merge_iff_of_overlap :
    let t := empty.insert "string.max" "long"
    let override := [("string", .string "bad"), ("string.min", .string "short")]
    Forgets override ["string", "max"] ∧
      (ofValue (.object override)).map t.mergeTable ≠ t.merge (.object override) ∧
      ∃ direct through, t.merge (.object override) = .ok direct ∧
        (ofValue (.object override)).map t.mergeTable = .ok through ∧
        entryAt ["string", "max"] direct.entries = none ∧
        entryAt ["string", "max"] through.entries = some (some (.string "long")) := by
  intro t override
  have hthere : entryAt ["string", "max"] t.entries = some (some (.string "long")) := by rfl
  have hforgets : Forgets override ["string", "max"] :=
    ⟨⟨["string"], some (.string "bad")⟩, by rfl, by decide, by decide, by rfl⟩
  obtain ⟨hiff, ⟨direct, through, hdirect, hthrough, hentries⟩, -⟩ :=
    t.mergeTable_ofValue_eq_merge_iff override
  obtain ⟨hgone, hkept⟩ := (hentries _).1 hforgets
  refine ⟨hforgets, fun heq => ?_, direct, through, hdirect, hthrough, hgone,
    hkept.trans hthere⟩
  exact hiff.mp heq _ (Option.isSome_of_eq_some hthere) hforgets

end Table

end FieldRules.Messages

/-
# `Proofs.Messages.FlatForm` — a table that is loaded from its flat listing

The listing of a table is an override of its own, one dotted key a line, and loading it writes the
lines into the empty table.  `replay_leaves` is what such writes come to: where what is written are
the leaves of a table, each at its path, the order counts for nothing, since no leaf is on the way
to another, and every mapping with something in it is made on the way to a leaf.  An empty mapping
is on the way to none and is lost.

What the listing adds are the keys and the texts of its lines.  They are the keys and the texts of
the leaves if every leaf is a text and no key begins with a dot (`flatten_get?_iff_get?`).  All
three conditions are needed, too: `Table.Reachable.ofValue_flatValue` says which tables come back
from their listings.
-/
import FieldRules.Proofs.Messages.Laws
import FieldRules.Proofs.Messages.Listing

namespace FieldRules.Messages

open Json (Value Fields)

/-! ## What stands in front of an entry and behind it -/

theorem lookupPath_append_of_mapping {path rest : List String} (hrest : rest ≠ [])
    {fields members : Fields Value} (h : lookupPath path fields = some (.object members)) :
    lookupPath (path ++ rest) fields = lookupPath rest members := by
  induction path generalizing fields with
  | nil => cases h
  | cons key path ih =>
      rw [List.cons_append, lookupPath_cons key (List.append_ne_nil_of_right_ne_nil path hrest)]
      by_cases hpath : path = []
      · subst hpath
        have hget : fields.get? key = some (.object members) := h
        rw [List.nil_append, child, hget]
      · rw [lookupPath_cons key hpath] at h
        exact ih h

/-- On the way to an entry stand mappings. -/
theorem entryAt_of_append {path rest : List String} (hpath : path ≠ []) (hrest : rest ≠ [])
    {fields : Fields Value} (h : (entryAt (path ++ rest) fields).isSome) :
    entryAt path fields = some none := by
  induction path generalizing fields with
  | nil => exact absurd rfl hpath
  | cons key path ih =>
      rw [List.cons_append, entryAt_cons key (List.append_ne_nil_of_right_ne_nil path hrest)] at h
      by_cases hnil : path = []
      · subst hnil
        rw [entryAt_single]
        unfold child at h
        split at h
        · next members hget => rw [hget]; rfl
        · rw [entryAt_nil_fields] at h
          cases h
      · rw [entryAt_cons key hnil]
        exact ih hnil h

theorem Throughout.of_lookupPath {Q : Fields Value → Prop} (hQ : Stable Q)
    {fields members : Fields Value} (h : Throughout Q fields) {path : List String}
    (hpath : lookupPath path fields = some (.object members)) : Throughout Q members := by
  induction path generalizing fields with
  | nil => cases hpath
  | cons key path ih =>
      by_cases hnil : path = []
      · subst hnil
        exact h.of_get? hpath
      · rw [lookupPath_cons key hnil] at hpath
        exact ih (h.child hQ key) hpath

/-! ## Mappings with something in them -/

/-- No mapping below is empty. -/
def Filled (fields : Fields Value) : Prop := ∀ path, lookupPath path fields ≠ some (.object [])

theorem Filled.of_lookupPath {fields members : Fields Value} (h : Filled fields)
    {path : List String} (hpath : lookupPath path fields = some (.object members)) :
    Filled members := by
  intro rest hempty
  have hrest : rest ≠ [] := by
    rintro rfl
    cases hempty
  exact h (path ++ rest) ((lookupPath_append_of_mapping hrest hpath).trans hempty)

theorem Filled.exists_leaf {fields : Fields Value} (h : Filled fields)
    (hascending : Throughout Fields.Ascending fields) (hne : fields ≠ []) :
    ∃ path leaf, entryAt path fields = some (some leaf) := by
  induction hascending with
  | @intro fields here _ ih =>
      obtain ⟨⟨key, v⟩, rest, rfl⟩ := List.exists_cons_of_ne_nil hne
      have hget : Fields.get? key ((key, v) :: rest) = some v := if_pos rfl
      cases v with
      | object members =>
          have hmembers : members ≠ [] := fun hnil => h [key] (hnil ▸ hget)
          have hbelow : lookupPath [key] ((key, .object members) :: rest)
              = some (.object members) := hget
          obtain ⟨path, leaf, hleaf⟩ := ih key members hget (h.of_lookupPath hbelow) hmembers
          have hpath : path ≠ [] := by
            rintro rfl
            cases hleaf
          refine ⟨key :: path, leaf, ?_⟩
          rwa [entryAt_cons key hpath, child, hget]
      | _ => exact ⟨[key], _, congrArg (Option.map leaf?) hget⟩

theorem Filled.exists_leaf_behind {fields : Fields Value} (h : Filled fields)
    (hascending : Throughout Fields.Ascending fields) {path : List String}
    (hmapping : entryAt path fields = some none) :
    ∃ rest leaf, rest ≠ [] ∧ entryAt (path ++ rest) fields = some (some leaf) := by
  obtain ⟨v, hv, hv'⟩ := Option.map_eq_some_iff.mp hmapping
  obtain ⟨members, rfl⟩ := leaf?_eq_none_iff.mp hv'
  have hmembers : members ≠ [] := fun hnil => h path (hnil ▸ hv)
  obtain ⟨rest, leaf, hleaf⟩ :=
    (h.of_lookupPath hv).exists_leaf
      (hascending.of_lookupPath stable_ascending hv) hmembers
  have hrest : rest ≠ [] := by
    rintro rfl
    cases hleaf
  refine ⟨rest, leaf, hrest, ?_⟩
  rwa [entryAt, lookupPath_append_of_mapping hrest hv]

/-! ## Writing the leaves of a table -/

/-- `w.PutsLeafOf fields`: the write puts a leaf of the table at the place that it has there. -/
def Write.PutsLeafOf (fields : Fields Value) (w : Write) : Prop :=
  ∃ leaf, w.leaf? = some leaf ∧ entryAt w.path fields = some (some leaf)

theorem Write.PutsLeafOf.outcome_eq {fields : Fields Value} {w : Write} (hw : w.PutsLeafOf fields)
    {path : List String} (hpath : path ≠ []) (hconcerns : w.Concerns path) :
    w.outcome path = entryAt path fields := by
  obtain ⟨leaf, hleaf, hentry⟩ := hw
  by_cases heq : w.path = path
  · rw [outcome, if_pos heq, hleaf, ← heq, hentry]
  obtain ⟨-, hway⟩ | ⟨hbehind, houtcome⟩ := hconcerns.leaf_or_mapping
  · -- nothing stands behind the leaf
    obtain ⟨rest, rfl⟩ := hway
    have hrest : rest ≠ [] := fun hnil => heq (by rw [hnil, List.append_nil])
    rw [entryAt_append_of_leaf hrest hentry, hconcerns.outcome_eq_none_iff]
    exact ⟨List.prefix_append _ _, heq⟩
  · -- the path is on the way to the leaf
    obtain ⟨rest, hrest⟩ := hbehind
    have hne : rest ≠ [] := fun hnil => heq (by rw [← hrest, hnil, List.append_nil])
    rw [houtcome, entryAt_of_append hpath hne]
    rw [hrest, hentry]
    rfl

/-- A table without empty mappings is what writing its leaves into nothing leaves, in any order. -/
theorem replay_leaves {fields : Fields Value} (hfilled : Filled fields)
    (hfields : Throughout Fields.Ascending fields) {ws : List Write} (hws : ∀ w ∈ ws, w.Proper)
    (hleaves : ∀ w, w ∈ ws ↔ w.PutsLeafOf fields) (path : List String) :
    entryAt path (replay ws []) = entryAt path fields := by
  by_cases hpath : path = []
  · rw [hpath, entryAt_nil, entryAt_nil]
  rw [entryAt_replay hws hpath]
  cases hlast : ws.findRev? fun w => w.Concerns path with
  | some w =>
      obtain ⟨hmem, hconcerns⟩ := mem_of_findRev?_concerns hlast
      exact ((hleaves w).mp hmem).outcome_eq hpath hconcerns
  | none =>
      -- a leaf at the path or behind it would be written
      have hnone := findRev?_concerns_eq_none_iff.mp hlast
      have hno : ∀ rest leaf, entryAt (path ++ rest) fields ≠ some (some leaf) := fun rest leaf h =>
        hnone ⟨path ++ rest, some leaf⟩ ((hleaves _).mpr ⟨leaf, rfl, h⟩)
          (Write.concerns_of_leaf rfl (.inr (List.prefix_append path rest)))
      rw [entryAt_nil_fields]
      cases hentry : entryAt path fields with
      | none => rfl
      | some entry =>
          cases entry with
          | some leaf => exact absurd (by rwa [List.append_nil]) (hno [] leaf)
          | none =>
              obtain ⟨rest, leaf, -, hleaf⟩ := hfilled.exists_leaf_behind hfields hentry
              exact absurd hleaf (hno rest leaf)

/-! ## Tables of leaves that are written -/

/-- What stands in a table that is loaded, a write has put there. -/
theorem exists_write_of_entryAt {override : Fields Value} {path : List String}
    {entry : Option Value} (h : entryAt path (loaded override) = some entry) :
    ∃ w ∈ writes [] override, w.outcome path = some entry := by
  have hpath : path ≠ [] := by
    rintro rfl
    cases h
  rw [loaded, entryAt_merged hpath] at h
  split at h
  · next w hlast => exact ⟨w, (mem_of_findRev?_concerns hlast).1, h⟩
  · rw [entryAt_nil_fields] at h
    cases h

theorem exists_write_of_leaf {override : Fields Value} {path : List String} {leaf : Value}
    (h : entryAt path (loaded override) = some (some leaf)) :
    ∃ w ∈ writes [] override, w.path = path ∧ w.leaf? = some leaf := by
  obtain ⟨w, hw, houtcome⟩ := exists_write_of_entryAt h
  have heq := Write.path_eq_of_outcome_eq_leaf houtcome
  rw [Write.outcome, if_pos heq] at houtcome
  exact ⟨w, hw, heq, Option.some.inj houtcome⟩

theorem Write.prefix_of_outcome {w : Write} {path : List String} {entry : Option Value}
    (h : w.outcome path = some entry) : path <+: w.path := by
  unfold outcome at h
  split at h
  · next heq => exact heq ▸ List.prefix_rfl
  · split at h
    · next hbehind => exact hbehind
    · cases h

/-- A write that concerns a path is the last of those that do if none behind it does. -/
theorem findRev?_concerns_of_append {before behind : List Write} {w : Write} {path : List String}
    (hw : w.Concerns path) (hbehind : ∀ u ∈ behind, ¬ u.Concerns path) :
    ((before ++ w :: behind).findRev? fun u => u.Concerns path) = some w := by
  rw [List.findRev?_eq_find?_reverse, List.find?_eq_some_iff_append]
  refine ⟨decide_eq_true hw, behind.reverse, before.reverse, by simp, fun u hu => ?_⟩
  simpa using hbehind u (List.mem_reverse.mp hu)

/-- A leaf that makes a mapping of a path is behind it. -/
theorem Write.exists_append_of_outcome {w : Write} (hleaf : w.leaf?.isSome = true)
    {path : List String} (h : w.outcome path = some none) :
    ∃ rest, rest ≠ [] ∧ path ++ rest = w.path := by
  obtain ⟨rest, hrest⟩ := prefix_of_outcome h
  refine ⟨rest, ?_, hrest⟩
  rintro rfl
  rw [outcome, if_pos (by rw [← hrest, List.append_nil])] at h
  rw [Option.some.inj h] at hleaf
  cases hleaf

/-- Where only leaves are written, no mapping is empty: the last write that makes it leaves its leaf
there, since any leaf that is written over that one would make the mapping, too, or discard it. -/
theorem filled_replay {ws : List Write} (hws : ∀ w ∈ ws, w.Proper)
    (hleaves : ∀ w ∈ ws, w.leaf?.isSome = true) : Filled (replay ws []) := by
  intro path hempty
  have hpath : path ≠ [] := by
    rintro rfl
    cases hempty
  have hmapping : entryAt path (replay ws []) = some none := congrArg (Option.map leaf?) hempty
  rw [entryAt_replay hws hpath] at hmapping
  split at hmapping
  · next w hlast =>
      obtain ⟨-, before, behind, rfl, hbehind⟩ := exists_append_of_findRev? hlast
      have hw : w ∈ before ++ w :: behind := List.mem_append_right _ List.mem_cons_self
      obtain ⟨rest, hrest, hwpath⟩ := Write.exists_append_of_outcome (hleaves w hw) hmapping
      have hclear : ∀ u ∈ behind, ¬ u.Concerns w.path := fun u hu hconcerns => by
        have hleaf : u.leaf?.isSome = true := hleaves u (by simp [hu])
        have hway : path <+: w.path := ⟨rest, hwpath⟩
        refine hbehind u hu (Write.concerns_of_leaf hleaf ?_)
        obtain ⟨-, habove⟩ | ⟨hbelow, -⟩ := hconcerns.leaf_or_mapping
        · exact List.prefix_or_prefix_of_prefix habove hway
        · exact .inr (hway.trans hbelow)
      have hlastHere : ((before ++ w :: behind).findRev? fun u => u.Concerns w.path) = some w :=
        findRev?_concerns_of_append (Write.concerns_of_leaf (hleaves w hw) (.inl List.prefix_rfl))
          hclear
      have hkept := entryAt_replay hws (hws w hw).path_ne_nil []
      rw [hlastHere] at hkept
      have hnone : entryAt w.path (replay (before ++ w :: behind) []) = none := by
        rw [← hwpath, entryAt, lookupPath_append_of_mapping hrest hempty, lookupPath_nil_fields]
        rfl
      rw [hnone] at hkept
      simp [Write.outcome] at hkept
  · rw [entryAt_nil_fields] at hmapping
    cases hmapping

/-! ## The listing as an override -/

namespace Table

/-- The listing as an object with one member a line. -/
def flatMembers (t : Table) : Fields Value := t.flatten.map fun (key, text) => (key, .string text)

def flatValue (t : Table) : Value := .object t.flatMembers

def OnlyTexts (t : Table) : Prop :=
  ∀ path leaf, entryAt path t.entries = some (some leaf) → ∃ text, leaf = .string text

/-- No key of a leaf begins with a dot. -/
def NoLeadingDots (t : Table) : Prop :=
  ∀ key, (t.leafAt? key).isSome → withoutLeadingDots key = key

/-- No key on the way to anything is empty. -/
def NoEmptySegments (t : Table) : Prop :=
  ∀ path v, lookupPath path t.entries = some v → "" ∉ path

theorem NoEmptySegments.noLeadingDots {t : Table} (h : t.NoEmptySegments) : t.NoLeadingDots := by
  intro key hkey
  obtain ⟨leaf, hleaf⟩ := Option.isSome_iff_exists.mp hkey
  obtain ⟨v, hv, -⟩ := Option.map_eq_some_iff.mp (Option.join_eq_some_iff.mp hleaf)
  obtain ⟨n, hsegments, -⟩ := exists_leadingDots key
  have hempty := h _ v hv
  obtain rfl : n = 0 := by
    refine Nat.eq_zero_of_not_pos fun hpos => hempty ?_
    rw [hsegments]
    exact List.mem_append_left _ (List.mem_replicate.mpr ⟨Nat.ne_of_gt hpos, rfl⟩)
  exact (eq_of_segments_eq hsegments).symm

theorem mem_writes_flatMembers {t : Table} {w : Write} :
    w ∈ writes [] t.flatMembers ↔
      ∃ key text, t.flatten.get? key = some text ∧ w = ⟨segments key, some (.string text)⟩ := by
  have hwrites : ∀ lines : Fields String,
      writes [] (lines.map fun (key, text) => (key, .string text))
        = lines.map fun (key, text) => ⟨segments key, some (.string text)⟩ := by
    intro lines
    induction lines with
    | nil => rfl
    | cons line lines ih => rw [List.map_cons, writes, ih]; rfl
  have hascending : t.flatten.Ascending := Fields.ascending_ofList _
  rw [flatMembers, hwrites, List.mem_map]
  constructor
  · rintro ⟨⟨key, text⟩, hline, rfl⟩
    exact ⟨key, text, hascending.mem_iff.mp hline, rfl⟩
  · rintro ⟨key, text, hline, rfl⟩
    exact ⟨(key, text), hascending.mem_iff.mpr hline, rfl⟩

namespace Reachable

variable {t : Table}

/-- Texts whose keys do not begin with a dot are listed as they are. -/
theorem flatten_get?_iff_get? (h : t.Reachable) (htexts : t.OnlyTexts) (hdots : t.NoLeadingDots)
    (key text : String) : t.flatten.get? key = some text ↔ t.get? key = some text := by
  rw [h.flatten_get?_iff]
  constructor
  · rintro ⟨source, leaf, hleaf, ⟨hkey, -⟩, rfl⟩
    obtain rfl : source = key := (hdots source (Option.isSome_of_eq_some hleaf)).symm.trans hkey
    obtain ⟨text, rfl⟩ := htexts _ leaf (Option.join_eq_some_iff.mp hleaf)
    exact get?_eq_some_iff.mpr hleaf
  · intro htext
    have hleaf := get?_eq_some_iff.mp htext
    refine ⟨key, _, hleaf, ⟨hdots key (Option.isSome_of_eq_some hleaf), ?_⟩, rfl⟩
    exact fun other hother hsame => Nat.le_of_eq (by rw [← hsame, hdots other hother])

theorem loaded_flatMembers (h : t.Reachable) (htexts : t.OnlyTexts) (hfilled : Filled t.entries)
    (hdots : t.NoLeadingDots) : loaded t.flatMembers = t.entries := by
  have hleaves : ∀ w, w ∈ writes [] t.flatMembers ↔ w.PutsLeafOf t.entries := by
    intro w
    rw [mem_writes_flatMembers]
    simp only [h.flatten_get?_iff_get? htexts hdots, get?_eq_some_iff]
    constructor
    · rintro ⟨key, text, hleaf, rfl⟩
      exact ⟨_, rfl, Option.join_eq_some_iff.mp hleaf⟩
    · rintro ⟨leaf, hleaf, hentry⟩
      obtain ⟨text, rfl⟩ := htexts _ leaf hentry
      obtain ⟨key, hkey, hleaf'⟩ := h.exists_key hentry
      exact ⟨key, text, hleaf', by rw [hkey, ← hleaf]⟩
  refine eq_of_entryAt (normal_loaded _).ascending t.ordered fun path => ?_
  rw [loaded_eq_replay]
  exact replay_leaves hfilled t.ordered (proper_of_mem_writes [] _) hleaves path

/-- A table that comes back from its listing holds what lines can say. -/
theorem of_loaded_flatMembers (h : t.Reachable) (hloaded : loaded t.flatMembers = t.entries) :
    t.OnlyTexts ∧ Filled t.entries ∧ t.NoLeadingDots := by
  have hline : ∀ {path leaf}, entryAt path t.entries = some (some leaf) →
      ∃ key text, t.flatten.get? key = some text ∧ segments key = path ∧ leaf = .string text := by
    intro path leaf hleaf
    rw [← hloaded] at hleaf
    obtain ⟨w, hw, hpath, hwleaf⟩ := exists_write_of_leaf hleaf
    obtain ⟨key, text, hline, rfl⟩ := mem_writes_flatMembers.mp hw
    exact ⟨key, text, hline, hpath, (Option.some.inj hwleaf).symm⟩
  refine ⟨fun path leaf hleaf => ?_, ?_, fun key hkey => ?_⟩
  · obtain ⟨key, text, -, -, rfl⟩ := hline hleaf
    exact ⟨text, rfl⟩
  · rw [← hloaded, loaded_eq_replay]
    refine filled_replay (proper_of_mem_writes [] _) fun w hw => ?_
    obtain ⟨key, text, -, rfl⟩ := mem_writes_flatMembers.mp hw
    rfl
  · obtain ⟨leaf, hleaf⟩ := Option.isSome_iff_exists.mp hkey
    obtain ⟨other, text, hother, hsegments, -⟩ := hline (Option.join_eq_some_iff.mp hleaf)
    obtain rfl := eq_of_segments_eq hsegments
    obtain ⟨source, -, -, hcounts, -⟩ := (h.flatten_get?_iff other text).mp hother
    rw [← hcounts.1, withoutLeadingDots_idem]

/-- A table of texts that holds no empty mapping and no empty segment is complete in its listing,
and is loaded from it again.  Among all tables that come about, those come back from their listings
in which every leaf is a text, no mapping is empty and no key of a leaf begins with a dot. -/
theorem ofValue_flatValue (h : t.Reachable) :
    (t.OnlyTexts → Filled t.entries → t.NoEmptySegments →
      (∀ key text, t.flatten.get? key = some text ↔ t.get? key = some text) ∧
        Table.ofValue t.flatValue = .ok t) ∧
    (Table.ofValue t.flatValue = .ok t ↔
      t.OnlyTexts ∧ Filled t.entries ∧ t.NoLeadingDots) := by
  have hload : Table.ofValue t.flatValue = .ok (Table.empty.mergeFields t.flatMembers) := rfl
  rw [hload, Except.ok.injEq, Table.ext_iff]
  refine ⟨fun htexts hfilled hsegments => ?_, h.of_loaded_flatMembers, ?_⟩
  · have hdots := hsegments.noLeadingDots
    exact ⟨h.flatten_get?_iff_get? htexts hdots, h.loaded_flatMembers htexts hfilled hdots⟩
  · rintro ⟨htexts, hfilled, hdots⟩
    exact h.loaded_flatMembers htexts hfilled hdots

/-- The line of a key in the mapping goes behind that of a key beside it, which begins with the
mapping's own: a hyphen stands in front of a dot. -/
theorem ofValue_flatValue_of_hyphen :
    let override := [("a", .object [("b", .string "x"), ("c.d", .string "y")]),
      ("a-b", .string "z")]
    let t := Table.empty.mergeFields override
    t.Reachable ∧ t.OnlyTexts ∧ Filled t.entries ∧ t.NoEmptySegments ∧
      t.flatten = [("a-b", "z"), ("a.b", "x"), ("a.c.d", "y")] ∧
      (∀ key text, t.flatten.get? key = some text ↔ t.get? key = some text) ∧
      Table.ofValue t.flatValue = .ok t := by
  intro override t
  have ht : t.Reachable := .ofValue (.object override) rfl
  have hflatten : t.flatten = [("a-b", "z"), ("a.b", "x"), ("a.c.d", "y")] := by decide +kernel
  obtain ⟨htexts, hfilled, -⟩ := ht.ofValue_flatValue.2.mp (by rfl)
  have hsegments : t.NoEmptySegments := by
    intro path v hv hempty
    have hentry : entryAt path (loaded override) = some (leaf? v) := congrArg (Option.map leaf?) hv
    obtain ⟨w, hw, houtcome⟩ := exists_write_of_entryAt hentry
    have hwrites : ∀ w ∈ writes [] override, "" ∉ w.path := by decide
    exact hwrites w hw ((Write.prefix_of_outcome houtcome).subset hempty)
  exact ⟨ht, htexts, hfilled, hsegments, hflatten, ht.ofValue_flatValue.1 htexts hfilled hsegments⟩

end Reachable

end Table

end FieldRules.Messages

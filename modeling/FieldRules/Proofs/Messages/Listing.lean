/-
# `Proofs.Messages.Listing` — the flat listing of a table

The listing goes down the tree and spells the key of each leaf on the way: a segment goes behind a
dot, unless nothing is spelt yet (`flatKey`).  A key may begin with dots, its first segments being
empty; nothing is spelt by these, and the dots behind them are missing.  So a leaf is listed under
its key without the dots in front (`flatKey_segments`), and leaves whose keys differ in nothing else
share a line.

Leaves are listed in the order of their paths (`pairwise_fieldLeaves`) and of those that share a
line the last counts.  An empty segment stands in front of all others, so that is the leaf with the
fewest dots: `Table.Reachable.listing` says what is listed under which key, and that a table and its
listing hold the same exactly if no text has a key that begins with a dot and no two leaves share a
line.
-/
import FieldRules.Proofs.Messages.LastWrite
import FieldRules.Proofs.Messages.Normal

namespace FieldRules.Messages

open Json (Value Fields)

/-! ## Leaves and their paths -/

def below (key : String) (p : List String × Value) : List String × Value := (key :: p.1, p.2)

mutual

def valueLeaves : Value → List (List String × Value)
  | .object members => fieldLeaves members
  | leaf => [([], leaf)]

/-- The leaves under the members of a mapping, in the order of the members. -/
def fieldLeaves : List (String × Value) → List (List String × Value)
  | [] => []
  | (key, value) :: rest => (valueLeaves value).map (below key) ++ fieldLeaves rest

end

theorem fieldLeaves_eq_flatMap (fields : Fields Value) :
    fieldLeaves fields = fields.flatMap fun p => (valueLeaves p.2).map (below p.1) := by
  induction fields with
  | nil => rfl
  | cons p rest ih =>
      obtain ⟨key, value⟩ := p
      rw [fieldLeaves, ih, List.flatMap_cons]

theorem cons_mem_fieldLeaves {fields : Fields Value} (h : fields.Ascending) {key : String}
    {path : List String} {leaf : Value} :
    (key :: path, leaf) ∈ fieldLeaves fields ↔
      ∃ v, fields.get? key = some v ∧ (path, leaf) ∈ valueLeaves v := by
  rw [fieldLeaves_eq_flatMap, List.mem_flatMap]
  constructor
  · rintro ⟨⟨k, v⟩, hmem, hleaf⟩
    obtain ⟨⟨rest, found⟩, hfound, heq⟩ := List.mem_map.mp hleaf
    cases heq
    exact ⟨v, h.mem_iff.mp hmem, hfound⟩
  · rintro ⟨v, hget, hleaf⟩
    exact ⟨(key, v), h.mem_iff.mpr hget, List.mem_map.mpr ⟨(path, leaf), hleaf, rfl⟩⟩

theorem ne_nil_of_mem_fieldLeaves {fields : Fields Value} {p : List String × Value}
    (h : p ∈ fieldLeaves fields) : p.1 ≠ [] := by
  rw [fieldLeaves_eq_flatMap, List.mem_flatMap] at h
  obtain ⟨q, -, hp⟩ := h
  obtain ⟨r, -, rfl⟩ := List.mem_map.mp hp
  exact List.cons_ne_nil _ _

theorem nil_mem_valueLeaves {v leaf : Value} : ([], leaf) ∈ valueLeaves v ↔ leaf? v = some leaf := by
  cases v with
  | object members =>
      rw [valueLeaves, leaf?]
      exact iff_of_false (fun h => ne_nil_of_mem_fieldLeaves h rfl) (Option.some_ne_none leaf).symm
  | _ => simp [valueLeaves, leaf?, eq_comm]

/-- The leaves are what stands in a table and is no mapping. -/
theorem mem_fieldLeaves_iff {fields : Fields Value} (h : Throughout Fields.Ascending fields)
    {path : List String} {leaf : Value} :
    (path, leaf) ∈ fieldLeaves fields ↔ entryAt path fields = some (some leaf) := by
  induction path generalizing fields with
  | nil =>
      rw [entryAt_nil]
      exact iff_of_false (fun hmem => ne_nil_of_mem_fieldLeaves hmem rfl) (Option.some_ne_none _).symm
  | cons key path ih =>
      rw [cons_mem_fieldLeaves h.here]
      by_cases hpath : path = []
      · subst hpath
        rw [entryAt_single, Option.map_eq_some_iff]
        simp only [nil_mem_valueLeaves]
      · rw [entryAt_cons key hpath, ← ih (h.child stable_ascending key), child]
        cases fields.get? key with
        | none => simp [fieldLeaves]
        | some v => cases v <;> simp [valueLeaves, fieldLeaves, hpath]

theorem entryAt_append_of_leaf {path rest : List String} {leaf : Value} (hrest : rest ≠ [])
    {fields : Fields Value} (h : entryAt path fields = some (some leaf)) :
    entryAt (path ++ rest) fields = none := by
  induction path generalizing fields with
  | nil => cases h
  | cons key path ih =>
      rw [List.cons_append, entryAt_cons key (List.append_ne_nil_of_right_ne_nil path hrest)]
      by_cases hpath : path = []
      · subst hpath
        rw [entryAt_single, Option.map_eq_some_iff] at h
        obtain ⟨v, hget, hv⟩ := h
        rw [child, hget]
        cases v with
        | object members => cases hv
        | _ => exact entryAt_nil_fields rest
      · rw [entryAt_cons key hpath] at h
        exact ih h

theorem pairwise_fieldLeaves {fields : Fields Value} (h : Throughout Fields.Ascending fields) :
    (fieldLeaves fields).Pairwise fun p q => p.1 < q.1 := by
  induction h with
  | @intro fields here _ ih =>
      rw [fieldLeaves_eq_flatMap, List.pairwise_flatMap]
      constructor
      · rintro ⟨key, v⟩ hmem
        rw [List.pairwise_map]
        have hvalue : (valueLeaves v).Pairwise fun p q => p.1 < q.1 := by
          cases v with
          | object members => exact ih key members (here.mem_iff.mp hmem)
          | _ => exact List.pairwise_singleton _ _
        exact hvalue.imp fun hlt => List.cons_lt_cons_iff.mpr (.inr ⟨rfl, hlt⟩)
      · refine (List.pairwise_map.mp here).imp fun hlt p hp q hq => ?_
        obtain ⟨p', -, rfl⟩ := List.mem_map.mp hp
        obtain ⟨q', -, rfl⟩ := List.mem_map.mp hq
        exact List.cons_lt_cons_iff.mpr (.inl hlt)

/-! ## Flat keys -/

/-- A key one segment further: the segment behind a dot, unless nothing is spelt yet. -/
def extend (front segment : String) : String :=
  if front.isEmpty then segment else front ++ "." ++ segment

/-- The key that a path spells when its segments are put one behind the other. -/
def flatKey (path : List String) : String := path.foldl extend ""

def listed : Value → String
  | .string s => s
  | leaf => leaf.compact

mutual

theorem leaves_eq_map (front : String) :
    ∀ v : Value, leaves front v
      = (valueLeaves v).map fun p => (p.1.foldl extend front, listed p.2)
  | .object members => by rw [leaves, valueLeaves, memberLeaves_eq_map front members]
  | .null | .bool _ | .number _ | .string _ | .array _ => rfl

/-- What is listed are the leaves, each under the key that is spelt on the way to it. -/
theorem memberLeaves_eq_map (front : String) :
    ∀ members : List (String × Value), memberLeaves front members
      = (fieldLeaves members).map fun p => (p.1.foldl extend front, listed p.2)
  | [] => rfl
  | (key, value) :: rest => by
      rw [memberLeaves, fieldLeaves, leaves_eq_map (if front.isEmpty then key else _) value,
        memberLeaves_eq_map front rest, List.map_append, List.map_map]
      rfl

end

/-- A key without the dots that it begins with. -/
def withoutLeadingDots (key : String) : String :=
  String.ofList (key.toList.dropWhile (· = '.'))

theorem segments_dot (cs : List Char) :
    segments (String.ofList ('.' :: cs)) = "" :: segments (String.ofList cs) := by
  rw [segments, segments, String.toList_ofList, String.toList_ofList, Text.splitAt, if_pos rfl]
  rfl

theorem segments_replicate (n : Nat) (cs : List Char) :
    segments (String.ofList (List.replicate n '.' ++ cs))
      = List.replicate n "" ++ segments (String.ofList cs) := by
  induction n with
  | zero => rfl
  | succ n ih =>
      rw [List.replicate_succ, List.cons_append, segments_dot, ih, List.replicate_succ,
        List.cons_append]

theorem segments_cons {c : Char} (h : c ≠ '.') (cs : List Char) :
    ∃ piece rest, segments (String.ofList (c :: cs)) = String.ofList (c :: piece) :: rest := by
  cases hpieces : Text.splitAt '.' cs with
  | nil => exact absurd hpieces (Text.splitAt_ne_nil '.' cs)
  | cons piece pieces =>
      refine ⟨piece, pieces.map String.ofList, ?_⟩
      rw [segments, String.toList_ofList, Text.splitAt, if_neg h, hpieces]
      rfl

theorem toList_intercalate_segments (key : String) :
    ['.'].intercalate ((segments key).map String.toList) = key.toList := by
  have hmap : (segments key).map String.toList = key.toList.splitOn '.' := by
    rw [segments, List.map_map, ← Text.splitAt_eq_splitOn]
    simp [Function.comp_def]
  rw [hmap, List.intercalate_splitOn]

/-- Behind something that is spelt, every segment comes with its dot. -/
theorem toList_foldl_extend {front : String} (h : front ≠ "") (path : List String) :
    (path.foldl extend front).toList
      = ['.'].intercalate (front.toList :: path.map String.toList) := by
  induction path generalizing front with
  | nil => exact List.intercalate_singleton.symm
  | cons segment path ih =>
      have hextend : extend front segment = front ++ "." ++ segment :=
        if_neg (mt String.isEmpty_iff.mp h)
      have hne : front ++ "." ++ segment ≠ "" := by
        intro hempty
        have hlist := congrArg String.toList hempty
        simp at hlist
      rw [List.foldl_cons, hextend, ih hne, List.map_cons, List.intercalate_cons_cons]
      cases path with
      | nil => simp [String.toList_append]
      | cons next path => simp [String.toList_append, List.intercalate_cons_cons]

/-- The flat key of a leaf is its key without the dots in front. -/
theorem flatKey_segments (key : String) : flatKey (segments key) = withoutLeadingDots key := by
  obtain ⟨cs, rfl⟩ : ∃ cs, key = String.ofList cs := ⟨key.toList, by simp⟩
  rw [withoutLeadingDots, String.toList_ofList]
  induction cs with
  | nil => rfl
  | cons c cs ih =>
      by_cases hc : c = '.'
      · subst hc
        rw [segments_dot, List.dropWhile_cons_of_pos (by simp), ← ih]
        rfl
      · obtain ⟨piece, rest, hsegments⟩ := segments_cons hc cs
        have hne : String.ofList (c :: piece) ≠ "" := by
          intro hempty
          have hlist := congrArg String.toList hempty
          simp at hlist
        have hflat : flatKey (segments (String.ofList (c :: cs)))
            = rest.foldl extend (String.ofList (c :: piece)) := by
          rw [hsegments]
          rfl
        rw [List.dropWhile_cons_of_neg (by simpa using hc), ← String.toList_inj, hflat,
          toList_foldl_extend hne, ← List.map_cons, ← hsegments, toList_intercalate_segments]

theorem withoutLeadingDots_cases (key : String) :
    withoutLeadingDots key = "" ∨
      ∃ c cs, c ≠ '.' ∧ withoutLeadingDots key = String.ofList (c :: cs) := by
  rw [withoutLeadingDots]
  cases hrest : key.toList.dropWhile (· = '.') with
  | nil => exact .inl rfl
  | cons c cs =>
      have hhead := List.head?_dropWhile_not (fun c => decide (c = '.')) key.toList
      rw [hrest] at hhead
      exact .inr ⟨c, cs, of_decide_eq_false hhead, rfl⟩

theorem withoutLeadingDots_idem (key : String) :
    withoutLeadingDots (withoutLeadingDots key) = withoutLeadingDots key := by
  rcases withoutLeadingDots_cases key with hempty | ⟨c, cs, hc, hrest⟩
  · rw [hempty]
    rfl
  · rw [hrest, withoutLeadingDots, String.toList_ofList,
      List.dropWhile_cons_of_neg (by simpa using hc)]

/-- A key is its dots in front and the rest. -/
theorem exists_leadingDots (key : String) :
    ∃ n, segments key = List.replicate n "" ++ segments (withoutLeadingDots key) ∧
      key.length = n + (withoutLeadingDots key).length := by
  have hdots : ∀ c ∈ key.toList.takeWhile (· = '.'), c = '.' := fun c hc =>
    of_decide_eq_true (List.all_eq_true.mp List.all_takeWhile c hc)
  obtain ⟨n, hn⟩ : ∃ n, key.toList.takeWhile (· = '.') = List.replicate n '.' :=
    ⟨_, List.eq_replicate_of_mem hdots⟩
  have hkey : List.replicate n '.' ++ key.toList.dropWhile (· = '.') = key.toList := by
    rw [← hn, List.takeWhile_append_dropWhile]
  refine ⟨n, ?_, ?_⟩
  · rw [withoutLeadingDots, ← segments_replicate, hkey, String.ofList_toList]
  · rw [← String.length_toList, ← hkey, List.length_append, List.length_replicate,
      withoutLeadingDots, String.length_ofList]

/-- What is left of a key without the dots in front begins with a segment that is not empty, or is
nothing at all. -/
theorem segments_withoutLeadingDots (key : String) :
    segments (withoutLeadingDots key) = [""] ∨
      ∃ first rest, segments (withoutLeadingDots key) = first :: rest ∧ "" < first := by
  rcases withoutLeadingDots_cases key with hempty | ⟨c, cs, hc, hrest⟩
  · rw [hempty]
    exact .inl rfl
  · obtain ⟨piece, rest, hsegments⟩ := segments_cons hc cs
    refine .inr ⟨_, rest, hrest ▸ hsegments, String.lt_iff.mpr ?_⟩
    rw [String.toList_empty, String.toList_ofList]
    exact List.nil_lt_cons c piece

/-! ## Which leaf is listed -/

namespace Table

/-- The leaf that stands under a key. -/
def leafAt? (t : Table) (key : String) : Option Value := (entryAt (segments key) t.entries).join

theorem get?_eq_leafAt? (t : Table) (key : String) :
    t.get? key = (t.leafAt? key).bind Value.asString? := by
  have htext : t.get? key = textAt (segments key) t.entries := rfl
  rw [htext, textAt_eq_entryAt_bind, leafAt?]
  cases entryAt (segments key) t.entries <;> rfl

theorem get?_eq_some_iff {t : Table} {key text : String} :
    t.get? key = some text ↔ t.leafAt? key = some (.string text) := by
  rw [get?_eq_leafAt?, Option.bind_eq_some_iff]
  constructor
  · rintro ⟨leaf, hleaf, htext⟩
    cases leaf with
    | string s =>
        cases htext
        exact hleaf
    | _ => cases htext
  · exact fun hleaf => ⟨_, hleaf, rfl⟩

/-- Of two leaves whose keys differ only in the dots in front, the one with more of them comes
first. -/
theorem length_le_of_segments_lt {t : Table} {key other : String} (hkey : (t.leafAt? key).isSome)
    (hother : (t.leafAt? other).isSome) (hrest : withoutLeadingDots other = withoutLeadingDots key)
    (hlt : segments other < segments key) : key.length ≤ other.length := by
  obtain ⟨m, hsegments, hlength⟩ := exists_leadingDots key
  obtain ⟨n, hsegments', hlength'⟩ := exists_leadingDots other
  rw [hlength, hlength', hrest]
  refine Nat.add_le_add_right (Nat.le_of_not_lt fun hlonger => ?_) _
  obtain ⟨d, rfl⟩ : ∃ d, m = n + (d + 1) := ⟨m - n - 1, by omega⟩
  rw [hrest] at hsegments'
  rw [← List.replicate_append_replicate, List.append_assoc, List.replicate_succ, List.cons_append]
    at hsegments
  rcases segments_withoutLeadingDots key with hempty | ⟨first, rest, hfirst, hpos⟩
  · -- the key with more dots goes on behind the leaf of the other
    rw [hempty] at hsegments hsegments'
    have hbehind : segments key = segments other ++ (List.replicate d "" ++ [""]) := by
      rw [hsegments, hsegments', List.append_assoc]
      rfl
    obtain ⟨leaf, hleaf⟩ := Option.isSome_iff_exists.mp hother
    have hmore : List.replicate d "" ++ [""] ≠ [] :=
      List.append_ne_nil_of_right_ne_nil _ (List.cons_ne_nil _ _)
    have hnone := entryAt_append_of_leaf hmore (Option.join_eq_some_iff.mp hleaf)
    rw [leafAt?, hbehind, hnone] at hkey
    cases hkey
  · -- the next segment is an empty one, which stands in front of the other's
    have hgt : segments key < segments other := by
      rw [hsegments, hsegments', hfirst]
      exact List.append_left_lt (List.cons_lt_cons_iff.mpr (.inl hpos))
    exact List.lt_asymm hlt hgt

/-- `t.CountsFor source key`: of the leaves whose keys are `key` behind the dots in front, that under
`source` has the fewest dots. -/
def CountsFor (t : Table) (source key : String) : Prop :=
  withoutLeadingDots source = key ∧
    ∀ other, (t.leafAt? other).isSome → withoutLeadingDots other = key →
      source.length ≤ other.length

theorem eq_of_withoutLeadingDots_eq {key other : String}
    (hrest : withoutLeadingDots key = withoutLeadingDots other) (h : key.length = other.length) :
    key = other := by
  obtain ⟨m, hsegments, hlength⟩ := exists_leadingDots key
  obtain ⟨n, hsegments', hlength'⟩ := exists_leadingDots other
  have hdots : m = n := by
    rw [hlength, hlength', hrest] at h
    exact Nat.add_right_cancel h
  exact eq_of_segments_eq (by rw [hsegments, hsegments', hdots, hrest])

theorem flatten_eq (t : Table) :
    t.flatten
      = Fields.ofList ((fieldLeaves t.entries).map fun p => (flatKey p.1, listed p.2)) := by
  rw [flatten, memberLeaves_eq_map]
  rfl

namespace Reachable

variable {t : Table}

theorem exists_key (h : t.Reachable) {path : List String} {leaf : Value}
    (hleaf : entryAt path t.entries = some (some leaf)) :
    ∃ key, segments key = path ∧ t.leafAt? key = some leaf := by
  obtain ⟨v, hv, -⟩ := Option.map_eq_some_iff.mp hleaf
  have hne : path ≠ [] := by
    rintro rfl
    cases hv
  obtain ⟨key, rfl⟩ := exists_segments_eq hne (undotted_of_lookupPath h.normal hv)
  exact ⟨key, rfl, Option.join_eq_some_iff.mpr hleaf⟩

theorem mem_fieldLeaves_iff (h : t.Reachable) {p : List String × Value} :
    p ∈ fieldLeaves t.entries ↔ ∃ key, segments key = p.1 ∧ t.leafAt? key = some p.2 := by
  rw [Messages.mem_fieldLeaves_iff t.ordered]
  constructor
  · exact h.exists_key
  · rintro ⟨key, hkey, hleaf⟩
    rw [← hkey]
    exact Option.join_eq_some_iff.mp hleaf

/-- A line of the listing is of the leaf that counts for it. -/
theorem countsFor_of_flatten (h : t.Reachable) {key text : String}
    (hline : t.flatten.get? key = some text) :
    ∃ source leaf, t.leafAt? source = some leaf ∧ t.CountsFor source key ∧ listed leaf = text := by
  rw [flatten_eq] at hline
  obtain ⟨before, behind, hpairs, hlast⟩ := Fields.exists_append_of_get?_ofList hline
  obtain ⟨before, rest, hleaves, -, hrest⟩ := List.map_eq_append_iff.mp hpairs
  obtain ⟨p, behind, rfl, hp, hbehind⟩ := List.map_eq_cons_iff.mp hrest
  obtain ⟨hkey, htext⟩ := Prod.mk.inj hp
  have hmem : p ∈ fieldLeaves t.entries := by
    rw [hleaves]
    exact List.mem_append_right _ List.mem_cons_self
  obtain ⟨source, hsource, hleaf⟩ := h.mem_fieldLeaves_iff.mp hmem
  rw [← hsource, flatKey_segments] at hkey
  refine ⟨source, p.2, hleaf, ⟨hkey, fun other hother hsame => ?_⟩, htext⟩
  obtain ⟨leaf, hleaf'⟩ := Option.isSome_iff_exists.mp hother
  have hmem' : (segments other, leaf) ∈ fieldLeaves t.entries :=
    h.mem_fieldLeaves_iff.mpr ⟨other, rfl, hleaf'⟩
  have hordered := pairwise_fieldLeaves t.ordered
  rw [hleaves] at hmem' hordered
  rcases List.mem_append.mp hmem' with hbefore | hother'
  · have hlt := hordered.rel_of_mem_append hbefore List.mem_cons_self
    rw [← hsource] at hlt
    exact length_le_of_segments_lt (Option.isSome_of_eq_some hleaf) hother (hsame.trans hkey.symm)
      hlt
  · rcases List.mem_cons.mp hother' with rfl | hmem'
    · exact Nat.le_of_eq (congrArg String.length (eq_of_segments_eq hsource))
    · -- no leaf behind the last is listed under its key
      have hflat : flatKey (segments other) = key := (flatKey_segments other).trans hsame
      refine absurd hflat (hlast (flatKey (segments other), listed leaf) ?_)
      rw [← hbehind]
      exact List.mem_map.mpr ⟨_, hmem', rfl⟩

theorem flatten_get?_iff (h : t.Reachable) (key text : String) :
    t.flatten.get? key = some text ↔
      ∃ source leaf, t.leafAt? source = some leaf ∧ t.CountsFor source key ∧ listed leaf = text := by
  refine ⟨h.countsFor_of_flatten, ?_⟩
  rintro ⟨source, leaf, hleaf, hcounts, rfl⟩
  have hkey : key ∈ ((fieldLeaves t.entries).map fun p => (flatKey p.1, listed p.2)).map
      Prod.fst := by
    rw [List.map_map]
    exact List.mem_map.mpr ⟨(segments source, leaf), h.mem_fieldLeaves_iff.mpr ⟨source, rfl, hleaf⟩,
      (flatKey_segments source).trans hcounts.1⟩
  have hsome := Fields.isSome_get?_ofList hkey
  rw [← flatten_eq] at hsome
  obtain ⟨text, hline⟩ := Option.isSome_iff_exists.mp hsome
  -- the line is of the same leaf, since only one has the fewest dots
  obtain ⟨source', leaf', hleaf', hcounts', rfl⟩ := h.countsFor_of_flatten hline
  have hlength : source'.length = source.length :=
    Nat.le_antisymm (hcounts'.2 source (Option.isSome_of_eq_some hleaf) hcounts.1)
      (hcounts.2 source' (Option.isSome_of_eq_some hleaf') hcounts'.1)
  obtain rfl := eq_of_withoutLeadingDots_eq (hcounts'.1.trans hcounts.1.symm) hlength
  rw [hleaf] at hleaf'
  cases hleaf'
  exact hline

end Reachable

/-- The table and its listing hold the same: a text is listed under its key, the key that a text is
listed under finds it, and no two leaves share a line. -/
structure ListsByKey (t : Table) : Prop where
  listed : ∀ key text, t.get? key = some text → t.flatten.get? key = some text
  found : ∀ path text, lookupPath path t.entries = some (.string text) →
    t.get? (flatKey path) = some text
  apart : ∀ path other leaf leaf', entryAt path t.entries = some (some leaf) →
    entryAt other t.entries = some (some leaf') → flatKey path = flatKey other → path = other

theorem Reachable.listsByKey_iff {t : Table} (h : t.Reachable) :
    t.ListsByKey ↔
      (∀ key text, t.get? key = some text → withoutLeadingDots key = key) ∧
      ∀ key other, (t.leafAt? key).isSome → (t.leafAt? other).isSome →
        withoutLeadingDots key = withoutLeadingDots other → key = other := by
  refine ⟨fun hlists => ⟨fun key text htext => ?_, ?_⟩, ?_⟩
  · have hline := hlists.listed key text htext
    obtain ⟨source, -, -, hcounts, -⟩ := (h.flatten_get?_iff key text).mp hline
    rw [← hcounts.1, withoutLeadingDots_idem]
  · intro key other hkey hother hsame
    obtain ⟨leaf, hleaf⟩ := Option.isSome_iff_exists.mp hkey
    obtain ⟨leaf', hleaf'⟩ := Option.isSome_iff_exists.mp hother
    refine eq_of_segments_eq (hlists.apart _ _ leaf leaf' (Option.join_eq_some_iff.mp hleaf)
      (Option.join_eq_some_iff.mp hleaf') ?_)
    rw [flatKey_segments, flatKey_segments, hsame]
  · rintro ⟨hundotted, hdistinct⟩
    constructor
    · intro key text htext
      have hleaf := get?_eq_some_iff.mp htext
      have hsome := Option.isSome_of_eq_some hleaf
      have hkey := hundotted key text htext
      refine (h.flatten_get?_iff key text).mpr ⟨key, _, hleaf, ⟨hkey, fun other hother hsame => ?_⟩,
        rfl⟩
      have heq := hdistinct key other hsome hother (hkey.trans hsame.symm)
      exact Nat.le_of_eq (congrArg String.length heq)
    · intro path text htext
      have hleaf : entryAt path t.entries = some (some (.string text)) := by
        rw [entryAt, htext]
        rfl
      obtain ⟨key, rfl, hkey⟩ := h.exists_key hleaf
      have hget := get?_eq_some_iff.mpr hkey
      rw [flatKey_segments, hundotted key text hget]
      exact hget
    · intro path other leaf leaf' hleaf hleaf' hsame
      obtain ⟨key, rfl, hkey⟩ := h.exists_key hleaf
      obtain ⟨key', rfl, hkey'⟩ := h.exists_key hleaf'
      rw [flatKey_segments, flatKey_segments] at hsame
      rw [hdistinct key key' (Option.isSome_of_eq_some hkey) (Option.isSome_of_eq_some hkey') hsame]

/-- A line of the listing is of the leaf whose key is the line's behind the dots in front; if there
are several, of that with the fewest dots.  The table and its listing hold the same exactly if no
text has a key that begins with a dot and no two leaves have keys that differ only in such dots. -/
theorem Reachable.listing {t : Table} (h : t.Reachable) :
    (∀ key text, t.flatten.get? key = some text ↔
      ∃ source leaf, t.leafAt? source = some leaf ∧ t.CountsFor source key ∧ listed leaf = text) ∧
    (t.ListsByKey ↔
      (∀ key text, t.get? key = some text → withoutLeadingDots key = key) ∧
      ∀ key other, (t.leafAt? key).isSome → (t.leafAt? other).isSome →
        withoutLeadingDots key = withoutLeadingDots other → key = other) :=
  ⟨h.flatten_get?_iff, h.listsByKey_iff⟩

/-- Two keys that differ in the dots in front, and one with a dot behind. -/
theorem Reachable.listing_of_dots :
    let t := ((Table.empty.insert "..a" "x").insert ".a" "y").insert "b." "z"
    t.Reachable ∧ t.flatten = [("a", "y"), ("b.", "z")] ∧
      (∀ key text, t.flatten.get? key = some text ↔
        ∃ source leaf, t.leafAt? source = some leaf ∧ t.CountsFor source key ∧
          listed leaf = text) ∧
      (t.ListsByKey ↔
        (∀ key text, t.get? key = some text → withoutLeadingDots key = key) ∧
        ∀ key other, (t.leafAt? key).isSome → (t.leafAt? other).isSome →
          withoutLeadingDots key = withoutLeadingDots other → key = other) := by
  intro t
  have ht : t.Reachable := .insert "b." "z" (.insert ".a" "y" (.insert "..a" "x" .empty))
  have hflatten : t.flatten = [("a", "y"), ("b.", "z")] := by decide +kernel
  exact ⟨ht, hflatten, ht.listing⟩

/-- A text whose key begins with a dot is not listed under its key, and not at all if another leaf
takes its line. -/
theorem leading_dot_loses_entry :
    let t := (Table.empty.insert ".a" "x").insert "a" "y"
    t.Reachable ∧ t.get? ".a" = some "x" ∧ t.flatten = [("a", "y")] ∧ ¬ t.ListsByKey := by
  intro t
  have hget : t.get? ".a" = some "x" := by decide +kernel
  have hflatten : t.flatten = [("a", "y")] := by decide +kernel
  refine ⟨.insert "a" "y" (.insert ".a" "x" .empty), hget, hflatten, fun hlists => ?_⟩
  have hline := hlists.listed ".a" "x" hget
  rw [hflatten] at hline
  exact absurd hline (by decide)

end Table

end FieldRules.Messages

/-
# `Messages.Mapping` — nested mappings, written and read by path

A key is a path into a tree of mappings, its segments separated by dots, and an override may write
the same entry as a nested mapping, as a dotted key or as any mixture: `mergeMembers` splits every
key it meets before it writes.

A write at a path makes every node before the last a mapping, discarding what stood there if it was
none.  A mapping that is written merges member by member into the mapping at its place; anything
else replaces what was there.  Entries are never removed otherwise.

`Throughout` is for what is said of a mapping and of those below it, down to the leaves.  What setting
a member keeps, merging keeps throughout (`Throughout.mergeMembers`); the order of the members is of
this kind.
-/
import FieldRules.Json.Writer
import FieldRules.Proofs.Json.Fields
import FieldRules.Text.Split

namespace FieldRules.Messages

open Json (Value Fields)

def segments (key : String) : List String := (Text.splitAt '.' key.toList).map String.ofList

/-! ## Writing -/

/-- The members of the mapping under a key; there are none if no mapping is there. -/
def child (fields : Fields Value) (key : String) : Fields Value :=
  match fields.get? key with
  | some (.object members) => members
  | _ => []

/-- Changes the members of the mapping at a path, which is made one if it is none. -/
def updateAt (change : Fields Value → Fields Value) : List String → Fields Value → Fields Value
  | [], fields => change fields
  | key :: path, fields => fields.insert key (.object (updateAt change path (child fields key)))

def setLeaf (leaf : Value) : List String → Fields Value → Fields Value
  | [], fields => fields
  | [key], fields => fields.insert key leaf
  | key :: path, fields => fields.insert key (.object (setLeaf leaf path (child fields key)))

mutual

/-- Writes a value at a path: a mapping merges into the mapping there, anything else is a leaf. -/
def mergeValue (path : List String) : Value → Fields Value → Fields Value
  | .object incoming, fields => updateAt (mergeMembers incoming) path fields
  | leaf, fields => setLeaf leaf path fields

/-- Writes members one after the other, each at the path that its key spells. -/
def mergeMembers : List (String × Value) → Fields Value → Fields Value
  | [], fields => fields
  | (key, value) :: rest, fields => mergeMembers rest (mergeValue (segments key) value fields)

end

/-! ## Reading -/

def lookupPath : List String → Fields Value → Option Value
  | [], _ => none
  | [key], fields => fields.get? key
  | key :: path, fields =>
    match fields.get? key with
    | some (.object members) => lookupPath path members
    | _ => none

mutual

/-- The leaves under a node with the flat key of each; a leaf that is no text counts as its JSON
text. -/
def leaves (key : String) : Value → List (String × String)
  | .object members => memberLeaves key members
  | .string s => [(key, s)]
  | other => [(key, other.compact)]

/-- The leaves under the members of a mapping.  The flat key of the mapping stands in front of each
member's own, unless it is empty. -/
def memberLeaves (path : String) : List (String × Value) → List (String × String)
  | [] => []
  | (key, value) :: rest =>
    leaves (if path.isEmpty then key else path ++ "." ++ key) value ++ memberLeaves path rest

end

/-! ## Throughout a mapping -/

/-- `Throughout Q fields`: `Q` holds of the members and of those of every mapping below them. -/
inductive Throughout (Q : Fields Value → Prop) : Fields Value → Prop where
  | intro {fields : Fields Value} (here : Q fields)
      (below : ∀ key members, fields.get? key = some (.object members) → Throughout Q members) :
      Throughout Q fields

/-- `Stable Q`: `Q` holds of no members, and setting a member under a segment of a key keeps it. -/
structure Stable (Q : Fields Value → Prop) : Prop where
  nil : Q []
  insert : ∀ {whole segment : String} (v : Value) {fields : Fields Value},
    segment ∈ segments whole → Q fields → Q (fields.insert segment v)

theorem stable_ascending : Stable Fields.Ascending where
  nil := List.Pairwise.nil
  insert v _ _ h := Fields.ascending_insert _ v h

namespace Throughout

variable {Q : Fields Value → Prop} {fields : Fields Value}

theorem here (h : Throughout Q fields) : Q fields := by
  cases h with
  | intro here below => exact here

theorem of_get? (h : Throughout Q fields) {key : String} {members : Fields Value}
    (hget : fields.get? key = some (.object members)) : Throughout Q members := by
  cases h with
  | intro here below => exact below key members hget

theorem mono {R : Fields Value → Prop} (hQR : ∀ members, Q members → R members)
    (h : Throughout Q fields) : Throughout R fields := by
  induction h with
  | intro here below ih => exact .intro (hQR _ here) ih

theorem nil (hQ : Stable Q) : Throughout Q [] :=
  .intro hQ.nil nofun

theorem child (hQ : Stable Q) (h : Throughout Q fields) (key : String) :
    Throughout Q (child fields key) := by
  unfold Messages.child
  split
  · next members hget => exact h.of_get? hget
  · exact nil hQ

/-- Setting a member adds at most what is below it. -/
theorem insert (hQ : Stable Q) (h : Throughout Q fields) {whole key : String}
    (hkey : key ∈ segments whole) {v : Value}
    (hv : ∀ members, v = .object members → Throughout Q members) :
    Throughout Q (fields.insert key v) := by
  refine .intro (hQ.insert v hkey h.here) fun other members hget => ?_
  by_cases hother : other = key
  · rw [hother, Fields.get?_insert_self] at hget
    exact hv members (Option.some.inj hget)
  · rw [Fields.get?_insert_of_ne hother] at hget
    exact h.of_get? hget

theorem insert_object (hQ : Stable Q) (h : Throughout Q fields) {whole key : String}
    (hkey : key ∈ segments whole) {members : Fields Value} (hmembers : Throughout Q members) :
    Throughout Q (fields.insert key (.object members)) := by
  refine h.insert hQ hkey fun members' heq => ?_
  cases heq
  exact hmembers

theorem insert_leaf (hQ : Stable Q) (h : Throughout Q fields) {whole key : String}
    (hkey : key ∈ segments whole) {leaf : Value} (hleaf : leaf.asObject? = none) :
    Throughout Q (fields.insert key leaf) := by
  refine h.insert hQ hkey fun members heq => ?_
  rw [heq] at hleaf
  cases hleaf

theorem updateAt (hQ : Stable Q) {change : Fields Value → Fields Value}
    (hchange : ∀ members, Throughout Q members → Throughout Q (change members)) {whole : String}
    {path : List String} (hpath : ∀ key ∈ path, key ∈ segments whole) (h : Throughout Q fields) :
    Throughout Q (updateAt change path fields) := by
  induction path generalizing fields with
  | nil => exact hchange fields h
  | cons key path ih =>
      exact h.insert_object hQ (hpath key List.mem_cons_self)
        (ih (fun k hk => hpath k (List.mem_cons_of_mem _ hk)) (h.child hQ key))

theorem setLeaf (hQ : Stable Q) {leaf : Value} (hleaf : leaf.asObject? = none) {whole : String}
    {path : List String} (hpath : ∀ key ∈ path, key ∈ segments whole) (h : Throughout Q fields) :
    Throughout Q (setLeaf leaf path fields) := by
  induction path generalizing fields with
  | nil => exact h
  | cons key path ih =>
      have hkey := hpath key List.mem_cons_self
      cases path with
      | nil => exact h.insert_leaf hQ hkey hleaf
      | cons next rest =>
          exact h.insert_object hQ hkey
            (ih (fun k hk => hpath k (List.mem_cons_of_mem _ hk)) (h.child hQ key))

mutual

theorem mergeValue (hQ : Stable Q) (key : String) :
    ∀ (v : Value) {fields : Fields Value}, Throughout Q fields →
      Throughout Q (mergeValue (segments key) v fields)
  | .object incoming => fun h => by
      rw [Messages.mergeValue]
      exact h.updateAt hQ (fun _ hmembers => mergeMembers hQ incoming hmembers) fun _ hk => hk
  | .null | .bool _ | .number _ | .string _ | .array _ => fun h =>
      h.setLeaf hQ rfl fun _ hk => hk

/-- Merging keeps throughout what setting a member keeps. -/
theorem mergeMembers (hQ : Stable Q) :
    ∀ (members : List (String × Value)) {fields : Fields Value}, Throughout Q fields →
      Throughout Q (mergeMembers members fields)
  | [] => fun h => h
  | (key, value) :: rest => fun h => by
      rw [Messages.mergeMembers]
      exact mergeMembers hQ rest (mergeValue hQ key value h)

end

end Throughout

end FieldRules.Messages

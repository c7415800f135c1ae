/-
# `Proofs.Messages.LastWrite` — the last write that concerns a key decides it

After a merge, what a table holds under a key is settled by one write of the override: the last one
that concerns the key.  A write concerns a key if it is at the key, if it puts a leaf where the way
to the key leads through, or if it goes on behind the key and so makes a mapping of it.  The key has
a template afterwards only if that write put a text exactly there (`get_merge_eq_last_write`).

Of the entry at the key only a text counts here; that its last write decides it is `entryAt_replay`.
-/
import FieldRules.Proofs.Messages.Entries

namespace FieldRules.Messages

open Json (Value Fields)

def textAt (path : List String) (fields : Fields Value) : Option String :=
  (lookupPath path fields).bind Value.asString?

theorem textAt_eq_entryAt_bind (path : List String) (fields : Fields Value) :
    textAt path fields
      = (entryAt path fields).bind fun leaf? => leaf?.bind Value.asString? := by
  unfold textAt entryAt
  cases lookupPath path fields with
  | none => rfl
  | some v => cases v <;> rfl

namespace Write

/-- The text that the write puts at a key: only a text exactly there is one. -/
def text? (w : Write) (key : List String) : Option String :=
  if w.path = key then w.leaf?.bind Value.asString? else none

theorem text?_eq_outcome_bind (w : Write) (key : List String) :
    w.text? key = (w.outcome key).bind fun leaf? => leaf?.bind Value.asString? := by
  unfold text? outcome
  by_cases hpath : w.path = key
  · rw [if_pos hpath, if_pos hpath]
    rfl
  · rw [if_neg hpath, if_neg hpath]
    split <;> rfl

end Write

/-- The last write that concerns a key decides its text. -/
theorem textAt_replay {ws : List Write} (hws : ∀ w ∈ ws, w.Proper) (key : List String)
    (fields : Fields Value) :
    textAt key (replay ws fields)
      = match ws.findRev? fun w => w.Concerns key with
        | some w => w.text? key
        | none => textAt key fields := by
  by_cases hkey : key = []
  · -- the root holds no text, and no write is there
    subst hkey
    cases hlast : ws.findRev? fun w => w.Concerns [] with
    | none => rfl
    | some w =>
        have hw := hws w (mem_of_findRev?_concerns hlast).1
        exact (if_neg hw.path_ne_nil).symm
  · rw [textAt_eq_entryAt_bind, entryAt_replay hws hkey]
    cases ws.findRev? fun w => w.Concerns key with
    | none => exact (textAt_eq_entryAt_bind key fields).symm
    | some w => exact (w.text?_eq_outcome_bind key).symm

/-- What a table holds under a key after a merge is decided by the last write of the override that
concerns the key: it is the text of a write that puts one exactly there, and nothing after any
other.  Without such a write it is what it was. -/
theorem get_merge_eq_last_write (t : Table) (members : Fields Value) (key : String) :
    (t.merge (.object members)).map (·.get? key)
      = .ok (match (writes [] members).findRev? fun w => w.Concerns (segments key) with
          | some w => w.text? (segments key)
          | none => t.get? key) := by
  have hreplay := textAt_replay (proper_of_mem_writes [] members) (segments key) t.entries
  rw [← mergeMembers_eq_replay] at hreplay
  exact congrArg Except.ok hreplay

-- one override may write a mapping, wipe it with a text and build it again
example : (Table.empty.merge (.object [("a", .object [("b", .string "x"), ("c", .string "y")]),
      ("a.c.d", .string "z")])).toOption.map (fun t => (t.get? "a.b", t.get? "a.c", t.get? "a.c.d"))
    = some (some "x", none, some "z") := by decide +kernel

end FieldRules.Messages

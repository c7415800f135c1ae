/-
# `Workspace.Commons` — factories over shared messages

A copy of a factory is the factory under a further name.  A factory may also be made over the
messages of another one: the two then have one table, and each has methods of its own.  A commons is
a workspace with such factories, and with copies of tables that no later merge reaches.
-/
import FieldRules.Workspace.Operation

namespace FieldRules

open Json (Fields)
open Messages (Table)

/-- A copy of the table of a factory, with the place of the factory. -/
structure Snapshot where
  owner : Nat
  table : Table

/-- A workspace, its factories that were made over the messages of another one, and copies of tables
under names.  Such a factory is given by its place and the place of the other one, the last that was
made in front. -/
structure Commons (m : Type → Type) where
  workspace : Workspace m
  adoptions : List (Nat × Nat)
  snapshots : Fields Snapshot

/-- What can be done in a commons: what can be done in a workspace, and what makes factories and
schemas of given parts, and copies of tables. -/
inductive Action (m : Type → Type) where
  | operate (op : Operation m)
  /-- Makes a factory over a table of its own. -/
  | createOver (name : String) (table : Table)
  /-- Makes a factory over the messages of another one. -/
  | adopt (factory name : String)
  | assemble (factory : String) (d : Document) (target : String)
  | snapshot (factory target : String)
  | consult (source key : String)

namespace Commons

variable {m : Type → Type}

def empty : Commons m := ⟨⟨[], [], []⟩, [], []⟩

def size (c : Commons m) : Nat := c.workspace.factories.length

/-- The place that adoptions lead back to. -/
def rootOf : List (Nat × Nat) → Nat → Nat
  | [], place => place
  | (adopter, source) :: earlier, place => rootOf earlier (if place = adopter then source else place)

/-- The place of the factory that the messages of the factory at a place were made for.  Two
factories share their messages if it is the same. -/
def handle (c : Commons m) (place : Nat) : Nat := rootOf c.adoptions place

/-! ## Changes -/

/-- Puts a factory at a place and gives its table to those that share its messages. -/
def setFactory (c : Commons m) (place : Nat) (f : Factory m) : Commons m :=
  { c with workspace := { c.workspace with
      factories := c.workspace.factories.mapIdx fun other g =>
        if other = place then f
        else if c.handle other = c.handle place then { g with messages := f.messages }
        else g } }

def changeFactory (c : Commons m) (factory : String) (change : Factory.Change m) :
    Answer × Commons m :=
  ((c.workspace.changeFactory factory change).1,
    match c.workspace.factory? factory with
    | none => c
    | some (place, f) =>
      match f.change change with
      | .ok (f, _) => c.setFactory place f
      | .error _ => c)

/-- Makes a factory over the messages of another one. -/
def adopt (c : Commons m) (factory name : String) : Answer × Commons m :=
  match c.workspace.factory? factory with
  | none => (.unknown, c)
  | some (place, f) =>
    (.done, { c with
      workspace := c.workspace.addFactory name { messages := f.messages }
      adoptions := (c.size, place) :: c.adoptions })

def assemble (c : Commons m) (factory : String) (d : Document) (target : String) :
    Answer × Commons m :=
  match c.workspace.factory? factory with
  | none => (.unknown, c)
  | some (place, f) =>
    match d.build place f with
    | .ok schema => (.done, { c with workspace := c.workspace.put target [place] (.schema schema) })
    | .error e => (.badDocument e, c)

def snapshot (c : Commons m) (factory target : String) : Answer × Commons m :=
  match c.workspace.factory? factory with
  | none => (.unknown, c)
  | some (place, f) =>
    (.done, { c with snapshots := c.snapshots.insert target ⟨place, f.messages⟩ })

def consult (c : Commons m) (source key : String) : Answer :=
  match c.snapshots.get? source with
  | some copy => .text (copy.table.get? key)
  | none => .unknown

/-! ## Running -/

variable [Monad m]

/-- Does one action.  A factory is changed together with those that share its messages; what else
can be done in a workspace is done there. -/
def apply (c : Commons m) : Action m → m (Answer × Commons m)
  | .operate (.change factory change) => return c.changeFactory factory change
  | .operate op => do
    let (answer, w) ← c.workspace.apply op
    return (answer, { c with workspace := w })
  | .createOver name table =>
    return (.done, { c with workspace := c.workspace.addFactory name { messages := table } })
  | .adopt factory name => return c.adopt factory name
  | .assemble factory d target => return c.assemble factory d target
  | .snapshot factory target => return c.snapshot factory target
  | .consult source key => return (c.consult source key, c)

def run (c : Commons m) : List (Action m) → m (List Answer × Commons m)
  | [] => return ([], c)
  | action :: rest => do
    let (answer, c) ← c.apply action
    let (answers, c) ← c.run rest
    return (answer :: answers, c)

end Commons

end FieldRules

/-
# `Proofs.Workspace.Calls` — calls on shared factories

A factory is changed under any of its names, and is given further names on the way.  A `FactoryCall`
is one or the other, and `Workspace.after` is the workspace that it leaves; a change that is refused
leaves everything as it was.

A call leaves alone whatever is kept in the workspace (`put_afterAll`), and the factory at a place
becomes what the changes make of it that reach the place, one after the other
(`factories_afterAll`).  Of these the merges decide the table and the installations the registry, so
neither kind of change has to do with the other (`Factory.messages_afterAll`,
`Factory.registry_afterAll`).
-/
import FieldRules.Proofs.Registry.Installations
import FieldRules.Workspace.Operation

namespace FieldRules

open Messages (Table)

variable {m : Type → Type}

/-! ## Changes, refused or not -/

/-- The table after a merge, which is the same if the merge is refused. -/
def Messages.Table.after (t : Table) (c : Messages.Merge) : Table :=
  match c.into t with
  | .ok table => table
  | .error _ => t

namespace Factory

def Change.merge? : Change m → Option Messages.Merge
  | .merge c => some c
  | .install _ => none

def Change.installation? : Change m → Option (Registry.Installation m)
  | .merge _ => none
  | .install i => some i

/-- The factory after a change, which is the same if the change is refused. -/
def after (f : Factory m) (c : Change m) : Factory m :=
  match f.change c with
  | .ok (factory, _) => factory
  | .error _ => f

def afterAll (f : Factory m) (cs : List (Change m)) : Factory m := cs.foldl after f

theorem after_merge (f : Factory m) (c : Messages.Merge) :
    f.after (.merge c) = { f with messages := f.messages.after c } := by
  cases h : c.into f.messages <;> simp only [after, change, Table.after, h]

theorem after_install (f : Factory m) (i : Registry.Installation m) :
    f.after (.install i) = { f with registry := f.registry.after i } := by
  cases h : f.registry.install i <;> simp only [after, change, Registry.after, h]

/-- Merges and installations go on side by side. -/
theorem afterAll_eq (f : Factory m) (cs : List (Change m)) :
    f.afterAll cs = {
      messages := (cs.filterMap Change.merge?).foldl Table.after f.messages
      registry := f.registry.afterAll (cs.filterMap Change.installation?) } := by
  induction cs generalizing f with
  | nil => rfl
  | cons c cs ih =>
      cases c with
      | merge c =>
          show (f.after (.merge c)).afterAll cs = _
          rw [ih, after_merge]
          rfl
      | install i =>
          show (f.after (.install i)).afterAll cs = _
          rw [ih, after_install]
          rfl

theorem messages_afterAll (f : Factory m) (cs : List (Change m)) :
    (f.afterAll cs).messages = (cs.filterMap Change.merge?).foldl Table.after f.messages := by
  rw [afterAll_eq]

theorem registry_afterAll (f : Factory m) (cs : List (Change m)) :
    (f.afterAll cs).registry = f.registry.afterAll (cs.filterMap Change.installation?) := by
  rw [afterAll_eq]

end Factory

/-! ## Calls -/

/-- A call on the factories of a workspace: one is given a further name, or is changed under one of
its names. -/
inductive FactoryCall (m : Type → Type) where
  | share (name copy : String)
  | change (name : String) (c : Factory.Change m)

namespace FactoryCall

def operation : FactoryCall m → Operation m
  | .share name copy => .share name copy
  | .change name c => .change name c

def installs : FactoryCall m → Bool
  | .change _ (.install _) => true
  | _ => false

end FactoryCall

namespace Workspace

def after (w : Workspace m) : FactoryCall m → Workspace m
  | .share name copy => w.share name copy
  | .change name c => (w.changeFactory name c).2

def afterAll (w : Workspace m) (calls : List (FactoryCall m)) : Workspace m := calls.foldl after w

def changeAt (w : Workspace m) (place : Nat) : FactoryCall m → Option (Factory.Change m)
  | .share _ _ => none
  | .change name c => if w.names.get? name = some place then some c else none

/-- The changes that calls make at a place, in their order.  A name counts as it is at that time. -/
def changesAt (w : Workspace m) (place : Nat) : List (FactoryCall m) → List (Factory.Change m)
  | [] => []
  | call :: rest => (w.changeAt place call).toList ++ (w.after call).changesAt place rest

/-! ### What a call leaves -/

theorem changeFactory_snd (w : Workspace m) (name : String) (c : Factory.Change m) :
    (w.changeFactory name c).2 = match w.factory? name with
      | none => w
      | some (place, f) => w.setFactory place (f.after c) := by
  unfold changeFactory
  cases hf : w.factory? name with
  | none => rfl
  | some found =>
      obtain ⟨place, f⟩ := found
      have hplace : w.factories[place]? = some f := by
        simp only [factory?, Option.bind_eq_bind, Option.bind_eq_some_iff, Option.pure_def,
          Option.some.injEq, Prod.mk.injEq] at hf
        obtain ⟨_, _, _, hget, rfl, rfl⟩ := hf
        exact hget
      have hsame : w.setFactory place f = w := by
        obtain ⟨hlt, rfl⟩ := List.getElem?_eq_some_iff.mp hplace
        rw [setFactory, List.set_getElem_self]
      dsimp only
      unfold Factory.after
      cases f.change c with
      | ok changed =>
          obtain ⟨g, before⟩ := changed
          cases before <;> rfl
      | error refusal => cases refusal <;> exact hsame.symm

@[simp] theorem slots_after (w : Workspace m) (call : FactoryCall m) :
    (w.after call).slots = w.slots := by
  cases call with
  | share name copy =>
      show (w.share name copy).slots = w.slots
      unfold share
      cases w.names.get? name <;> rfl
  | change name c =>
      rw [after, changeFactory_snd]
      cases w.factory? name <;> rfl

theorem names_after_change (w : Workspace m) (name : String) (c : Factory.Change m) :
    (w.after (.change name c)).names = w.names := by
  rw [after, changeFactory_snd]
  cases w.factory? name <;> rfl

theorem names_after_share (w : Workspace m) (name copy : String) :
    (w.after (.share name copy)).names = match w.names.get? name with
      | some place => w.names.insert copy place
      | none => w.names := by
  show (w.share name copy).names = _
  unfold share
  cases w.names.get? name <;> rfl

/-- What a call does to the factory at a place. -/
theorem factories_after (w : Workspace m) (call : FactoryCall m) (place : Nat) :
    (w.after call).factories[place]?
      = (w.factories[place]?).map fun f => f.afterAll (w.changeAt place call).toList := by
  cases call with
  | share name copy =>
      have hsame : (w.after (.share name copy)).factories = w.factories := by
        show (w.share name copy).factories = w.factories
        unfold share
        cases w.names.get? name <;> rfl
      rw [hsame]
      exact Option.map_id'.symm
  | change name c =>
      rw [after, changeFactory_snd, changeAt, factory?]
      cases hname : w.names.get? name with
      | none => exact Option.map_id'.symm
      | some found =>
          by_cases hfound : found = place
          · subst hfound
            rw [if_pos rfl]
            cases hf : w.factories[found]? with
            | none => simp only [Option.bind_eq_bind, Option.bind_some, hf, Option.bind_none]; rfl
            | some f =>
                obtain ⟨hlt, _⟩ := List.getElem?_eq_some_iff.mp hf
                simp only [Option.bind_eq_bind, Option.bind_some, hf]
                exact List.getElem?_set_self hlt
          · rw [if_neg fun h => hfound (Option.some.inj h)]
            cases hf : w.factories[found]? with
            | none =>
                simp only [Option.bind_eq_bind, Option.bind_some, hf, Option.bind_none]
                exact Option.map_id'.symm
            | some f =>
                simp only [Option.bind_eq_bind, Option.bind_some, hf]
                exact (List.getElem?_set_ne hfound).trans Option.map_id'.symm

/-- Calls do not touch what is kept, and keeping something does not touch what calls change. -/
theorem put_after (w : Workspace m) (target : String) (makers : List Nat) (holding : Holding m)
    (call : FactoryCall m) :
    (w.put target makers holding).after call = (w.after call).put target makers holding := by
  cases call with
  | share name copy =>
      have hnames : (w.put target makers holding).names = w.names := rfl
      rw [after, after, share, share, hnames]
      cases w.names.get? name <;> rfl
  | change name c =>
      have hfactory : (w.put target makers holding).factory? name = w.factory? name := rfl
      rw [after, after, changeFactory_snd, changeFactory_snd, hfactory]
      cases w.factory? name <;> rfl

/-! ### What calls leave -/

@[simp] theorem slots_afterAll (w : Workspace m) (calls : List (FactoryCall m)) :
    (w.afterAll calls).slots = w.slots := by
  induction calls generalizing w with
  | nil => rfl
  | cons call rest ih => exact (ih (w.after call)).trans (w.slots_after call)

theorem factories_afterAll (w : Workspace m) (calls : List (FactoryCall m)) (place : Nat) :
    (w.afterAll calls).factories[place]?
      = (w.factories[place]?).map fun f => f.afterAll (w.changesAt place calls) := by
  induction calls generalizing w with
  | nil => exact Option.map_id'.symm
  | cons call rest ih =>
      show ((w.after call).afterAll rest).factories[place]? = _
      rw [ih, factories_after, Option.map_map]
      congr 1
      funext f
      exact List.foldl_append.symm

theorem put_afterAll (w : Workspace m) (target : String) (makers : List Nat) (holding : Holding m)
    (calls : List (FactoryCall m)) :
    (w.put target makers holding).afterAll calls
      = (w.afterAll calls).put target makers holding := by
  induction calls generalizing w with
  | nil => rfl
  | cons call rest ih =>
      show ((w.put target makers holding).after call).afterAll rest = _
      rw [put_after]
      exact ih (w.after call)

/-! ### Running calls -/

variable [Monad m]

theorem apply_operation (w : Workspace m) (call : FactoryCall m) :
    ∃ answer, w.apply call.operation = pure (answer, w.after call) := by
  cases call with
  | share name copy => exact ⟨_, rfl⟩
  | change name c => exact ⟨(w.changeFactory name c).1, rfl⟩

variable [LawfulMonad m]

/-- Running calls does nothing but change the workspace. -/
theorem run_operations (w : Workspace m) (calls : List (FactoryCall m)) :
    ∃ answers, w.run (calls.map FactoryCall.operation) = pure (answers, w.afterAll calls) := by
  induction calls generalizing w with
  | nil => exact ⟨[], rfl⟩
  | cons call rest ih =>
      obtain ⟨answer, hcall⟩ := w.apply_operation call
      obtain ⟨answers, hrest⟩ := ih (w.after call)
      refine ⟨answer :: answers, ?_⟩
      rw [List.map_cons, run, hcall, pure_bind]
      dsimp only
      rw [hrest, pure_bind]
      rfl

theorem run_append (w : Workspace m) (ops rest : List (Operation m)) :
    w.run (ops ++ rest) = w.run ops >>= fun done =>
      done.2.run rest >>= fun more => pure (done.1 ++ more.1, more.2) := by
  induction ops generalizing w with
  | nil =>
      rw [List.nil_append, run, pure_bind]
      exact (bind_pure _).symm
  | cons op ops ih =>
      rw [List.cons_append, run, run, bind_assoc]
      refine bind_congr fun applied => ?_
      simp only [ih, bind_assoc, pure_bind, List.cons_append]

end Workspace

end FieldRules

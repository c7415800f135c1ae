/-
# `Proofs.Commons.Effects` — what an action leaves

Much can be done in a commons, and one of seven things comes of it (`Effect`): nothing, a factory
over a table of its own or over the messages of another one, a further name, something kept, a factory
changed together with those that share its messages, or a copy of a table.  `account_apply` says which
of them an action may come to, for every action at once, so that what holds of a commons is proved for
seven effects and not for each action again.

The same theorem says when functions that the program was given are run.  Either the answer is settled
without any of them, or the action is not refused (`Account`): so what is refused neither leaves
anything nor lets anything act.
-/
import FieldRules.Proofs.Commons.Renaming
import FieldRules.Workspace.Commons

namespace FieldRules

open Json (Value Fields)
open Messages (Table)

variable {m : Type → Type}

/-! ## Effects -/

/-- What may come of an action. -/
inductive Effect (m : Type → Type) where
  | nothing
  | found (name : String) (table : Table)
  | adopt (name : String) (source : Nat) (table : Table)
  | share (copy : String) (place : Nat)
  | keep (target : String) (slot : Slot m)
  | change (place : Nat) (f : Factory m)
  | snapshot (target : String) (owner : Nat) (table : Table)

namespace Commons

def perform (c : Commons m) : Effect m → Commons m
  | .nothing => c
  | .found name table =>
    { c with workspace := c.workspace.addFactory name { messages := table } }
  | .adopt name source table =>
    { c with
      workspace := c.workspace.addFactory name { messages := table }
      adoptions := (c.size, source) :: c.adoptions }
  | .share copy place =>
    { c with workspace := { c.workspace with names := c.workspace.names.insert copy place } }
  | .keep target slot =>
    { c with workspace := c.workspace.put target slot.makers slot.holding }
  | .change place f => c.setFactory place f
  | .snapshot target owner table =>
    { c with snapshots := c.snapshots.insert target ⟨owner, table⟩ }

/-! ## Whom an action concerns -/

/-- The place that a name of a factory stands for. -/
def placeOf (c : Commons m) (factory : String) : List Nat :=
  (c.workspace.names.get? factory).toList

/-- The places of the factories that what is kept under a name was made with. -/
def makersOf (c : Commons m) (source : String) : List Nat :=
  match c.workspace.slot? source with
  | some slot => slot.makers
  | none => []

/-- The places of the factories that an action is done to or asks: those that it names, those that
what it names was made with, and the place of a factory that it makes. -/
def concerns (c : Commons m) : Action m → List Nat
  | .operate (.create _) => [c.size]
  | .operate (.share factory _) | .operate (.change factory _) | .operate (.start factory _ _)
  | .operate (.build factory _ _ _) | .operate (.message factory _)
  | .operate (.lookup factory _ _) | .operate (.names factory _)
  | .operate (.contains factory _ _) | .operate (.call factory _ _ _ _) => c.placeOf factory
  | .operate (.copy source _) | .operate (.edit source _ _ _) | .operate (.compile source _)
  | .operate (.toForm source _) | .operate (.toTrigger source _ _)
  | .operate (.evaluate source _) | .operate (.check source _) | .operate (.validate source _)
  | .operate (.run source _) => c.makersOf source
  | .operate (.append source rules _) => c.makersOf source ++ c.makersOf rules
  | .operate (.runner factory source _) => c.placeOf factory ++ c.makersOf source
  | .createOver _ _ => [c.size]
  | .adopt factory _ => (c.placeOf factory).flatMap fun place => [place, c.size]
  | .assemble factory _ _ | .snapshot factory _ => c.placeOf factory
  | .consult source _ => ((c.snapshots.get? source).map Snapshot.owner).toList

/-! ## Sound commons -/

/-- What is kept was made with some of so many factories, and holds no place but theirs: no other
factory's messages are ever looked up for it. -/
structure SoundSlot (size : Nat) (slot : Slot m) : Prop where
  makers : ∀ place ∈ slot.makers, place < size
  owners : slot.holding.owners ⊆ slot.makers

/-- Every place that is mentioned is that of a factory, a factory is made over the messages of an
earlier one, and factories that share their messages have one table. -/
structure Sound (c : Commons m) : Prop where
  names : ∀ {name place}, c.workspace.names.get? name = some place → place < c.size
  slots : ∀ {name slot}, c.workspace.slots.get? name = some slot → SoundSlot c.size slot
  snapshots : ∀ {name copy}, c.snapshots.get? name = some copy → copy.owner < c.size
  adoptions : ∀ pair ∈ c.adoptions, pair.2 < pair.1 ∧ pair.1 < c.size
  shared : ∀ {p q f g}, c.workspace.factories[p]? = some f → c.workspace.factories[q]? = some g →
    c.handle p = c.handle q → f.messages = g.messages

/-- The effects that may come of an action: of one to change a factory none but that change, and so
for a copy of a table. -/
inductive Possible (c : Commons m) (action : Action m) : Effect m → Prop where
  | nothing : Possible c action .nothing
  | found (name : String) (table : Table) :
      c.concerns action = [c.size] → Possible c action (.found name table)
  | adopt (name : String) {source : Nat} {f : Factory m} :
      c.concerns action = [source, c.size] → c.workspace.factories[source]? = some f →
        Possible c action (.adopt name source f.messages)
  | share (copy : String) {place : Nat} :
      c.concerns action = [place] → place < c.size → Possible c action (.share copy place)
  | keep (target : String) {slot : Slot m} :
      c.concerns action = slot.makers → SoundSlot c.size slot → Possible c action (.keep target slot)
  | change {factory : String} {change : Factory.Change m} {place : Nat} {f g : Factory m}
      {before : Option Bool} :
      action = .operate (.change factory change) →
      c.workspace.factory? factory = some (place, f) → f.change change = .ok (g, before) →
        Possible c action (.change place g)
  | snapshot {factory target : String} {owner : Nat} {f : Factory m} :
      action = .snapshot factory target → c.workspace.factory? factory = some (owner, f) →
        Possible c action (.snapshot target owner f.messages)

/-- What an answer and the commons after it come to: an effect that is possible, and none if the
action was refused. -/
def Leaves (c : Commons m) (action : Action m) (result : Answer × Commons m) : Prop :=
  ∃ e, c.Possible action e ∧ result.2 = c.perform e ∧ (result.1.isRefusal = true → e = .nothing)

end Commons

/-! ## Accounts -/

/-- Either a program is settled without running anything, with a result that satisfies `good`, or
whatever it runs leads to such a result, and to no refusal. -/
inductive Account [Monad m] {β : Type} (good : Answer × β → Prop) : m (Answer × β) → Prop where
  | settled {result : Answer × β} : good result → Account good (pure result)
  | ran {α : Type} (program : m α) {finish : α → Answer × β} :
      (∀ a, good (finish a) ∧ (finish a).1.isRefusal = false) → Account good (finish <$> program)

/-! ## Names -/

theorem Workspace.factory?_eq_some_iff {w : Workspace m} {name : String} {place : Nat}
    {f : Factory m} :
    w.factory? name = some (place, f)
      ↔ w.names.get? name = some place ∧ w.factories[place]? = some f := by
  unfold factory?
  cases w.names.get? name with
  | none => simp
  | some found =>
      cases hf : w.factories[found]? with
      | none =>
          simp only [Option.bind_eq_bind, Option.bind_some, hf, Option.bind_none, reduceCtorEq,
            Option.some.injEq, false_iff, not_and]
          intro heq
          subst heq
          simp [hf]
      | some g =>
          simp only [Option.bind_eq_bind, Option.bind_some, hf, Option.pure_def, Option.some.injEq,
            Prod.mk.injEq]
          constructor
          · rintro ⟨rfl, rfl⟩
            exact ⟨rfl, hf⟩
          · rintro ⟨rfl, hg⟩
            exact ⟨rfl, Option.some.inj (hf.symm.trans hg)⟩

theorem Workspace.factory?_of_get?_eq_none {w : Workspace m} {name : String}
    (h : w.names.get? name = none) : w.factory? name = none := by
  rw [factory?, h]
  rfl

namespace Commons

variable {c : Commons m}

theorem placeOf_of_factory? {name : String} {place : Nat} {f : Factory m}
    (h : c.workspace.factory? name = some (place, f)) : c.placeOf name = [place] := by
  rw [placeOf, (Workspace.factory?_eq_some_iff.mp h).1]
  rfl

theorem lt_of_factory? {name : String} {place : Nat} {f : Factory m}
    (h : c.workspace.factory? name = some (place, f)) : place < c.size :=
  (List.getElem?_eq_some_iff.mp (Workspace.factory?_eq_some_iff.mp h).2).1

theorem makersOf_of_slot? {source : String} {slot : Slot m}
    (h : c.workspace.slot? source = some slot) : c.makersOf source = slot.makers := by
  rw [makersOf, h]

/-! ## What comes of an action -/

theorem leaves_answer (c : Commons m) (action : Action m) (answer : Answer) :
    c.Leaves action (answer, c) :=
  ⟨.nothing, .nothing, rfl, fun _ => rfl⟩

theorem leaves_done {action : Action m} {e : Effect m} (h : c.Possible action e) :
    c.Leaves action (.done, c.perform e) :=
  ⟨e, h, rfl, fun hrefused => nomatch hrefused⟩

theorem leaves_kept {action : Action m} {target : String} {makers : List Nat} {holding : Holding m}
    (haction : c.concerns action = makers) (hslot : SoundSlot c.size ⟨makers, holding⟩) :
    c.Leaves action (.done, { c with workspace := c.workspace.put target makers holding }) := by
  have hkept : c.Possible action (.keep target ⟨makers, holding⟩) := .keep target haction hslot
  exact leaves_done hkept

theorem leaves_changeFactory (c : Commons m) (factory : String) (change : Factory.Change m) :
    c.Leaves (.operate (.change factory change)) (c.changeFactory factory change) := by
  unfold changeFactory Workspace.changeFactory
  cases hf : c.workspace.factory? factory with
  | none => exact c.leaves_answer _ .unknown
  | some found =>
      obtain ⟨place, f⟩ := found
      dsimp only
      cases hchange : f.change change with
      | error refusal =>
          cases refusal with
          | messages e => exact c.leaves_answer _ (.badMessages e)
          | method e => exact c.leaves_answer _ (.badMethod e)
      | ok changed =>
          obtain ⟨g, before⟩ := changed
          have hpossible : c.Possible (.operate (.change factory change)) (.change place g) :=
            .change rfl hf hchange
          cases before with
          | none => exact leaves_done hpossible
          | some b => exact ⟨_, hpossible, rfl, fun hrefused => nomatch hrefused⟩

theorem Sound.leaves_derive (h : c.Sound) {action : Action m} {source : String}
    (haction : c.concerns action = c.makersOf source) (target : String)
    {make : Holding m → Option (Holding m)} (hmake : Holding.Natural make) :
    c.Leaves action ((c.workspace.derive source target make).1,
      { c with workspace := (c.workspace.derive source target make).2 }) := by
  unfold Workspace.derive
  cases hslot : c.workspace.slot? source with
  | none => exact c.leaves_answer _ .unknown
  | some slot =>
      rw [makersOf_of_slot? hslot] at haction
      dsimp only
      cases hmade : make slot.holding with
      | none => exact c.leaves_answer _ .unknown
      | some holding =>
          obtain ⟨hmakers, howners⟩ := h.slots hslot
          exact leaves_kept haction
            ⟨hmakers, List.Subset.trans (hmake.owners_subset hmade) howners⟩

/-- What is kept with rules behind it is made with the factories of both. -/
theorem Sound.leaves_append (h : c.Sound) (source rules target : String) :
    c.Leaves (.operate (.append source rules target)) ((c.workspace.append source rules target).1,
      { c with workspace := (c.workspace.append source rules target).2 }) := by
  unfold Workspace.append
  cases hslot : c.workspace.slot? source with
  | none => exact c.leaves_answer _ .unknown
  | some slot =>
      cases hbehind : c.workspace.slot? rules with
      | none => exact c.leaves_answer _ .unknown
      | some behind =>
          have hconcerns : c.concerns (.operate (.append source rules target))
              = slot.makers ++ behind.makers := by
            rw [concerns, makersOf_of_slot? hslot, makersOf_of_slot? hbehind]
          dsimp only
          cases hboth : slot.holding.append? behind.holding with
          | none => exact c.leaves_answer _ .unknown
          | some both =>
              obtain ⟨hmakers, howners⟩ := h.slots hslot
              obtain ⟨hmakers', howners'⟩ := h.slots hbehind
              have hsubset : slot.holding.owners ++ behind.holding.owners
                  ⊆ slot.makers ++ behind.makers :=
                List.append_subset.mpr ⟨List.subset_append_of_subset_left _ howners,
                  List.subset_append_of_subset_right _ howners'⟩
              exact leaves_kept hconcerns ⟨List.forall_mem_append.mpr ⟨hmakers, hmakers'⟩,
                List.Subset.trans (Holding.owners_append?_subset hboth) hsubset⟩

/-- Keeps under a name what is made with the factory at a place. -/
def keepSchema (c : Commons m) (factory target : String)
    (make : Nat → Factory m → Except Document.Error (AnySchema m)) : Answer × Commons m :=
  match c.workspace.factory? factory with
  | none => (.unknown, c)
  | some (place, f) =>
    match make place f with
    | .ok schema => (.done, { c with workspace := c.workspace.put target [place] (.schema schema) })
    | .error e => (.badDocument e, c)

theorem leaves_keepSchema {action : Action m} {factory : String}
    (haction : c.concerns action = c.placeOf factory) (target : String)
    {make : Nat → Factory m → Except Document.Error (AnySchema m)}
    (hmake : ∀ {place f schema}, make place f = .ok schema → schema.schema.owners ⊆ [place]) :
    c.Leaves action (c.keepSchema factory target make) := by
  unfold keepSchema
  cases hf : c.workspace.factory? factory with
  | none => exact c.leaves_answer _ .unknown
  | some found =>
      obtain ⟨place, f⟩ := found
      rw [placeOf_of_factory? hf] at haction
      dsimp only
      cases hmade : make place f with
      | error e => exact c.leaves_answer _ (.badDocument e)
      | ok schema =>
          exact leaves_kept haction
            ⟨List.forall_mem_singleton.mpr (lt_of_factory? hf), hmake hmade⟩

theorem Sound.leaves_share (h : c.Sound) (factory copy : String) :
    c.Leaves (.operate (.share factory copy)) (c.workspace.ask factory fun _ => .done,
      { c with workspace := c.workspace.share factory copy }) := by
  unfold Workspace.ask Workspace.share
  cases hname : c.workspace.names.get? factory with
  | none =>
      rw [Workspace.factory?_of_get?_eq_none hname]
      exact c.leaves_answer _ .unknown
  | some place =>
      obtain ⟨f, hplace⟩ : ∃ f, c.workspace.factories[place]? = some f :=
        ⟨_, List.getElem?_eq_getElem (h.names hname)⟩
      have hf := Workspace.factory?_eq_some_iff.mpr ⟨hname, hplace⟩
      have hconcerns : c.concerns (.operate (.share factory copy)) = [place] :=
        placeOf_of_factory? hf
      rw [hf]
      exact leaves_done (.share copy hconcerns (h.names hname))

theorem leaves_adopt (c : Commons m) (factory name : String) :
    c.Leaves (.adopt factory name) (c.adopt factory name) := by
  unfold adopt
  cases hf : c.workspace.factory? factory with
  | none => exact c.leaves_answer _ .unknown
  | some found =>
      obtain ⟨place, f⟩ := found
      have hconcerns : c.concerns (.adopt factory name) = [place, c.size] := by
        rw [concerns, placeOf_of_factory? hf]
        rfl
      exact leaves_done (.adopt name hconcerns (Workspace.factory?_eq_some_iff.mp hf).2)

theorem leaves_snapshot (c : Commons m) (factory target : String) :
    c.Leaves (.snapshot factory target) (c.snapshot factory target) := by
  unfold snapshot
  cases hf : c.workspace.factory? factory with
  | none => exact c.leaves_answer _ .unknown
  | some found => exact leaves_done (.snapshot rfl hf)

end Commons

/-! ## When functions run -/

variable [Monad m]

/-- A question is settled without running anything, or what runs for it leads to no refusal. -/
inductive Asked : m Answer → Prop where
  | settled (answer : Answer) : Asked (pure answer)
  | ran {α : Type} (program : m α) {finish : α → Answer} :
      (∀ a, (finish a).isRefusal = false) → Asked (program >>= fun a => pure (finish a))

namespace Workspace

variable (w : Workspace m)

theorem asked_askSchema (source : String) {question : AnySchema m → m Answer}
    (h : ∀ s, Asked (question s)) : Asked (w.askSchema source question) := by
  unfold askSchema
  cases w.schema? source with
  | none => exact .settled .unknown
  | some s => exact h s

theorem asked_runRules (source : String) (input : Value) : Asked (w.runRules source input) := by
  unfold runRules
  cases w.slot? source with
  | none => exact .settled .unknown
  | some slot =>
      dsimp only
      cases slot.holding.reports w.tables input with
      | none => exact .settled .unknown
      | some reports => exact .ran reports fun _ => rfl

theorem asked_runForm (factory source : String) (input : Value) :
    Asked (w.runForm factory source input) := by
  unfold runForm
  cases w.factory? factory with
  | none => exact .settled .unknown
  | some found =>
      cases w.slot? source with
      | none => exact .settled .unknown
      | some slot =>
          dsimp only
          cases slot.holding with
          | triggerRules rules => exact .ran _ fun _ => rfl
          | _ => exact .settled .unknown

theorem asked_callMethod (factory : String) (type : FieldType) (method : String) (input : Value)
    (args : List Value) : Asked (w.callMethod factory type method input args) := by
  unfold callMethod
  cases w.factory? factory with
  | none => exact .settled .unknown
  | some found =>
      dsimp only
      cases found.2.registry.get type method with
      | error e => exact .settled (.badMethod e)
      | ok extension => exact .ran (extension input args) fun _ => rfl

end Workspace

variable [LawfulMonad m]

namespace Commons

variable {c : Commons m}

/-- A question leaves nothing, whatever runs. -/
theorem account_question (c : Commons m) (action : Action m) {ask : m Answer} (h : Asked ask) :
    Account (c.Leaves action) (ask >>= fun answer => pure (answer, c)) := by
  cases h with
  | settled answer =>
      rw [pure_bind]
      exact .settled (c.leaves_answer action answer)
  | @ran α program finish hfinish =>
      have hmap : ((program >>= fun a => pure (finish a)) >>= fun answer => pure (answer, c))
          = (fun a => (finish a, c)) <$> program := by
        rw [bind_assoc, map_eq_pure_bind]
        simp only [pure_bind]
      rw [hmap]
      exact .ran program fun a => ⟨c.leaves_answer action (finish a), hfinish a⟩

theorem Sound.account_editSchema (h : c.Sound) (source : String) {type : FieldType}
    (e : Edit m type) (target : String) :
    Account (c.Leaves (.operate (.edit source type e target)))
      (c.workspace.editSchema source e target >>= fun result =>
        pure (result.1, { c with workspace := result.2 })) := by
  have hunknown : ∀ action, Account (c.Leaves action) ((pure (Answer.unknown, c.workspace) :
      m (Answer × Workspace m)) >>= fun result =>
        pure (result.1, { c with workspace := result.2 })) := by
    intro action
    rw [pure_bind]
    exact .settled (c.leaves_answer action .unknown)
  unfold Workspace.editSchema
  split
  · next makers t s hslot =>
    split
    · next f hf =>
      split
      · next htype =>
        subst htype
        have hconcerns : c.concerns (.operate (.edit source t e target)) = makers :=
          makersOf_of_slot? hslot
        obtain ⟨hmakers, howners⟩ := h.slots hslot
        have hkept : ∀ edited : Schema m t, edited.owners ⊆ s.owners →
            c.Leaves (.operate (.edit source t e target)) (.done,
              { c with workspace := c.workspace.put target makers (.schema ⟨t, edited⟩) }) :=
          fun edited hedited => leaves_kept hconcerns ⟨hmakers, List.Subset.trans hedited howners⟩
        obtain ⟨change, hnatural, happly⟩ | ⟨program, change, hnatural, happly⟩ := e.apply_natural f
        · dsimp only
          rw [happly, pure_bind]
          cases hedit : change s with
          | error e =>
              rw [pure_bind]
              exact .settled (c.leaves_answer _ (.badMethod e))
          | ok edited =>
              rw [pure_bind]
              exact .settled (hkept edited (hnatural.owners_subset hedit))
        · dsimp only
          rw [happly]
          simp only [bind_assoc, pure_bind]
          rw [← map_eq_pure_bind]
          exact .ran program fun text =>
            ⟨hkept (change text s) ((hnatural text).owners_subset rfl), rfl⟩
      · exact hunknown _
    · exact hunknown _
  · exact hunknown _

theorem apply_start (c : Commons m) (factory : String) (type : FieldType) (target : String) :
    c.apply (.operate (.start factory type target))
      = pure (c.keepSchema factory target fun place _ => .ok ⟨type, { owner := place }⟩) := by
  show c.workspace.apply (.start factory type target) >>= (fun result =>
    pure (result.1, { c with workspace := result.2 })) = _
  rw [Workspace.apply]
  unfold keepSchema
  cases c.workspace.factory? factory with
  | none => rw [pure_bind]
  | some found => rw [pure_bind]

theorem apply_build (c : Commons m) (factory : String) (format : Format) (text target : String) :
    c.apply (.operate (.build factory format text target))
      = pure (c.keepSchema factory target fun place f =>
          (Document.parse format text).bind (Document.build place f)) := by
  show pure (c.workspace.buildDocument factory format text target) >>= (fun result =>
    pure (result.1, { c with workspace := result.2 })) = _
  rw [pure_bind]
  unfold Workspace.buildDocument keepSchema
  cases c.workspace.factory? factory with
  | none => rfl
  | some found =>
      dsimp only
      cases (Document.parse format text).bind (Document.build found.1 found.2) <;> rfl

omit [LawfulMonad m] in
theorem apply_assemble (c : Commons m) (factory : String) (d : Document) (target : String) :
    c.apply (.assemble factory d target)
      = pure (c.keepSchema factory target fun place f => d.build place f) := by
  show pure (c.assemble factory d target) = _
  unfold assemble keepSchema
  cases c.workspace.factory? factory with
  | none => rfl
  | some found =>
      cases hbuild : d.build found.1 found.2 with
      | ok schema => simp only [hbuild]
      | error e => simp only [hbuild]

/-- Every action comes to one of the effects, and one that is refused to none, without running
anything. -/
theorem Sound.account_apply (h : c.Sound) (action : Action m) :
    Account (c.Leaves action) (c.apply action) := by
  have hsettled : ∀ {result : Answer × Workspace m} {action : Action m},
      c.Leaves action (result.1, { c with workspace := result.2 }) →
        Account (c.Leaves action) ((pure result : m (Answer × Workspace m)) >>= fun result =>
          pure (result.1, { c with workspace := result.2 })) := by
    intro result action hleaves
    rw [pure_bind]
    exact .settled hleaves
  have hasked : ∀ {ask : m Answer} (action : Action m), Asked ask →
      Account (c.Leaves action) ((ask >>= fun answer => pure (answer, c.workspace)) >>= fun result =>
        pure (result.1, { c with workspace := result.2 })) := by
    intro ask action hask
    rw [bind_assoc]
    simp only [pure_bind]
    exact c.account_question action hask
  cases action with
  | operate op =>
      cases op with
      | create name => exact hsettled (leaves_done (.found name Table.builtIn rfl))
      | share factory copy => exact hsettled (h.leaves_share factory copy)
      | change factory change => exact .settled (c.leaves_changeFactory factory change)
      | start factory type target =>
          rw [apply_start]
          exact .settled (leaves_keepSchema rfl target fun hmade => by
            cases hmade
            exact List.Subset.refl _)
      | build factory format text target =>
          rw [apply_build]
          refine .settled (leaves_keepSchema rfl target fun hmade => ?_)
          cases hparsed : Document.parse format text with
          | error e =>
              rw [hparsed] at hmade
              cases hmade
          | ok d =>
              rw [hparsed] at hmade
              exact Document.owners_build_subset hmade
      | copy source target => exact hsettled (h.leaves_derive rfl target Holding.natural_some)
      | edit source type e target => exact h.account_editSchema source e target
      | compile source target => exact hsettled (h.leaves_derive rfl target Holding.natural_compile)
      | toForm source target => exact hsettled (h.leaves_derive rfl target Holding.natural_toForm)
      | toTrigger source trigger target =>
          exact hsettled (h.leaves_derive rfl target (Holding.natural_toTrigger trigger))
      | append source rules target => exact hsettled (h.leaves_append source rules target)
      | message factory key => exact hsettled (c.leaves_answer _ _)
      | lookup factory type kind => exact hsettled (c.leaves_answer _ _)
      | names factory type => exact hsettled (c.leaves_answer _ _)
      | contains factory type method => exact hsettled (c.leaves_answer _ _)
      | call factory type method input args =>
          exact hasked _ (c.workspace.asked_callMethod factory type method input args)
      | evaluate source input =>
          exact hasked _ (c.workspace.asked_askSchema source fun s => .ran _ fun _ => rfl)
      | check source input =>
          exact hasked _ (c.workspace.asked_askSchema source fun s => .ran _ fun _ => rfl)
      | validate source input =>
          exact hasked _ (c.workspace.asked_askSchema source fun s => .ran _ fun _ => rfl)
      | run source input => exact hasked _ (c.workspace.asked_runRules source input)
      | runner factory source input =>
          exact hasked _ (c.workspace.asked_runForm factory source input)
  | createOver name table => exact .settled (leaves_done (.found name table rfl))
  | adopt factory name => exact .settled (c.leaves_adopt factory name)
  | assemble factory d target =>
      rw [apply_assemble]
      exact .settled (leaves_keepSchema rfl target Document.owners_build_subset)
  | snapshot factory target => exact .settled (c.leaves_snapshot factory target)
  | consult source key => exact .settled (c.leaves_answer _ _)

end Commons

end FieldRules

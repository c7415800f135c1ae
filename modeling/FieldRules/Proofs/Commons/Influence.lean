/-
# `Proofs.Commons.Influence` — who sees what is done to a factory

A factory is seen under all its names, and its table by the factories that share its messages.
`changes_reach_sharers_alone` says of every history whom a change of it reaches, and whom not:

* not a factory that does not share its messages, nor what is made with that one.  This is
  `Mirrors.answers_without` for one factory: whoever is left out with a factory shares its messages
  (`HiddenShare`), so that nobody else is concerned;
* all its names, the factories that share its messages, and whatever is made with one of them
  (`Seen`).  For this a factory is at any time what the changes make of it that reach it, in the order
  of the actions (`Sound.factories_after`);
* no copy of a table.
-/
import FieldRules.Proofs.Commons.Separation
import FieldRules.Proofs.Workspace.Calls

namespace FieldRules

open Json (Value Fields)
open Messages (Table)

namespace Commons

variable {c : Commons Id} {hide : Nat → Bool}

/-! ## One factory and what was made of it -/

theorem hiddenIn_self (adoptions : List (Nat × Nat)) (place : Nat) :
    hiddenIn (· == place) adoptions place = true := by
  induction adoptions with
  | nil => exact beq_self_eq_true place
  | cons pair earlier ih =>
      obtain ⟨adopter, source⟩ := pair
      rw [hiddenIn]
      split
      · rw [beq_self_eq_true, Bool.true_or]
      · exact ih

/-- The factories that are hidden with the one at a place share its messages. -/
def HiddenShare (place : Nat) (c : Commons Id) : Prop :=
  ∀ q < c.size, c.hidden (· == place) q = true → place < c.size ∧ c.handle q = c.handle place

theorem HiddenShare.empty (place : Nat) : HiddenShare place Commons.empty :=
  fun q hq => absurd hq (Nat.not_lt_zero q)

theorem Sound.hidden_of_size_le (h : c.Sound) {q : Nat} (hq : c.size ≤ q) :
    c.hidden hide q = hide q :=
  hiddenIn_of_forall_ne fun pair hpair => by
    have := (h.adoptions pair hpair).2
    omega

theorem HiddenShare.perform {place : Nat} (hshare : HiddenShare place c) (h : c.Sound)
    {action : Action Id} {e : Effect Id} (he : c.Possible action e) :
    HiddenShare place (c.perform e) := by
  intro q hq hhidden
  have hearlier := c.earlier_perform e
  rcases Nat.lt_or_ge q c.size with hlt | hge
  · rw [hearlier.hidden _ hlt] at hhidden
    obtain ⟨hplace, hhandle⟩ := hshare q hlt hhidden
    rw [hearlier.handle hlt, hearlier.handle hplace]
    exact ⟨Nat.lt_of_lt_of_le hplace hearlier.size, hhandle⟩
  · -- a new factory
    cases he with
    | found name table _ =>
        rw [show (c.perform (.found name table)).hidden (· == place) q = c.hidden (· == place) q
          from rfl, h.hidden_of_size_le hge] at hhidden
        rw [← eq_of_beq hhidden]
        exact ⟨hq, rfl⟩
    | @adopt name source f _ hf =>
        rw [size_perform_adopt] at hq
        obtain rfl : q = c.size := Nat.le_antisymm (Nat.le_of_lt_succ hq) hge
        rw [hidden_perform_adopt, Bool.or_eq_true] at hhidden
        rcases hhidden with hself | hsource
        · rw [← eq_of_beq hself, size_perform_adopt]
          exact ⟨Nat.lt_succ_self _, rfl⟩
        · obtain ⟨hplace, hhandle⟩ := hshare source (List.getElem?_eq_some_iff.mp hf).1 hsource
          rw [handle_perform_adopt, hearlier.handle hplace]
          exact ⟨Nat.lt_of_lt_of_le hplace hearlier.size, hhandle⟩
    | change _ _ _ =>
        rw [show (c.perform (.change _ _)).size = c.size from c.size_setFactory _ _] at hq
        exact absurd hq (Nat.not_lt.mpr hge)
    | _ => exact absurd hq (Nat.not_lt.mpr hge)

theorem HiddenShare.after {place : Nat} (hshare : HiddenShare place c) (h : c.Sound)
    (actions : List (Action Id)) : HiddenShare place (c.after actions) := by
  induction actions generalizing c with
  | nil => exact hshare
  | cons action rest ih =>
      obtain ⟨e, hpossible, heffect⟩ := h.exists_effect action
      have hnext : HiddenShare place (c.next action) := by
        rw [heffect]
        exact hshare.perform h hpossible
      exact ih hnext (h.next action)

theorem HiddenShare.involved_eq {place : Nat} (hshare : HiddenShare place c) (h : c.Sound)
    (q : Nat) :
    (c.hidden (· == place) q || c.touched (· == place) (c.handle q))
      = (c.handle q == c.handle place) := by
  have hhidden : ∀ {r}, c.hidden (· == place) r = true → c.handle r = c.handle place := by
    intro r hr
    rcases Nat.lt_or_ge r c.size with hlt | hge
    · exact (hshare r hlt hr).2
    · rw [h.hidden_of_size_le hge] at hr
      rw [eq_of_beq hr]
  rw [Bool.eq_iff_iff, Bool.or_eq_true, beq_iff_eq]
  constructor
  · rintro (hq | htouched)
    · exact hhidden hq
    · obtain ⟨r, -, hr⟩ := List.any_eq_true.mp htouched
      obtain ⟨hr, hsame⟩ := Bool.and_eq_true_iff.mp hr
      rw [← eq_of_beq hsame]
      exact hhidden hr
  · intro hsame
    rcases Nat.lt_or_ge place c.size with hlt | hge
    · right
      rw [hsame]
      exact touched_of_hidden hlt (hiddenIn_self c.adoptions place)
    · -- a place of no factory is the handle of itself alone
      left
      have hq : q = place := by
        have hle := h.handle_le q
        rw [hsame, h.handle_of_size_le hge] at hle
        rw [h.handle_of_size_le hge] at hsame
        rw [← hsame]
        exact (h.handle_of_size_le (Nat.le_trans hge hle)).symm
      rw [hq]
      exact hiddenIn_self c.adoptions place

/-! ## What reaches a factory -/

/-- The change that an action makes to the factory at a place: one to the factory itself, or a merge
into the table of one that shares its messages. -/
def reaching (c : Commons Id) (place : Nat) : Action Id → Option (Factory.Change Id)
  | .operate (.change factory change) =>
    match c.workspace.names.get? factory with
    | some other =>
      if other = place then some change
      else if c.handle other = c.handle place then change.merge?.map .merge
      else none
    | none => none
  | _ => none

/-- The changes that actions make to the factory at a place, one after the other. -/
def allReaching (c : Commons Id) (place : Nat) : List (Action Id) → List (Factory.Change Id)
  | [] => []
  | action :: rest => (c.reaching place action).toList ++ (c.next action).allReaching place rest

theorem Sound.factories_changeFactory (h : c.Sound) {place : Nat} {f : Factory Id}
    (hf : c.workspace.factories[place]? = some f) (factory : String) (change : Factory.Change Id) :
    (c.changeFactory factory change).2.workspace.factories[place]?
      = some (f.afterAll (c.reaching place (.operate (.change factory change))).toList) := by
  rw [reaching]
  unfold changeFactory
  cases hname : c.workspace.names.get? factory with
  | none =>
      rw [Workspace.factory?_of_get?_eq_none hname]
      exact hf
  | some other =>
      obtain ⟨g, hg⟩ : ∃ g, c.workspace.factories[other]? = some g :=
        ⟨_, List.getElem?_eq_getElem (h.names hname)⟩
      rw [Workspace.factory?_eq_some_iff.mpr ⟨hname, hg⟩]
      dsimp only
      by_cases hother : other = place
      · -- the factory itself is changed
        subst hother
        obtain rfl : g = f := Option.some.inj (hg.symm.trans hf)
        rw [if_pos rfl]
        show _ = some (g.after change)
        unfold Factory.after
        cases g.change change with
        | error e => exact hf
        | ok changed => exact getElem?_setFactory_self hf _
      · rw [if_neg hother]
        by_cases hhandle : c.handle other = c.handle place
        · -- of a change of another one the table alone is shared
          have hmessages : g.messages = f.messages := h.shared hg hf hhandle
          rw [if_pos hhandle]
          cases change with
          | merge merge =>
              show _ = some (f.after (.merge merge))
              rw [Factory.after_merge, Factory.change, hmessages, Table.after]
              cases merge.into f.messages with
              | error e => exact hf
              | ok table => exact getElem?_setFactory_sharer hf (Ne.symm hother) hhandle.symm _
          | install installation =>
              show _ = some f
              rw [Factory.change]
              cases g.registry.install installation with
              | error e => exact hf
              | ok installed =>
                  dsimp only
                  rw [getElem?_setFactory_sharer hf (Ne.symm hother) hhandle.symm, hmessages]
        · rw [if_neg hhandle]
          show _ = some f
          cases g.change change with
          | error e => exact hf
          | ok changed => exact getElem?_setFactory_other hf (Ne.symm hhandle) _

/-- What comes of anything but a change leaves a factory as it is. -/
theorem factories_perform {place : Nat} {f : Factory Id}
    (hf : c.workspace.factories[place]? = some f) {action : Action Id} {e : Effect Id}
    (he : c.Possible action e)
    (hother : ∀ factory change, action ≠ .operate (.change factory change)) :
    (c.perform e).workspace.factories[place]? = some f := by
  have hadd : ∀ (name : String) (g : Factory Id),
      (c.workspace.addFactory name g).factories[place]? = some f := by
    intro name g
    have hplace : place < c.size := (List.getElem?_eq_some_iff.mp hf).1
    rw [getElem?_addFactory, ← hf]
    exact if_neg (Nat.ne_of_lt hplace)
  cases he with
  | found name table _ => exact hadd name { messages := table }
  | @adopt name source g _ _ => exact hadd name { messages := g.messages }
  | @change factory change _ _ _ _ haction _ _ => exact absurd haction (hother factory change)
  | _ => exact hf

theorem Sound.factories_next (h : c.Sound) {place : Nat} {f : Factory Id}
    (hf : c.workspace.factories[place]? = some f) (action : Action Id) :
    (c.next action).workspace.factories[place]?
      = some (f.afterAll (c.reaching place action).toList) := by
  have hother : (∀ factory change, action ≠ .operate (.change factory change)) →
      (c.next action).workspace.factories[place]? = some f := by
    intro hother
    obtain ⟨e, hpossible, heffect⟩ := h.exists_effect action
    rw [heffect]
    exact factories_perform hf hpossible hother
  cases action with
  | operate op =>
      cases op with
      | change factory change => exact h.factories_changeFactory hf factory change
      | _ => exact hother nofun
  | _ => exact hother nofun

/-- A run makes of a factory what the changes make of it that reach it. -/
theorem Sound.factories_after (h : c.Sound) {place : Nat} {f : Factory Id}
    (hf : c.workspace.factories[place]? = some f) (later : List (Action Id)) :
    (c.after later).workspace.factories[place]? = some (f.afterAll (c.allReaching place later)) := by
  induction later generalizing c f with
  | nil => exact hf
  | cons action rest ih =>
      rw [after_cons, ih (h.next action) (h.factories_next hf action), allReaching,
        Factory.afterAll, Factory.afterAll, Factory.afterAll, List.foldl_append]

/-- A copy of a table stays as it is until another one is made under its name. -/
theorem Sound.snapshots_next (h : c.Sound) {target : String} {action : Action Id}
    (hother : ∀ factory, action ≠ .snapshot factory target) :
    (c.next action).snapshots.get? target = c.snapshots.get? target := by
  obtain ⟨e, hpossible, heffect⟩ := h.exists_effect action
  rw [heffect]
  cases hpossible with
  | @snapshot factory name owner f haction _ =>
      have hne : target ≠ name := by
        rintro rfl
        exact hother factory haction
      exact Fields.get?_insert_of_ne hne _ _
  | _ => rfl

theorem Sound.snapshots_after (h : c.Sound) {target : String} {later : List (Action Id)}
    (hother : ∀ factory, .snapshot factory target ∉ later) :
    (c.after later).snapshots.get? target = c.snapshots.get? target := by
  induction later generalizing c with
  | nil => rfl
  | cons action rest ih =>
      rw [after_cons, ih (h.next action) fun factory hmem =>
        hother factory (List.mem_cons_of_mem _ hmem)]
      refine h.snapshots_next fun factory heq => hother factory ?_
      rw [heq]
      exact List.mem_cons_self

/-! ## What is seen -/

/-- The tables of a commons with a table in place of those of the factories that share the messages of
the one at a place. -/
def tablesWith (c : Commons Id) (place : Nat) (table : Table) : Tables := fun other =>
  if c.handle other = c.handle place then table else c.workspace.tables other

/-- A factory is seen as it is: under each of its names, by the factories that share its messages, by
every schema and rule when it reports something, wherever it looks up messages of one of them, and by
every schema of its own when it invokes a method. -/
structure Seen (c : Commons Id) (place : Nat) (g : Factory Id) : Prop where
  names : ∀ {name}, c.workspace.names.get? name = some place →
    c.workspace.factory? name = some (place, g)
  sharers : ∀ {name other f}, c.workspace.factory? name = some (other, f) →
    c.handle other = c.handle place → f.messages = g.messages
  schemas : ∀ {source makers s}, c.workspace.slot? source = some ⟨makers, .schema s⟩ → ∀ input,
    let tables := c.tablesWith place g.messages
    c.answer (.operate (.evaluate source input)) = .report (s.evaluate tables input).run ∧
    c.answer (.operate (.check source input)) = .report (s.check tables input).run ∧
    c.answer (.operate (.validate source input)) = .outcome (s.validate tables input).run
  rules : ∀ {source slot}, c.workspace.slot? source = some slot → ∀ {input reports},
    slot.holding.reports (c.tablesWith place g.messages) input = some reports →
      c.answer (.operate (.run source input)) = .reports reports.run
  forms : ∀ {factory other f source makers rules}, c.workspace.factory? factory = some (other, f) →
    c.workspace.slot? source = some ⟨makers, .triggerRules rules⟩ → ∀ input,
      c.answer (.operate (.runner factory source input)) = .report
        ((Runner.validate ⟨rules, other⟩ (c.tablesWith place g.messages) input).run.map
          RuleError.message)
  methods : ∀ {source makers type} {s : Schema Id type},
    c.workspace.slot? source = some ⟨makers, .schema ⟨type, s⟩⟩ → s.owner = place →
      ∀ method args target,
        (c.apply (.operate (.edit source type (.invoke method args) target))).run
          = match s.invoke g.registry method args with
            | .ok invoked => (.done,
              { c with workspace := c.workspace.put target makers (.schema ⟨type, invoked⟩) })
            | .error e => (.badMethod e, c)

/-- The table of a factory is that of all that share its messages. -/
theorem Sound.tables_eq_tablesWith (h : c.Sound) {place : Nat} {g : Factory Id}
    (hg : c.workspace.factories[place]? = some g) :
    c.workspace.tables = c.tablesWith place g.messages := by
  have hplace : place < c.size := (List.getElem?_eq_some_iff.mp hg).1
  funext other
  unfold tablesWith
  split
  · next hhandle =>
      have hother : other < c.size := by
        -- a place of no factory is a handle of its own
        by_contra hother
        have hle := h.handle_le place
        rw [← hhandle, h.handle_of_size_le (Nat.le_of_not_lt hother)] at hle
        omega
      obtain ⟨f, hf⟩ : ∃ f, c.workspace.factories[other]? = some f :=
        ⟨_, List.getElem?_eq_getElem hother⟩
      unfold Workspace.tables
      rw [hf]
      exact h.shared hf hg hhandle
  · rfl

theorem Sound.seen (h : c.Sound) {place : Nat} {g : Factory Id}
    (hg : c.workspace.factories[place]? = some g) : c.Seen place g where
  names hname := Workspace.factory?_eq_some_iff.mpr ⟨hname, hg⟩
  sharers hf hhandle := h.shared (Workspace.factory?_eq_some_iff.mp hf).2 hg hhandle
  schemas := by
    intro source makers s hslot input
    have hasked : ∀ question : AnySchema Id → Id Answer,
        (c.workspace.askSchema source question).run = (question s).run := by
      intro question
      rw [Workspace.askSchema_eq_askSlot, Workspace.askSlot, hslot]
    rw [← h.tables_eq_tablesWith hg]
    exact ⟨hasked _, hasked _, hasked _⟩
  rules := by
    intro source slot hslot input reports hreports
    show (c.workspace.runRules source input).run = _
    rw [← h.tables_eq_tablesWith hg] at hreports
    rw [Workspace.runRules_eq_askSlot, Workspace.askSlot, hslot]
    dsimp only
    rw [hreports]
  forms := by
    intro factory other f source makers rules hf hslot input
    show (c.workspace.runForm factory source input).run = _
    rw [← h.tables_eq_tablesWith hg]
    unfold Workspace.runForm
    rw [hf, hslot]
    rfl
  methods := by
    intro source makers type s hslot howner method args target
    subst howner
    show ((c.workspace.editSchema source _ target).run.1,
      { c with workspace := (c.workspace.editSchema source _ target).run.2 }) = _
    have hedit : ((Edit.invoke method args).apply g s).run = s.invoke g.registry method args := rfl
    rw [Workspace.editSchema_eq hslot hg, hedit]
    cases s.invoke g.registry method args <;> rfl

theorem Sound.consult_after_snapshot (h : c.Sound) {factory : String} {place : Nat}
    {f : Factory Id} {target : String}
    (hf : c.workspace.factory? factory = some (place, f)) {later : List (Action Id)}
    (hother : ∀ other, .snapshot other target ∉ later) (key : String) :
    ((c.next (.snapshot factory target)).after later).answer (.consult target key)
      = .text (f.messages.get? key) := by
  have hcopy : (c.next (.snapshot factory target)).snapshots.get? target
      = some ⟨place, f.messages⟩ := by
    show (c.snapshot factory target).2.snapshots.get? target = _
    unfold snapshot
    rw [hf]
    exact Fields.get?_insert_self _ _ _
  show consult _ target key = _
  rw [consult, (h.next _).snapshots_after hother, hcopy]

/-- After a change that is accepted a factory is seen with it, and with what reaches it later. -/
theorem Sound.seen_after_change (h : c.Sound) {factory : String} {place : Nat} {f g : Factory Id}
    {change : Factory.Change Id} {before : Option Bool}
    (hf : c.workspace.factory? factory = some (place, f))
    (hchange : f.change change = .ok (g, before)) (later : List (Action Id)) :
    ((c.next (.operate (.change factory change))).after later).Seen place
      (g.afterAll ((c.next (.operate (.change factory change))).allReaching place later)) := by
  obtain ⟨hname, hplace⟩ := Workspace.factory?_eq_some_iff.mp hf
  have hnext := h.factories_next hplace (.operate (.change factory change))
  have hg : f.afterAll (c.reaching place (.operate (.change factory change))).toList = g := by
    rw [reaching, hname]
    dsimp only
    rw [if_pos rfl]
    show f.after change = g
    rw [Factory.after, hchange]
  rw [hg] at hnext
  have hsound := h.next (.operate (.change factory change))
  exact (hsound.after later).seen (hsound.factories_after hnext later)

/-- In a history of any actions:

When all actions are left out that concern the factory at a place or what was made of it, no other
action is answered otherwise, unless it concerns a factory that shares its messages.

After a change that is accepted under one name the factory is seen with it: under all its names, by
all factories that share its messages, by every schema and rule that was made with one of them before
or after, also among the rules of another factory, and by the schemas of its own that invoke a method.
What reaches it later is made of it in the order of the actions, and nothing else.

A copy of a table is changed by none of this. -/
theorem changes_reach_sharers_alone (actions later : List (Action Id)) :
    let c := Commons.empty.after actions
    (∀ place,
      let gone := marks (fun c' action => (c'.concerns action).any (c.hidden (· == place)))
        Commons.empty actions
      let shared := marks (fun c' action => (c'.concerns action).any fun other =>
        c.handle other == c.handle place) Commons.empty actions
      without (without gone shared) (Commons.empty.answers (without gone actions))
        = without shared (Commons.empty.answers actions)) ∧
    ∀ factory place f, c.workspace.factory? factory = some (place, f) →
      (∀ change g before, f.change change = .ok (g, before) →
        let changed := c.next (.operate (.change factory change))
        (changed.after later).Seen place (g.afterAll (changed.allReaching place later))) ∧
      ∀ target, (∀ other, .snapshot other target ∉ later) → ∀ key,
        ((c.next (.snapshot factory target)).after later).answer (.consult target key)
          = .text (f.messages.get? key) := by
  intro c
  have hsound : c.Sound := Sound.empty.after actions
  refine ⟨fun place => ?_, fun factory place f hf => ⟨fun change g before hchange =>
    hsound.seen_after_change hf hchange later, fun target hother =>
    hsound.consult_after_snapshot hf hother⟩⟩
  have hshare : HiddenShare place c := (HiddenShare.empty place).after Sound.empty actions
  have hwithout := (Mirrors.empty c (· == place)).answers_without actions rfl
  simp only [hshare.involved_eq hsound] at hwithout
  exact hwithout

/-- Two factories, one of them with two names and with another one over its messages, each with a
schema, and a schema of the second factory that has taken in a rule of the first.  The second factory
and its own schema answer alone as they did beside the first one.  What is merged under one name, and
later under the name of the other factory, shows in the schema of that one and in its rule wherever it
is kept, but not in a copy made before, nor in what the second factory says. -/
theorem changes_reach_sharers_alone_of_two_tables :
    let min (n : Nat) : Edit Id .string := .constrain (.min n) none
    let text (s : String) : Factory.Change Id := .merge (.value (.object [("string.min", .string s)]))
    let actions : List (Action Id) := [
      .createOver "a" .empty, .createOver "b" .empty, .operate (.share "a" "copy"),
      .adopt "a" "over", .operate (.start "over" .string "s"), .operate (.edit "s" .string (min 3) "s"),
      .operate (.start "b" .string "t"), .operate (.edit "t" .string (min 2) "t"),
      .operate (.toForm "s" "r"), .operate (.append "t" "r" "u"),
      .operate (.change "copy" (text "short")), .operate (.change "b" (text "brief")),
      .operate (.check "s" (.string "x")), .operate (.check "t" (.string "x")),
      .operate (.check "u" (.string "x")), .operate (.check "u" (.string "xx"))]
    let later : List (Action Id) := [.operate (.change "over" (text "tiny"))]
    let gone := [true, false, true, true, true, true, false, false, true, true, true, false, true,
      false, true, true]
    let c := Commons.empty.after actions
    let changed := c.next (.operate (.change "copy" (text "little")))
    Commons.empty.answers actions = [.done, .done, .done, .done, .done, .done, .done, .done, .done,
        .done, .done, .done, .report (some "short"), .report (some "brief"), .report (some "brief"),
        .report (some "short")] ∧
      without (without gone gone) (Commons.empty.answers (without gone actions))
        = [.done, .done, .done, .done, .report (some "brief")] ∧
      (∃ f g, c.workspace.factory? "copy" = some (0, f) ∧
        f.change (text "little") = .ok (g, none) ∧
        (changed.after later).Seen 0 (g.afterAll (changed.allReaching 0 later)) ∧
        ((c.next (.snapshot "copy" "old")).after later).answer (.consult "old" "string.min")
          = .text (f.messages.get? "string.min")) ∧
      changed.answers [.operate (.check "s" (.string "x")), .operate (.check "u" (.string "xx")),
        .operate (.check "u" (.string "x"))]
          = [.report (some "little"), .report (some "little"), .report (some "brief")] ∧
      (changed.after later).answers [.operate (.check "s" (.string "x")),
        .operate (.check "u" (.string "xx")), .operate (.check "u" (.string "x"))]
          = [.report (some "tiny"), .report (some "tiny"), .report (some "brief")] := by
  intro min text actions later gone c changed
  have halone : ∀ (actions : List (Action Id)) (gone : List Bool) (answers : List Answer),
      marks (fun c' action => (c'.concerns action).any
        ((Commons.empty.after actions).hidden (· == 0))) Commons.empty actions = gone →
      marks (fun c' action => (c'.concerns action).any fun other =>
        (Commons.empty.after actions).handle other == (Commons.empty.after actions).handle 0)
          Commons.empty actions = gone →
      Commons.empty.answers actions = answers →
        without (without gone gone) (Commons.empty.answers (without gone actions))
          = without gone answers := by
    intro actions gone answers hgone hshared hanswers
    have h := (changes_reach_sharers_alone actions []).1 0
    dsimp only at h
    rwa [hgone, hshared, hanswers] at h
  have hseen : ∀ (c : Commons Id) (actions later : List (Action Id)),
      c = Commons.empty.after actions → (c.workspace.factory? "copy").map Prod.fst = some 0 →
      (∀ other, .snapshot other "old" ∉ later) →
        ∃ f g, c.workspace.factory? "copy" = some (0, f) ∧ f.change (text "little") = .ok (g, none) ∧
          ((c.next (.operate (.change "copy" (text "little")))).after later).Seen 0 (g.afterAll
            ((c.next (.operate (.change "copy" (text "little")))).allReaching 0 later)) ∧
          ((c.next (.snapshot "copy" "old")).after later).answer (.consult "old" "string.min")
            = .text (f.messages.get? "string.min") := by
    intro c actions later hc hplace hother
    obtain ⟨⟨place, f⟩, hf, rfl⟩ := Option.map_eq_some_iff.mp hplace
    obtain ⟨g, hchange⟩ : ∃ g, f.change (text "little") = .ok (g, none) := ⟨_, rfl⟩
    subst hc
    obtain ⟨hseen, hconsult⟩ := (changes_reach_sharers_alone actions later).2 "copy" _ f hf
    exact ⟨f, g, hf, hchange, hseen _ g none hchange, hconsult "old" hother "string.min"⟩
  have hanswers : Commons.empty.answers actions = [.done, .done, .done, .done, .done, .done, .done,
      .done, .done, .done, .done, .done, .report (some "short"), .report (some "brief"),
      .report (some "brief"), .report (some "short")] := by decide +kernel
  refine ⟨hanswers, ?_, ?_, by decide +kernel, by decide +kernel⟩
  · exact halone actions gone _ (by decide +kernel) (by decide +kernel) hanswers
  · refine hseen c actions later rfl (by decide +kernel) fun other hmem => ?_
    cases List.mem_singleton.mp hmem

end Commons

end FieldRules

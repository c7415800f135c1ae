/-
# `Proofs.Commons.Separation` — factories that share nothing

Leave out of a history what was done to some factories, and to what was made of them.  The other
actions are answered as before, apart from those that concern a factory that shares its messages with
one of those left out.  `Mirrors.answers_without` says so of every history.

It runs the history and what is left of it side by side: what is left is done in both, and leaves
effects that stand for each other (`Mirrors.abreast_apply`, one case for each action); what is left
out is done in one.  The functions that are given to a commons keep no state here, since two factories
may be given one function and would share that state.
-/
import FieldRules.Proofs.Commons.Mirror
import FieldRules.Proofs.Commons.Refusals

namespace FieldRules

open Json (Value)
open Messages (Table)

theorem Account.id {β : Type} {good : Answer × β → Prop} {program : Id (Answer × β)}
    (h : Account good program) : good program.run := by
  cases h with
  | settled hgood => exact hgood
  | ran asked hfinish => exact (hfinish asked.run).1

/-! ## Questions about slots -/

namespace Workspace

/-- Asks what is kept under a name. -/
def askSlot (w : Workspace Id) (source : String) (question : Holding Id → Answer) : Answer :=
  match w.slot? source with
  | some slot => question slot.holding
  | none => .unknown

variable (w : Workspace Id) (source : String)

theorem askSchema_eq_askSlot (question : AnySchema Id → Id Answer) :
    (w.askSchema source question).run = w.askSlot source fun h =>
      match h with
      | .schema s => (question s).run
      | _ => .unknown := by
  unfold askSchema schema? askSlot
  cases w.slot? source with
  | none => rfl
  | some slot =>
      obtain ⟨makers, h⟩ := slot
      cases h <;> rfl

theorem runRules_eq_askSlot (input : Value) :
    (w.runRules source input).run = w.askSlot source fun h =>
      match h.reports w.tables input with
      | some reports => .reports reports.run
      | none => .unknown := by
  unfold runRules askSlot
  cases w.slot? source with
  | none => rfl
  | some slot =>
      dsimp only
      cases slot.holding.reports w.tables input <;> rfl

theorem editSchema_eq {w : Workspace Id} {source : String} {makers : List Nat} {type : FieldType}
    {s : Schema Id type} {f : Factory Id}
    (hslot : w.slot? source = some ⟨makers, .schema ⟨type, s⟩⟩)
    (hf : w.factories[s.owner]? = some f) (e : Edit Id type) (target : String) :
    (w.editSchema source e target).run
      = match (e.apply f s).run with
        | .ok edited => (.done, w.put target makers (.schema ⟨type, edited⟩))
        | .error refusal => (.badMethod refusal, w) := by
  unfold editSchema
  rw [hslot]
  dsimp only
  rw [hf]
  dsimp only
  rw [dif_pos rfl, Id.run_bind]
  cases (e.apply f s).run <;> rfl

theorem editSchema_eq_unknown {w : Workspace Id} {source : String} {slot : Slot Id}
    (hslot : w.slot? source = some slot) {type : FieldType}
    (hkind : ∀ owner, slot.holding.kind ≠ .schema type owner) (e : Edit Id type) (target : String) :
    (w.editSchema source e target).run = (.unknown, w) := by
  unfold editSchema
  rw [hslot]
  obtain ⟨makers, h⟩ := slot
  cases h with
  | schema s =>
      obtain ⟨type', s⟩ := s
      have htype : type' ≠ type :=
        fun heq => hkind s.owner (congrArg (Holding.Kind.schema · s.owner) heq)
      dsimp only
      split
      · rw [dif_neg htype]
        rfl
      · rfl
  | _ => rfl

end Workspace

namespace Commons

variable {final c d : Commons Id} {hide : Nat → Bool}

/-! ## Histories -/

def answer (c : Commons Id) (action : Action Id) : Answer := (c.apply action).run.1

def next (c : Commons Id) (action : Action Id) : Commons Id := (c.apply action).run.2

def answers (c : Commons Id) (actions : List (Action Id)) : List Answer := (c.run actions).run.1

def after (c : Commons Id) (actions : List (Action Id)) : Commons Id := (c.run actions).run.2

/-- A mark for each action of a history. -/
def marks (test : Commons Id → Action Id → Bool) : Commons Id → List (Action Id) → List Bool
  | _, [] => []
  | c, action :: rest => test c action :: marks test (c.next action) rest

theorem answers_cons (c : Commons Id) (action : Action Id) (rest : List (Action Id)) :
    c.answers (action :: rest) = c.answer action :: (c.next action).answers rest := rfl

theorem after_cons (c : Commons Id) (action : Action Id) (rest : List (Action Id)) :
    c.after (action :: rest) = (c.next action).after rest := rfl

theorem Sound.exists_effect (h : c.Sound) (action : Action Id) :
    ∃ e, c.Possible action e ∧ c.next action = c.perform e := by
  obtain ⟨e, hpossible, heffect, -⟩ := (h.account_apply action).id
  exact ⟨e, hpossible, heffect⟩

theorem Sound.next (h : c.Sound) (action : Action Id) : (c.next action).Sound := by
  obtain ⟨e, hpossible, heffect⟩ := h.exists_effect action
  rw [heffect]
  exact h.perform hpossible

theorem Sound.after (h : c.Sound) (actions : List (Action Id)) : (c.after actions).Sound := by
  induction actions generalizing c with
  | nil => exact h
  | cons action rest ih => exact ih (h.next action)

theorem Sound.earlier_next (h : c.Sound) (action : Action Id) : c.Earlier (c.next action) := by
  obtain ⟨e, -, heffect⟩ := h.exists_effect action
  rw [heffect]
  exact c.earlier_perform e

theorem Sound.earlier_after (h : c.Sound) (actions : List (Action Id)) :
    c.Earlier (c.after actions) := by
  induction actions generalizing c with
  | nil => exact .refl c
  | cons action rest ih => exact (h.earlier_next action).trans (ih (h.next action))

/-! ## One action in both -/

/-- What an action comes to in two commons: effects that stand for each other, and the same answer
unless a place is concerned that shares its messages with a hidden factory. -/
inductive Abreast (final : Commons Id) (hide : Nat → Bool) (c d : Commons Id) (places : List Nat) :
    Answer × Commons Id → Answer × Commons Id → Prop where
  | mk {e e' : Effect Id} {answer answer' : Answer} : Mirrored final hide c e e' →
      ((∀ place ∈ places, final.touched hide (final.handle place) = false) → answer' = answer) →
        Abreast final hide c d places (answer, c.perform e) (answer', d.perform e')

theorem Abreast.exists_effects {places : List Nat} {result result' : Answer × Commons Id}
    (h : Abreast final hide c d places result result') :
    ∃ e e', Mirrored final hide c e e' ∧ result.2 = c.perform e ∧ result'.2 = d.perform e' ∧
      ((∀ place ∈ places, final.touched hide (final.handle place) = false) →
        result'.1 = result.1) := by
  cases h with
  | mk he hanswer => exact ⟨_, _, he, rfl, rfl, hanswer⟩

theorem abreast_answer {places : List Nat} {answer answer' : Answer}
    (h : (∀ place ∈ places, final.touched hide (final.handle place) = false) → answer' = answer) :
    Abreast final hide c d places (answer, c) (answer', d) :=
  .mk .nothing h

theorem abreast_at {place : Nat} {answer answer' : Answer}
    (h : final.touched hide (final.handle place) = false → answer' = answer) :
    Abreast final hide c d [place] (answer, c) (answer', d) :=
  abreast_answer fun huntouched => h (huntouched place (List.mem_singleton.mpr rfl))

theorem abreast_done {places : List Nat} {e e' : Effect Id} (h : Mirrored final hide c e e') :
    Abreast final hide c d places (.done, c.perform e) (.done, d.perform e') :=
  .mk h fun _ => rfl

theorem abreast_kept {places : List Nat} {target : String} (makers makers' : List Nat)
    {h k : Holding Id}
    (halike : Holding.Alike (makers.any fun place => final.touched hide (final.handle place))
      (final.rank hide) h k) :
    Abreast final hide c d places
      (.done, { c with workspace := c.workspace.put target makers h })
      (.done, { d with workspace := d.workspace.put target makers' k }) :=
  abreast_done (.keep target (s := ⟨makers, h⟩) (t := ⟨makers', k⟩) halike)

theorem any_touched_eq_false_iff {places : List Nat} :
    (places.any fun place => final.touched hide (final.handle place)) = false
      ↔ ∀ place ∈ places, final.touched hide (final.handle place) = false := by
  simp only [List.any_eq_false, Bool.not_eq_true]

namespace Mirrors

variable (M : Mirrors final hide c d)

include M

/-- A name that is for no hidden factory stands for nothing in both commons, or for factories that
are alike. -/
theorem factory? {name : String}
    (hvisible : ∀ place ∈ c.placeOf name, final.hidden hide place = false) :
    (c.workspace.factory? name = none ∧ d.workspace.factory? name = none) ∨
      ∃ place f g, c.workspace.factory? name = some (place, f) ∧
        d.workspace.factory? name = some (final.rank hide place, g) ∧
        final.hidden hide place = false ∧
        Factory.Alike (final.touched hide (final.handle place)) f g := by
  have hnames := M.names name
  cases hname : c.workspace.names.get? name with
  | none =>
      exact .inl ⟨Workspace.factory?_of_get?_eq_none hname,
        Workspace.factory?_of_get?_eq_none (hnames.eq_none hname)⟩
  | some place =>
      have hplace : final.hidden hide place = false := by
        refine hvisible place ?_
        rw [placeOf, hname]
        exact List.mem_singleton.mpr rfl
      obtain ⟨q, hname', rfl⟩ := hnames.exists_of_eq_some hname hplace
      have hf : c.workspace.factories[place]? = some _ :=
        List.getElem?_eq_getElem (M.left.names hname)
      obtain ⟨g, hg, halike⟩ := M.factory hf hplace
      exact .inr ⟨place, _, g, Workspace.factory?_eq_some_iff.mpr ⟨hname, hf⟩,
        Workspace.factory?_eq_some_iff.mpr ⟨hname', hg⟩, hplace, halike⟩

theorem slot? {source : String}
    (hvisible : ∀ place ∈ c.makersOf source, final.hidden hide place = false) :
    (c.workspace.slot? source = none ∧ d.workspace.slot? source = none) ∨
      ∃ s t, c.workspace.slot? source = some s ∧ d.workspace.slot? source = some t ∧
        (∀ place ∈ s.makers, final.hidden hide place = false) ∧ SlotMirrors final hide s t := by
  have hslots := M.slots source
  cases hslot : c.workspace.slots.get? source with
  | none => exact .inl ⟨hslot, hslots.eq_none hslot⟩
  | some s =>
      rw [makersOf_of_slot? hslot] at hvisible
      have hmakers : s.makers.any (final.hidden hide) = false :=
        List.any_eq_false.mpr fun place hplace => Bool.eq_false_iff.mp (hvisible place hplace)
      obtain ⟨t, hslot', hmirrors⟩ := hslots.exists_of_eq_some hslot hmakers
      exact .inr ⟨s, t, hslot, hslot', hvisible, hmirrors⟩

/-- The factory at a place has one table in both commons if it shares it with no hidden one. -/
theorem tables_eq {place : Nat} (hplace : place < c.size)
    (hvisible : final.hidden hide place = false)
    (huntouched : final.touched hide (final.handle place) = false) :
    d.workspace.tables (final.rank hide place) = c.workspace.tables place := by
  have hf : c.workspace.factories[place]? = some _ := List.getElem?_eq_getElem hplace
  obtain ⟨g, hg, halike⟩ := M.factory hf hvisible
  unfold Workspace.tables
  rw [hf, hg]
  exact halike.messages huntouched

theorem tables_eq_of_slot? {source : String} {s : Slot Id}
    (hslot : c.workspace.slot? source = some s)
    (hvisible : ∀ place ∈ s.makers, final.hidden hide place = false)
    (huntouched : ∀ place ∈ s.makers, final.touched hide (final.handle place) = false) :
    ∀ place ∈ s.holding.owners,
      d.workspace.tables (final.rank hide place) = c.workspace.tables place := by
  intro place hplace
  obtain ⟨hmakers, howners⟩ := M.left.slots hslot
  have hmaker := howners hplace
  exact M.tables_eq (hmakers place hmaker) (hvisible place hmaker) (huntouched place hmaker)

/-! ### Factories -/

theorem abreast_ask {factory : String} (question : Factory Id → Answer)
    (hvisible : ∀ place ∈ c.placeOf factory, final.hidden hide place = false) :
    Abreast final hide c d (c.placeOf factory) (c.workspace.ask factory question, c)
      (d.workspace.ask factory question, d) := by
  unfold Workspace.ask
  rcases M.factory? hvisible with ⟨hf, hg⟩ | ⟨place, f, g, hf, hg, -, halike⟩
  · rw [hf, hg]
    exact abreast_answer fun _ => rfl
  · rw [placeOf_of_factory? hf, hf, hg]
    refine abreast_at fun huntouched => ?_
    rw [halike.eq huntouched]

theorem abreast_callMethod {factory : String} (type : FieldType) (method : String) (input : Value)
    (args : List Value)
    (hvisible : ∀ place ∈ c.placeOf factory, final.hidden hide place = false) :
    Abreast final hide c d (c.placeOf factory)
      ((c.workspace.callMethod factory type method input args).run, c)
      ((d.workspace.callMethod factory type method input args).run, d) := by
  unfold Workspace.callMethod
  rcases M.factory? hvisible with ⟨hf, hg⟩ | ⟨place, f, g, hf, hg, -, halike⟩
  · rw [hf, hg]
    exact abreast_answer fun _ => rfl
  · rw [hf, hg]
    dsimp only
    rw [halike.registry]
    exact abreast_answer fun _ => rfl

theorem abreast_changeFactory {factory : String} (change : Factory.Change Id)
    (hvisible : ∀ place ∈ c.placeOf factory, final.hidden hide place = false) :
    Abreast final hide c d (c.placeOf factory) (c.changeFactory factory change)
      (d.changeFactory factory change) := by
  unfold changeFactory Workspace.changeFactory
  rcases M.factory? hvisible with ⟨hf, hg⟩ | ⟨place, f, g, hf, hg, hplace, halike⟩
  · rw [hf, hg]
    exact abreast_answer fun _ => rfl
  · rw [placeOf_of_factory? hf, hf, hg]
    dsimp only
    rcases (halike.change change).ok_or_error with
      ⟨⟨f', before⟩, ⟨g', before'⟩, hchange, hchange', halike', hbefore⟩ |
      ⟨e, e', hchange, hchange', heq⟩
    · rw [hchange, hchange']
      obtain rfl : before' = before := hbefore
      have hmirrored : Mirrored final hide c (.change place f')
          (.change (final.rank hide place) g') := .change (lt_of_factory? hf) hplace halike'
      cases before' with
      | none => exact abreast_done hmirrored
      | some b => exact .mk hmirrored fun _ => rfl
    · rw [hchange, hchange']
      cases e with
      | messages cause =>
          refine abreast_at fun huntouched => ?_
          rw [heq huntouched]
      | method cause =>
          refine abreast_at fun huntouched => ?_
          rw [heq huntouched]

theorem abreast_keepSchema {factory : String} (target : String)
    {make : Nat → Factory Id → Except Document.Error (AnySchema Id)}
    (hmake : ∀ {differ : Bool} (ρ : Nat → Nat) (place : Nat) {f g : Factory Id},
      Factory.Alike differ f g →
        Together differ (fun s s' => Holding.Alike differ ρ (.schema s) (.schema s'))
          (make place f) (make (ρ place) g))
    (hvisible : ∀ place ∈ c.placeOf factory, final.hidden hide place = false) :
    Abreast final hide c d (c.placeOf factory) (c.keepSchema factory target make)
      (d.keepSchema factory target make) := by
  unfold keepSchema
  rcases M.factory? hvisible with ⟨hf, hg⟩ | ⟨place, f, g, hf, hg, hplace, halike⟩
  · rw [hf, hg]
    exact abreast_answer fun _ => rfl
  · rw [placeOf_of_factory? hf, hf, hg]
    dsimp only
    rcases (hmake (final.rank hide) place halike).ok_or_error with
      ⟨s, s', hmade, hmade', hs⟩ | ⟨e, e', hmade, hmade', heq⟩
    · rw [hmade, hmade']
      refine abreast_kept [place] [final.rank hide place] ?_
      rw [List.any_cons, List.any_nil, Bool.or_false]
      exact hs
    · rw [hmade, hmade']
      refine abreast_at fun huntouched => ?_
      rw [heq huntouched]

theorem abreast_share {factory : String} (copy : String)
    (hvisible : ∀ place ∈ c.placeOf factory, final.hidden hide place = false) :
    Abreast final hide c d (c.placeOf factory)
      (c.workspace.ask factory fun _ => .done, { c with workspace := c.workspace.share factory copy })
      (d.workspace.ask factory fun _ => .done,
        { d with workspace := d.workspace.share factory copy }) := by
  unfold Workspace.ask Workspace.share
  rcases M.factory? hvisible with ⟨hf, hg⟩ | ⟨place, f, g, hf, hg, -, -⟩
  · have hname : c.workspace.names.get? factory = none := by
      refine Option.eq_none_iff_forall_ne_some.mpr fun place hplace => ?_
      -- a name is that of a factory
      rw [Workspace.factory?_eq_some_iff.mpr
        ⟨hplace, List.getElem?_eq_getElem (M.left.names hplace)⟩] at hf
      cases hf
    rw [hf, hg, hname, (M.names factory).eq_none hname]
    exact abreast_answer fun _ => rfl
  · rw [hf, hg, (Workspace.factory?_eq_some_iff.mp hf).1, (Workspace.factory?_eq_some_iff.mp hg).1]
    exact abreast_done (.share copy place)

theorem abreast_adopt {factory : String} (name : String)
    (hvisible : ∀ place ∈ (c.placeOf factory).flatMap fun place => [place, c.size],
      final.hidden hide place = false) :
    Abreast final hide c d ((c.placeOf factory).flatMap fun place => [place, c.size])
      (c.adopt factory name) (d.adopt factory name) := by
  have hplaces : ∀ place ∈ c.placeOf factory, final.hidden hide place = false := by
    intro place hplace
    exact hvisible place (List.mem_flatMap.mpr ⟨place, hplace, List.mem_cons_self⟩)
  unfold adopt
  rcases M.factory? hplaces with ⟨hf, hg⟩ | ⟨place, f, g, hf, hg, hplace, halike⟩
  · rw [hf, hg]
    exact abreast_answer fun _ => rfl
  · rw [hf, hg]
    have hsize : final.hidden hide c.size = false := by
      refine hvisible c.size (List.mem_flatMap.mpr ⟨place, ?_, ?_⟩)
      · rw [placeOf_of_factory? hf]
        exact List.mem_singleton.mpr rfl
      · exact List.mem_cons_of_mem _ (List.mem_singleton.mpr rfl)
    exact abreast_done (.adopt name (lt_of_factory? hf) hplace hsize halike.messages)

/-! ### What is kept -/

theorem abreast_derive {source target : String} {make : Holding Id → Option (Holding Id)}
    (hmake : ∀ {differ : Bool} {ρ : Nat → Nat} {h k : Holding Id}, Holding.Alike differ ρ h k →
      Option.Rel (Holding.Alike differ ρ) (make h) (make k))
    (hvisible : ∀ place ∈ c.makersOf source, final.hidden hide place = false) :
    Abreast final hide c d (c.makersOf source)
      ((c.workspace.derive source target make).1,
        { c with workspace := (c.workspace.derive source target make).2 })
      ((d.workspace.derive source target make).1,
        { d with workspace := (d.workspace.derive source target make).2 }) := by
  unfold Workspace.derive
  rcases M.slot? hvisible with ⟨hs, ht⟩ | ⟨s, t, hs, ht, -, hmirrors⟩
  · rw [hs, ht]
    exact abreast_answer fun _ => rfl
  · rw [hs, ht]
    dsimp only
    have hmade := hmake hmirrors
    generalize make s.holding = made at hmade ⊢
    generalize make t.holding = made' at hmade ⊢
    cases hmade with
    | none => exact abreast_answer fun _ => rfl
    | some halike => exact abreast_kept s.makers t.makers halike

theorem abreast_append {source rules target : String}
    (hvisible : ∀ place ∈ c.makersOf source ++ c.makersOf rules,
      final.hidden hide place = false) :
    Abreast final hide c d (c.makersOf source ++ c.makersOf rules)
      ((c.workspace.append source rules target).1,
        { c with workspace := (c.workspace.append source rules target).2 })
      ((d.workspace.append source rules target).1,
        { d with workspace := (d.workspace.append source rules target).2 }) := by
  obtain ⟨hsource, hrules⟩ := List.forall_mem_append.mp hvisible
  unfold Workspace.append
  rcases M.slot? hsource with ⟨hs, ht⟩ | ⟨s, t, hs, ht, -, hmirrors⟩
  · rw [hs, ht]
    exact abreast_answer fun _ => rfl
  · rcases M.slot? hrules with ⟨hs', ht'⟩ | ⟨s', t', hs', ht', -, hmirrors'⟩
    · rw [hs, ht, hs', ht']
      exact abreast_answer fun _ => rfl
    · rw [hs, ht, hs', ht']
      dsimp only
      have hboth := Holding.Alike.append? hmirrors hmirrors'
      generalize s.holding.append? s'.holding = both at hboth ⊢
      generalize t.holding.append? t'.holding = both' at hboth ⊢
      cases hboth with
      | none => exact abreast_answer fun _ => rfl
      | some halike =>
          rw [← List.any_append] at halike
          exact abreast_kept (s.makers ++ s'.makers) (t.makers ++ t'.makers) halike

theorem abreast_editSchema {source target : String} {type : FieldType} (e : Edit Id type)
    (hvisible : ∀ place ∈ c.makersOf source, final.hidden hide place = false) :
    Abreast final hide c d (c.makersOf source)
      ((c.workspace.editSchema source e target).run.1,
        { c with workspace := (c.workspace.editSchema source e target).run.2 })
      ((d.workspace.editSchema source e target).run.1,
        { d with workspace := (d.workspace.editSchema source e target).run.2 }) := by
  rcases M.slot? hvisible with ⟨hs, ht⟩ | ⟨⟨makers, h⟩, ⟨makers', k⟩, hs, ht, hmakers, hmirrors⟩
  · unfold Workspace.editSchema
    rw [hs, ht]
    exact abreast_answer fun _ => rfl
  · by_cases htype : ∃ owner, h.kind = .schema type owner
    · obtain ⟨_, hkind⟩ := htype
      obtain ⟨s, rfl, rfl⟩ := Holding.exists_of_kind_eq_schema hkind
      have hkind' : k.kind = .schema type (final.rank hide s.owner) := hmirrors.kind
      obtain ⟨s', rfl, howner⟩ := Holding.exists_of_kind_eq_schema hkind'
      obtain ⟨hplaces, howners⟩ := M.left.slots hs
      have hmaker : s.owner ∈ makers := howners List.mem_cons_self
      obtain ⟨f, hf⟩ : ∃ f, c.workspace.factories[s.owner]? = some f :=
        ⟨_, List.getElem?_eq_getElem (hplaces s.owner hmaker)⟩
      obtain ⟨g, hg, halike⟩ := M.factory hf (hmakers s.owner hmaker)
      rw [← howner] at hg
      rw [makersOf_of_slot? hs, Workspace.editSchema_eq hs hf, Workspace.editSchema_eq ht hg]
      have halike := halike.mono fun hdiffer =>
        any_touched_eq_false_iff.mp hdiffer s.owner hmaker
      rcases (e.together_apply halike hmirrors).ok_or_error with
        ⟨edited, edited', hedit, hedit', hedited⟩ | ⟨refusal, refusal', hedit, hedit', heq⟩
      · rw [hedit, hedit']
        exact abreast_kept makers makers' hedited
      · rw [hedit, hedit']
        refine abreast_answer fun huntouched => ?_
        rw [heq (any_touched_eq_false_iff.mpr huntouched)]
    · have hother : ∀ owner, h.kind ≠ .schema type owner := fun owner heq => htype ⟨owner, heq⟩
      have hother' : ∀ owner, k.kind ≠ .schema type owner := by
        intro owner hkind
        have hkind : (h.rename (final.rank hide)).kind = .schema type owner :=
          hmirrors.kind.symm.trans hkind
        cases h with
        | schema s =>
            injection hkind with heq
            exact hother s.schema.owner (congrArg (Holding.Kind.schema · s.schema.owner) heq)
        | _ => cases hkind
      rw [Workspace.editSchema_eq_unknown hs hother, Workspace.editSchema_eq_unknown ht hother']
      exact abreast_answer fun _ => rfl

/-! ### Questions about what is kept -/

/-- A question is answered alike if it asks for no places, and for messages in the tables of those
that hold what is asked about. -/
theorem abreast_askSlot {source : String} {question question' : Holding Id → Answer}
    (hvisible : ∀ place ∈ c.makersOf source, final.hidden hide place = false)
    (hquestion : ∀ {h : Holding Id},
      (∀ place ∈ h.owners, d.workspace.tables (final.rank hide place) = c.workspace.tables place) →
        question' (h.rename (final.rank hide)) = question h) :
    Abreast final hide c d (c.makersOf source) (c.workspace.askSlot source question, c)
      (d.workspace.askSlot source question', d) := by
  unfold Workspace.askSlot
  rcases M.slot? hvisible with ⟨hs, ht⟩ | ⟨s, t, hs, ht, hmakers, hmirrors⟩
  · rw [hs, ht]
    exact abreast_answer fun _ => rfl
  · rw [hs, ht, makersOf_of_slot? hs]
    refine abreast_answer fun huntouched => ?_
    dsimp only
    rw [hmirrors.eq (any_touched_eq_false_iff.mpr huntouched)]
    exact hquestion (M.tables_eq_of_slot? hs hmakers huntouched)

theorem abreast_askSchema {source : String} {question question' : AnySchema Id → Id Answer}
    (hvisible : ∀ place ∈ c.makersOf source, final.hidden hide place = false)
    (hquestion : ∀ {s : AnySchema Id}, (∀ place ∈ s.schema.owners,
      d.workspace.tables (final.rank hide place) = c.workspace.tables place) →
        (question' (s.rename (final.rank hide))).run = (question s).run) :
    Abreast final hide c d (c.makersOf source) ((c.workspace.askSchema source question).run, c)
      ((d.workspace.askSchema source question').run, d) := by
  rw [Workspace.askSchema_eq_askSlot, Workspace.askSchema_eq_askSlot]
  refine M.abreast_askSlot hvisible fun {h} htables => ?_
  cases h with
  | schema s => exact hquestion htables
  | _ => rfl

theorem abreast_runRules {source : String} (input : Value)
    (hvisible : ∀ place ∈ c.makersOf source, final.hidden hide place = false) :
    Abreast final hide c d (c.makersOf source) ((c.workspace.runRules source input).run, c)
      ((d.workspace.runRules source input).run, d) := by
  rw [Workspace.runRules_eq_askSlot, Workspace.runRules_eq_askSlot]
  refine M.abreast_askSlot hvisible fun {h} htables => ?_
  rw [h.reports_rename input htables]

theorem abreast_runForm {factory source : String} (input : Value)
    (hvisible : ∀ place ∈ c.placeOf factory ++ c.makersOf source,
      final.hidden hide place = false) :
    Abreast final hide c d (c.placeOf factory ++ c.makersOf source)
      ((c.workspace.runForm factory source input).run, c)
      ((d.workspace.runForm factory source input).run, d) := by
  obtain ⟨hfactory, hsource⟩ := List.forall_mem_append.mp hvisible
  refine abreast_answer fun huntouched => ?_
  obtain ⟨huntouched, huntouched'⟩ := List.forall_mem_append.mp huntouched
  unfold Workspace.runForm
  rcases M.factory? hfactory with ⟨hf, hg⟩ | ⟨place, f, g, hf, hg, hplace, -⟩
  · rw [hf, hg]
  · rcases M.slot? hsource with ⟨hs, ht⟩ | ⟨s, t, hs, ht, hmakers, hmirrors⟩
    · rw [hf, hg, hs, ht]
    · rw [placeOf_of_factory? hf] at huntouched
      rw [makersOf_of_slot? hs] at huntouched'
      have htables := M.tables_eq_of_slot? hs hmakers huntouched'
      have htable := M.tables_eq (lt_of_factory? hf) hplace (huntouched place List.mem_cons_self)
      rw [hf, hg, hs, ht]
      dsimp only
      rw [hmirrors.eq (any_touched_eq_false_iff.mpr huntouched')]
      obtain ⟨makers, h⟩ := s
      cases h with
      | triggerRules rules =>
          dsimp only [Holding.rename]
          rw [Runner.validate_rename input htable htables]
      | _ => rfl

theorem abreast_consult {source : String} (key : String)
    (hvisible : ∀ place ∈ ((c.snapshots.get? source).map Snapshot.owner).toList,
      final.hidden hide place = false) :
    Abreast final hide c d ((c.snapshots.get? source).map Snapshot.owner).toList
      (c.consult source key, c) (d.consult source key, d) := by
  have hcopies := M.snapshots source
  unfold consult
  cases hcopy : c.snapshots.get? source with
  | none =>
      rw [hcopies.eq_none hcopy]
      exact abreast_answer fun _ => rfl
  | some copy =>
      have howner : final.hidden hide copy.owner = false := by
        refine hvisible copy.owner ?_
        rw [hcopy]
        exact List.mem_singleton.mpr rfl
      obtain ⟨copy', hcopy', hmirrors⟩ := hcopies.exists_of_eq_some hcopy howner
      rw [hcopy']
      refine abreast_at fun huntouched => ?_
      dsimp only
      rw [hmirrors huntouched]

theorem abreast_snapshot {factory : String} (target : String)
    (hvisible : ∀ place ∈ c.placeOf factory, final.hidden hide place = false) :
    Abreast final hide c d (c.placeOf factory) (c.snapshot factory target)
      (d.snapshot factory target) := by
  unfold snapshot
  rcases M.factory? hvisible with ⟨hf, hg⟩ | ⟨place, f, g, hf, hg, -, halike⟩
  · rw [hf, hg]
    exact abreast_answer fun _ => rfl
  · rw [hf, hg]
    exact abreast_done (.snapshot target halike.messages)

/-! ### Every action -/

/-- An action that concerns no hidden factory is done in both commons, with effects that stand for
each other. -/
theorem abreast_apply (action : Action Id)
    (hvisible : ∀ place ∈ c.concerns action, final.hidden hide place = false) :
    Abreast final hide c d (c.concerns action) (c.answer action, c.next action)
      (d.answer action, d.next action) := by
  have hnew : (∀ place ∈ [c.size], final.hidden hide place = false) →
      final.hidden hide c.size = false := fun h => h c.size (List.mem_singleton.mpr rfl)
  cases action with
  | operate op =>
      cases op with
      | create name => exact abreast_done (.found name Table.builtIn (hnew hvisible))
      | share factory copy => exact M.abreast_share copy hvisible
      | change factory change => exact M.abreast_changeFactory change hvisible
      | start factory type target =>
          unfold answer next
          rw [apply_start, apply_start]
          exact M.abreast_keepSchema target (fun ρ place _ _ _ => .ok (.renamed _ ρ _)) hvisible
      | build factory format text target =>
          unfold answer next
          rw [apply_build, apply_build]
          refine M.abreast_keepSchema target ?_ hvisible
          intro differ ρ place f g halike
          cases Document.parse format text with
          | error e => exact .error fun _ => rfl
          | ok d => exact d.together_build halike ρ place
      | copy source target =>
          exact M.abreast_derive (fun halike => .some halike) hvisible
      | edit source type e target => exact M.abreast_editSchema e hvisible
      | compile source target =>
          exact M.abreast_derive (fun halike => halike.compiled? (fun _ _ => rfl)
            Holding.natural_compile) hvisible
      | toForm source target =>
          exact M.abreast_derive (fun halike => halike.compiled? (fun _ _ => rfl)
            Holding.natural_toForm) hvisible
      | toTrigger source trigger target =>
          exact M.abreast_derive (fun halike => halike.compiled? (fun _ _ => rfl)
            (Holding.natural_toTrigger trigger)) hvisible
      | append source rules target => exact M.abreast_append hvisible
      | message factory key => exact M.abreast_ask _ hvisible
      | lookup factory type kind => exact M.abreast_ask _ hvisible
      | names factory type => exact M.abreast_ask _ hvisible
      | contains factory type method => exact M.abreast_ask _ hvisible
      | call factory type method input args =>
          exact M.abreast_callMethod type method input args hvisible
      | evaluate source input =>
          exact M.abreast_askSchema hvisible fun htables =>
            congrArg Answer.report (Schema.evaluate_rename input htables)
      | check source input =>
          exact M.abreast_askSchema hvisible fun htables =>
            congrArg Answer.report (Schema.check_rename input htables)
      | validate source input =>
          exact M.abreast_askSchema hvisible fun htables =>
            congrArg Answer.outcome (Schema.validate_rename input htables)
      | run source input => exact M.abreast_runRules input hvisible
      | runner factory source input => exact M.abreast_runForm input hvisible
  | createOver name table => exact abreast_done (.found name table (hnew hvisible))
  | adopt factory name => exact M.abreast_adopt name hvisible
  | assemble factory d target =>
      unfold answer next
      rw [apply_assemble, apply_assemble]
      exact M.abreast_keepSchema target
        (fun ρ place _ _ halike => d.together_build halike ρ place) hvisible
  | snapshot factory target => exact M.abreast_snapshot target hvisible
  | consult source key => exact M.abreast_consult key hvisible

/-- An action that concerns no hidden factory keeps two commons the mirror of each other. -/
theorem next (action : Action Id)
    (hvisible : ∀ place ∈ c.concerns action, final.hidden hide place = false)
    (hlater : (c.next action).Earlier final) :
    Mirrors final hide (c.next action) (d.next action) ∧
      ((∀ place ∈ c.concerns action, final.touched hide (final.handle place) = false) →
        d.answer action = c.answer action) := by
  obtain ⟨e, e', he, hleft, hright, hanswer⟩ := (M.abreast_apply action hvisible).exists_effects
  have hleft : c.next action = c.perform e := hleft
  have hright : d.next action = d.perform e' := hright
  refine ⟨?_, hanswer⟩
  have hsound := M.left.next action
  have hsound' := M.right.next action
  rw [hleft] at hlater hsound ⊢
  rw [hright] at hsound' ⊢
  exact M.perform he hlater hsound hsound'

/-- An action that concerns a hidden factory is left out of the second commons. -/
theorem next_hidden (action : Action Id)
    (hhidden : (c.concerns action).any (final.hidden hide) = true)
    (hlater : (c.next action).Earlier final) : Mirrors final hide (c.next action) d := by
  obtain ⟨e, hpossible, heffect⟩ := M.left.exists_effect action
  rw [heffect] at hlater ⊢
  exact M.perform_hidden hpossible hlater hhidden

/-- What is left of a history is answered as in the history, apart from what involves a factory that
shares its messages with a hidden one. -/
theorem answers_without (actions : List (Action Id)) (hend : c.after actions = final) :
    let gone := marks (fun c action => (c.concerns action).any (final.hidden hide)) c actions
    let involved := marks (fun c action => (c.concerns action).any fun place =>
      final.hidden hide place || final.touched hide (final.handle place)) c actions
    without (without gone involved) (d.answers (without gone actions))
      = without involved (c.answers actions) := by
  induction actions generalizing c d with
  | nil => rfl
  | cons action rest ih =>
      intro gone involved
      have hlater : (c.next action).Earlier final := by
        rw [← hend]
        exact (M.left.next action).earlier_after rest
      have hinvolved : ∀ {places : List Nat}, places.any (final.hidden hide) = true →
          (places.any fun place => final.hidden hide place ||
            final.touched hide (final.handle place)) = true := by
        intro places hany
        obtain ⟨place, hmem, hplace⟩ := List.any_eq_true.mp hany
        exact List.any_eq_true.mpr ⟨place, hmem, by rw [hplace]; rfl⟩
      simp only [gone, involved, marks, without_cons, answers_cons]
      cases hgone : (c.concerns action).any (final.hidden hide) with
      | true =>
          rw [if_pos rfl, if_pos rfl, hinvolved hgone, if_pos rfl]
          exact ih (M.next_hidden action hgone hlater) hend
      | false =>
          have hvisible : ∀ place ∈ c.concerns action, final.hidden hide place = false := by
            intro place hplace
            exact Bool.eq_false_iff.mpr (List.any_eq_false.mp hgone place hplace)
          obtain ⟨hnext, hanswer⟩ := M.next action hvisible hlater
          have hrest := ih hnext hend
          rw [if_neg Bool.false_ne_true, if_neg Bool.false_ne_true, answers_cons, without_cons]
          split
          · exact hrest
          · next hinvolved =>
              have huntouched : ∀ place ∈ c.concerns action,
                  final.touched hide (final.handle place) = false := by
                intro place hplace
                have := List.any_eq_false.mp (Bool.eq_false_iff.mpr hinvolved) place hplace
                rw [hvisible place hplace, Bool.false_or] at this
                exact Bool.eq_false_iff.mpr this
              rw [hanswer huntouched, hrest]

end Mirrors

/-! ## From the beginning -/

theorem Mirrors.empty (final : Commons Id) (hide : Nat → Bool) :
    Mirrors final hide Commons.empty Commons.empty where
  left := .empty
  right := .empty
  size := rfl
  handle := nofun
  factory := fun h => by cases h
  names := fun _ => .neither
  slots := fun _ => .neither
  snapshots := fun _ => .neither

end Commons

end FieldRules

/-
# `Proofs.Commons.Refusals` — a refused action might as well not have been

A merge is refused for a value that is no mapping, for a text that is none of its format and for a
file that cannot be read, a method for its name, a document for a parameter deep inside it; and any
action for a name that stands for nothing.  `refused_actions_leave_no_trace` says of every history
that it may be run without what was refused in it: the other actions are answered as before, and what
is there at the end is the same, as are the effects of the functions that were run on the way.

The functions that a commons is given may read and change a state of their own, which is why a
history is run in a state here.  One step is `refused_leaves_all`.
-/
import FieldRules.Proofs.Commons.Sharing

namespace FieldRules

open Json (Value)

/-- A list without its marked elements. -/
def without {α : Type} : List Bool → List α → List α
  | mark :: marks, a :: as => if mark then without marks as else a :: without marks as
  | _, as => as

theorem without_cons {α : Type} (mark : Bool) (marks : List Bool) (a : α) (as : List α) :
    without (mark :: marks) (a :: as) = if mark then without marks as else a :: without marks as :=
  rfl

variable {σ : Type}

/-- A program that accounts for itself leaves its state alone if it is refused. -/
theorem Account.run {β : Type} {good : Answer × β → Prop} {program : StateM σ (Answer × β)}
    (h : Account good program) (state : σ) :
    good (program.run state).1 ∧
      ((program.run state).1.1.isRefusal = true → (program.run state).2 = state) := by
  cases h with
  | settled hgood => exact ⟨hgood, fun _ => rfl⟩
  | @ran α asked finish hfinish =>
      obtain ⟨hgood, haccepted⟩ := hfinish (asked.run state).1
      refine ⟨hgood, fun hrefused => ?_⟩
      have hrefused : (finish (asked.run state).1).1.isRefusal = true := hrefused
      rw [haccepted] at hrefused
      cases hrefused

namespace Commons

variable {c : Commons (StateM σ)}

theorem Sound.apply (h : c.Sound) (action : Action (StateM σ)) (state : σ) :
    ((c.apply action).run state).1.2.Sound := by
  obtain ⟨⟨e, hpossible, heffect, -⟩, -⟩ := (h.account_apply action).run state
  rw [heffect]
  exact h.perform hpossible

theorem Sound.run (h : c.Sound) (actions : List (Action (StateM σ))) (state : σ) :
    ((c.run actions).run state).1.2.Sound := by
  induction actions generalizing c state with
  | nil => exact h
  | cons action rest ih => exact ih (h.apply action state) _

/-- A refused action leaves everything as it was: tables and methods, schemas and rules, and the state
of the functions. -/
theorem Sound.refused_leaves_all (h : c.Sound) (action : Action (StateM σ)) (state : σ)
    (hrefused : ((c.apply action).run state).1.1.isRefusal = true) :
    (c.apply action).run state = ((((c.apply action).run state).1.1, c), state) := by
  obtain ⟨⟨e, -, heffect, hnothing⟩, hstate⟩ := (h.account_apply action).run state
  rw [hnothing hrefused] at heffect
  have hcommons : ((c.apply action).run state).1.2 = c := heffect
  exact Prod.ext (Prod.ext rfl hcommons) (hstate hrefused)

theorem run_cons {action : Action (StateM σ)} {rest : List (Action (StateM σ))} {state : σ}
    {answer : Answer} {c₁ : Commons (StateM σ)} {state₁ : σ}
    {result : (List Answer × Commons (StateM σ)) × σ}
    (hstep : (c.apply action).run state = ((answer, c₁), state₁))
    (hrest : (c₁.run rest).run state₁ = result) :
    (c.run (action :: rest)).run state = ((answer :: result.1.1, result.1.2), result.2) := by
  rw [run, StateT.run_bind, hstep]
  show (do
    let answered ← c₁.run rest
    pure (answer :: answered.1, answered.2) : StateM σ _).run state₁ = _
  rw [StateT.run_bind, hrest]
  rfl

/-- A history may be run without actions that were refused in it. -/
theorem Sound.run_without (h : c.Sound) {gone : Answer → Bool}
    (hgone : ∀ answer, gone answer = true → answer.isRefusal = true)
    {actions : List (Action (StateM σ))} {state state' : σ} {answers : List Answer}
    {c' : Commons (StateM σ)} (hrun : (c.run actions).run state = ((answers, c'), state')) :
    (c.run (without (answers.map gone) actions)).run state
      = ((without (answers.map gone) answers, c'), state') := by
  induction actions generalizing c state answers with
  | nil =>
      cases hrun
      rfl
  | cons action rest ih =>
      rcases hstep : (c.apply action).run state with ⟨⟨answer, c₁⟩, state₁⟩
      rcases hrest : (c₁.run rest).run state₁ with ⟨⟨later, c₂⟩, state₂⟩
      rw [run_cons hstep hrest] at hrun
      cases hrun
      have hsound : c₁.Sound := by
        have := h.apply action state
        rwa [hstep] at this
      rw [List.map_cons, without_cons, without_cons]
      cases hmark : gone answer with
      | true =>
          -- the action is left out, and it has left nothing
          have hleft := h.refused_leaves_all action state (by
            rw [hstep]
            exact hgone answer hmark)
          rw [hstep] at hleft
          cases hleft
          exact ih h hrest
      | false => exact run_cons hstep (ih hsound hrest)

/-- Whichever of the refused actions of a history are left out of it: every other action is answered
as before, and the same is there at the end, in the commons and in the state of the functions that it
was given.  For an action that is refused then leaves the commons as it was, with all its tables,
methods, schemas and rules, and runs nothing. -/
theorem refused_actions_leave_no_trace {gone : Answer → Bool}
    (hgone : ∀ answer, gone answer = true → answer.isRefusal = true)
    (actions : List (Action (StateM σ))) (state : σ) :
    let done := (Commons.empty.run actions).run state
    (Commons.empty.run (without (done.1.1.map gone) actions)).run state
        = ((without (done.1.1.map gone) done.1.1, done.1.2), done.2) ∧
      ∀ action, ((done.1.2.apply action).run done.2).1.1.isRefusal = true →
        (done.1.2.apply action).run done.2
          = ((((done.1.2.apply action).run done.2).1.1, done.1.2), done.2) := by
  intro done
  refine ⟨Sound.empty.run_without hgone rfl, fun action hrefused => ?_⟩
  exact (Sound.empty.run actions state).refused_leaves_all action done.2 hrefused

/-- Of ten actions six are refused: merges of a text, of what is no JSON and of a missing file, a
method of a reserved name, a call of a method that was never added, and a document whose second rule
says nothing. -/
theorem refused_actions_leave_no_trace_of_six_refusals :
    let schema : Edit (StateM Nat) .string := .constrain (.min 2) (some (.literal "short"))
    let actions : List (Action (StateM Nat)) := [
      .operate (.create "f"),
      .operate (.change "f" (.merge (.value (.string "x")))),
      .operate (.change "f" (.merge (.text .json "["))),
      .operate (.change "f" (.merge (.file "texts.yaml" (.error "missing")))),
      .operate (.change "f" (.install (.add .string "min" fun _ _ => return none))),
      .operate (.start "f" .string "s"),
      .operate (.edit "s" .string (.invoke "own" []) "s"),
      .operate (.edit "s" .string schema "s"),
      .assemble "f" ⟨.string, none, [⟨some "required", none, none, none, none, none, none⟩,
        ⟨none, none, none, none, none, none, none⟩]⟩ "s",
      .operate (.check "s" (.string "a"))]
    let answers : List Answer := [
      .done, .badMessages (.notAMapping "string"), .badMessages .json,
      .badMessages (.unreadable "texts.yaml" "missing"), .badMethod (.reservedName .string "min"),
      .done, .badMethod (.unknownMethod .string "own"), .done, .badDocument (.emptyRule 1),
      .report (some "short")]
    ((Commons.empty.run actions).run 0).1.1 = answers ∧
      ((Commons.empty.run (without (answers.map Answer.isRefusal) actions)).run 0).1.1
        = [.done, .done, .done, .report (some "short")] := by
  intro schema actions answers
  have hanswers : ((Commons.empty.run actions).run 0).1.1 = answers := by decide +kernel
  have hwithout : ∀ (actions : List (Action (StateM Nat))) (answers : List Answer),
      ((Commons.empty.run actions).run 0).1.1 = answers →
        ((Commons.empty.run (without (answers.map Answer.isRefusal) actions)).run 0).1.1
          = without (answers.map Answer.isRefusal) answers := by
    intro actions answers hanswers
    subst hanswers
    exact congrArg (fun result => result.1.1)
      (refused_actions_leave_no_trace (fun _ hrefused => hrefused) actions 0).1
  exact ⟨hanswers, (hwithout actions answers hanswers).trans rfl⟩

end Commons

end FieldRules

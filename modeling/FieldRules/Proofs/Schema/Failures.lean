/-
# `Proofs.Schema.Failures` — messages do not decide what fails

A table of messages words failures and nothing else.  `failures_alike` compares two runs of one
schema on one input with any two tables, however incomplete: both fail or neither does, and it is
the same item that fails.  An empty text of a table is a failure all the same; only a validator of
one's own passes by an empty message, and that message is in no table.

The two runs are related by `FailAlike`, step by step: each function that is given a table fails
alike with any other.  What makes the relation go through a search is that a search asks of a report
only whether there is one (`FailAlike.bind`).
-/
import FieldRules.Proofs.Schema.Outcomes

namespace FieldRules

open Json (Value)
open Messages (Table)

variable {m : Type → Type} {t : FieldType}

/-! ## Programs that fail alike -/

section FailAlike

variable [Monad m] {α β γ : Type}

/-- Two programs that act alike and report together, though perhaps different things. -/
def FailAlike (p : m (Option α)) (q : m (Option β)) : Prop :=
  Option.isSome <$> p = Option.isSome <$> q

theorem FailAlike.rfl {p : m (Option α)} : FailAlike p p := Eq.refl _

variable [LawfulMonad m]

theorem failAlike_pure_some (a : α) (b : β) :
    FailAlike (pure (some a) : m (Option α)) (pure (some b) : m (Option β)) := by
  simp only [FailAlike, map_pure, Option.isSome_some]

/-- What only asks whether there is a report goes on alike. -/
theorem FailAlike.bind {p : m (Option α)} {q : m (Option β)} (h : FailAlike p q)
    {f : Option α → m γ} {g : Option β → m γ} (k : Bool → m γ) (hf : ∀ r, f r = k r.isSome)
    (hg : ∀ r, g r = k r.isSome) : p >>= f = q >>= g := by
  calc p >>= f = Option.isSome <$> p >>= k := by rw [bind_map_left, funext hf]
    _ = Option.isSome <$> q >>= k := by rw [h]
    _ = q >>= g := by rw [bind_map_left, funext hg]

end FailAlike

/-! ## The place of a first report -/

section Place

variable {α β γ : Type} [Monad m]

/-- The first report of a list, with the place of the element that makes it. -/
def firstPlaced (f : α → m (Option β)) (xs : List α) (start : Nat := 0) : m (Option (Nat × β)) :=
  (xs.zipIdx start).findSomeM? fun p => Option.map (p.2, ·) <$> f p.1

variable [LawfulMonad m]

theorem firstPlaced_cons (f : α → m (Option β)) (x : α) (xs : List α) (start : Nat) :
    firstPlaced f (x :: xs) start = f x >>= fun
      | some b => pure (some (start, b))
      | none => firstPlaced f xs (start + 1) := by
  rw [firstPlaced, List.zipIdx_cons, List.findSomeM?_cons, bind_map_left]
  refine bind_congr fun r => ?_
  cases r <;> rfl

theorem map_snd_firstPlaced (f : α → m (Option β)) (xs : List α) (start : Nat) :
    Option.map Prod.snd <$> firstPlaced f xs start = xs.findSomeM? f := by
  induction xs generalizing start with
  | nil => simp only [firstPlaced, List.zipIdx_nil, List.findSomeM?_nil, map_pure, Option.map_none]
  | cons x xs ih =>
      rw [firstPlaced_cons, List.findSomeM?_cons, map_bind]
      refine bind_congr fun r => ?_
      cases r with
      | none => exact ih (start + 1)
      | some b => simp only [map_pure, Option.map_some]

theorem map_fst_firstPlaced_congr {f : α → m (Option β)} {g : α → m (Option γ)} {xs : List α}
    (h : ∀ x ∈ xs, FailAlike (f x) (g x)) (start : Nat) :
    Option.map Prod.fst <$> firstPlaced f xs start
      = Option.map Prod.fst <$> firstPlaced g xs start := by
  induction xs generalizing start with
  | nil => simp only [firstPlaced, List.zipIdx_nil, List.findSomeM?_nil, map_pure, Option.map_none]
  | cons x xs ih =>
      have hrest := ih (fun y hy => h y (List.mem_cons_of_mem x hy)) (start + 1)
      rw [firstPlaced_cons, firstPlaced_cons, map_bind, map_bind]
      refine (h x List.mem_cons_self).bind (fun found => if found then pure (some start)
        else Option.map Prod.fst <$> firstPlaced g xs (start + 1)) (fun r => ?_) (fun r => ?_)
      · cases r with
        | none => exact hrest
        | some b => simp only [map_pure, Option.map_some, Option.isSome_some, if_true]
      · cases r with
        | none => rfl
        | some c => simp only [map_pure, Option.map_some, Option.isSome_some, if_true]

theorem failAlike_findSomeM? {f : α → m (Option β)} {g : α → m (Option γ)} {xs : List α}
    (h : ∀ x ∈ xs, FailAlike (f x) (g x)) : FailAlike (xs.findSomeM? f) (xs.findSomeM? g) := by
  have hplace : ∀ {δ : Type} (k : α → m (Option δ)),
      Option.isSome <$> xs.findSomeM? k
        = Option.isSome <$> (Option.map Prod.fst <$> firstPlaced k xs) := by
    intro δ k
    rw [← map_snd_firstPlaced k xs 0, Functor.map_map, Functor.map_map]
    simp only [Option.isSome_map]
  unfold FailAlike
  rw [hplace f, hplace g, map_fst_firstPlaced_congr h 0]

end Place

/-! ## What is given a table, or tables -/

variable [Monad m] [LawfulMonad m]

theorem Descriptor.report_failAlike (a b : Table) (input : Value) (value : t.Carrier)
    (d : Descriptor m t) :
    FailAlike (d.report a value input) (d.report b value input) := by
  cases d with
  | custom validator => exact .rfl
  | check c override =>
      rw [Descriptor.report, Descriptor.report]
      by_cases htest : Constraint.test c value = true
      · rw [if_pos htest, if_pos htest]
        exact .rfl
      · rw [if_neg htest, if_neg htest]
        -- a message function acts, and a text is settled or taken from the table
        cases override with
        | none => simpa only [Failure.message, pure_bind] using failAlike_pure_some _ _
        | some o =>
            cases o with
            | computed f => exact .rfl
            | literal text => simpa only [Failure.message, pure_bind] using failAlike_pure_some _ _

variable (a b : Tables) (input : Value)

theorem Group.evaluate_failAlike (g : Group m) :
    FailAlike (g.evaluate a input) (g.evaluate b input) := by
  unfold Group.evaluate
  cases g.exemption.any (·.covers input) with
  | true => exact .rfl
  | false =>
      cases g.type.coerce? input with
      | none => exact failAlike_pure_some _ _
      | some value =>
          exact failAlike_findSomeM? fun d _ => d.report_failAlike (a g.owner) (b g.owner) input value

theorem FormRule.run_failAlike (r : FormRule m) :
    FailAlike (r.run a input) (r.run b input) := by
  unfold FormRule.run
  cases r.validator with
  | none => exact .rfl
  | some v =>
      cases v with
      | group g => exact g.evaluate_failAlike a b input
      | reporting f => exact .rfl

theorem FormRule.report_failAlike (owner : Nat) (r : FormRule m) :
    FailAlike (r.report a owner input) (r.report b owner input) := by
  unfold FormRule.report
  cases r.shortfall? input with
  | none => exact r.run_failAlike a b input
  | some s => exact failAlike_pure_some _ _

namespace Schema

theorem report_failAlike (s : Schema m t) (item : Item m t) :
    FailAlike (s.report a input item) (s.report b input item) := by
  cases item with
  | raw r => exact r.report_failAlike a b input s.owner
  | descriptor d =>
      have hgroup : ∀ tables, s.report tables input (.descriptor d)
          = (s.group [d]).evaluate tables input := by
        intro tables
        rw [evaluate_group s tables input (List.cons_ne_nil d []), findSomeM?_singleton]
        rfl
      rw [hgroup a, hgroup b]
      exact (s.group [d]).evaluate_failAlike a b input

/-! ## Whole schemas -/

/-- The first of some items that reports, by its place among them, and what it reports. -/
def firstFailure (s : Schema m t) (tables : Tables) (input : Value) (items : List (Item m t)) :
    m (Option (Nat × String)) :=
  firstPlaced (s.report tables input) items

theorem check_failAlike (s : Schema m t) :
    FailAlike (s.check a input) (s.check b input) := by
  rw [check_eq_findSomeM?, check_eq_findSomeM?]
  exact failAlike_findSomeM? fun item _ => s.report_failAlike a b input item

theorem isFailure_validate (s : Schema m t) (tables : Tables) (input : Value) :
    Outcome.isFailure <$> s.validate tables input = Option.isSome <$> s.check tables input := by
  rw [validate_eq_map_check, Functor.map_map]
  exact congrArg (· <$> s.check tables input) (funext fun report => (Outcome.views_ofReport report).1)

/-- With any two tables for each factory, evaluating, checking and validating an input and running
each rule of the schema fail together, and validators and message functions act alike.  The item
that fails first is the same one: of all items when checking, and of the descriptors when
evaluating. -/
theorem failures_alike (s : Schema m t) :
    Option.isSome <$> s.evaluate a input = Option.isSome <$> s.evaluate b input ∧
    Option.isSome <$> s.check a input = Option.isSome <$> s.check b input ∧
    (∀ r ∈ s.rules,
      Option.isSome <$> r.toForm.run a input = Option.isSome <$> r.toForm.run b input) ∧
    Outcome.isFailure <$> s.validate a input = Outcome.isFailure <$> s.validate b input ∧
    (∀ items, Option.map Prod.fst <$> s.firstFailure a input items
      = Option.map Prod.fst <$> s.firstFailure b input items) ∧
    (∀ tables, s.check tables input = Option.map Prod.snd <$> s.firstFailure tables input s.items) ∧
    (s.items.filterMap Item.descriptor? ≠ [] → ∀ tables, s.evaluate tables input
      = Option.map Prod.snd <$> s.firstFailure tables input
          ((s.items.filterMap Item.descriptor?).map .descriptor)) := by
  refine ⟨Group.evaluate_failAlike a b input _, s.check_failAlike a b input,
    fun r _ => r.toForm.run_failAlike a b input, ?_, fun items => ?_, fun tables => ?_,
    fun hds tables => ?_⟩
  · rw [isFailure_validate, isFailure_validate]
    exact s.check_failAlike a b input
  · exact map_fst_firstPlaced_congr (fun item _ => s.report_failAlike a b input item) 0
  · rw [firstFailure, map_snd_firstPlaced, check_eq_findSomeM?]
  · rw [firstFailure, map_snd_firstPlaced, evaluate_eq_findSomeM? s tables input hds, findSomeM?_map]
    rfl

/-- A table without entries words a failure as the empty text, which is a failure still. -/
theorem failures_alike_of_empty_table :
    let s : Schema Id .string :=
      { owner := 0, items := [.raw { min := some 1 }, .descriptor (.check (.min 3) none)] }
    let silent : Tables := fun _ => .empty
    let worded : Tables := fun _ => Messages.Table.empty.insert "default" "no"
    Id.run (s.check silent (.string "ab")) = some "" ∧
      Id.run (s.check worded (.string "ab")) = some "no" ∧
      (Id.run (s.check silent (.string "ab"))).isSome
        = (Id.run (s.check worded (.string "ab"))).isSome ∧
      (Id.run (s.firstFailure silent (.string "ab") s.items)).map Prod.fst
        = (Id.run (s.firstFailure worded (.string "ab") s.items)).map Prod.fst := by
  intro s silent worded
  obtain ⟨_, hcheck, _, _, hplace, _⟩ := failures_alike silent worded (.string "ab") s
  refine ⟨?_, ?_, hcheck, hplace s.items⟩
  · decide +kernel
  · decide +kernel

end Schema

end FieldRules

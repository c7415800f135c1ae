/-
# `Proofs.Schema.Traces` — what runs during a check

A schema holds validators and message functions that it was given, and a check calls some of them.
`Schema.traced` is the schema in which each of them notes its call before it acts; what they do and
report is left as it is.  `run_traced_check` says what is noted: with the first failure at a place,
or with none, it is `Schema.calls`, a list that is read off the items.  The report is that of the
schema itself, so noting disturbs nothing.

Validators are those of items, whether they are written out or come from a method that was added,
and those of raw rules.  The validator of a raw rule counts as one, also where it is a group of
another schema's constraints.  The monad below the notes is any lawful one: validators may act, and
what they report may depend on what they and others did before.
-/
import FieldRules.Proofs.Schema.Failures

namespace FieldRules

open Json (Value)

variable {m : Type → Type} {t : FieldType}

/-! ## Notes -/

inductive Callee where
  | validator
  | message
deriving DecidableEq, Repr

/-- A call: the place of the item that makes it, and what it calls. -/
structure Call where
  place : Nat
  callee : Callee
deriving DecidableEq, Repr

/-- Programs that note calls, below which they act in `m`. -/
abbrev Tracing (m : Type → Type) := StateT (List Call) m

/-- Notes a call and then acts. -/
def Call.noting {α : Type} [Monad m] (c : Call) (p : m α) : Tracing m α := do
  modify (· ++ [c])
  StateT.lift p

theorem Call.run_noting {α : Type} [Monad m] [LawfulMonad m] (c : Call) (p : m α)
    (log : List Call) : (c.noting p).run log = (·, log ++ [c]) <$> p := by
  simp [noting]

/-! ## Schemas that note their calls -/

section Traced

variable [Monad m]

def Override.traced (place : Nat) : Override m → Override (Tracing m)
  | .literal text => .literal text
  | .computed f => .computed fun failure => Call.noting ⟨place, .message⟩ (f failure)

/-- A descriptor that notes the call of its validator or of its message function. -/
def Descriptor.traced (place : Nat) : Descriptor m t → Descriptor (Tracing m) t
  | .check c override => .check c (override.map (Override.traced place))
  | .custom validator =>
    .custom fun value input => Call.noting ⟨place, .validator⟩ (validator value input)

def FormRule.traced (tables : Tables) (place : Nat) (r : FormRule m) : FormRule (Tracing m) :=
  { r.toDeclaration with
    validator := r.validator.map fun v =>
      .reporting fun input => Call.noting ⟨place, .validator⟩ (v.reports tables input) }

def Item.traced (tables : Tables) (place : Nat) : Item m t → Item (Tracing m) t
  | .descriptor d => .descriptor (d.traced place)
  | .raw r => .raw (r.traced tables place)

/-- The schema whose items note their calls.  A raw rule that takes messages from tables takes them
from these. -/
def Schema.traced (tables : Tables) (s : Schema m t) : Schema (Tracing m) t where
  owner := s.owner
  items := s.items.zipIdx.map fun p => p.1.traced tables p.2
  exemption := s.exemption

@[simp] theorem Schema.owner_traced (tables : Tables) (s : Schema m t) :
    (s.traced tables).owner = s.owner := rfl

end Traced

/-! ## The calls of a check -/

/-- What a descriptor calls that an input comes to, of which it may be known that it fails: a
validator at any rate, and a message function if it fails. -/
def Descriptor.callee? (fails : Bool) : Descriptor m t → Option Callee
  | .custom _ => some .validator
  | .check _ (some (.computed _)) => if fails then some .message else none
  | .check _ _ => none

/-- What a raw rule calls: its validator, unless its declarative fields fail. -/
def FormRule.callee? (input : Value) (r : FormRule m) : Option Callee :=
  if r.shortfall? input = none then r.validator.map fun _ => .validator else none

namespace Schema

/-- What an item calls when its turn comes.  No descriptor calls anything for an input that is exempt
or cannot be converted. -/
def callee? (s : Schema m t) (input : Value) (fails : Bool) : Item m t → Option Callee
  | .raw r => r.callee? input
  | .descriptor d =>
    if s.exemption.any (·.covers input) ∨ t.coerce? input = none then none else d.callee? fails

def call? (s : Schema m t) (input : Value) (stop? : Option Nat) (p : Item m t × Nat) :
    Option Call :=
  if stop?.all (p.2 ≤ ·) then (s.callee? input (stop? = some p.2) p.1).map (Call.mk p.2) else none

/-- The calls of a check whose first failure is at a place, or that finds none. -/
def calls (s : Schema m t) (input : Value) (stop? : Option Nat) : List Call :=
  s.items.zipIdx.filterMap (s.call? input stop?)

end Schema

/-! ## What is in the list -/

namespace Schema

theorem call?_at (s : Schema m t) (input : Value) (item : Item m t) (place : Nat) :
    s.call? input (some place) (item, place)
      = (s.callee? input true item).map (Call.mk place) := by
  simp [call?]

theorem call?_before (s : Schema m t) (input : Value) (item : Item m t) {place : Nat}
    {stop? : Option Nat} (h : ∀ stop, stop? = some stop → place < stop) :
    s.call? input stop? (item, place) = (s.callee? input false item).map (Call.mk place) := by
  cases stop? with
  | none => simp [call?]
  | some stop =>
      have hlt := h stop rfl
      have hne : stop ≠ place := by omega
      simp [call?, Nat.le_of_lt hlt, hne]

/-- Items behind the first failure call nothing. -/
theorem filterMap_call?_behind (s : Schema m t) (input : Value) (items : List (Item m t))
    {stop start : Nat} (h : stop < start) :
    (items.zipIdx start).filterMap (s.call? input (some stop)) = [] := by
  rw [List.filterMap_eq_nil_iff]
  intro p hp
  have hle : start ≤ p.2 := List.le_snd_of_mem_zipIdx hp
  have hnot : ¬ p.2 ≤ stop := by omega
  simp [call?, hnot]

theorem place_of_call? {s : Schema m t} {input : Value} {stop? : Option Nat} {p : Item m t × Nat}
    {c : Call} (h : s.call? input stop? p = some c) : c.place = p.2 := by
  unfold call? at h
  split at h
  · obtain ⟨callee, -, rfl⟩ := Option.map_eq_some_iff.mp h
    rfl
  · cases h

/-- Calls are in the order of the items, and no item makes two. -/
theorem pairwise_calls (s : Schema m t) (input : Value) (stop? : Option Nat) :
    (s.calls input stop?).Pairwise fun a b => a.place < b.place := by
  have hplaces : s.items.zipIdx.Pairwise fun p q => p.2 < q.2 := by
    have h : (List.range' 0 s.items.length).Pairwise (· < ·) := List.pairwise_lt_range'
    rw [← List.zipIdx_map_snd 0 s.items, List.pairwise_map] at h
    exact h
  refine hplaces.filterMap _ fun p q hpq c hc d hd => ?_
  rw [place_of_call? hc, place_of_call? hd]
  exact hpq

theorem mem_calls_iff (s : Schema m t) (input : Value) (stop? : Option Nat) (c : Call) :
    c ∈ s.calls input stop? ↔ (∀ stop, stop? = some stop → c.place ≤ stop) ∧
      ∃ item, s.items[c.place]? = some item ∧
        s.callee? input (stop? = some c.place) item = some c.callee := by
  obtain ⟨place, callee⟩ := c
  have hall : stop?.all (place ≤ ·) = true ↔ ∀ stop, stop? = some stop → place ≤ stop := by
    cases stop? <;> simp
  rw [calls, List.mem_filterMap]
  constructor
  · rintro ⟨⟨item, place'⟩, hitem, hcall⟩
    obtain rfl : place = place' := place_of_call? hcall
    unfold call? at hcall
    split at hcall
    · next h =>
        obtain ⟨callee', hcallee, heq⟩ := Option.map_eq_some_iff.mp hcall
        cases heq
        exact ⟨hall.mp h, item, List.mk_mem_zipIdx_iff_getElem?.mp hitem, hcallee⟩
    · cases hcall
  · rintro ⟨hstop, item, hitem, hcallee⟩
    refine ⟨(item, place), List.mk_mem_zipIdx_iff_getElem?.mpr hitem, ?_⟩
    rw [call?, if_pos (hall.mpr hstop), hcallee]
    rfl

theorem callee?_eq_validator_iff (s : Schema m t) (input : Value) (fails : Bool) (item : Item m t) :
    s.callee? input fails item = some .validator ↔
      (∃ v, item = .descriptor (.custom v) ∧
          s.exemption.any (·.covers input) = false ∧ t.coerce? input ≠ none) ∨
        ∃ r : FormRule m, item = .raw r ∧ r.validator ≠ none ∧ r.shortfall? input = none := by
  cases item with
  | raw r =>
      cases hv : r.validator <;> simp [callee?, FormRule.callee?, hv]
  | descriptor d =>
      cases d with
      | custom v => simp [callee?, Descriptor.callee?, and_comm]
      | check c override =>
          cases override with
          | none => simp [callee?, Descriptor.callee?]
          | some o => cases o <;> simp [callee?, Descriptor.callee?]

theorem callee?_eq_message_iff (s : Schema m t) (input : Value) (fails : Bool) (item : Item m t) :
    s.callee? input fails item = some .message ↔ fails = true ∧
      ∃ c f, item = .descriptor (.check c (some (.computed f))) ∧
        s.exemption.any (·.covers input) = false ∧ t.coerce? input ≠ none := by
  cases item with
  | raw r =>
      cases hv : r.validator <;> simp [callee?, FormRule.callee?, hv]
  | descriptor d =>
      cases d with
      | custom v => simp [callee?, Descriptor.callee?]
      | check c override =>
          cases override with
          | none => simp [callee?, Descriptor.callee?]
          | some o => cases o <;> simp [callee?, Descriptor.callee?, and_comm]

/-- The validators that are called: up to the first failure, those of items that an input comes to,
and those of raw rules whose declarative fields it satisfies. -/
theorem validator_mem_calls_iff (s : Schema m t) (input : Value) (stop? : Option Nat)
    (place : Nat) :
    ⟨place, .validator⟩ ∈ s.calls input stop? ↔ (∀ stop, stop? = some stop → place ≤ stop) ∧
      ((∃ v, s.items[place]? = some (.descriptor (.custom v)) ∧
          s.exemption.any (·.covers input) = false ∧ t.coerce? input ≠ none) ∨
        ∃ r : FormRule m, s.items[place]? = some (.raw r) ∧ r.validator ≠ none ∧
          r.shortfall? input = none) := by
  rw [mem_calls_iff]
  refine and_congr_right fun _ => ?_
  simp only [callee?_eq_validator_iff]
  constructor
  · rintro ⟨item, hitem, ⟨v, rfl, hcomes⟩ | ⟨r, rfl, hr⟩⟩
    · exact .inl ⟨v, hitem, hcomes⟩
    · exact .inr ⟨r, hitem, hr⟩
  · rintro (⟨v, hitem, hcomes⟩ | ⟨r, hitem, hr⟩)
    · exact ⟨_, hitem, .inl ⟨v, rfl, hcomes⟩⟩
    · exact ⟨_, hitem, .inr ⟨r, rfl, hr⟩⟩

/-- The message functions that are called: that of the constraint that fails first, if it has one. -/
theorem message_mem_calls_iff (s : Schema m t) (input : Value) (stop? : Option Nat)
    (place : Nat) :
    ⟨place, .message⟩ ∈ s.calls input stop? ↔ stop? = some place ∧
      ∃ c f, s.items[place]? = some (.descriptor (.check c (some (.computed f)))) ∧
        s.exemption.any (·.covers input) = false ∧ t.coerce? input ≠ none := by
  rw [mem_calls_iff]
  simp only [callee?_eq_message_iff, decide_eq_true_eq]
  constructor
  · rintro ⟨-, item, hitem, hplace, c, f, rfl, hcomes⟩
    exact ⟨hplace, c, f, hitem, hcomes⟩
  · rintro ⟨rfl, c, f, hitem, hcomes⟩
    exact ⟨fun stop hstop => by cases hstop; exact Nat.le_refl _, _, hitem, rfl, c, f, rfl, hcomes⟩

end Schema

/-! ## One item -/

section Item

variable [Monad m] [LawfulMonad m] (tables : Tables) (input : Value) (place : Nat) (log : List Call)

theorem Descriptor.run_report_traced (owner : Nat) (value : t.Carrier) (d : Descriptor m t) :
    ((d.traced place).report (tables owner) value input).run log
      = (fun r => (r, log ++ ((d.callee? r.isSome).map (Call.mk place)).toList))
          <$> d.report (tables owner) value input := by
  cases d with
  | custom validator =>
      simp [Descriptor.traced, Descriptor.report, Descriptor.callee?, Call.run_noting]
  | check c override =>
      simp only [Descriptor.traced, Descriptor.report]
      by_cases htest : Constraint.test c value = true
      · rw [if_pos htest, if_pos htest]
        cases override with
        | none => simp [callee?]
        | some o => cases o <;> simp [callee?]
      · rw [if_neg htest, if_neg htest]
        cases override with
        | none => simp [Failure.message, callee?]
        | some o =>
            cases o with
            | literal text => simp [Failure.message, Override.traced, callee?]
            | computed f =>
                simp [Failure.message, Override.traced, callee?, Call.run_noting]

theorem FormRule.run_report_traced (owner : Nat) (r : FormRule m) :
    ((r.traced tables place).report tables owner input).run log
      = (fun report => (report, log ++ ((r.callee? input).map (Call.mk place)).toList))
          <$> r.report tables owner input := by
  unfold FormRule.report FormRule.callee?
  have hdeclared : (r.traced tables place).toDeclaration = r.toDeclaration := rfl
  rw [hdeclared]
  cases hs : r.shortfall? input with
  | some s => simp
  | none =>
      cases hv : r.validator with
      | none => simp [FormRule.run, FormRule.traced, hv]
      | some v =>
          simp [FormRule.run, FormRule.traced, hv, Validator.run_eq_firstReport, Validator.reports,
            Call.run_noting]

theorem Schema.run_report_traced (s : Schema m t) (item : Item m t) :
    ((s.traced tables).report tables input (item.traced tables place)).run log
      = (fun r => (r, log ++ ((s.callee? input r.isSome item).map (Call.mk place)).toList))
          <$> s.report tables input item := by
  cases item with
  | raw r => exact r.run_report_traced tables input place log s.owner
  | descriptor d =>
      show ((s.traced tables).descriptorReport tables input (d.traced place)).run log
        = _ <$> s.descriptorReport tables input d
      cases hex : s.exemption.any (·.covers input) with
      | true =>
          rw [descriptorReport_of_exempt tables d hex,
            descriptorReport_of_exempt (s := s.traced tables) tables _ hex]
          simp [callee?, hex]
      | false =>
          cases hco : t.coerce? input with
          | none =>
              rw [descriptorReport_of_coerce?_eq_none tables d hex hco,
                descriptorReport_of_coerce?_eq_none (s := s.traced tables) tables _ hex hco]
              simp [callee?, hco]
          | some value =>
              rw [descriptorReport_of_coerce?_eq_some tables d hex hco,
                descriptorReport_of_coerce?_eq_some (s := s.traced tables) tables _ hex hco,
                d.run_report_traced]
              simp [callee?, hex, hco]

end Item

/-! ## Runs -/

section Runs

variable [Monad m] [LawfulMonad m] {α β : Type}

/-- Where a search starts to count only shifts the place that it finds. -/
theorem firstPlaced_eq_shift (f : α → m (Option β)) (xs : List α) (start : Nat) :
    firstPlaced f xs start
      = Option.map (fun found => (start + found.1, found.2)) <$> firstPlaced f xs 0 := by
  rw [firstPlaced, List.zipIdx_eq_map_add, findSomeM?_map, firstPlaced, ← findSomeM?_map_report]
  refine findSomeM?_congr fun p _ => ?_
  simp only [Functor.map_map, Option.map_map]
  rfl

namespace Schema

/-- Searching the items that note their calls notes those up to the first failure. -/
theorem run_findSomeM?_traced (s : Schema m t) (tables : Tables) (input : Value)
    (items : List (Item m t)) (start : Nat) (log : List Call) :
    (((items.zipIdx start).map fun p => p.1.traced tables p.2).findSomeM?
        ((s.traced tables).report tables input)).run log
      = (fun found => (found.map Prod.snd,
            log ++ (items.zipIdx start).filterMap (s.call? input (found.map Prod.fst))))
          <$> firstPlaced (s.report tables input) items start := by
  induction items generalizing start log with
  | nil => simp [firstPlaced]
  | cons item rest ih =>
      rw [List.zipIdx_cons, List.map_cons, List.findSomeM?_cons, StateT.run_bind,
        s.run_report_traced, bind_map_left, firstPlaced_cons, map_bind]
      refine bind_congr fun report => ?_
      cases report with
      | some text =>
          simp only [StateT.run_pure, map_pure, Option.map_some, Option.isSome_some]
          rw [List.filterMap_cons, call?_at,
            s.filterMap_call?_behind input rest (Nat.lt_succ_self _)]
          cases s.callee? input true item <;> rfl
      | none =>
          -- what is found in the rest is behind this item, which therefore passes
          rw [Option.isSome_none]
          show StateT.run (((rest.zipIdx (start + 1)).map _).findSomeM? _) _ = _
          rw [ih, firstPlaced_eq_shift, Functor.map_map, Functor.map_map]
          congr 1
          funext found
          have hbefore : s.call? input (found.map fun p => start + 1 + p.1) (item, start)
              = (s.callee? input false item).map (Call.mk start) :=
            s.call?_before input item fun stop hstop => by
              obtain ⟨p, -, rfl⟩ := Option.map_eq_some_iff.mp hstop
              omega
          simp only [Option.map_map, Function.comp_def] at hbefore ⊢
          rw [List.filterMap_cons, hbefore]
          cases s.callee? input false item <;> simp

/-- What a check notes, and what it reports. -/
theorem run_traced_check (s : Schema m t) (tables : Tables) (input : Value) (log : List Call) :
    ((s.traced tables).check tables input).run log
      = (fun found => (found.map Prod.snd, log ++ s.calls input (found.map Prod.fst)))
          <$> s.firstFailure tables input s.items := by
  rw [check_eq_findSomeM?]
  exact s.run_findSomeM?_traced tables input s.items 0 log

theorem fst_run_traced_check (s : Schema m t) (tables : Tables) (input : Value) (log : List Call) :
    Prod.fst <$> ((s.traced tables).check tables input).run log = s.check tables input := by
  rw [run_traced_check, Functor.map_map, firstFailure, check_eq_findSomeM?, ← map_snd_firstPlaced]

end Schema

end Runs

end FieldRules

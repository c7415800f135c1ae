/-
# `Workspace.Operation` — what is done in a workspace, step by step

An operation changes a workspace or asks it something.  Each has an answer, and one that is refused
leaves the workspace as it was.
-/
import FieldRules.Document.Reading
import FieldRules.Factory.Change
import FieldRules.Schema.Edit
import FieldRules.Workspace

namespace FieldRules

open Json (Value)

/-! ## Operations and answers -/

/-- What can be done in a workspace: to its factories, to what is kept under names, and questions. -/
inductive Operation (m : Type → Type) where
  | create (name : String)
  | share (name copy : String)
  | change (factory : String) (c : Factory.Change m)
  | start (factory : String) (type : FieldType) (target : String)
  | build (factory : String) (format : Format) (text target : String)
  | copy (source target : String)
  | edit (source : String) (type : FieldType) (e : Edit m type) (target : String)
  | compile (source target : String)
  | toForm (source target : String)
  | toTrigger (source : String) (trigger : Option Trigger) (target : String)
  /-- Puts rules that are kept behind a schema, or behind other rules. -/
  | append (source rules target : String)
  | message (factory key : String)
  | lookup (factory : String) (type : FieldType) (kind : String)
  | names (factory : String) (type : FieldType)
  | contains (factory : String) (type : FieldType) (method : String)
  | call (factory : String) (type : FieldType) (method : String) (input : Value) (args : List Value)
  | evaluate (source : String) (input : Value)
  | check (source : String) (input : Value)
  | validate (source : String) (input : Value)
  | run (source : String) (input : Value)
  | runner (factory source : String) (input : Value)

inductive Answer where
  | done
  /-- A name stands for nothing, or for something that the operation is not about. -/
  | unknown
  | badMessages (e : Messages.Error)
  | badMethod (e : RegistryError)
  | badDocument (e : Document.Error)
  | replaced (before : Bool)
  | flag (b : Bool)
  | words (names : List String)
  | text (text : Option String)
  | report (failure : Option String)
  | outcome (o : Outcome)
  | reports (failures : List (Option String))
deriving DecidableEq

def Answer.isRefusal : Answer → Bool
  | .unknown | .badMessages _ | .badMethod _ | .badDocument _ => true
  | _ => false

/-- What the rules of a holding report, each on its own. -/
def Holding.reports {m : Type → Type} [Monad m] (tables : Tables) (input : Value) :
    Holding m → Option (m (List (Option String)))
  | .rules rs => some (rs.mapM fun r => r.toForm.run tables input)
  | .formRules rs => some (rs.mapM fun r => r.run tables input)
  | .triggerRules rs => some (rs.mapM fun r => return (← r.run tables input).map RuleError.message)
  | .schema _ => none

namespace Workspace

variable {m : Type → Type}

/-! ## Changes -/

def changeFactory (w : Workspace m) (factory : String) (c : Factory.Change m) :
    Answer × Workspace m :=
  match w.factory? factory with
  | none => (.unknown, w)
  | some (place, f) =>
    match f.change c with
    | .ok (f, none) => (.done, w.setFactory place f)
    | .ok (f, some before) => (.replaced before, w.setFactory place f)
    | .error (.messages e) => (.badMessages e, w)
    | .error (.method e) => (.badMethod e, w)

def buildDocument (w : Workspace m) (factory : String) (format : Format) (text target : String) :
    Answer × Workspace m :=
  match w.factory? factory with
  | none => (.unknown, w)
  | some (place, f) =>
    match (Document.parse format text).bind (Document.build place f) with
    | .ok schema => (.done, w.put target [place] (.schema schema))
    | .error e => (.badDocument e, w)

/-- Keeps what is made of what is kept, which is made with the same factories. -/
def derive (w : Workspace m) (source target : String) (make : Holding m → Option (Holding m)) :
    Answer × Workspace m :=
  match w.slot? source with
  | none => (.unknown, w)
  | some slot =>
    match make slot.holding with
    | some holding => (.done, w.put target slot.makers holding)
    | none => (.unknown, w)

/-- Keeps what is kept together with rules that are kept behind it.  The factories of both have made
it. -/
def append (w : Workspace m) (source rules target : String) : Answer × Workspace m :=
  match w.slot? source, w.slot? rules with
  | some slot, some behind =>
    match slot.holding.append? behind.holding with
    | some holding => (.done, w.put target (slot.makers ++ behind.makers) holding)
    | none => (.unknown, w)
  | _, _ => (.unknown, w)

/-! ## Questions -/

def schema? (w : Workspace m) (source : String) : Option (AnySchema m) := do
  let slot ← w.slot? source
  match slot.holding with
  | .schema s => some s
  | _ => none

def ask (w : Workspace m) (factory : String) (question : Factory m → Answer) : Answer :=
  match w.factory? factory with
  | some (_, f) => question f
  | none => .unknown

variable [Monad m]

/-- Changes the schema that is kept under a name, which must be of a type, with its factory. -/
def editSchema (w : Workspace m) (source : String) {type : FieldType} (e : Edit m type)
    (target : String) : m (Answer × Workspace m) :=
  match w.slot? source with
  | some ⟨makers, .schema ⟨t, s⟩⟩ =>
    match w.factories[s.owner]? with
    | some f =>
      if h : t = type then do
        match ← e.apply f (h ▸ s) with
        | .ok s => return (.done, w.put target makers (.schema ⟨type, s⟩))
        | .error e => return (.badMethod e, w)
      else return (.unknown, w)
    | none => return (.unknown, w)
  | _ => return (.unknown, w)

def askSchema (w : Workspace m) (source : String)
    (question : AnySchema m → m Answer) : m Answer :=
  match w.schema? source with
  | some s => question s
  | none => return .unknown

/-- Runs the rules that are kept under a name, each on its own. -/
def runRules (w : Workspace m) (source : String) (input : Value) : m Answer :=
  match w.slot? source with
  | some slot =>
    match slot.holding.reports w.tables input with
    | some reports => return .reports (← reports)
    | none => return .unknown
  | none => return .unknown

/-- Runs the rules with events that are kept under a name the way a form does, with the messages of
a factory. -/
def runForm (w : Workspace m) (factory source : String) (input : Value) : m Answer :=
  match w.factory? factory, w.slot? source with
  | some (place, _), some slot =>
    match slot.holding with
    | .triggerRules rules => do
      let error ← Runner.validate ⟨rules, place⟩ w.tables input
      return .report (error.map RuleError.message)
    | _ => return .unknown
  | _, _ => return .unknown

def callMethod (w : Workspace m) (factory : String) (type : FieldType) (method : String)
    (input : Value) (args : List Value) : m Answer :=
  match w.factory? factory with
  | none => return .unknown
  | some (_, f) =>
    match f.registry.get type method with
    | .ok e => return .report (← e input args)
    | .error e => return .badMethod e

/-! ## Running -/

def apply (w : Workspace m) : Operation m → m (Answer × Workspace m)
  | .create name => return (.done, w.addFactory name {})
  | .share name copy => return (w.ask name fun _ => .done, w.share name copy)
  | .change factory c => return w.changeFactory factory c
  | .start factory type target =>
    match w.factory? factory with
    | some (place, _) => return (.done, w.put target [place] (.schema ⟨type, { owner := place }⟩))
    | none => return (.unknown, w)
  | .build factory format text target => return w.buildDocument factory format text target
  | .copy source target => return w.derive source target some
  | .edit source _ e target => w.editSchema source e target
  | .compile source target => return w.derive source target fun h => h.compiled?.map .rules
  | .toForm source target =>
    return w.derive source target fun h => h.compiled?.map fun rs => .formRules (rs.map Rule.toForm)
  | .toTrigger source trigger target =>
    return w.derive source target fun h =>
      h.compiled?.map fun rs => .triggerRules (rs.map (Rule.toTrigger trigger))
  | .append source rules target => return w.append source rules target
  | .message factory key => return (w.ask factory fun f => .text (f.messages.get? key), w)
  | .lookup factory type kind =>
    return (w.ask factory fun f => .text (some (f.messages.lookup type kind)), w)
  | .names factory type => return (w.ask factory fun f => .words (f.registry.names type), w)
  | .contains factory type method =>
    return (w.ask factory fun f => .flag (f.registry.contains type method), w)
  | .call factory type method input args =>
    return (← w.callMethod factory type method input args, w)
  | .evaluate source input =>
    return (← w.askSchema source fun s => return .report (← s.evaluate w.tables input), w)
  | .check source input =>
    return (← w.askSchema source fun s => return .report (← s.check w.tables input), w)
  | .validate source input =>
    return (← w.askSchema source fun s => return .outcome (← s.validate w.tables input), w)
  | .run source input => return (← w.runRules source input, w)
  | .runner factory source input => return (← w.runForm factory source input, w)

def run (w : Workspace m) : List (Operation m) → m (List Answer × Workspace m)
  | [] => return ([], w)
  | op :: rest => do
    let (answer, w) ← w.apply op
    let (answers, w) ← w.run rest
    return (answer :: answers, w)

end Workspace

end FieldRules

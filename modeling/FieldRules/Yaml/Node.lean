/-
# `Yaml.Node` — the tree of a YAML text

A node is a scalar, a sequence or a mapping, with its tag; an alias has become the node that it stands
for.

How deeply nodes may nest and how many times aliases may be followed is limited, so that a short text
cannot describe a vast tree, and a node that stands for itself describes none.
-/
import FieldRules.Yaml.Draft

namespace FieldRules.Yaml

/-- A node of a document; a scalar keeps how it was written. -/
inductive Node where
  | scalar (tag : Option String) (style : Style) (text : String)
  | sequence (tag : Option String) (items : List Node)
  | mapping (tag : Option String) (members : List (Node × Node))

instance : Inhabited Node := ⟨.scalar none .plain ""⟩

/-! ## Following aliases -/

mutual

/-- The number of marks that a draft is made of: one for a scalar or an alias, and two for the ends
of anything else. -/
def Draft.events : Draft → Nat
  | .alias _ => 1
  | .scalar .. => 1
  | .sequence _ items => eventsOfItems items + 2
  | .mapping _ members => eventsOfMembers members + 2

def eventsOfItems : List Draft → Nat
  | [] => 0
  | item :: rest => item.events + eventsOfItems rest

def eventsOfMembers : List (Draft × Draft) → Nat
  | [] => 0
  | (key, value) :: rest => key.events + value.events + eventsOfMembers rest

end

/-- The draft that a draft stands for.  The state is how many aliases may still be followed. -/
def Draft.follow (anchors : Anchors) : Draft → StateT Nat Option Draft
  | .alias number => do
    let jumps ← get
    if jumps = 0 then failure
    set (jumps - 1)
    StateT.lift (anchors.target? number)
  | d => return d

/-- The node that a draft describes, in which brackets may be opened to a depth. -/
def Draft.node? (anchors : Anchors) : Nat → Draft → StateT Nat Option Node
  | depth, d => do
    match ← d.follow anchors, depth with
    | .scalar tag style text, _ => return .scalar tag style text
    | .sequence tag items, depth + 1 => return .sequence tag (← items.mapM (node? anchors depth))
    | .mapping tag members, depth + 1 =>
      return .mapping tag (← members.mapM fun (key, value) => do
        return (← node? anchors depth key, ← node? anchors depth value))
    | _, _ => failure

/-! ## Texts -/

def depthLimit : Nat := 128

/-- How many aliases may be followed for each mark of a text. -/
def jumpFactor : Nat := 100

/-- The root of a YAML text; a text without a document is null. -/
def Node.parse? (text : String) : Option Node := do
  let (root, anchors) ← Draft.ofTokens? (← Token.scan? text)
  (root.node? anchors depthLimit).run' (jumpFactor * root.events)

end FieldRules.Yaml

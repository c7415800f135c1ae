/-
# `Pattern` — patterns for texts

A pattern is kept with the text it was written as, which is what a rule shows of it.
-/
import FieldRules.Pattern.Reader

namespace FieldRules

/-- A pattern: its text and what the text means. -/
structure Pattern where
  source : String
  expr : Pattern.Expr

namespace Pattern

def ofText? (source : String) : Option Pattern := (Expr.read? source).map fun e => ⟨source, e⟩

def isMatch (p : Pattern) (text : String) : Bool := p.expr.matchesIn text

end Pattern

end FieldRules

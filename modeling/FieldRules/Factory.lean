/-
# `Factory` — what schemas share

A factory holds the table of messages and the added methods that its schemas share.
-/
import FieldRules.Messages.BuiltIn
import FieldRules.Schema

namespace FieldRules

open Messages (Table)

/-- A table of messages and a registry of added methods. -/
structure Factory (m : Type → Type) where
  messages : Table := Table.builtIn
  registry : Registry m := Registry.empty

end FieldRules

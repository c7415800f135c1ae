/-
# `Factory.Change` — changes to a factory

What schemas share may change after they were made: an override is merged into the table, or a
method is put into the registry.  A change that is refused is none.
-/
import FieldRules.Factory
import FieldRules.Messages.Reading

namespace FieldRules

namespace Factory

variable {m : Type → Type}

inductive Change (m : Type → Type) where
  | merge (merge : Messages.Merge)
  | install (installation : Registry.Installation m)

inductive Refusal where
  | messages (cause : Messages.Error)
  | method (cause : RegistryError)
deriving DecidableEq

/-- Makes a change.  A replacement also says whether there was a method before. -/
def change (f : Factory m) : Change m → Except Refusal (Factory m × Option Bool)
  | .merge c =>
    match c.into f.messages with
    | .ok table => .ok ({ f with messages := table }, none)
    | .error e => .error (.messages e)
  | .install c =>
    match f.registry.install c with
    | .ok (registry, before) => .ok ({ f with registry := registry }, before)
    | .error e => .error (.method e)

end Factory

end FieldRules

/-
# `Schema.Edit` — single changes to a schema
-/
import FieldRules.Factory

namespace FieldRules

open Json (Value)

inductive Edit (m : Type → Type) (t : FieldType) where
  | constrain (c : t.Constraint) (override : Option (Override m))
  | custom (validator : t.Carrier → Value → m (Option String))
  | required (override : Option (Override m))
  | exempt (e : Exemption)
  | concat (rules : List (GivenRule m))
  | invoke (name : String) (args : List Value)

/-- Makes a change, with the messages and the methods of a factory. -/
def Edit.apply {m : Type → Type} [Monad m] {t : FieldType} (factory : Factory m) (s : Schema m t) :
    Edit m t → m (Except RegistryError (Schema m t))
  | .constrain c override => return .ok (s.constrain c override)
  | .custom validator => return .ok (s.custom validator)
  | .required override => return .ok (← s.required factory.messages override)
  | .exempt e => return .ok (s.exempt e)
  | .concat rules => return .ok (s.concat (rules.map GivenRule.toForm))
  | .invoke name args => return s.invoke factory.registry name args

end FieldRules

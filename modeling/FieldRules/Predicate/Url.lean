/-
# `Predicate.Url` — absolute web addresses
-/
import FieldRules.Url.Address

namespace FieldRules.Predicate

/-- Whether a text is an absolute web address. -/
def isUrl (s : String) : Bool := Url.isAbsolute s

end FieldRules.Predicate

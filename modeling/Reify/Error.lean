/-!
# Failures of a translation
-/

namespace Reify

/-- Why a translation has no result. -/
inductive Error where
  /-- The input holds a construct that has no term. -/
  | unsupported (construct message : String)
  /-- The input is not the dump of a unit. -/
  | invalidInput (message : String)
  /-- A file could not be read. -/
  | io (message : String)
  /-- The translator broke a rule of its own. -/
  | internal (message : String)
deriving DecidableEq, Repr

namespace Error

/-- The text shown to the user. -/
def text : Error → String
  | .unsupported construct message => "Unsupported " ++ construct ++ ": " ++ message
  | .invalidInput message => "Invalid input: " ++ message
  | .io message => "IO error: " ++ message
  | .internal message => "Internal error: " ++ message

/-- Whether the input is at fault for using something that has no term. -/
def isUnsupported : Error → Bool
  | .unsupported _ _ => true
  | _ => false

end Error

end Reify

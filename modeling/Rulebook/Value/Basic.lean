import Rulebook.Number.Layout

/-!
The values of rules and contexts: null, truth values, numbers and texts.
-/

namespace Rulebook

inductive Value where
  | null
  | boolean (value : Bool)
  | number (value : Number)
  | text (value : String)
  deriving DecidableEq, Repr

namespace Value

def kind : Value → String
  | null => "null"
  | boolean _ => "boolean"
  | number _ => "number"
  | text _ => "string"

def isTruthy : Value → Bool
  | null => false
  | boolean value => value
  | number value => !value.isZero && !value.isNaN
  | text value => !value.isEmpty

def display : Value → String
  | null => "null"
  | boolean value => if value then "true" else "false"
  | number value => value.text
  | text value => value

end Value

end Rulebook

import Rulebook.Value.Basic

/-!
JSON values and what can be wrong with a JSON text.
-/

namespace Rulebook

inductive Json where
  | null
  | boolean (value : Bool)
  /-- A number written without point and exponent that fits in 64 bits. -/
  | integer (value : Int)
  /-- Any other number. -/
  | decimal (value : Number)
  | string (value : String)
  | list (items : List Json)
  /-- The members in the order of the text; a name may occur twice. -/
  | object (members : List (String × Json))

namespace Json

/-- Why a JSON text was refused. Texts are read from left to right and the first fault is
reported. -/
inductive Fault where
  /-- The text ends before the value does. -/
  | unfinished
  /-- The text is no JSON, holds a number out of range, or nests too deeply. -/
  | malformed
  /-- The text is JSON but does not say what is asked for. -/
  | mismatched
  deriving DecidableEq, Repr

abbrev Parsed (α : Type) := α × List Char

def depthLimit : Nat := 127

def toValue? : Json → Option Value
  | null => some .null
  | boolean value => some (.boolean value)
  | integer value => some (.number (.ofInt value))
  | decimal value => some (.number value)
  | string value => some (.text value)
  | list _ | object _ => none

def ofValue : Value → Json
  | .null => null
  | .boolean value => boolean value
  | .number value => decimal value
  | .text value => string value

@[simp] theorem toValue?_ofValue (value : Value) : (ofValue value).toValue? = some value := by
  cases value <;> rfl

def isBlank (character : Char) : Bool :=
  character == ' ' || character == '\t' || character == '\n' || character == '\r'

def skipBlanks (text : List Char) : List Char := text.dropWhile isBlank

end Json

end Rulebook

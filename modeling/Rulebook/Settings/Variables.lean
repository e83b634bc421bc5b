import Rulebook.Number.Numeral
import Rulebook.Settings.Layer

/-!
Settings from environment variables. The name of a variable is the path of a setting in capital
letters with a prefix, two underscores standing between the parts.
-/

namespace Rulebook.Variables

abbrev Environment := List (String × String)

/-- Lower case, as far as it yields ASCII letters: the capital letters and the sign of the
kelvin. -/
def toLower (character : Char) : Char :=
  if character = '\u212a' then 'k' else character.toLower

def lowercase (text : List Char) : List Char := text.map toLower

def namePrefix : List Char := "photobooth_".toList

/-- Puts a dot in the place of every two underscores, from left to right. -/
def joinParts : List Char → List Char
  | '_' :: '_' :: rest => '.' :: joinParts rest
  | character :: rest => character :: joinParts rest
  | [] => []

def key? (name : String) : Option String :=
  let lower := lowercase name.toList
  if namePrefix.isPrefixOf lower then
    some (String.ofList (joinParts (lower.drop namePrefix.length)))
  else none

def integer? (text : List Char) : Option Int :=
  let (negative, digits) := Numeral.takeSign text
  let value : Int := Numeral.digitsValue digits
  let signed := if negative then -value else value
  if digits ≠ [] ∧ digits.all Char.isDigit ∧ Word.fitsSigned signed then some signed else none

def decimal? (text : List Char) : Option Number :=
  let (negative, word) := Numeral.takeSign (lowercase text)
  if word = "inf".toList ∨ word = "infinity".toList then some (.infinity negative)
  else if word = "nan".toList then some .nan
  else (Numeral.read? text).map Numeral.number

def setting (value : String) : Setting :=
  let lower := lowercase value.toList
  if lower = "true".toList then .boolean true
  else if lower = "false".toList then .boolean false
  else
    match integer? value.toList with
    | some number => .integer number
    | none =>
      match decimal? value.toList with
      | some number => .decimal number
      | none => .text value

def layer (environment : Environment) : Layer :=
  environment.filterMap fun (name, value) => (key? name).map fun key => (key, setting value)

example : key? "PHOTOBOOTH_RULES__STRICT_COMPARISON" = some "rules.strict_comparison" := by decide

example : key? "RULES__STRICT_COMPARISON" = none := by decide

end Rulebook.Variables

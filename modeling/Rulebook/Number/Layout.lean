import Rulebook.Number.Basic

/-!
How numbers are shown: plain in rule texts and traces, and as JSON writes them.
-/

namespace Rulebook.Number

private def withSign (tie : Tie) (layout : Decimal → List Char) (zero : List Char)
    (negative : Bool) (magnitude : Magnitude) : List Char :=
  let digits := if magnitude.place = 0 then zero else layout (magnitude.shortest tie)
  if negative then '-' :: digits else digits

/-- The text of a number in rules and traces: the shortest digits that read back, without an
exponent; zero has no sign. -/
def text : Number → String
  | nan => "NaN"
  | signed negative magnitude =>
    if magnitude.place = 0 then "0"
    else if magnitude.isFinite then
      String.ofList (withSign .up Decimal.plain ['0'] negative magnitude)
    else if negative then "-Infinity" else "Infinity"

/-- The text of a number in settings: as in rules, except that zero keeps its sign and infinity is
abbreviated. -/
def settingText : Number → String
  | nan => "NaN"
  | signed negative magnitude =>
    if magnitude.isFinite then String.ofList (withSign .up Decimal.plain ['0'] negative magnitude)
    else if negative then "-inf" else "inf"

/-- JSON's spelling of a positive decimal number: positional from 10^-5 to below 10^16, with a zero
after the point of a whole number, else with an exponent. -/
def jsonLayout (decimal : Decimal) : List Char :=
  if -5 ≤ decimal.leadingExponent ∧ decimal.leadingExponent < 16 then
    if 0 ≤ decimal.exponent then decimal.plain ++ ['.', '0'] else decimal.plain
  else decimal.scientific

def json? : Number → Option String
  | nan => none
  | signed negative magnitude =>
    if magnitude.isFinite then
      some (String.ofList (withSign .toEven jsonLayout ['0', '.', '0'] negative magnitude))
    else none

example : text (ofNat 42) = "42" := by decide +kernel

example : text (ofDecimal true ⟨15, -1⟩) = "-1.5" := by decide +kernel

example : json? (ofNat 42) = some "42.0" := by decide +kernel

example : json? (ofDecimal false ⟨1, 16⟩) = some "1e+16" := by decide +kernel

example : json? (ofDecimal false ⟨1, -5⟩) = some "0.00001" := by decide +kernel

end Rulebook.Number

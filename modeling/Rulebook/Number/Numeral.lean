import Rulebook.Number.Basic

/-!
Written decimal numbers: a sign, digits with a point, and a power of ten.
-/

namespace Rulebook

structure Numeral where
  negative : Bool
  whole : List Char
  fraction : List Char
  exponent : Int
  deriving DecidableEq, Repr

namespace Numeral

def digitsValue (digits : List Char) : Nat := Nat.ofDigitChars 10 digits 0

def takeSign : List Char → Bool × List Char
  | '-' :: rest => (true, rest)
  | '+' :: rest => (false, rest)
  | text => (false, text)

def takeFraction : List Char → List Char × List Char
  | '.' :: rest => (rest.takeWhile Char.isDigit, rest.dropWhile Char.isDigit)
  | text => ([], text)

def exponent? : List Char → Option Int
  | [] => some 0
  | mark :: rest =>
    let (negative, digits) := takeSign rest
    if (mark = 'e' ∨ mark = 'E') ∧ digits ≠ [] ∧ digits.all Char.isDigit then
      some (if negative then -(digitsValue digits : Int) else digitsValue digits)
    else none

/-- Reads a whole text as a numeral: an optional sign; digits, at least one, with at most one point
before, among or after them; then at most one exponent. -/
def read? (text : List Char) : Option Numeral :=
  let (negative, unsigned) := takeSign text
  let whole := unsigned.takeWhile Char.isDigit
  let (fraction, rest) := takeFraction (unsigned.dropWhile Char.isDigit)
  if whole = [] ∧ fraction = [] then none
  else (exponent? rest).map fun exponent => ⟨negative, whole, fraction, exponent⟩

def decimal (numeral : Numeral) : Decimal :=
  ⟨digitsValue (numeral.whole ++ numeral.fraction), numeral.exponent - numeral.fraction.length⟩

def number (numeral : Numeral) : Number := .ofDecimal numeral.negative numeral.decimal

example : (read? ['-', '.', '5', 'e', '2']).map decimal = some ⟨5, 1⟩ := by decide

example : read? ['5', '.'] = some ⟨false, ['5'], [], 0⟩ := by decide

example : read? ['1', 'e'] = none := by decide

example : read? ['.'] = none := by decide

end Numeral

end Rulebook

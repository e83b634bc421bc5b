import Rulebook.Json.Basic
import Rulebook.Number.Numeral

/-!
JSON's numbers: their grammar, and the number that a reader takes a numeral for. The reader keeps
only as many digits as fit in 64 bits and scales them by one rounded power of ten, so the number may
be one step off the nearest one.
-/

namespace Rulebook.Json

structure WrittenNumber where
  numeral : Numeral
  /-- There is neither a point nor an exponent. -/
  isWhole : Bool

def readDigits (text : List Char) : Except Fault (Parsed (List Char)) :=
  match text.takeWhile Char.isDigit with
  | [] => .error (if text = [] then .unfinished else .malformed)
  | digits => .ok (digits, text.dropWhile Char.isDigit)

def readWhole (text : List Char) : Except Fault (Parsed (List Char)) := do
  let (digits, rest) ← readDigits text
  if digits.head? = some '0' ∧ digits ≠ ['0'] then .error .malformed else .ok (digits, rest)

def readFraction : List Char → Except Fault (Parsed (List Char))
  | '.' :: text => readDigits text
  | text => .ok ([], text)

def readExponent : List Char → Except Fault (Parsed (Option Int))
  | [] => .ok (none, [])
  | mark :: text =>
    if mark = 'e' ∨ mark = 'E' then do
      let (negative, unsigned) := Numeral.takeSign text
      let (digits, rest) ← readDigits unsigned
      let value : Int := Numeral.digitsValue digits
      .ok (some (if negative then -value else value), rest)
    else .ok (none, mark :: text)

def readWrittenNumber (text : List Char) : Except Fault (Parsed WrittenNumber) := do
  let (negative, unsigned) := match text with
    | '-' :: rest => (true, rest)
    | text => (false, text)
  let (whole, text) ← readWhole unsigned
  let (fraction, text) ← readFraction text
  let (exponent?, text) ← readExponent text
  .ok (⟨⟨negative, whole, fraction, exponent?.getD 0⟩, fraction.isEmpty && exponent?.isNone⟩, text)

def takeIn (significand : Nat) : List Char → Nat × List Char
  | [] => (significand, [])
  | digit :: rest =>
    let next := 10 * significand + Numeral.digitsValue [digit]
    if Word.fits next then takeIn next rest else (significand, digit :: rest)

def powerOfTen (exponent : Nat) : Magnitude := .nearest (Nat.pow 10 exponent) 1

/-- Divides by a power of ten, in rounded steps of at most 10^308. -/
def scaleDown (magnitude : Magnitude) (exponent : Nat) : Magnitude :=
  if exponent ≤ 308 then magnitude.quotient (powerOfTen exponent)
  else if magnitude.place = 0 then magnitude
  else scaleDown (magnitude.quotient (powerOfTen 308)) (exponent - 308)
  termination_by exponent

def scaleUp? (magnitude : Magnitude) (exponent : Nat) : Option Magnitude :=
  if exponent ≤ 308 then
    let product := magnitude.product (powerOfTen exponent)
    if product.isFinite then some product else none
  else if magnitude.place = 0 then some magnitude
  else none

/-- The magnitude that a reader gives to a numeral. Digits of the whole part that do not fit count
as zeros, digits of the fraction that do not fit are left out. -/
def approximate? (numeral : Numeral) : Option Magnitude :=
  let (leading, dropped) := takeIn 0 numeral.whole
  let (significand, unused) := takeIn leading numeral.fraction
  let scale :=
    numeral.exponent + dropped.length - ((numeral.fraction.length : Int) - unused.length)
  let magnitude := Magnitude.nearest significand 1
  if 0 ≤ scale then scaleUp? magnitude scale.natAbs else some (scaleDown magnitude scale.natAbs)

namespace WrittenNumber

/-- The whole number that is written, if there is neither point nor exponent and it fits in 64 bits,
signed if there is a sign. Minus zero is no whole number. -/
def integer? (number : WrittenNumber) : Option Int :=
  let value := Numeral.digitsValue number.numeral.whole
  if !number.isWhole then none
  else if number.numeral.negative then
    if 0 < value ∧ Word.fitsSigned (-(value : Int)) then some (-(value : Int)) else none
  else if Word.fits value then some value
  else none

def toJson? (number : WrittenNumber) : Option Json :=
  match number.integer? with
  | some value => some (.integer value)
  | none => (approximate? number.numeral).map (.decimal ∘ .signed number.numeral.negative)

end WrittenNumber

def readNumber (text : List Char) : Except Fault (Parsed Json) := do
  let (written, rest) ← readWrittenNumber text
  match written.toJson? with
  | some json => .ok (json, rest)
  | none => .error .malformed

end Rulebook.Json

import Rulebook.Number.Magnitude

/-!
Decimal numbers: whole numbers times powers of ten. Reading one gives the nearest binary64 value;
writing a value chooses the shortest decimal number that reads back as it.
-/

namespace Rulebook

structure Decimal where
  digits : Nat
  exponent : Int
  deriving DecidableEq, Repr

/-- Which way a decimal number goes that lies exactly between two candidates. -/
inductive Tie where
  | up
  | toEven
  deriving DecidableEq, Repr

namespace Magnitude

/-- The value nearest to a decimal number.

Exponents far outside the range are settled without computing the power: above 400 any positive
number is infinite, and a number below `2 ^ (digits.log2 + 1) * 10 ^ exponent < 10 ^ (-399)` is
nearer to zero than to any positive value. -/
def ofDecimal (decimal : Decimal) : Magnitude :=
  if decimal.digits = 0 then zero
  else if 400 < decimal.exponent then infinity
  else if decimal.exponent + decimal.digits.log2 < -400 then zero
  else
    match decimal.exponent with
    | .ofNat power => nearest (decimal.digits * Nat.pow 10 power) 1
    | .negSucc power => nearest decimal.digits (Nat.pow 10 (power + 1))

/-- Whether the number `numerator / denominator` of half units rounds to the value: it lies between
the two midpoints around the value, or on one of them if the place is even. -/
def covers (magnitude : Magnitude) (numerator denominator : Nat) : Bool :=
  let lower := (unitsAt (magnitude.place - 1) + magnitude.units) * denominator
  let upper := (magnitude.units + unitsAt (magnitude.place + 1)) * denominator
  if magnitude.place % 2 = 0 then lower ≤ numerator && numerator ≤ upper
  else lower < numerator && numerator < upper

/-- The multiple of `10 ^ exponent` nearest to the value, among those that round to it. Only the two
neighbours of the value on that grid are tried: if any multiple rounds to the value, one of them
does. -/
def onGrid? (tie : Tie) (magnitude : Magnitude) (exponent : Int) : Option Decimal :=
  let scale := Nat.pow 10 exponent.natAbs
  let numerator := if exponent < 0 then magnitude.units * scale else magnitude.units
  let denominator := if exponent < 0 then unitsPerOne else unitsPerOne * scale
  let fits (digits : Nat) : Bool :=
    if exponent < 0 then magnitude.covers (2 * digits * unitsPerOne) scale
    else magnitude.covers (2 * digits * unitsPerOne * scale) 1
  let below := numerator / denominator
  let twice := 2 * (numerator % denominator)
  let upNearer : Bool :=
    denominator < twice || (twice = denominator && (tie = .up || below % 2 = 1))
  match fits below, fits (below + 1) with
  | false, false => none
  | true, false => some ⟨below, exponent⟩
  | false, true => some ⟨below + 1, exponent⟩
  | true, true => some ⟨if upNearer then below + 1 else below, exponent⟩

/-- The coarsest grid that can hold a number rounding to the value: the value is below
`2 ^ (units.log2 - 1073)`, and 0.30103 is the logarithm of two to base ten, with an error that the
added one outweighs. -/
def coarsestExponent (magnitude : Magnitude) : Int :=
  ((magnitude.units.log2 : Int) - 1073) * 30103 / 100000 + 1

/-- The decimal number with the fewest digits that reads back as a positive finite value, and of
those the nearest to it. The grids of powers of ten are tried from coarse to fine; seventeen digits
always suffice, and a value that found none would be written out exactly. -/
def shortest (tie : Tie) (magnitude : Magnitude) : Decimal :=
  let start := magnitude.coarsestExponent
  ((List.range 24).findSome? fun (step : Nat) => magnitude.onGrid? tie (start - step)).getD
    ⟨magnitude.units * Nat.pow 5 1074, -1074⟩

example : (ofDecimal ⟨1, -1⟩).place = 0x3FB999999999999A := by decide +kernel

example : shortest .up (ofDecimal ⟨1, -1⟩) = ⟨1, -1⟩ := by decide +kernel

example : shortest .up (ofPlace 1) = ⟨5, -324⟩ := by decide +kernel

example : shortest .up (ofPlace (lastPlace - 1)) = ⟨17976931348623157, 292⟩ := by decide +kernel

example :
    shortest .up (nearest 1 (2 ^ 25)) = ⟨29802322387695313, -24⟩ ∧
      shortest .toEven (nearest 1 (2 ^ 25)) = ⟨29802322387695312, -24⟩ := by decide +kernel

end Magnitude

namespace Decimal

def digitText (decimal : Decimal) : List Char := Nat.toDigits 10 decimal.digits

def plain (decimal : Decimal) : List Char :=
  let digits := decimal.digitText
  match decimal.exponent with
  | .ofNat power => digits ++ List.replicate power '0'
  | .negSucc power =>
    let places := power + 1
    if places < digits.length then
      digits.take (digits.length - places) ++ '.' :: digits.drop (digits.length - places)
    else '0' :: '.' :: (List.replicate (places - digits.length) '0' ++ digits)

def leadingExponent (decimal : Decimal) : Int :=
  decimal.exponent + (decimal.digitText.length - 1 : Nat)

def scientific (decimal : Decimal) : List Char :=
  let mantissa :=
    match decimal.digitText with
    | [] => []
    | [digit] => [digit]
    | digit :: others => digit :: '.' :: others
  let exponent := decimal.leadingExponent
  mantissa ++ 'e' :: (if exponent < 0 then '-' else '+') :: Nat.toDigits 10 exponent.natAbs

example : plain ⟨125, 2⟩ = ['1', '2', '5', '0', '0'] := by decide

example : plain ⟨125, -2⟩ = ['1', '.', '2', '5'] := by decide

example : plain ⟨125, -4⟩ = ['0', '.', '0', '1', '2', '5'] := by decide

example : scientific ⟨125, -9⟩ = ['1', '.', '2', '5', 'e', '-', '7'] := by decide

end Decimal

end Rulebook

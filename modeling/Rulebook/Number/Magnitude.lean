/-!
The non-negative binary64 values and rounding to the nearest of them.

A value is named by its place in ascending order, so that comparing values is comparing places. The
exact size of a value is a whole number of units, the unit being the smallest positive value; all
arithmetic is done on whole numbers and rounded once.
-/

namespace Rulebook

/-- A non-negative binary64 value, infinity included, named by its place in ascending order: zero
has place 0, the smallest positive value place 1. The place is also the value's bit pattern. -/
structure Magnitude where
  place : Nat
  place_le : place ≤ 0x7FF0000000000000
  deriving DecidableEq, Repr

namespace Magnitude

def lastPlace : Nat := 0x7FF0000000000000

def ofPlace (place : Nat) : Magnitude := ⟨min place lastPlace, Nat.min_le_right place lastPlace⟩

def zero : Magnitude := ofPlace 0

def infinity : Magnitude := ofPlace lastPlace

def isFinite (magnitude : Magnitude) : Bool := magnitude.place < lastPlace

def unitsPerOne : Nat := Nat.pow 2 1074

def runLength : Nat := 0x10000000000000

/-- The number of units up to a place. The places of the first two runs are one unit apart; each
further run doubles the distance. -/
def unitsAt (place : Nat) : Nat :=
  if place < runLength then place
  else (runLength + place % runLength) * Nat.pow 2 (place / runLength - 1)

def units (magnitude : Magnitude) : Nat := unitsAt magnitude.place

def roundDivide (numerator denominator : Nat) : Nat :=
  let whole := numerator / denominator
  let twice := 2 * (numerator % denominator)
  if denominator < twice ∨ (twice = denominator ∧ whole % 2 = 1) then whole + 1 else whole

/-- The value nearest to a quotient of whole numbers. Of two equally near values it is the one at
the even place, and a quotient half a step or more above the largest finite value gives infinity.

Within one run of places the values are `2 ^ shift` units apart, so the quotient is rounded to a
multiple of that distance; rounding up to the end of a run gives the first place of the next. -/
def nearest (numerator denominator : Nat) : Magnitude :=
  let scaled := numerator * unitsPerOne
  let shift := (scaled / denominator).log2 - 52
  ofPlace (shift * runLength + roundDivide scaled (denominator * Nat.pow 2 shift))

def product (left right : Magnitude) : Magnitude :=
  nearest (left.units * right.units) (unitsPerOne * unitsPerOne)

def quotient (left right : Magnitude) : Magnitude := nearest left.units right.units

example : (nearest 1 1).place = 0x3FF0000000000000 := by decide +kernel

example : (nearest 1 3).place = 0x3FD5555555555555 := by decide +kernel

example : nearest (2 ^ 53 + 1) 1 = nearest (2 ^ 53) 1 := by decide +kernel

example : nearest (2 ^ 1024 - 2 ^ 970) 1 = infinity := by decide +kernel

end Magnitude

end Rulebook

import Rulebook.Number.Decimal

/-!
The numbers of the rule language: binary64 values, with one value that is not a number. Their bit
patterns, and whole numbers elsewhere, stand in words of 64 bits.
-/

namespace Rulebook

namespace Word

def count : Nat := 0x10000000000000000

def highestBit : Nat := 0x8000000000000000

def fits (value : Nat) : Bool := value < count

def fitsSigned (value : Int) : Bool := -highestBit ≤ value && value < highestBit

example : fits 18446744073709551615 = true ∧ fits 18446744073709551616 = false := by decide

example : fitsSigned (-9223372036854775808) = true ∧ fitsSigned 9223372036854775808 = false := by
  decide

end Word

inductive Number where
  /-- The result of reading what is not a number. It is unordered and differs even from itself. -/
  | nan
  | signed (negative : Bool) (magnitude : Magnitude)
  deriving DecidableEq, Repr

namespace Number

def zero : Number := signed false .zero

def infinity (negative : Bool) : Number := signed negative .infinity

def ofNat (value : Nat) : Number := signed false (.nearest value 1)

def ofInt (value : Int) : Number := signed (decide (value < 0)) (.nearest value.natAbs 1)

def ofFraction (numerator denominator : Nat) : Number :=
  signed false (.nearest numerator denominator)

def ofDecimal (negative : Bool) (decimal : Decimal) : Number :=
  signed negative (.ofDecimal decimal)

def ofBits (bits : Nat) : Number :=
  let place := bits % Word.highestBit
  if Magnitude.lastPlace < place then nan
  else signed (bits / Word.highestBit % 2 == 1) (.ofPlace place)

def toBits? : Number → Option Nat
  | nan => none
  | signed negative magnitude => some ((if negative then Word.highestBit else 0) + magnitude.place)

def isNaN : Number → Bool
  | nan => true
  | signed .. => false

def isZero : Number → Bool
  | nan => false
  | signed _ magnitude => magnitude.place = 0

def rank (negative : Bool) (magnitude : Magnitude) : Int :=
  if negative then -(magnitude.place : Int) else magnitude.place

def compare? : Number → Number → Option Ordering
  | signed leftNegative left, signed rightNegative right =>
    some (compare (rank leftNegative left) (rank rightNegative right))
  | _, _ => none

def equals (left right : Number) : Bool := left.compare? right == some .eq

example : equals (signed true .zero) zero = true := by decide

example : equals nan nan = false := by decide

theorem equals_iff (left right : Number) :
    left.equals right = true ↔ left.compare? right = some .eq := by
  simp [equals]

theorem equals_self_iff (number : Number) : number.equals number = true ↔ number ≠ nan := by
  cases number <;> simp [equals, compare?]

theorem swap_compare? (left right : Number) :
    (left.compare? right).map Ordering.swap = right.compare? left := by
  cases left <;> cases right <;>
    simp only [compare?, Option.map_none, Option.map_some, Option.some.injEq]
  exact Std.OrientedCmp.eq_swap.symm

theorem equals_comm (left right : Number) : left.equals right = right.equals left := by
  rw [equals, equals, ← swap_compare? left right]
  cases left.compare? right with
  | none => rfl
  | some ordering => cases ordering <;> rfl

theorem compare?_eq_none_iff (left right : Number) :
    left.compare? right = none ↔ left = nan ∨ right = nan := by
  cases left <;> cases right <;> simp [compare?]

end Number

end Rulebook

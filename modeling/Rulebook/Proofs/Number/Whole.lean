import Mathlib.Algebra.Order.Group.Int
import Rulebook.Number.Layout
import Rulebook.Json.Numeral
import Rulebook.Proofs.Number.Shortest

/-!
Whole values. Rounding a whole number gives one, and so do the products that a reader forms; the
shortest decimal number of one has no digits after the point.
-/

namespace Rulebook

namespace Magnitude

def IsWhole (magnitude : Magnitude) : Prop := unitsPerOne ∣ magnitude.units

/-! ## Rounding whole numbers -/

theorem roundDivide_mul_right (whole : Nat) {denominator : Nat} (positive : 0 < denominator) :
    roundDivide (whole * denominator) denominator = whole := by
  have notRounded : ¬denominator < 0 := Nat.not_lt_zero _
  simp [roundDivide, Nat.mul_div_cancel _ positive, positive.ne]

theorem roundDivide_mul_mul (numerator denominator : Nat) {factor : Nat} (positive : 0 < factor) :
    roundDivide (numerator * factor) (denominator * factor) =
      roundDivide numerator denominator := by
  have more : denominator * factor < 2 * (numerator % denominator * factor) ↔
      denominator < 2 * (numerator % denominator) := by
    rw [← Nat.mul_assoc, Nat.mul_lt_mul_right positive]
  have half : 2 * (numerator % denominator * factor) = denominator * factor ↔
      2 * (numerator % denominator) = denominator := by
    rw [← Nat.mul_assoc, Nat.mul_left_inj positive.ne']
  simp only [roundDivide, Nat.mul_div_mul_right _ _ positive, Nat.mul_mod_mul_right, more, half]

theorem nearest_mul_mul (numerator denominator : Nat) {factor : Nat} (positive : 0 < factor) :
    nearest (numerator * factor) (denominator * factor) = nearest numerator denominator := by
  have scaled : numerator * factor * unitsPerOne = numerator * unitsPerOne * factor :=
    Nat.mul_right_comm _ _ _
  have step (shift : Nat) :
      denominator * factor * 2 ^ shift = denominator * 2 ^ shift * factor :=
    Nat.mul_right_comm _ _ _
  simp only [nearest_eq, scaled, step, Nat.mul_div_mul_right _ _ positive,
    roundDivide_mul_mul _ _ positive]

theorem ofPlace_of_ge {place : Nat} (beyond : lastPlace ≤ place) : ofPlace place = infinity := by
  simp [infinity, ofPlace, Nat.min_eq_right beyond]

theorem units_ofPlace_of_le {place : Nat} (inside : place ≤ lastPlace) :
    (ofPlace place).units = unitsAt place := by
  simp [units, ofPlace, Nat.min_eq_left inside]

def infinityExponent : Nat := 2098

theorem unitsAt_lastPlace : unitsAt lastPlace = 2 ^ infinityExponent := by decide +kernel

theorem units_infinity : infinity.units = 2 ^ infinityExponent :=
  (units_ofPlace_of_le (Nat.le_refl _)).trans unitsAt_lastPlace

theorem isWhole_infinity : infinity.IsWhole := by
  rw [IsWhole, units_infinity, unitsPerOne_eq]
  exact Nat.pow_dvd_pow 2 (by decide)

theorem isWhole_zero : zero.IsWhole :=
  show unitsPerOne ∣ 0 from Nat.dvd_zero _

theorem isWhole_nearest (value : Nat) : (nearest value 1).IsWhole := by
  rw [nearest_eq]
  rcases roundDivide_run (value * unitsPerOne) Nat.one_pos with ⟨inRun, atMost⟩
  rw [Nat.div_one, Nat.one_mul] at *
  generalize (value * unitsPerOne).log2 - 52 = shift at *
  rcases Nat.lt_or_ge lastPlace (shift * runLength + roundDivide (value * unitsPerOne) (2 ^ shift))
    with beyond | inside
  · rw [ofPlace_of_ge beyond.le]
    exact isWhole_infinity
  · rw [IsWhole, units_ofPlace_of_le inside, unitsAt_mul_add inRun atMost]
    rcases Nat.lt_or_ge shift unitExponent with fine | coarse
    · -- The distance of the run divides the value, so nothing is rounded.
      have powers := Nat.pow_add 2 (unitExponent - shift) shift
      rw [Nat.sub_add_cancel fine.le, ← unitsPerOne_eq] at powers
      have isMultiple : value * unitsPerOne = value * 2 ^ (unitExponent - shift) * 2 ^ shift := by
        rw [powers, Nat.mul_assoc]
      rw [isMultiple, roundDivide_mul_right _ (Nat.two_pow_pos _), ← isMultiple]
      exact Nat.dvd_mul_left _ _
    · rw [unitsPerOne_eq]
      exact Nat.dvd_mul_left_of_dvd (Nat.pow_dvd_pow 2 coarse) _

theorem isWhole_product {left right : Magnitude} (leftWhole : left.IsWhole)
    (rightWhole : right.IsWhole) : (left.product right).IsWhole := by
  rcases leftWhole with ⟨leftCount, leftUnits⟩
  rcases rightWhole with ⟨rightCount, rightUnits⟩
  have unitsOfProduct : unitsPerOne * leftCount * (unitsPerOne * rightCount) =
      leftCount * rightCount * (unitsPerOne * unitsPerOne) := by ring
  have isProduct : left.product right = nearest (leftCount * rightCount) 1 := by
    rw [product, leftUnits, rightUnits, unitsOfProduct,
      ← nearest_mul_mul _ 1 (Nat.mul_pos unitsPerOne_pos unitsPerOne_pos), Nat.one_mul]
  rw [isProduct]
  exact isWhole_nearest _

theorem isWhole_ofDecimal {decimal : Decimal} (nonneg : 0 ≤ decimal.exponent) :
    (ofDecimal decimal).IsWhole := by
  unfold ofDecimal
  split
  · exact isWhole_zero
  split
  · exact isWhole_infinity
  split
  · exact isWhole_zero
  split
  · exact isWhole_nearest _
  · next power negative =>
      rw [negative] at nonneg
      omega

/-! ## The shortest decimal number -/

theorem log2_units_le (magnitude : Magnitude) : magnitude.units.log2 ≤ infinityExponent := by
  have atMost : magnitude.units ≤ 2 ^ infinityExponent := by
    rw [← unitsAt_lastPlace]
    exact unitsAt_strictMono.monotone magnitude.place_le
  have below : 2 ^ infinityExponent < 2 ^ (infinityExponent + 1) :=
    Nat.pow_lt_pow_right (by decide) (Nat.lt_succ_self _)
  by_cases isZero : magnitude.units = 0
  · rw [isZero, Nat.log2_zero]
    exact Nat.zero_le _
  · have logarithm : magnitude.units.log2 < infinityExponent + 1 :=
      (Nat.log2_lt isZero).mpr (atMost.trans_lt below)
    exact Nat.le_of_lt_succ logarithm

theorem le_gapBefore {magnitude : Magnitude} (positive : 0 < magnitude.place) :
    2 ^ (magnitude.units.log2 - 53) ≤ magnitude.gapBefore := by
  rcases exists_run magnitude.place with ⟨count, parts, below, inRun⟩
  have isMultiple : magnitude.units = count * 2 ^ (magnitude.place / runLength - 1) := by
    rw [← unitsAt_mul_add inRun below.le, ← parts, units]
  have lessThan : magnitude.units < 2 ^ (53 + (magnitude.place / runLength - 1)) := by
    rw [isMultiple, Nat.pow_add]
    exact Nat.mul_lt_mul_of_pos_right below (Nat.two_pow_pos _)
  have logarithm := (Nat.log2_lt (units_pos positive).ne').mpr lessThan
  have previousRun : magnitude.place / runLength - 1 ≤ (magnitude.place - 1) / runLength := by
    rw [show runLength = 0x10000000000000 from rfl]
    omega
  rw [gapBefore_eq positive]
  apply Nat.pow_le_pow_right (by decide)
  omega

theorem pow_ten_le {power exponent : Nat} (bound : 10 * power ≤ 3 * exponent) :
    10 ^ power ≤ 2 ^ exponent := by
  have cubes : (10 ^ power) ^ 3 ≤ (2 ^ exponent) ^ 3 := by
    calc
      (10 ^ power) ^ 3 = (10 ^ 3) ^ power := Nat.pow_right_comm 10 power 3
      _ ≤ (2 ^ 10) ^ power := Nat.pow_le_pow_left (by decide) power
      _ = 2 ^ (10 * power) := (Nat.pow_mul 2 10 power).symm
      _ ≤ 2 ^ (3 * exponent) := Nat.pow_le_pow_right (by decide) bound
      _ = (2 ^ exponent) ^ 3 := by rw [Nat.mul_comm, Nat.pow_mul]
  exact (Nat.pow_le_pow_iff_left (by decide)).mp cubes

theorem onGrid?_zero_ne_none {tie : Tie} {magnitude : Magnitude} (positive : 0 < magnitude.place)
    (whole : magnitude.IsWhole) : magnitude.onGrid? tie 0 ≠ none := by
  apply onGrid?_ne_none
  left
  apply coversDecimal_of_eq positive
  simp [Decimal.numerator, Decimal.denominator, digitsBelow, Nat.div_mul_cancel whole]

theorem onGrid?_ne_none_of_large {tie : Tie} {magnitude : Magnitude}
    (positive : 0 < magnitude.place) (large : 23 < magnitude.coarsestExponent) :
    magnitude.onGrid? tie (magnitude.coarsestExponent - 23) ≠ none := by
  have atMost : magnitude.units.log2 ≤ 2098 := log2_units_le magnitude
  have gap := le_gapBefore positive
  have isUnit : unitExponent = 1074 := rfl
  rw [coarsestExponent] at large ⊢
  generalize magnitude.units.log2 = logarithm at *
  apply onGrid?_ne_none_of_fine positive
  have isPower : (-(((logarithm : Int) - 1073) * 30103 / 100000 + 1 - 23)).toNat = 0 := by omega
  rw [isPower, Nat.pow_zero, Nat.mul_one, unitsPerOne_eq]
  have tens : 10 ^ (((logarithm : Int) - 1073) * 30103 / 100000 + 1 - 23).toNat ≤
      2 ^ (logarithm - 53 - 1075) := by
    apply pow_ten_le
    omega
  calc
    2 ^ unitExponent * 10 ^ (((logarithm : Int) - 1073) * 30103 / 100000 + 1 - 23).toNat ≤
        2 ^ unitExponent * 2 ^ (logarithm - 53 - 1075) := Nat.mul_le_mul_left _ tens
    _ = 2 ^ (unitExponent + (logarithm - 53 - 1075)) := (Nat.pow_add 2 _ _).symm
    _ < 2 ^ (logarithm - 53) := Nat.pow_lt_pow_right (by decide) (by omega)
    _ ≤ magnitude.gapBefore := gap

/-- A whole value has no digits after the point. -/
theorem exponent_shortest_nonneg {tie : Tie} {magnitude : Magnitude}
    (positive : 0 < magnitude.place) (whole : magnitude.IsWhole) :
    0 ≤ (magnitude.shortest tie).exponent := by
  have isUnit : unitExponent = 1074 := rfl
  have isAtLeastOne : unitExponent ≤ magnitude.units.log2 := by
    rw [Nat.le_log2 (units_pos positive).ne', ← unitsPerOne_eq]
    exact Nat.le_of_dvd (units_pos positive) whole
  have startsPositive : 0 < magnitude.coarsestExponent := by
    rw [coarsestExponent]
    omega
  have some : ∃ step : Nat, step < 24 ∧ 0 ≤ magnitude.coarsestExponent - step ∧
      magnitude.onGrid? tie (magnitude.coarsestExponent - step) ≠ none := by
    rcases lt_or_ge (23 : Int) magnitude.coarsestExponent with large | small
    · exact ⟨23, by decide, by omega, onGrid?_ne_none_of_large positive large⟩
    · have isZero : magnitude.coarsestExponent - (magnitude.coarsestExponent.toNat : Int) = 0 := by
        omega
      refine ⟨magnitude.coarsestExponent.toNat, by omega, by omega, ?_⟩
      rw [isZero]
      exact onGrid?_zero_ne_none positive whole
  rcases some with ⟨step, inRange, nonneg, notNone⟩
  rcases shortest_cases tie magnitude with ⟨first, -, found, earlier⟩ | ⟨missing, -⟩
  · have notLater : ¬step < first := fun later => notNone (earlier step later)
    rw [(coversDecimal_of_onGrid? found).1]
    omega
  · exact absurd (missing step inRange) notNone

end Magnitude

end Rulebook

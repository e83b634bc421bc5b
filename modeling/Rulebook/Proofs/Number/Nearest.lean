import Mathlib.Algebra.Order.Field.Power
import Mathlib.Data.Rat.Cast.Order
import Mathlib.Tactic.FieldSimp
import Mathlib.Tactic.Positivity
import Rulebook.Proofs.Number.Whole

/-!
Correct rounding. A number is rounded to the nearest of the values that a range of exponents without
an end has, to the one at the even place if two are equally near; a value out of range is infinity.
-/

namespace Rulebook

namespace Magnitude

/-- The size of the value at a place. The places from infinity's on have sizes as well, as if the
exponents went on. -/
def sizeAt (place : Nat) : ℚ := unitsAt place / unitsPerOne

/-- No value is nearer to a number than the one at a place, and another one is as near only if this
place is even. -/
def IsNearestPlace (exact : ℚ) (place : Nat) : Prop :=
  ∀ other, other ≠ place →
    |exact - sizeAt place| ≤ |exact - sizeAt other| ∧
      (|exact - sizeAt place| = |exact - sizeAt other| → place % 2 = 0)

def IsNearest (exact : ℚ) (magnitude : Magnitude) : Prop :=
  ∃ place, IsNearestPlace exact place ∧ ofPlace place = magnitude

/-! ## Sizes -/

theorem sizeAt_strictMono : StrictMono sizeAt := by
  intro place other before
  have unitPositive : (0 : ℚ) < unitsPerOne := Nat.cast_pos.mpr unitsPerOne_pos
  apply div_lt_div_of_pos_right _ unitPositive
  exact Nat.cast_lt.mpr (unitsAt_strictMono before)

theorem sizeAt_zero : sizeAt 0 = 0 := by
  rw [sizeAt, unitsAt_zero, Nat.cast_zero, zero_div]

theorem left_nearer_iff {exact left right : ℚ} (ordered : left < right) :
    |exact - left| ≤ |exact - right| ↔ 2 * exact ≤ left + right := by
  rw [← sq_le_sq]
  constructor
  · intro closer
    nlinarith
  · intro below
    nlinarith

theorem equally_near_iff {exact left right : ℚ} (ordered : left < right) :
    |exact - left| = |exact - right| ↔ 2 * exact = left + right := by
  rw [abs_eq_abs, or_iff_right (by intro same; linarith)]
  constructor <;> intro same <;> linarith

theorem right_nearer_iff {exact left right : ℚ} (ordered : left < right) :
    |exact - right| ≤ |exact - left| ↔ left + right ≤ 2 * exact := by
  rw [← not_lt, lt_iff_le_and_ne, left_nearer_iff ordered, ne_eq,
    equally_near_iff ordered, ← ne_eq, ← lt_iff_le_and_ne, not_lt]

/-! ## The nearest place -/

theorem isNearestPlace_iff {exact : ℚ} {place : Nat} :
    IsNearestPlace exact place ↔
      (∀ later, place < later →
        2 * exact ≤ sizeAt place + sizeAt later ∧
          (2 * exact = sizeAt place + sizeAt later → place % 2 = 0)) ∧
      ∀ earlier, earlier < place →
        sizeAt earlier + sizeAt place ≤ 2 * exact ∧
          (2 * exact = sizeAt earlier + sizeAt place → place % 2 = 0) := by
  constructor
  · intro nearest
    constructor
    · intro later before
      have ordered := sizeAt_strictMono before
      rw [← left_nearer_iff ordered, ← equally_near_iff ordered]
      exact nearest later before.ne'
    · intro earlier before
      have ordered := sizeAt_strictMono before
      rw [← right_nearer_iff ordered, ← equally_near_iff ordered, eq_comm]
      exact nearest earlier before.ne
  · intro given other different
    obtain ⟨towardsLater, towardsEarlier⟩ := given
    rcases Nat.lt_or_gt_of_ne different with before | after
    · have ordered := sizeAt_strictMono before
      rw [right_nearer_iff ordered, eq_comm, equally_near_iff ordered]
      exact towardsEarlier other before
    · have ordered := sizeAt_strictMono after
      rw [left_nearer_iff ordered, equally_near_iff ordered]
      exact towardsLater other after

theorem isNearestPlace_of_neighbours {exact : ℚ} {place : Nat}
    (next : 2 * exact ≤ sizeAt place + sizeAt (place + 1) ∧
      (2 * exact = sizeAt place + sizeAt (place + 1) → place % 2 = 0))
    (previous : ∀ before, place = before + 1 →
      sizeAt before + sizeAt place ≤ 2 * exact ∧
        (2 * exact = sizeAt before + sizeAt place → place % 2 = 0)) :
    IsNearestPlace exact place := by
  rw [isNearestPlace_iff]
  constructor
  · intro later before
    have farther := sizeAt_strictMono.monotone (Nat.succ_le_of_lt before)
    exact ⟨by linarith [next.1], fun same => next.2 (by linarith [next.1])⟩
  · intro earlier before
    obtain ⟨distance, rfl⟩ := Nat.exists_eq_add_of_lt before
    obtain ⟨above, strictAbove⟩ := previous _ rfl
    have farther := sizeAt_strictMono.monotone (Nat.le_add_right earlier distance)
    exact ⟨by linarith, fun same => strictAbove (by linarith)⟩

theorem IsNearestPlace.le {exact : ℚ} {place other : Nat} (nearest : IsNearestPlace exact place)
    (otherNearest : IsNearestPlace exact other) : other ≤ place := by
  by_contra notLe
  obtain ⟨distance, rfl⟩ := Nat.exists_eq_add_of_lt (Nat.not_le.mp notLe)
  obtain ⟨below, evenBelow⟩ := (isNearestPlace_iff.mp nearest).1 (place + 1) (Nat.lt_succ_self _)
  obtain ⟨above, evenAbove⟩ :=
    (isNearestPlace_iff.mp otherNearest).2 (place + distance) (Nat.lt_succ_self _)
  have first := sizeAt_strictMono.monotone (Nat.le_add_right place distance)
  have second := sizeAt_strictMono.monotone (Nat.le_add_right (place + 1) distance)
  rw [Nat.add_right_comm] at second
  have noDistance : place + distance = place := sizeAt_strictMono.injective (by linarith)
  -- The number lies on the midpoint between neighbours, and one of the two places is odd.
  have isEven : place % 2 = 0 := evenBelow (by linarith)
  have nextIsEven : (place + distance + 1) % 2 = 0 := evenAbove (by linarith)
  omega

theorem IsNearest.unique {exact : ℚ} {magnitude other : Magnitude}
    (nearest : IsNearest exact magnitude) (otherNearest : IsNearest exact other) :
    magnitude = other := by
  obtain ⟨place, isPlace, rfl⟩ := nearest
  obtain ⟨otherPlace, isOtherPlace, rfl⟩ := otherNearest
  rw [(isOtherPlace.le isPlace).antisymm (isPlace.le isOtherPlace)]

/-! ## Rounded quotients -/

theorem sizeAt_add_sizeAt_succ (place : Nat) :
    sizeAt place + sizeAt (place + 1) = midpointAfter place / unitsPerOne := by
  rw [sizeAt, sizeAt, midpointAfter, Nat.cast_add, add_div]

theorem twice_quotient_le_iff (numerator middle : Nat) {denominator unit : Nat}
    (denominatorPositive : 0 < denominator) (unitPositive : 0 < unit) :
    2 * ((numerator : ℚ) / denominator) ≤ middle / unit ↔
      2 * (numerator * unit) ≤ middle * denominator := by
  rw [← mul_div_assoc, div_le_div_iff₀ (Nat.cast_pos.mpr denominatorPositive)
    (Nat.cast_pos.mpr unitPositive)]
  norm_cast
  rw [Nat.mul_assoc]

theorem le_twice_quotient_iff (numerator middle : Nat) {denominator unit : Nat}
    (denominatorPositive : 0 < denominator) (unitPositive : 0 < unit) :
    (middle : ℚ) / unit ≤ 2 * (numerator / denominator) ↔
      middle * denominator ≤ 2 * (numerator * unit) := by
  rw [← mul_div_assoc, div_le_div_iff₀ (Nat.cast_pos.mpr unitPositive)
    (Nat.cast_pos.mpr denominatorPositive)]
  norm_cast
  rw [Nat.mul_assoc]

theorem Between.isNearestPlace {numerator denominator place : Nat} (positive : 0 < denominator)
    (between : Between (numerator * unitsPerOne) denominator place) :
    IsNearestPlace (numerator / denominator) place := by
  have le_iff (middle : Nat) := twice_quotient_le_iff numerator middle positive unitsPerOne_pos
  have ge_iff (middle : Nat) := le_twice_quotient_iff numerator middle positive unitsPerOne_pos
  have isEven := Nat.mod_two_eq_zero_or_one place
  apply isNearestPlace_of_neighbours
  · rw [sizeAt_add_sizeAt_succ, le_iff, le_antisymm_iff, le_iff, ge_iff, ← le_antisymm_iff]
    exact ⟨between.below.1, fun same => isEven.resolve_right fun odd => between.below.2 odd same⟩
  · intro before isNext
    obtain ⟨above, strictAbove⟩ := between.above before isNext
    have middle : sizeAt before + sizeAt place = midpointAfter before / unitsPerOne := by
      rw [isNext, sizeAt_add_sizeAt_succ]
    rw [middle, ge_iff, le_antisymm_iff, le_iff, ge_iff, ← le_antisymm_iff]
    exact ⟨above, fun same => isEven.resolve_right fun odd => strictAbove odd same.symm⟩

/-- Quotients are rounded correctly. -/
theorem isNearest_nearest (numerator : Nat) {denominator : Nat} (positive : 0 < denominator) :
    IsNearest (numerator / denominator) (nearest numerator denominator) :=
  ⟨_, (between_rounded (numerator * unitsPerOne) positive).isNearestPlace positive, rfl⟩

end Magnitude

/-! ## Decimal numbers -/

namespace Decimal

def exact (decimal : Decimal) : ℚ := decimal.digits * 10 ^ decimal.exponent

theorem exact_natCast (digits power : Nat) :
    exact ⟨digits, power⟩ = (digits * 10 ^ power : Nat) / (1 : Nat) := by
  simp [exact]

theorem exact_negSucc (digits power : Nat) :
    exact ⟨digits, .negSucc power⟩ = digits / (10 ^ (power + 1) : Nat) := by
  simp [exact, zpow_negSucc, div_eq_mul_inv]

end Decimal

namespace Magnitude

theorem isNearest_zero {exact : ℚ} (small : 2 * exact < sizeAt 1) :
    IsNearest exact zero := by
  refine ⟨0, ?_, rfl⟩
  apply isNearestPlace_of_neighbours
  · rw [sizeAt_zero, zero_add, Nat.zero_add]
    exact ⟨small.le, fun same => absurd same small.ne⟩
  · intro before isNext
    omega

theorem isNearest_infinity {exact : ℚ} {magnitude : Magnitude} (nearest : IsNearest exact magnitude)
    (large : sizeAt lastPlace ≤ exact) : magnitude = infinity := by
  obtain ⟨place, isPlace, rfl⟩ := nearest
  apply ofPlace_of_ge
  by_contra less
  have before := Nat.not_le.mp less
  have ordered := sizeAt_strictMono before
  have below := ((isNearestPlace_iff.mp isPlace).1 lastPlace before).1
  linarith

theorem two_pow_le_ten_pow (power : Nat) : 2 ^ (3 * power) ≤ 10 ^ power := by
  rw [Nat.pow_mul]
  exact Nat.pow_le_pow_left (by decide) power

/-- Decimal numbers of this power of ten are out of range, and one divided by it is next to zero. -/
def decimalLimit : Nat := 401

theorem sizeAt_lastPlace_le : sizeAt lastPlace ≤ 10 ^ decimalLimit := by
  have exponents : infinityExponent ≤ 3 * decimalLimit + unitExponent := by decide
  have units : unitsAt lastPlace ≤ 10 ^ decimalLimit * unitsPerOne := by
    calc
      unitsAt lastPlace = 2 ^ infinityExponent := unitsAt_lastPlace
      _ ≤ 2 ^ (3 * decimalLimit + unitExponent) := Nat.pow_le_pow_right (by decide) exponents
      _ = 2 ^ (3 * decimalLimit) * unitsPerOne := by rw [Nat.pow_add, unitsPerOne_eq]
      _ ≤ 10 ^ decimalLimit * unitsPerOne :=
        Nat.mul_le_mul_right unitsPerOne (two_pow_le_ten_pow decimalLimit)
  rw [sizeAt, div_le_iff₀ (Nat.cast_pos.mpr unitsPerOne_pos)]
  exact_mod_cast units

theorem lt_sizeAt_one : 4 * ((10 : ℚ) ^ decimalLimit)⁻¹ < sizeAt 1 := by
  have oneUnit : unitsAt 1 = 1 := rfl
  have exponents : 2 + unitExponent < 3 * decimalLimit := by decide
  have units : 4 * unitsPerOne < unitsAt 1 * 10 ^ decimalLimit := by
    rw [oneUnit, Nat.one_mul, show 4 = 2 ^ 2 from rfl]
    calc
      2 ^ 2 * unitsPerOne = 2 ^ (2 + unitExponent) := by rw [Nat.pow_add, unitsPerOne_eq]
      _ < 2 ^ (3 * decimalLimit) := Nat.pow_lt_pow_right (by decide) exponents
      _ ≤ 10 ^ decimalLimit := two_pow_le_ten_pow decimalLimit
  have power : (0 : ℚ) < 10 ^ decimalLimit := by positivity
  rw [sizeAt, ← div_eq_mul_inv, div_lt_div_iff₀ power (Nat.cast_pos.mpr unitsPerOne_pos)]
  exact_mod_cast units

theorem le_exact_of_large {decimal : Decimal} (notZero : decimal.digits ≠ 0)
    (large : 400 < decimal.exponent) : 10 ^ decimalLimit ≤ decimal.exact := by
  have digits : (1 : ℚ) ≤ decimal.digits := Nat.one_le_cast.mpr (Nat.pos_of_ne_zero notZero)
  calc
    (10 : ℚ) ^ decimalLimit = 10 ^ (decimalLimit : Int) := (zpow_natCast 10 decimalLimit).symm
    _ ≤ 10 ^ decimal.exponent := zpow_le_zpow_right₀ (by norm_num) large
    _ ≤ decimal.digits * 10 ^ decimal.exponent := le_mul_of_one_le_left (by positivity) digits

theorem exact_le_of_small {decimal : Decimal}
    (small : decimal.exponent + decimal.digits.log2 < -400) :
    decimal.exact ≤ 2 * ((10 : ℚ) ^ decimalLimit)⁻¹ := by
  have isLimit : decimalLimit = 401 := rfl
  have digits : (decimal.digits : ℚ) ≤ 2 * 10 ^ decimal.digits.log2 := by
    have below : decimal.digits ≤ 2 * 10 ^ decimal.digits.log2 := by
      calc
        decimal.digits ≤ 2 ^ (decimal.digits.log2 + 1) := Nat.lt_log2_self.le
        _ = 2 * 2 ^ decimal.digits.log2 := Nat.pow_succ'
        _ ≤ 2 * 10 ^ decimal.digits.log2 :=
          Nat.mul_le_mul_left 2 (Nat.pow_le_pow_left (by decide) _)
    exact_mod_cast below
  calc
    decimal.exact ≤ 2 * 10 ^ decimal.digits.log2 * 10 ^ decimal.exponent :=
      mul_le_mul_of_nonneg_right digits (by positivity)
    _ = 2 * 10 ^ (decimal.exponent + decimal.digits.log2) := by
      rw [mul_assoc, ← zpow_natCast, ← zpow_add₀ (by norm_num), add_comm]
    _ ≤ 2 * 10 ^ (-(decimalLimit : Int)) :=
      mul_le_mul_of_nonneg_left (zpow_le_zpow_right₀ (by norm_num) (by omega)) (by norm_num)
    _ = 2 * ((10 : ℚ) ^ decimalLimit)⁻¹ := by rw [zpow_neg, zpow_natCast]

theorem isNearest_scaled (decimal : Decimal) :
    IsNearest decimal.exact
      (match decimal.exponent with
      | .ofNat power => nearest (decimal.digits * Nat.pow 10 power) 1
      | .negSucc power => nearest decimal.digits (Nat.pow 10 (power + 1))) := by
  rcases decimal with ⟨digits, exponent⟩
  cases exponent with
  | ofNat power =>
      rw [Int.ofNat_eq_natCast, Decimal.exact_natCast]
      exact isNearest_nearest _ Nat.one_pos
  | negSucc power =>
      rw [Decimal.exact_negSucc]
      exact isNearest_nearest _ (Nat.pow_pos (by decide))

/-- Decimal numbers are rounded correctly, however large or small. -/
theorem isNearest_ofDecimal (decimal : Decimal) : IsNearest decimal.exact (ofDecimal decimal) := by
  have scaled := isNearest_scaled decimal
  unfold ofDecimal
  split
  case isTrue isZero =>
    apply isNearest_zero
    have first := sizeAt_strictMono Nat.one_pos
    simpa [Decimal.exact, isZero, sizeAt_zero] using first
  case isFalse notZero =>
    split
    case isTrue large =>
      have outOfRange := sizeAt_lastPlace_le.trans (le_exact_of_large notZero large)
      rwa [isNearest_infinity scaled outOfRange] at scaled
    case isFalse notLarge =>
      split
      case isTrue small =>
        apply isNearest_zero
        have atMost := exact_le_of_small small
        have first := lt_sizeAt_one
        generalize ((10 : ℚ) ^ decimalLimit)⁻¹ = bound at *
        linarith
      case isFalse notSmall => exact scaled

end Magnitude

/-! ## Rounded numbers -/

/-- The number that an exact one is rounded to. Its sign is given apart, since zero has one too. -/
def Number.IsRounded (negative : Bool) (exact : ℚ) (number : Number) : Prop :=
  ∃ magnitude, magnitude.IsNearest exact ∧ number = signed negative magnitude

namespace Number

theorem isRounded_ofNat (value : Nat) : IsRounded false value (ofNat value) := by
  have nearest := Magnitude.isNearest_nearest value Nat.one_pos
  rw [Nat.cast_one, div_one] at nearest
  exact ⟨_, nearest, rfl⟩

theorem isRounded_number (numeral : Numeral) :
    IsRounded numeral.negative numeral.decimal.exact numeral.number :=
  ⟨_, Magnitude.isNearest_ofDecimal numeral.decimal, rfl⟩

theorem IsRounded.ne_nan {negative : Bool} {exact : ℚ} {number : Number}
    (rounded : IsRounded negative exact number) : number ≠ nan := by
  obtain ⟨magnitude, _, rfl⟩ := rounded
  exact nofun

theorem IsRounded.unique {negative : Bool} {exact : ℚ} {number other : Number}
    (rounded : IsRounded negative exact number) (otherRounded : IsRounded negative exact other) :
    number = other := by
  obtain ⟨magnitude, nearest, rfl⟩ := rounded
  obtain ⟨otherMagnitude, otherNearest, rfl⟩ := otherRounded
  rw [nearest.unique otherNearest]

end Number

end Rulebook

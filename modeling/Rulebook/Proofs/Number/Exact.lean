import Rulebook.Proofs.Json.Rereading

/-!
Whole numbers that are not rounded, and how far they survive JSON: the reader takes the digit after
the point for one more digit of the number, so numbers of up to fifteen digits come back.
-/

namespace Rulebook

namespace Magnitude

/-- A whole number of 53 bits, or with zeros after them, is a value. -/
theorem units_nearest_of_dvd {value power : Nat} (multiple : 2 ^ power ∣ value)
    (below : value < 2 ^ (53 + power)) (small : power ≤ 900) :
    (nearest value 1).units = value * unitsPerOne := by
  have isPower := unitsPerOne_eq
  have isUnit : unitExponent = 1074 := rfl
  have shiftAtMost : (value * unitsPerOne).log2 - 52 ≤ power + unitExponent := by
    by_cases isZero : value = 0
    · simp [isZero]
    · have product : value * unitsPerOne < 2 ^ (53 + power + unitExponent) := by
        rw [isPower, Nat.pow_add 2 (53 + power)]
        exact Nat.mul_lt_mul_of_pos_right below (Nat.two_pow_pos _)
      have notZero : value * unitsPerOne ≠ 0 := Nat.mul_ne_zero isZero unitsPerOne_pos.ne'
      have logarithm := (Nat.log2_lt notZero).mpr product
      omega
  have divides : 2 ^ ((value * unitsPerOne).log2 - 52) ∣ value * unitsPerOne := by
    apply (Nat.pow_dvd_pow 2 shiftAtMost).trans
    rw [isPower, Nat.pow_add]
    exact Nat.mul_dvd_mul_right multiple _
  rcases roundDivide_run (value * unitsPerOne) Nat.one_pos with ⟨inRun, atMost⟩
  rw [nearest_eq]
  rw [Nat.div_one, Nat.one_mul] at *
  generalize (value * unitsPerOne).log2 - 52 = shift at *
  rcases divides with ⟨count, isProduct⟩
  have isMultiple : value * unitsPerOne = count * 2 ^ shift := by rw [isProduct, Nat.mul_comm]
  rw [isMultiple, roundDivide_mul_right _ (Nat.two_pow_pos _)] at inRun atMost ⊢
  have inside : shift * runLength + count ≤ lastPlace := by
    have isLast : lastPlace = 2047 * runLength := rfl
    have runs : shift * runLength ≤ 1974 * runLength := Nat.mul_le_mul_right _ (by omega)
    omega
  rw [units_ofPlace_of_le inside, unitsAt_mul_add inRun atMost]

theorem units_nearest {value : Nat} (below : value < 2 ^ 53) :
    (nearest value 1).units = value * unitsPerOne :=
  have multiple : 2 ^ 0 ∣ value := Nat.one_dvd value
  units_nearest_of_dvd multiple below (Nat.zero_le _)

theorem le_units_nearest {value : Nat} (large : 2 ^ 53 ≤ value) :
    2 ^ 53 * unitsPerOne ≤ (nearest value 1).units := by
  have isPower := unitsPerOne_eq
  have isUnit : unitExponent = 1074 := rfl
  have isRun : runLength = 2 ^ 52 := rfl
  have shifted : unitExponent + 1 ≤ (value * unitsPerOne).log2 - 52 := by
    have notZero : value * unitsPerOne ≠ 0 :=
      Nat.mul_ne_zero (by omega) unitsPerOne_pos.ne'
    have product : 2 ^ (53 + unitExponent) ≤ value * unitsPerOne := by
      rw [isPower, Nat.pow_add]
      exact Nat.mul_le_mul_right _ large
    have logarithm := (Nat.le_log2 notZero).mpr product
    omega
  rcases roundDivide_run (value * unitsPerOne) Nat.one_pos with ⟨inRun, -⟩
  rw [nearest_eq]
  rw [Nat.div_one] at *
  generalize (value * unitsPerOne).log2 - 52 = shift at *
  generalize roundDivide (value * unitsPerOne) (1 * 2 ^ shift) = count at *
  have beyond :
      (unitExponent + 1) * runLength + runLength ≤ shift * runLength + count := by
    have runs : (unitExponent + 1) * runLength ≤ shift * runLength :=
      Nat.mul_le_mul_right _ shifted
    omega
  have beforeLast : (unitExponent + 1) * runLength + runLength ≤ lastPlace := by decide
  calc
    2 ^ 53 * unitsPerOne = runLength * 2 ^ (unitExponent + 1) := by
      rw [isPower, isRun, ← Nat.pow_add, ← Nat.pow_add, Nat.add_comm unitExponent 1,
        ← Nat.add_assoc]
    _ = unitsAt ((unitExponent + 1) * runLength + runLength) :=
      (unitsAt_mul_add (.inr (Nat.le_refl _)) (Nat.le_mul_of_pos_left _ (by decide))).symm
    _ ≤ (ofPlace (shift * runLength + count)).units :=
      unitsAt_strictMono.monotone (Nat.le_min.mpr ⟨beyond, beforeLast⟩)

theorem eq_of_nearest_eq {value other : Nat} (below : value < 2 ^ 53)
    (same : nearest other 1 = nearest value 1) : other = value := by
  have units := units_nearest below
  rcases Nat.lt_or_ge other (2 ^ 53) with otherBelow | large
  · have otherUnits := units_nearest otherBelow
    rw [same, units] at otherUnits
    exact (Nat.mul_right_cancel unitsPerOne_pos otherUnits).symm
  · have beyond := le_units_nearest large
    rw [same, units] at beyond
    have notBelow := Nat.le_of_mul_le_mul_right beyond unitsPerOne_pos
    omega

theorem scaleDown_one {value : Nat} (below : value < 10 ^ 15) :
    Json.scaleDown (nearest (10 * value) 1) 1 = nearest value 1 := by
  have even : 2 ^ 1 ∣ 10 * value := Nat.dvd_mul_right_of_dvd (by decide) value
  have units := units_nearest_of_dvd even (by omega) (by decide)
  have isTen : Json.powerOfTen 1 = nearest 10 1 := rfl
  have ten : (nearest 10 1).units = 10 * unitsPerOne := units_nearest (by decide)
  have positive : 0 < 10 * unitsPerOne := Nat.mul_pos (by decide) unitsPerOne_pos
  have grouped : 10 * value * unitsPerOne = value * (10 * unitsPerOne) := by ring
  rw [Json.scaleDown, if_pos (by decide), quotient, units, isTen, ten, grouped]
  simpa using nearest_mul_mul value 1 positive

theorem place_nearest_pos {value : Nat} (positive : 0 < value) (below : value < 2 ^ 53) :
    0 < (nearest value 1).place := by
  by_contra notPositive
  have units := units_nearest below
  rw [Magnitude.units, Nat.eq_zero_of_not_pos notPositive, unitsAt_zero] at units
  exact absurd units (Nat.mul_pos positive unitsPerOne_pos).ne

theorem numerator_shortest {tie : Tie} {value : Nat} (positive : 0 < value)
    (below : value < 2 ^ 53) :
    0 ≤ ((nearest value 1).shortest tie).exponent ∧
      ((nearest value 1).shortest tie).numerator = value := by
  have placePositive := place_nearest_pos positive below
  have nonneg : 0 ≤ ((nearest value 1).shortest tie).exponent :=
    exponent_shortest_nonneg placePositive (isWhole_nearest value)
  have noPlaces : ((nearest value 1).shortest tie).denominator = 1 := by
    have none : (-((nearest value 1).shortest tie).exponent).toNat = 0 := by omega
    rw [Decimal.denominator, none, Nat.pow_zero]
  have isNearest : nearest ((nearest value 1).shortest tie).numerator
      ((nearest value 1).shortest tie).denominator = nearest value 1 :=
    nearest_shortest placePositive
  rw [noPlaces] at isNearest
  exact ⟨nonneg, eq_of_nearest_eq below isNearest⟩

end Magnitude

namespace Number

open Json (IsDigits)

theorem isFinite_nearest {value : Nat} (below : value < 2 ^ 53) :
    (Magnitude.nearest value 1).isFinite = true := by
  rcases eq_infinity_or_isFinite (Magnitude.nearest value 1) with isInfinite | finite
  · have large : 2 ^ 53 * Magnitude.unitsPerOne ≤ Magnitude.infinity.units := by
      rw [Magnitude.units_infinity, Magnitude.unitsPerOne_eq, ← Nat.pow_add]
      have exponents : 53 + Magnitude.unitExponent ≤ Magnitude.infinityExponent := by decide
      exact Nat.pow_le_pow_right (by decide) exponents
    have units := Magnitude.units_nearest below
    rw [infinity, signed.injEq] at isInfinite
    rw [isInfinite.2] at units
    rw [units] at large
    exact absurd (Nat.le_of_mul_le_mul_right large Magnitude.unitsPerOne_pos) (Nat.not_le.mpr below)
  · exact finite

theorem leadingExponent_lt {decimal : Decimal} {places : Nat} (nonneg : 0 ≤ decimal.exponent)
    (positive : 0 < decimal.digits) (below : decimal.numerator < 10 ^ places) :
    decimal.leadingExponent < places := by
  rw [Decimal.numerator] at below
  have powerBelow : decimal.exponent.toNat < places := by
    rw [← Nat.pow_lt_pow_iff_right (show 1 < 10 by decide)]
    exact (Nat.le_mul_of_pos_left _ positive).trans_lt below
  have digitsBelow : decimal.digits < 10 ^ (places - decimal.exponent.toNat) := by
    rw [← Nat.sub_add_cancel powerBelow.le, Nat.pow_add] at below
    exact Nat.lt_of_mul_lt_mul_right below
  have length : decimal.digitText.length ≤ places - decimal.exponent.toNat :=
    (Nat.length_toDigits_le_iff (by decide) (Nat.sub_pos_of_lt powerBelow)).mpr digitsBelow
  have notEmpty : 0 < decimal.digitText.length := Nat.length_toDigits_pos
  rw [Decimal.leadingExponent]
  omega

/-- JSON's text of a number of up to fifteen digits is these digits and a zero after the point. -/
theorem json?_ofNat {value : Nat} (below : value < 10 ^ 15) :
    ∃ digits, IsDigits digits ∧ (digits.head? = some '0' → digits = ['0']) ∧
      Numeral.digitsValue digits = value ∧
      (ofNat value).json? = some (String.ofList (wholeSpelling digits).text) := by
  rcases Nat.eq_zero_or_pos value with rfl | positive
  · exact ⟨['0'], Json.isDigits_zero, fun _ => rfl, rfl, by decide +kernel⟩
  · have small : value < 2 ^ 53 := below.trans (by decide)
    have placePositive := Magnitude.place_nearest_pos positive small
    have digitsPositive : 0 < ((Magnitude.nearest value 1).shortest .toEven).digits :=
      Magnitude.digits_shortest_pos placePositive
    have isShortest : 0 ≤ ((Magnitude.nearest value 1).shortest .toEven).exponent ∧
        ((Magnitude.nearest value 1).shortest .toEven).numerator = value :=
      Magnitude.numerator_shortest positive small
    have isText : (ofNat value).json? =
        some (String.ofList (unsignedJson (.nearest value 1))) := by
      rw [ofNat, json?_of_isFinite (isFinite_nearest small), if_neg Bool.false_ne_true]
    rw [unsignedJson, if_neg placePositive.ne'] at isText
    rcases isShortest with ⟨nonneg, isValue⟩
    generalize (Magnitude.nearest value 1).shortest .toEven = decimal at *
    have leading := leadingExponent_lt nonneg digitsPositive (isValue.trans_lt below)
    have isLeading : 0 ≤ decimal.leadingExponent := by
      rw [Decimal.leadingExponent]
      omega
    rw [jsonLayout, if_pos ⟨by omega, by omega⟩, if_pos nonneg, ← text_wholeSpelling] at isText
    exact ⟨decimal.plain, Decimal.isDigits_plain nonneg,
      fun leading => absurd leading (Decimal.head?_plain_ne_zero nonneg digitsPositive),
      (Decimal.digitsValue_plain nonneg).trans isValue, isText⟩

end Number

namespace Json

theorem le_ofDigitChars (digits : List Char) (start : Nat) :
    start ≤ Nat.ofDigitChars 10 digits start := by
  induction digits generalizing start with
  | nil => simp
  | cons digit digits induction =>
      rw [Nat.ofDigitChars_cons]
      have later := induction (10 * start + (digit.toNat - '0'.toNat))
      omega

theorem takeIn_eq {digits : List Char} {start : Nat}
    (fits : Nat.ofDigitChars 10 digits start < Word.count) :
    takeIn start digits = (Nat.ofDigitChars 10 digits start, []) := by
  induction digits generalizing start with
  | nil => simp [takeIn]
  | cons digit digits induction =>
      rw [Nat.ofDigitChars_cons] at fits ⊢
      have next : 10 * start + Numeral.digitsValue [digit] =
          10 * start + (digit.toNat - '0'.toNat) := by
        simp [Numeral.digitsValue, Nat.ofDigitChars_cons]
      have nextFits : Word.fits (10 * start + (digit.toNat - '0'.toNat)) = true :=
        decide_eq_true ((le_ofDigitChars digits _).trans_lt fits)
      rw [takeIn, next, if_pos nextFits]
      exact induction fits

theorem toJson?_wholeSpelling {digits : List Char} (below : Numeral.digitsValue digits < 10 ^ 15) :
    (Number.wholeSpelling digits).number.toJson? =
      some (.decimal (.ofNat (Numeral.digitsValue digits))) := by
  have isCount : Word.count = 18446744073709551616 := rfl
  have wholeTaken : takeIn 0 digits = (Numeral.digitsValue digits, []) :=
    takeIn_eq (show Numeral.digitsValue digits < Word.count by omega)
  have zeroTaken : takeIn (Numeral.digitsValue digits) ['0'] =
      (10 * Numeral.digitsValue digits, []) :=
    takeIn_eq (show 10 * Numeral.digitsValue digits < Word.count by omega)
  have approximated : approximate? (Number.wholeSpelling digits).number.numeral =
      some (.nearest (Numeral.digitsValue digits) 1) := by
    simp [approximate?, Spelling.number, Number.wholeSpelling, wholeTaken, zeroTaken,
      Spelling.exponentValue, Magnitude.scaleDown_one below]
  have noInteger : (Number.wholeSpelling digits).number.integer? = none := by
    simp [WrittenNumber.integer?, Spelling.number, Number.wholeSpelling]
  rw [WrittenNumber.toJson?, noInteger, approximated]
  rfl

end Json

namespace Number

theorem readRuleValue_json? {value : Nat} (below : value < 10 ^ 15) :
    ∃ text, (ofNat value).json? = some text ∧
      Json.readRuleValue text = .ok (.number (ofNat value)) := by
  rcases json?_ofNat below with ⟨digits, isDigits, noLeadingZero, rfl, isText⟩
  have isRead := Json.readRuleValue_spelling isText String.toList_ofList
    (valid_wholeSpelling isDigits noLeadingZero)
  rw [Json.toJson?_wholeSpelling below] at isRead
  exact ⟨_, isText, isRead⟩

end Number

end Rulebook

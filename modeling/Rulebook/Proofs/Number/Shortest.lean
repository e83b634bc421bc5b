import Rulebook.Proofs.Number.Rounding

/-!
The shortest decimal number of a value. It is positive, and the value is the nearest one to it.
-/

namespace Rulebook.Magnitude

/-- The unit is one divided by two to this power. The exponent has a name lest the elaborator write
the power out. -/
def unitExponent : Nat := 1074

theorem unitsPerOne_eq : unitsPerOne = 2 ^ unitExponent := by decide +kernel

theorem unitsPerOne_pos : 0 < unitsPerOne := by
  rw [unitsPerOne_eq]
  exact Nat.two_pow_pos unitExponent

theorem unitsAt_zero : unitsAt 0 = 0 := by decide

theorem units_pos {magnitude : Magnitude} (positive : 0 < magnitude.place) :
    0 < magnitude.units := by
  have ordered := unitsAt_strictMono positive
  rwa [unitsAt_zero] at ordered

/-! ## The numbers that a value covers -/

theorem pos_of_covers {magnitude : Magnitude} {numerator denominator : Nat}
    (positive : 0 < magnitude.place) (denominatorPositive : 0 < denominator)
    (covers : magnitude.covers numerator denominator = true) : 0 < numerator := by
  have above := (covers_iff.mp covers).1
  have atLeast := Nat.mul_pos (Nat.add_pos_right (unitsAt (magnitude.place - 1))
    (units_pos positive)) denominatorPositive
  omega

/-- The distance to the next smaller value, which is the smaller one of the two distances. -/
def gapBefore (magnitude : Magnitude) : Nat := magnitude.units - unitsAt (magnitude.place - 1)

theorem unitsAt_add_gapBefore (magnitude : Magnitude) :
    unitsAt (magnitude.place - 1) + magnitude.gapBefore = magnitude.units := by
  have ordered := unitsAt_strictMono.monotone (Nat.sub_le magnitude.place 1)
  rw [gapBefore, units]
  omega

theorem gapBefore_eq {magnitude : Magnitude} (positive : 0 < magnitude.place) :
    magnitude.gapBefore = 2 ^ ((magnitude.place - 1) / runLength - 1) := by
  have next := unitsAt_succ (magnitude.place - 1)
  rw [Nat.sub_add_cancel positive] at next
  rw [gapBefore, units, next, Nat.add_sub_cancel_left]

theorem units_add_gapBefore_le {magnitude : Magnitude} (positive : 0 < magnitude.place) :
    magnitude.units + magnitude.gapBefore ≤ unitsAt (magnitude.place + 1) := by
  have laterRun : (magnitude.place - 1) / runLength - 1 ≤ magnitude.place / runLength - 1 :=
    Nat.sub_le_sub_right (Nat.div_le_div_right (Nat.sub_le _ _)) 1
  have larger := Nat.pow_le_pow_right (show 0 < 2 by decide) laterRun
  rw [unitsAt_succ, gapBefore_eq positive, units]
  omega

theorem covers_of_close {magnitude : Magnitude} {numerator denominator : Nat}
    (positive : 0 < magnitude.place)
    (notBelow : 2 * (magnitude.units * denominator) <
      numerator + magnitude.gapBefore * denominator)
    (notAbove : numerator < 2 * (magnitude.units * denominator) +
      magnitude.gapBefore * denominator) :
    magnitude.covers numerator denominator = true := by
  have before := unitsAt_add_gapBefore magnitude
  have after := Nat.mul_le_mul_right denominator (units_add_gapBefore_le positive)
  have lower : unitsAt (magnitude.place - 1) * denominator + magnitude.gapBefore * denominator =
      magnitude.units * denominator := by rw [← before, Nat.add_mul]
  rw [covers_iff, midpointAfter, ← units]
  simp only [Nat.add_mul] at after ⊢
  omega

end Rulebook.Magnitude

namespace Rulebook

namespace Decimal

/-! ## Decimal numbers as fractions -/

def numerator (decimal : Decimal) : Nat := decimal.digits * 10 ^ decimal.exponent.toNat

def denominator (decimal : Decimal) : Nat := 10 ^ (-decimal.exponent).toNat

theorem denominator_pos (decimal : Decimal) : 0 < decimal.denominator :=
  Nat.pow_pos (by decide)

end Decimal

namespace Magnitude

def coversDecimal (magnitude : Magnitude) (decimal : Decimal) : Bool :=
  magnitude.covers (2 * (decimal.numerator * unitsPerOne)) decimal.denominator

/-! ## Grids of powers of ten -/

def digitsBelow (magnitude : Magnitude) (exponent : Int) : Nat :=
  magnitude.units * 10 ^ (-exponent).toNat / (unitsPerOne * 10 ^ exponent.toNat)

theorem ite_mul_pow_neg (value : Nat) (exponent : Int) :
    (if exponent < 0 then value * 10 ^ exponent.natAbs else value) =
      value * 10 ^ (-exponent).toNat := by
  split
  · next negative => rw [show (-exponent).toNat = exponent.natAbs by omega]
  · next notNegative => rw [Int.toNat_of_nonpos (by omega), Nat.pow_zero, Nat.mul_one]

theorem ite_mul_pow (value : Nat) (exponent : Int) :
    (if exponent < 0 then value else value * 10 ^ exponent.natAbs) =
      value * 10 ^ exponent.toNat := by
  split
  · next negative => rw [Int.toNat_of_nonpos negative.le, Nat.pow_zero, Nat.mul_one]
  · next notNegative => rw [show exponent.toNat = exponent.natAbs by omega]

theorem covers_digits (magnitude : Magnitude) (digits : Nat) (exponent : Int) :
    (if exponent < 0 then
      magnitude.covers (2 * digits * unitsPerOne) (10 ^ exponent.natAbs)
    else magnitude.covers (2 * digits * unitsPerOne * 10 ^ exponent.natAbs) 1) =
      magnitude.coversDecimal ⟨digits, exponent⟩ := by
  have numerator := ite_mul_pow (2 * digits * unitsPerOne) exponent
  have denominator := ite_mul_pow_neg 1 exponent
  have reordered : 2 * (digits * 10 ^ exponent.toNat * unitsPerOne) =
      2 * digits * unitsPerOne * 10 ^ exponent.toNat := by ring
  rw [coversDecimal, Decimal.numerator, Decimal.denominator, reordered, ← numerator,
    ← Nat.one_mul (10 ^ (-exponent).toNat), ← denominator]
  split <;> simp

theorem onGrid?_eq (tie : Tie) (magnitude : Magnitude) (exponent : Int) :
    ∃ upNearer : Bool, magnitude.onGrid? tie exponent =
      let below := magnitude.digitsBelow exponent
      match magnitude.coversDecimal ⟨below, exponent⟩,
        magnitude.coversDecimal ⟨below + 1, exponent⟩ with
      | false, false => none
      | true, false => some ⟨below, exponent⟩
      | false, true => some ⟨below + 1, exponent⟩
      | true, true => some ⟨if upNearer then below + 1 else below, exponent⟩ := by
  simp only [onGrid?, Nat.pow_eq, covers_digits, ite_mul_pow, ite_mul_pow_neg, digitsBelow]
  exact ⟨_, rfl⟩

theorem coversDecimal_of_onGrid? {tie : Tie} {magnitude : Magnitude} {exponent : Int}
    {decimal : Decimal} (found : magnitude.onGrid? tie exponent = some decimal) :
    decimal.exponent = exponent ∧ magnitude.coversDecimal decimal = true := by
  rcases onGrid?_eq tie magnitude exponent with ⟨upNearer, isChoice⟩
  rw [isChoice] at found
  simp only at found
  generalize magnitude.digitsBelow exponent = below at found
  cases first : magnitude.coversDecimal ⟨below, exponent⟩ <;>
    cases second : magnitude.coversDecimal ⟨below + 1, exponent⟩ <;>
      rw [first, second] at found <;> simp only [Option.some.injEq, reduceCtorEq] at found
  all_goals
    subst found
    refine ⟨rfl, ?_⟩
  · exact second
  · exact first
  · cases upNearer
    · exact first
    · exact second

theorem onGrid?_ne_none {tie : Tie} {magnitude : Magnitude} {exponent : Int}
    (fits : magnitude.coversDecimal ⟨magnitude.digitsBelow exponent, exponent⟩ = true ∨
      magnitude.coversDecimal ⟨magnitude.digitsBelow exponent + 1, exponent⟩ = true) :
    magnitude.onGrid? tie exponent ≠ none := by
  rcases onGrid?_eq tie magnitude exponent with ⟨upNearer, isChoice⟩
  rw [isChoice]
  simp only
  generalize magnitude.coversDecimal ⟨magnitude.digitsBelow exponent, exponent⟩ = first at fits
  generalize magnitude.coversDecimal ⟨magnitude.digitsBelow exponent + 1, exponent⟩ = second at fits
  cases first <;> cases second <;> simp at fits ⊢

theorem onGrid?_ne_none_of_fine {tie : Tie} {magnitude : Magnitude} {exponent : Int}
    (positive : 0 < magnitude.place)
    (fine : unitsPerOne * 10 ^ exponent.toNat <
      magnitude.gapBefore * 10 ^ (-exponent).toNat) :
    magnitude.onGrid? tie exponent ≠ none := by
  apply onGrid?_ne_none
  simp only [coversDecimal, Decimal.numerator, Decimal.denominator]
  have stepPositive : 0 < unitsPerOne * 10 ^ exponent.toNat :=
    Nat.mul_pos unitsPerOne_pos (Nat.pow_pos (by decide))
  have division := Nat.div_add_mod' (magnitude.units * 10 ^ (-exponent).toNat)
    (unitsPerOne * 10 ^ exponent.toNat)
  have small := Nat.mod_lt (magnitude.units * 10 ^ (-exponent).toNat) stepPositive
  rw [← digitsBelow] at division
  have grouped (digits : Nat) : digits * 10 ^ exponent.toNat * unitsPerOne =
      digits * (unitsPerOne * 10 ^ exponent.toNat) := by ring
  simp only [grouped]
  generalize unitsPerOne * 10 ^ exponent.toNat = step at *
  generalize magnitude.digitsBelow exponent = below at *
  generalize magnitude.units * 10 ^ (-exponent).toNat % step = rest at division small
  rcases Nat.lt_or_ge (2 * rest) step with nearBelow | nearAbove
  · left
    apply covers_of_close positive <;> omega
  · right
    apply covers_of_close positive
    · rw [Nat.add_mul, Nat.one_mul]
      omega
    · rw [Nat.add_mul, Nat.one_mul]
      omega

theorem coversDecimal_of_eq {magnitude : Magnitude} {decimal : Decimal}
    (positive : 0 < magnitude.place)
    (equal : decimal.numerator * unitsPerOne = magnitude.units * decimal.denominator) :
    magnitude.coversDecimal decimal = true := by
  have gapPositive : 0 < magnitude.gapBefore * decimal.denominator := by
    rw [gapBefore_eq positive]
    exact Nat.mul_pos (Nat.two_pow_pos _) decimal.denominator_pos
  rw [coversDecimal, equal]
  exact covers_of_close positive (Nat.lt_add_of_pos_right gapPositive)
    (Nat.lt_add_of_pos_right gapPositive)

theorem coversDecimal_exact {magnitude : Magnitude} {scale places : Nat}
    (positive : 0 < magnitude.place) (powers : scale * unitsPerOne = 10 ^ places) :
    magnitude.coversDecimal ⟨magnitude.units * scale, -(places : Int)⟩ = true := by
  apply coversDecimal_of_eq positive
  have noZeros : (-(places : Int)).toNat = 0 := by omega
  simp [Decimal.numerator, Decimal.denominator, noZeros, ← powers, Nat.mul_assoc]

private theorem findSome?_range_eq_some {α : Type} {choose : Nat → Option α} {count : Nat}
    {choice : α} (found : (List.range count).findSome? choose = some choice) :
    ∃ step < count, choose step = some choice ∧ ∀ earlier < step, choose earlier = none := by
  induction count with
  | zero => simp at found
  | succ count induction =>
      rw [List.range_succ, List.findSome?_append, Option.or_eq_some_iff] at found
      rcases found with found | ⟨missing, last⟩
      · rcases induction found with ⟨step, below, isChoice, first⟩
        exact ⟨step, Nat.lt_succ_of_lt below, isChoice, first⟩
      · rw [List.findSome?_eq_none_iff] at missing
        exact ⟨count, Nat.lt_succ_self count, by simpa using last,
          fun earlier below => missing earlier (List.mem_range.mpr below)⟩

/-- The grids are tried from coarse to fine, and without a result the value is written out. -/
theorem shortest_cases (tie : Tie) (magnitude : Magnitude) :
    (∃ step : Nat, step < 24 ∧ magnitude.onGrid? tie (magnitude.coarsestExponent - step) =
        some (magnitude.shortest tie) ∧ ∀ earlier : Nat, earlier < step →
          magnitude.onGrid? tie (magnitude.coarsestExponent - earlier) = none) ∨
      (∀ step : Nat, step < 24 →
        magnitude.onGrid? tie (magnitude.coarsestExponent - step) = none) ∧
        magnitude.shortest tie = ⟨magnitude.units * Nat.pow 5 1074, -1074⟩ := by
  unfold shortest
  simp only
  cases found : (List.range 24).findSome? fun (step : Nat) =>
      magnitude.onGrid? tie (magnitude.coarsestExponent - step) with
  | none =>
      rw [List.findSome?_eq_none_iff] at found
      exact .inr ⟨fun step below => found step (List.mem_range.mpr below), rfl⟩
  | some decimal => exact .inl (findSome?_range_eq_some found)

theorem coversDecimal_shortest {tie : Tie} {magnitude : Magnitude}
    (positive : 0 < magnitude.place) :
    magnitude.coversDecimal (magnitude.shortest tie) = true := by
  rcases shortest_cases tie magnitude with ⟨step, -, found, -⟩ | ⟨-, exact⟩
  · exact (coversDecimal_of_onGrid? found).2
  · have powers : Nat.pow 5 1074 * unitsPerOne = 10 ^ unitExponent := by decide +kernel
    have places : (-1074 : Int) = -(unitExponent : Int) := rfl
    rw [exact, places]
    exact coversDecimal_exact positive powers

/-- The shortest decimal number reads back as the value. -/
theorem nearest_shortest {tie : Tie} {magnitude : Magnitude} (positive : 0 < magnitude.place) :
    nearest (magnitude.shortest tie).numerator (magnitude.shortest tie).denominator =
      magnitude :=
  nearest_eq_of_covers (Decimal.denominator_pos _) (coversDecimal_shortest positive)

theorem digits_shortest_pos {tie : Tie} {magnitude : Magnitude} (positive : 0 < magnitude.place) :
    0 < (magnitude.shortest tie).digits := by
  have isCovered : magnitude.coversDecimal (magnitude.shortest tie) = true :=
    coversDecimal_shortest positive
  have numeratorPositive := pos_of_covers positive (Decimal.denominator_pos _) isCovered
  by_contra notPositive
  have noDigits : (magnitude.shortest tie).digits = 0 := by omega
  simp [Decimal.numerator, noDigits] at numeratorPositive

end Magnitude

end Rulebook

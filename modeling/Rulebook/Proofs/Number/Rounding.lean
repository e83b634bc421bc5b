import Mathlib.Order.Monotone.Basic
import Mathlib.Tactic.Linarith
import Mathlib.Tactic.Ring
import Rulebook.Number.Decimal

/-!
Rounding to binary64 values: the distances between neighbouring values, and the numbers that round
to a value. They are those between the two midpoints around it, and the midpoints themselves if the
place is even.
-/

namespace Rulebook.Magnitude

/-! ## Neighbouring values -/

theorem runLength_pos : 0 < runLength := by decide

/-- The values of a run are whole multiples of its distance, up to and with the first value of the
next run. -/
theorem unitsAt_mul_add {shift count : Nat} (inRun : shift = 0 ∨ runLength ≤ count)
    (atMost : count ≤ 2 * runLength) :
    unitsAt (shift * runLength + count) = count * 2 ^ shift := by
  have positive := runLength_pos
  rcases Nat.lt_or_ge count runLength with below | above
  · have noShift : shift = 0 := inRun.resolve_right (Nat.not_le.mpr below)
    simp [unitsAt, noShift, below]
  · rcases Nat.exists_eq_add_of_le above with ⟨offset, rfl⟩
    have place : shift * runLength + (runLength + offset) = offset + runLength * (shift + 1) := by
      ring
    have notBelow : ¬shift * runLength + (runLength + offset) < runLength := by omega
    rw [place] at notBelow ⊢
    simp only [unitsAt, if_neg notBelow, Nat.add_mul_div_left _ _ positive,
      Nat.add_mul_mod_self_left, Nat.pow_eq]
    rcases Nat.lt_or_ge offset runLength with inside | atEnd
    · simp [Nat.div_eq_of_lt inside, Nat.mod_eq_of_lt inside]
    · have isEnd : offset = runLength := by omega
      have exponent : 1 + (shift + 1) - 1 = shift + 1 := by omega
      rw [isEnd, Nat.div_self positive, Nat.mod_self, exponent, Nat.pow_succ]
      ring

theorem exists_run (place : Nat) :
    ∃ count, place = (place / runLength - 1) * runLength + count ∧ count < 2 * runLength ∧
      (place / runLength - 1 = 0 ∨ runLength ≤ count) := by
  have division := Nat.div_add_mod place runLength
  have small := Nat.mod_lt place runLength_pos
  cases run : place / runLength with
  | zero =>
      rw [run] at division
      exact ⟨place, by simp, by omega, .inl rfl⟩
  | succ shift =>
      refine ⟨runLength + place % runLength, ?_, by omega, .inr (Nat.le_add_right _ _)⟩
      rw [run] at division
      rw [Nat.add_sub_cancel]
      linarith

theorem unitsAt_succ (place : Nat) :
    unitsAt (place + 1) = unitsAt place + 2 ^ (place / runLength - 1) := by
  rcases exists_run place with ⟨count, parts, below, inRun⟩
  generalize place / runLength - 1 = shift at parts inRun
  have inRunNext : shift = 0 ∨ runLength ≤ count + 1 := inRun.imp_right (by omega)
  rw [parts, Nat.add_assoc, unitsAt_mul_add inRun below.le, unitsAt_mul_add inRunNext below]
  ring

theorem unitsAt_strictMono : StrictMono unitsAt := by
  apply strictMono_nat_of_lt_succ
  intro place
  rw [unitsAt_succ]
  exact Nat.lt_add_of_pos_right (Nat.two_pow_pos _)

/-! ## Rounded quotients -/

theorem roundDivide_spec (numerator : Nat) {denominator : Nat} (positive : 0 < denominator) :
    let rounded := roundDivide numerator denominator
    2 * numerator ≤ 2 * (rounded * denominator) + denominator ∧
      2 * (rounded * denominator) ≤ 2 * numerator + denominator ∧
      (2 * numerator = 2 * (rounded * denominator) + denominator ∨
        2 * (rounded * denominator) = 2 * numerator + denominator → rounded % 2 = 0) := by
  intro rounded
  have division := Nat.div_add_mod' numerator denominator
  have small := Nat.mod_lt numerator positive
  generalize quotient : numerator / denominator = whole at division
  generalize remains : numerator % denominator = rest at division small
  have isRounded : rounded =
      if denominator < 2 * rest ∨ (2 * rest = denominator ∧ whole % 2 = 1) then whole + 1
      else whole := by
    simp only [rounded, roundDivide, quotient, remains]
  split at isRounded
  all_goals
    rw [isRounded]
    try rw [Nat.add_mul, Nat.one_mul]
    generalize whole * denominator = product at division
    omega

/-! ## The nearest value -/

theorem scaled_run (scaled : Nat) {denominator : Nat} (positive : 0 < denominator) :
    let shift := (scaled / denominator).log2 - 52
    scaled < 2 * runLength * (denominator * 2 ^ shift) ∧
      (0 < shift → runLength * (denominator * 2 ^ shift) ≤ scaled) := by
  intro shift
  have isPower : runLength = 2 ^ 52 := rfl
  have division := Nat.div_add_mod' scaled denominator
  have small := Nat.mod_lt scaled positive
  constructor
  · have below : scaled / denominator < 2 ^ (53 + shift) := by
      apply Nat.lt_log2_self.trans_le
      apply Nat.pow_le_pow_right (by decide)
      omega
    calc
      scaled < (scaled / denominator + 1) * denominator := by linarith
      _ ≤ 2 ^ (53 + shift) * denominator := Nat.mul_le_mul_right _ below
      _ = 2 * runLength * (denominator * 2 ^ shift) := by rw [isPower]; ring
  · intro shifted
    have exponent : (scaled / denominator).log2 = 52 + shift := by omega
    have notZero : scaled / denominator ≠ 0 := by
      intro isZero
      rw [isZero, Nat.log2_zero] at exponent
      omega
    have above := Nat.log2_self_le notZero
    rw [exponent] at above
    calc
      runLength * (denominator * 2 ^ shift) = 2 ^ (52 + shift) * denominator := by
        rw [isPower]; ring
      _ ≤ scaled / denominator * denominator := Nat.mul_le_mul_right _ above
      _ ≤ scaled := Nat.div_mul_le_self _ _

theorem roundDivide_run (scaled : Nat) {denominator : Nat} (positive : 0 < denominator) :
    let shift := (scaled / denominator).log2 - 52
    let count := roundDivide scaled (denominator * 2 ^ shift)
    (shift = 0 ∨ runLength ≤ count) ∧ count ≤ 2 * runLength := by
  intro shift count
  rcases scaled_run scaled positive with ⟨beforeEnd, fromBeginning⟩
  have stepPositive : 0 < denominator * 2 ^ shift := Nat.mul_pos positive (Nat.two_pow_pos _)
  rcases roundDivide_spec scaled stepPositive with ⟨upper, lower, -⟩
  change 2 * scaled ≤ 2 * (count * _) + _ at upper
  change 2 * (count * _) ≤ _ at lower
  change scaled < 2 * runLength * (denominator * 2 ^ shift) at beforeEnd
  generalize denominator * 2 ^ shift = step at *
  constructor
  · rcases Nat.eq_zero_or_pos shift with noShift | shifted
    · exact .inl noShift
    · right
      have fromStart : runLength * step ≤ scaled := fromBeginning shifted
      by_contra less
      have gap : (count + 1) * step ≤ runLength * step := Nat.mul_le_mul_right _ (by omega)
      rw [Nat.add_mul, Nat.one_mul] at gap
      omega
  · by_contra more
    have gap : (2 * runLength + 1) * step ≤ count * step := Nat.mul_le_mul_right _ (by omega)
    rw [Nat.add_mul, Nat.one_mul] at gap
    omega

/-- Twice the midpoint between the values at a place and at the next one. -/
def midpointAfter (place : Nat) : Nat := unitsAt place + unitsAt (place + 1)

theorem midpointAfter_strictMono : StrictMono midpointAfter := by
  apply strictMono_nat_of_lt_succ
  intro place
  exact Nat.add_lt_add (unitsAt_strictMono (Nat.lt_succ_self _))
    (unitsAt_strictMono (Nat.lt_succ_self _))

theorem le_midpointAfter_run {shift count : Nat} (inRun : shift = 0 ∨ runLength ≤ count)
    (atMost : count ≤ 2 * runLength) :
    2 * (count * 2 ^ shift) + 2 ^ shift ≤ midpointAfter (shift * runLength + count) := by
  have laterRun : shift ≤ (shift * runLength + count) / runLength - 1 := by
    rcases inRun with noShift | inRun
    · omega
    · have quotient : shift + 1 ≤ (shift * runLength + count) / runLength := by
        rw [Nat.le_div_iff_mul_le runLength_pos, Nat.add_mul, Nat.one_mul]
        omega
      omega
  have step := Nat.pow_le_pow_right (show 0 < 2 by decide) laterRun
  rw [midpointAfter, unitsAt_succ, unitsAt_mul_add inRun atMost]
  omega

theorem midpointAfter_run {shift count : Nat} (inRun : shift = 0 ∨ runLength ≤ count)
    (below : count < 2 * runLength) :
    midpointAfter (shift * runLength + count) = 2 * (count * 2 ^ shift) + 2 ^ shift := by
  have inRunNext : shift = 0 ∨ runLength ≤ count + 1 := inRun.imp_right (by omega)
  rw [midpointAfter, Nat.add_assoc, unitsAt_mul_add inRun below.le,
    unitsAt_mul_add inRunNext below]
  ring

theorem midpointAfter_lt (place : Nat) : midpointAfter place < 2 * unitsAt (place + 1) := by
  have increasing := unitsAt_strictMono (Nat.lt_add_one place)
  rw [midpointAfter]
  omega

/-- A number of units lies between the midpoints around the value at a place, and on one of them
only if the place is even. -/
structure Between (scaled denominator place : Nat) : Prop where
  above : ∀ previous, place = previous + 1 →
    midpointAfter previous * denominator ≤ 2 * scaled ∧
      (place % 2 = 1 → midpointAfter previous * denominator ≠ 2 * scaled)
  below : 2 * scaled ≤ midpointAfter place * denominator ∧
    (place % 2 = 1 → 2 * scaled ≠ midpointAfter place * denominator)

theorem Between.le {scaled denominator place other : Nat} (positive : 0 < denominator)
    (between : Between scaled denominator place)
    (otherBetween : Between scaled denominator other) : other ≤ place := by
  by_contra notLe
  rcases Nat.exists_eq_add_of_lt (Nat.not_le.mp notLe) with ⟨distance, rfl⟩
  rcases between.below with ⟨below, strictBelow⟩
  rcases otherBetween.above _ rfl with ⟨above, strictAbove⟩
  have close : midpointAfter (place + distance) ≤ midpointAfter place :=
    Nat.le_of_mul_le_mul_right (above.trans below) positive
  have noDistance : distance = 0 := by
    have ordered := midpointAfter_strictMono.le_iff_le.mp close
    omega
  subst noDistance
  -- The number lies on the midpoint between neighbours, and one of the two places is odd.
  rcases Nat.mod_two_eq_zero_or_one place with isEven | isOdd
  · exact strictAbove (by omega) (above.antisymm below)
  · exact strictBelow isOdd (below.antisymm above)

theorem midpoint_mul (count shift denominator : Nat) :
    (2 * (count * 2 ^ shift) + 2 ^ shift) * denominator =
      2 * (count * (denominator * 2 ^ shift)) + denominator * 2 ^ shift := by
  ring

theorem midpointAfter_mul_le {scaled denominator shift before : Nat} (positive : 0 < denominator)
    (inRun : shift = 0 ∨ runLength ≤ before + 1) (atMost : before + 1 ≤ 2 * runLength)
    (fromBeginning : 0 < shift → runLength * (denominator * 2 ^ shift) ≤ scaled)
    (lower : 2 * ((before + 1) * (denominator * 2 ^ shift)) ≤ 2 * scaled + denominator * 2 ^ shift)
    (even : 2 * ((before + 1) * (denominator * 2 ^ shift)) = 2 * scaled + denominator * 2 ^ shift →
      (before + 1) % 2 = 0) :
    midpointAfter (shift * runLength + before) * denominator ≤ 2 * scaled ∧
      (midpointAfter (shift * runLength + before) * denominator = 2 * scaled →
        (before + 1) % 2 = 0) := by
  by_cases previousInRun : shift = 0 ∨ runLength ≤ before
  · rw [midpointAfter_run previousInRun (by omega), midpoint_mul]
    rw [Nat.add_mul, Nat.one_mul] at lower even
    exact ⟨by omega, fun isMidpoint => even (by omega)⟩
  · -- The value is the first of its run, and no quotient of this run lies below it.
    have isFirst : before + 1 = runLength := by omega
    have fromFirst := fromBeginning (by omega)
    have beforeFirst := midpointAfter_lt (shift * runLength + before)
    rw [Nat.add_assoc, unitsAt_mul_add inRun atMost, isFirst] at beforeFirst
    have less : midpointAfter (shift * runLength + before) * denominator < 2 * scaled := by
      calc
        midpointAfter (shift * runLength + before) * denominator <
            2 * (runLength * 2 ^ shift) * denominator :=
          Nat.mul_lt_mul_of_pos_right beforeFirst positive
        _ = 2 * (runLength * (denominator * 2 ^ shift)) := by ring
        _ ≤ 2 * scaled := Nat.mul_le_mul_left 2 fromFirst
    exact ⟨less.le, fun isMidpoint => absurd isMidpoint less.ne⟩

theorem between_rounded (scaled : Nat) {denominator : Nat} (positive : 0 < denominator) :
    let shift := (scaled / denominator).log2 - 52
    Between scaled denominator
      (shift * runLength + roundDivide scaled (denominator * 2 ^ shift)) := by
  intro shift
  rcases roundDivide_run scaled positive with ⟨inRun, atMost⟩
  rcases scaled_run scaled positive with ⟨-, fromBeginning⟩
  have stepPositive : 0 < denominator * 2 ^ shift := Nat.mul_pos positive (Nat.two_pow_pos _)
  rcases roundDivide_spec scaled stepPositive with ⟨upper, lower, even⟩
  change shift = 0 ∨ _ at inRun
  change 0 < shift → _ at fromBeginning
  generalize roundDivide scaled (denominator * 2 ^ shift) = count at *
  have sameParity : (shift * runLength + count) % 2 = count % 2 := by
    have halves : shift * runLength = 2 * (shift * 0x8000000000000) := by
      rw [show runLength = 2 * 0x8000000000000 from rfl]
      ring
    omega
  constructor
  case below =>
    have next := Nat.mul_le_mul_right denominator (le_midpointAfter_run inRun atMost)
    rw [midpoint_mul] at next
    refine ⟨upper.trans next, ?_⟩
    intro isOdd isMidpoint
    have isEven := even (.inl (by omega))
    omega
  case above =>
    intro previous isNext
    have countPositive : 0 < count := by
      have runPositive := runLength_pos
      rcases inRun with noShift | inRun
      · rw [noShift] at isNext
        omega
      · omega
    rcases Nat.exists_eq_add_of_le' countPositive with ⟨before, rfl⟩
    have isPrevious : previous = shift * runLength + before := by omega
    subst isPrevious
    rcases midpointAfter_mul_le positive inRun atMost fromBeginning lower
      fun equal => even (.inr equal) with ⟨notBelow, isEven⟩
    refine ⟨notBelow, ?_⟩
    intro isOdd isMidpoint
    have nextIsEven := isEven isMidpoint
    omega

theorem nearest_eq (numerator denominator : Nat) :
    nearest numerator denominator =
      ofPlace (((numerator * unitsPerOne / denominator).log2 - 52) * runLength +
        roundDivide (numerator * unitsPerOne)
          (denominator * 2 ^ ((numerator * unitsPerOne / denominator).log2 - 52))) := rfl

/-- A value covers exactly the numbers of half units between the midpoints around it. -/
theorem covers_iff {magnitude : Magnitude} {numerator denominator : Nat} :
    magnitude.covers numerator denominator = true ↔
      (unitsAt (magnitude.place - 1) + magnitude.units) * denominator ≤ numerator ∧
        numerator ≤ midpointAfter magnitude.place * denominator ∧
        (magnitude.place % 2 = 1 →
          (unitsAt (magnitude.place - 1) + magnitude.units) * denominator ≠ numerator ∧
            numerator ≠ midpointAfter magnitude.place * denominator) := by
  rw [covers, midpointAfter, units]
  split
  · next isEven =>
      simp [isEven]
  · next isOdd =>
      have isOne : magnitude.place % 2 = 1 := by omega
      rw [Bool.and_eq_true, decide_eq_true_eq, decide_eq_true_eq]
      omega

theorem nearest_eq_of_covers {magnitude : Magnitude} {numerator denominator : Nat}
    (positive : 0 < denominator)
    (covers : magnitude.covers (2 * (numerator * unitsPerOne)) denominator = true) :
    nearest numerator denominator = magnitude := by
  rcases covers_iff.mp covers with ⟨above, below, strict⟩
  have between : Between (numerator * unitsPerOne) denominator magnitude.place := by
    refine ⟨?_, below, fun odd => (strict odd).2⟩
    intro previous isNext
    have isMidpoint : midpointAfter previous = unitsAt (magnitude.place - 1) + magnitude.units := by
      rw [midpointAfter, units, isNext, Nat.add_sub_cancel]
    rw [isMidpoint]
    exact ⟨above, fun odd => (strict odd).1⟩
  have rounded := between_rounded (numerator * unitsPerOne) positive
  have isPlace := (between.le positive rounded).antisymm (rounded.le positive between)
  rw [nearest_eq, isPlace, ofPlace]
  cases magnitude with
  | mk place place_le => simpa [lastPlace] using place_le

end Rulebook.Magnitude

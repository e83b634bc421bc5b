import Rulebook.Proofs.Json.Numeral
import Rulebook.Proofs.Number.Whole

/-!
The digits of decimal numbers before and after the point, and the text of the numbers that rules can
spell: whole numbers, zero and infinity, all without a sign.
-/

namespace Rulebook

namespace Decimal

/-! ## Digits -/

theorem isDigits_digitText (decimal : Decimal) : Json.IsDigits decimal.digitText :=
  Json.isDigits_toDigits decimal.digits

theorem head?_toDigits_ne_zero {value : Nat} (positive : 0 < value) :
    (Nat.toDigits 10 value).head? ≠ some '0' := by
  induction value using Nat.strongRecOn with
  | ind value induction =>
      rcases Nat.lt_or_ge value 10 with oneDigit | more
      · rw [Nat.toDigits_of_lt_base oneDigit]
        have notZero : value ≠ 0 := positive.ne'
        simpa [Nat.digitChar_eq_zero] using notZero
      · have earlier := induction (value / 10) (by omega) (by omega)
        have notEmpty : Nat.toDigits 10 (value / 10) ≠ [] := Nat.toDigits_ne_nil
        rcases List.exists_cons_of_ne_nil notEmpty with ⟨first, others, digits⟩
        rw [digits] at earlier
        rw [Nat.toDigits_of_base_le (by decide) more, digits]
        exact earlier

theorem plain_of_nonneg {decimal : Decimal} (nonneg : 0 ≤ decimal.exponent) :
    decimal.plain = decimal.digitText ++ List.replicate decimal.exponent.toNat '0' := by
  rcases decimal with ⟨digits, exponent⟩
  cases exponent with
  | ofNat power => rfl
  | negSucc power => contradiction

theorem isDigits_plain {decimal : Decimal} (nonneg : 0 ≤ decimal.exponent) :
    Json.IsDigits decimal.plain := by
  rcases decimal.isDigits_digitText with ⟨notEmpty, all⟩
  rw [plain_of_nonneg nonneg]
  refine ⟨by simp [notEmpty], ?_⟩
  intro character member
  rcases List.mem_append.mp member with inDigits | inZeros
  · exact all character inDigits
  · rw [List.eq_of_mem_replicate inZeros]
    rfl

theorem head?_plain_ne_zero {decimal : Decimal} (nonneg : 0 ≤ decimal.exponent)
    (positive : 0 < decimal.digits) : decimal.plain.head? ≠ some '0' := by
  have leading := head?_toDigits_ne_zero positive
  rcases List.exists_cons_of_ne_nil decimal.isDigits_digitText.1 with ⟨first, others, digits⟩
  rw [← digitText, digits] at leading
  rw [plain_of_nonneg nonneg, digits]
  exact leading

theorem digitsValue_plain {decimal : Decimal} (nonneg : 0 ≤ decimal.exponent) :
    Numeral.digitsValue decimal.plain = decimal.numerator := by
  simp [plain_of_nonneg nonneg, Numeral.digitsValue, Nat.ofDigitChars_append, digitText, numerator,
    Nat.ofDigitChars_replicate_zero, Nat.mul_comm]

/-! ## Digits after the point -/

def paddedDigits (decimal : Decimal) : List Char :=
  List.replicate ((-decimal.exponent).toNat + 1 - decimal.digitText.length) '0' ++ decimal.digitText

theorem isDigits_paddedDigits (decimal : Decimal) : Json.IsDigits decimal.paddedDigits := by
  rcases decimal.isDigits_digitText with ⟨notEmpty, all⟩
  refine ⟨by simp [paddedDigits, notEmpty], ?_⟩
  intro character member
  rcases List.mem_append.mp member with inZeros | inDigits
  · rw [List.eq_of_mem_replicate inZeros]
    rfl
  · exact all character inDigits

theorem digitsValue_paddedDigits (decimal : Decimal) :
    Numeral.digitsValue decimal.paddedDigits = decimal.digits := by
  simp [paddedDigits, Numeral.digitsValue, Nat.ofDigitChars_append, digitText]

theorem lt_length_paddedDigits (decimal : Decimal) :
    (-decimal.exponent).toNat < decimal.paddedDigits.length := by
  rw [paddedDigits, List.length_append, List.length_replicate]
  omega

theorem plain_of_neg {decimal : Decimal} (negative : decimal.exponent < 0) :
    let front := decimal.paddedDigits.length - (-decimal.exponent).toNat
    decimal.plain = decimal.paddedDigits.take front ++ '.' :: decimal.paddedDigits.drop front := by
  rcases decimal with ⟨value, exponent⟩
  cases exponent with
  | ofNat power => exact absurd negative (by simp)
  | negSucc power =>
      have places : (-(⟨value, .negSucc power⟩ : Decimal).exponent).toNat = power + 1 := rfl
      simp only [plain, paddedDigits, places]
      generalize digitText _ = digits
      split
      · next inside =>
          have noZeros : power + 1 + 1 - digits.length = 0 := by omega
          simp [noZeros]
      · next outside =>
          have zeros : power + 1 + 1 - digits.length = power + 1 - digits.length + 1 := by omega
          have front : power + 1 - digits.length + digits.length - power = 1 := by omega
          simp [zeros, front, List.replicate_succ]

theorem eq_zero_of_head?_take_paddedDigits (decimal : Decimal) (positive : 0 < decimal.digits) :
    let whole := decimal.paddedDigits.take
      (decimal.paddedDigits.length - (-decimal.exponent).toNat)
    whole.head? = some '0' → whole = ['0'] := by
  intro whole leading
  simp only [whole, paddedDigits, List.length_append, List.length_replicate] at leading ⊢
  have notZero : decimal.digitText.head? ≠ some '0' := head?_toDigits_ne_zero positive
  generalize (-decimal.exponent).toNat = places at leading ⊢
  generalize decimal.digitText = digits at notZero leading ⊢
  rcases Nat.eq_zero_or_pos (places + 1 - digits.length) with noZeros | zeros
  · have front : digits.length - places ≠ 0 := by omega
    rw [noZeros, List.replicate_zero, List.nil_append, Nat.zero_add, List.head?_take,
      if_neg front] at leading
    exact absurd leading notZero
  · have front : places + 1 - digits.length + digits.length - places = 1 := by omega
    rcases Nat.exists_eq_add_of_lt zeros with ⟨others, isCount⟩
    rw [front, isCount, Nat.zero_add, List.replicate_succ]
    rfl

/-- The digits before the point, of which zero is the first only if it is the only one, and those
after it. There are as many of these as the decimal number has decimal places, and together they
spell its numerator. -/
theorem exists_plain_eq (decimal : Decimal) :
    ∃ whole fraction, decimal.plain = whole ++ (if fraction = [] then [] else '.' :: fraction) ∧
      Json.IsDigits whole ∧ (0 < decimal.digits → whole.head? = some '0' → whole = ['0']) ∧
      (∀ character ∈ fraction, character.isDigit = true) ∧
      fraction.length = (-decimal.exponent).toNat ∧
      Numeral.digitsValue (whole ++ fraction) = decimal.numerator := by
  rcases lt_or_ge decimal.exponent 0 with negative | nonneg
  · rcases decimal.isDigits_paddedDigits with ⟨notEmpty, all⟩
    have inside := decimal.lt_length_paddedDigits
    have isPlain := plain_of_neg negative
    have leadingZero := decimal.eq_zero_of_head?_take_paddedDigits
    have noPower : decimal.exponent.toNat = 0 := by omega
    generalize isFront :
      decimal.paddedDigits.length - (-decimal.exponent).toNat = front at isPlain leadingZero
    have length : (decimal.paddedDigits.drop front).length = (-decimal.exponent).toNat := by
      rw [List.length_drop]
      omega
    have hasFraction : decimal.paddedDigits.drop front ≠ [] := by
      rw [← List.length_pos_iff]
      omega
    refine ⟨decimal.paddedDigits.take front, decimal.paddedDigits.drop front, ?_, ⟨?_, ?_⟩,
      leadingZero, ?_, length, ?_⟩
    · rw [if_neg hasFraction, isPlain]
    · simp [notEmpty, ← isFront]
      omega
    · exact fun character member => all character (List.mem_of_mem_take member)
    · exact fun character member => all character (List.mem_of_mem_drop member)
    · rw [List.take_append_drop, digitsValue_paddedDigits, numerator, noPower, Nat.pow_zero,
        Nat.mul_one]
  · refine ⟨decimal.plain, [], by simp, isDigits_plain nonneg, ?_, by simp, ?_, ?_⟩
    · intro positive leading
      exact absurd leading (head?_plain_ne_zero nonneg positive)
    · rw [List.length_nil, Int.toNat_of_nonpos (by omega)]
    · rw [List.append_nil, digitsValue_plain nonneg]

end Decimal

theorem Numeral.digitsValue_lt {digits : List Char}
    (all : ∀ character ∈ digits, character.isDigit = true) :
    digitsValue digits < 10 ^ digits.length := by
  suffices ∀ start, Nat.ofDigitChars 10 digits start < (start + 1) * 10 ^ digits.length by
    simpa [digitsValue] using this 0
  induction digits with
  | nil => simp
  | cons digit digits induction =>
      intro start
      have isDigit : digit.toNat - 48 < 10 := by
        have bounds : '0'.toNat ≤ digit.toNat ∧ digit.toNat ≤ '9'.toNat :=
          Char.isDigit_iff_toNat.mp (all digit (by simp))
        have nine : '9'.toNat = 57 := rfl
        omega
      have later := induction (fun character member => all character (by simp [member]))
        (10 * start + (digit.toNat - 48))
      rw [Nat.ofDigitChars_cons]
      calc
        Nat.ofDigitChars 10 digits (10 * start + (digit.toNat - '0'.toNat)) <
            (10 * start + (digit.toNat - 48) + 1) * 10 ^ digits.length := later
        _ ≤ (start + 1) * 10 * 10 ^ digits.length := Nat.mul_le_mul_right _ (by omega)
        _ = (start + 1) * 10 ^ (digit :: digits).length := by
          rw [List.length_cons, Nat.pow_succ', Nat.mul_assoc]

namespace Number

/-! ## Numbers without sign and fraction -/

def IsNatural : Number → Prop
  | nan => False
  | signed negative magnitude => negative = false ∧ magnitude.IsWhole

theorem text_infinity : (infinity false).text = "Infinity" := by decide

theorem text_of_pos {magnitude : Magnitude} (positive : 0 < magnitude.place)
    (finite : magnitude.isFinite = true) :
    (signed false magnitude).text = String.ofList (magnitude.shortest .up).plain := by
  rw [text, if_neg positive.ne', if_pos finite]
  exact congrArg String.ofList (if_neg positive.ne')

theorem eq_infinity_or_isFinite (magnitude : Magnitude) :
    signed false magnitude = infinity false ∨ magnitude.isFinite = true := by
  rcases magnitude with ⟨place, atMost⟩
  rcases Nat.lt_or_ge place Magnitude.lastPlace with below | beyond
  · exact .inr (decide_eq_true below)
  · left
    have isLast : place = Magnitude.lastPlace := Nat.le_antisymm atMost beyond
    subst isLast
    rfl

theorem text_of_isNatural {number : Number} (natural : number.IsNatural)
    (finite : number ≠ infinity false) :
    Json.IsDigits number.text.toList ∧
      (number.text.toList.head? = some '0' → number.text.toList = ['0']) ∧
      number = ofNat (Numeral.digitsValue number.text.toList) := by
  cases number with
  | nan => contradiction
  | signed negative magnitude =>
      rcases natural with ⟨rfl, whole⟩
      have isFinite := (eq_infinity_or_isFinite magnitude).resolve_left finite
      rcases Nat.eq_zero_or_pos magnitude.place with isZero | positive
      · rcases magnitude with ⟨place, atMost⟩
        change place = 0 at isZero
        subst isZero
        have isText : (signed false ⟨0, atMost⟩).text = "0" := rfl
        have isNearest : zero = ofNat 0 := by decide +kernel
        rw [isText]
        exact ⟨Json.isDigits_zero, fun _ => rfl, isNearest⟩
      · have nonneg : 0 ≤ (magnitude.shortest .up).exponent :=
          Magnitude.exponent_shortest_nonneg positive whole
        have noPlaces : (magnitude.shortest .up).denominator = 1 := by
          have none : (-(magnitude.shortest .up).exponent).toNat = 0 := by omega
          rw [Decimal.denominator, none, Nat.pow_zero]
        have isNearest : Magnitude.nearest (magnitude.shortest .up).numerator
            (magnitude.shortest .up).denominator = magnitude := Magnitude.nearest_shortest positive
        rw [noPlaces] at isNearest
        rw [text_of_pos positive isFinite, String.toList_ofList, Decimal.digitsValue_plain nonneg,
          ofNat, isNearest]
        exact ⟨Decimal.isDigits_plain nonneg, fun leadingZero => absurd leadingZero
          (Decimal.head?_plain_ne_zero nonneg (Magnitude.digits_shortest_pos positive)), rfl⟩

theorem wellFormed_text_of_isNatural {number : Number} (natural : number.IsNatural) :
    (Token.word number.text).WellFormed := by
  by_cases finite : number = infinity false
  · rw [finite, text_infinity]
    decide
  · exact (text_of_isNatural natural finite).1.wellFormed

end Number

end Rulebook

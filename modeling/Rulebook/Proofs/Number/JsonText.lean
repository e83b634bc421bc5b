import Rulebook.Proofs.Json.Scalar
import Rulebook.Proofs.Number.Plain

/-!
JSON's text of a number follows JSON's grammar of numbers.
-/

namespace Rulebook

namespace Decimal

open Json (Spelling IsDigits)

variable {decimal : Decimal}

theorem exists_spelling_plain (positive : 0 < decimal.digits) (negative : decimal.exponent < 0) :
    ∃ spelling : Spelling, spelling.Valid ∧ spelling.negative = false ∧
      decimal.plain = spelling.text := by
  rcases decimal.exists_plain_eq with
    ⟨whole, fraction, isPlain, isWhole, leadingZero, isFraction, places, -⟩
  have hasFraction : fraction ≠ [] := by
    rw [← List.length_pos_iff]
    omega
  refine ⟨⟨false, whole, fraction, none⟩, ⟨isWhole, leadingZero positive, isFraction, by simp⟩,
    rfl, ?_⟩
  simp [isPlain, hasFraction, Spelling.text, Spelling.fractionText_of_ne_nil hasFraction,
    Spelling.exponentText]

theorem exists_spelling_scientific (positive : 0 < decimal.digits) :
    ∃ spelling : Spelling, spelling.Valid ∧ spelling.negative = false ∧
      decimal.scientific = spelling.text := by
  rcases decimal.isDigits_digitText with ⟨notEmpty, all⟩
  have noZero : decimal.digitText.head? ≠ some '0' := head?_toDigits_ne_zero positive
  rw [scientific]
  generalize decimal.leadingExponent = exponent
  generalize decimal.digitText = digits at *
  rcases List.exists_cons_of_ne_nil notEmpty with ⟨digit, others, rfl⟩
  rcases List.forall_mem_cons.mp all with ⟨isDigit, areDigits⟩
  have isWhole : IsDigits [digit] := ⟨by simp, by simpa using isDigit⟩
  refine ⟨⟨false, [digit], others,
    some (decide (exponent < 0), Nat.toDigits 10 exponent.natAbs)⟩, ⟨isWhole, ?_, areDigits, ?_⟩,
    rfl, ?_⟩
  · exact fun leading => absurd leading noZero
  · intro sign digits isSome
    cases isSome
    exact Json.isDigits_toDigits exponent.natAbs
  · cases others <;>
      simp [Spelling.text, Spelling.fractionText, Spelling.exponentText]

end Decimal

namespace Number

open Json (Spelling IsDigits)

def wholeSpelling (digits : List Char) : Spelling := ⟨false, digits, ['0'], none⟩

theorem valid_wholeSpelling {digits : List Char} (isDigits : IsDigits digits)
    (noLeadingZero : digits.head? = some '0' → digits = ['0']) : (wholeSpelling digits).Valid :=
  ⟨isDigits, noLeadingZero, by simp [wholeSpelling], by simp [wholeSpelling]⟩

theorem text_wholeSpelling (digits : List Char) :
    (wholeSpelling digits).text = digits ++ ['.', '0'] := by
  simp [wholeSpelling, Spelling.text, Spelling.fractionText, Spelling.exponentText]

theorem exists_spelling_jsonLayout {decimal : Decimal} (positive : 0 < decimal.digits) :
    ∃ spelling : Spelling, spelling.Valid ∧ spelling.negative = false ∧
      jsonLayout decimal = spelling.text := by
  unfold jsonLayout
  split
  · split
    · next nonneg =>
        exact ⟨wholeSpelling decimal.plain, valid_wholeSpelling (Decimal.isDigits_plain nonneg)
          fun leading => absurd leading (Decimal.head?_plain_ne_zero nonneg positive), rfl,
          (text_wholeSpelling _).symm⟩
    · next negative => exact Decimal.exists_spelling_plain positive (not_le.mp negative)
  · exact Decimal.exists_spelling_scientific positive

def unsignedJson (magnitude : Magnitude) : List Char :=
  if magnitude.place = 0 then ['0', '.', '0'] else jsonLayout (magnitude.shortest .toEven)

theorem json?_of_isFinite {negative : Bool} {magnitude : Magnitude}
    (finite : magnitude.isFinite = true) :
    (signed negative magnitude).json? =
      some (String.ofList
        (if negative then '-' :: unsignedJson magnitude else unsignedJson magnitude)) := by
  rw [json?, if_pos finite]
  rfl

theorem exists_spelling_unsignedJson (magnitude : Magnitude) :
    ∃ spelling : Spelling, spelling.Valid ∧ spelling.negative = false ∧
      unsignedJson magnitude = spelling.text := by
  unfold unsignedJson
  split
  · exact ⟨wholeSpelling ['0'], valid_wholeSpelling Json.isDigits_zero fun _ => rfl, rfl, rfl⟩
  · next notZero =>
      exact exists_spelling_jsonLayout (Magnitude.digits_shortest_pos (Nat.pos_of_ne_zero notZero))

theorem exists_spelling_json? {number : Number} {text : String}
    (isText : number.json? = some text) :
    ∃ spelling : Spelling, spelling.Valid ∧ text.toList = spelling.text := by
  cases number with
  | nan => contradiction
  | signed negative magnitude =>
      have finite : magnitude.isFinite = true := by
        by_contra infinite
        simp [json?, infinite] at isText
      rw [json?_of_isFinite finite, Option.some.injEq] at isText
      rcases exists_spelling_unsignedJson magnitude with ⟨spelling, valid, unsigned, isUnsigned⟩
      rcases spelling with ⟨sign, whole, fraction, exponent?⟩
      rcases valid with ⟨isWhole, noLeadingZero, isFraction, isExponent⟩
      change sign = false at unsigned
      subst unsigned
      refine ⟨⟨negative, whole, fraction, exponent?⟩,
        ⟨isWhole, noLeadingZero, isFraction, isExponent⟩, ?_⟩
      rw [← isText, String.toList_ofList, isUnsigned]
      cases negative <;> rfl

end Number

end Rulebook

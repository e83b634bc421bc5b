import Rulebook.Proofs.Number.Nearest
import Rulebook.Proofs.Operand.Literal

/-!
What operands stand for, told by their characters. The words of JSON stand for its values, all other
words for themselves; a quoted text stands for what is between its marks.
-/

namespace Rulebook.Operand

/-- The word is a number: a zero, or digits that do not begin with one, and then maybe the letter of
an exponent with its digits. -/
def IsNumberWord (text : List Char) : Prop :=
  ∃ whole exponent, text = whole ++ exponent ∧ Json.IsDigits whole ∧
    (whole.head? = some '0' → whole = ['0']) ∧ Json.IsUnsignedExponent exponent

theorem IsNumberWord.exists_number_classify {text : String}
    (isNumberWord : IsNumberWord text.toList) :
    ∃ number, classify text = .literal (.number number) := by
  rcases isNumberWord with ⟨whole, exponent, characters, isDigits, noLeadingZero, isExponent⟩
  exact exists_number_classify_whole_append characters isDigits noLeadingZero isExponent

theorem isLiteralWord_iff_isNumberWord {text : String} :
    IsLiteralWord text ↔
      text = "true" ∨ text = "false" ∨ text = "null" ∨ IsNumberWord text.toList := by
  constructor
  · intro isLiteralWord
    cases isLiteralWord with
    | null => simp
    | isTrue => simp
    | isFalse => simp
    | number characters isDigits noLeadingZero isExponent =>
        exact .inr (.inr (.inr ⟨_, _, characters, isDigits, noLeadingZero, isExponent⟩))
  · rintro (rfl | rfl | rfl | ⟨whole, exponent, characters, isDigits, noLeadingZero, isExponent⟩)
    · exact .isTrue
    · exact .isFalse
    · exact .null
    · exact .number characters isDigits noLeadingZero isExponent

theorem spelling_of_classify {text : String} {value : Value}
    (wellFormed : (Token.word text).WellFormed) (isLiteral : classify text = .literal value) :
    (∃ truth, text = (Value.boolean truth).display ∧ value = .boolean truth) ∨
      (text = "null" ∧ value = .null) ∨
      (IsNumberWord text.toList ∧ ∃ number, value = .number number) := by
  have isLiteralWord : IsLiteralWord text := by
    by_contra isName
    rw [(classify_eq_identifier_iff wellFormed).mpr isName] at isLiteral
    contradiction
  rcases isLiteralWord_iff_isNumberWord.mp isLiteralWord with rfl | rfl | rfl | isNumberWord
  · cases isLiteral.symm.trans (classify_display_boolean true)
    exact .inl ⟨true, rfl, rfl⟩
  · cases isLiteral.symm.trans (classify_display_boolean false)
    exact .inl ⟨false, rfl, rfl⟩
  · cases isLiteral.symm.trans classify_display_null
    exact .inr (.inl ⟨rfl, rfl⟩)
  · rcases isNumberWord.exists_number_classify with ⟨number, isNumber⟩
    cases isLiteral.symm.trans isNumber
    exact .inr (.inr ⟨isNumberWord, number, rfl⟩)

structure Recognised (text : String) : Prop where
  boolean_iff (value : Bool) :
    classify text = .literal (.boolean value) ↔ text = if value then "true" else "false"
  null_iff : classify text = .literal .null ↔ text = "null"
  number_iff :
    (∃ number, classify text = .literal (.number number)) ↔ IsNumberWord text.toList
  identifier_iff : classify text = .identifier text ↔
    text ≠ "true" ∧ text ≠ "false" ∧ text ≠ "null" ∧ ¬IsNumberWord text.toList
  natural (number : Number) : classify text = .literal (.number number) → number.IsNatural
  /-- Digits alone stand for the nearest number, if they fit in 64 bits. -/
  nearest : Json.IsDigits text.toList → (text.toList.head? = some '0' → text.toList = ['0']) →
    Numeral.digitsValue text.toList < 2 ^ 64 →
      ∃ number, classify text = .literal (.number number) ∧
        Number.IsRounded false (Numeral.digitsValue text.toList) number

theorem recognised_word {text : String} (wellFormed : (Token.word text).WellFormed) :
    Recognised text where
  boolean_iff value := by
    constructor
    · intro isBoolean
      rcases spelling_of_classify wellFormed isBoolean with
          ⟨truth, spelled, ⟨⟩⟩ | ⟨-, ⟨⟩⟩ | ⟨-, number, ⟨⟩⟩
      exact spelled
    · rintro rfl
      exact classify_display_boolean value
  null_iff := by
    constructor
    · intro isNull
      rcases spelling_of_classify wellFormed isNull with
          ⟨truth, -, ⟨⟩⟩ | ⟨spelled, -⟩ | ⟨-, number, ⟨⟩⟩
      exact spelled
    · rintro rfl
      exact classify_display_null
  number_iff := by
    constructor
    · rintro ⟨number, isNumber⟩
      rcases spelling_of_classify wellFormed isNumber with
          ⟨truth, -, ⟨⟩⟩ | ⟨-, ⟨⟩⟩ | ⟨isNumberWord, -⟩
      exact isNumberWord
    · exact IsNumberWord.exists_number_classify
  identifier_iff := by
    rw [classify_eq_identifier_iff wellFormed, isLiteralWord_iff_isNumberWord]
    simp only [not_or, ne_eq]
  natural number isNumber := by
    rcases classify_word wellFormed with isName | ⟨value, isWordValue, isLiteral⟩
    · rw [isName] at isNumber
      contradiction
    · cases isNumber.symm.trans isLiteral
      exact isWordValue
  nearest isDigits noLeadingZero below :=
    ⟨_, classify_digits isDigits noLeadingZero (decide_eq_true below), Number.isRounded_ofNat _⟩

/-- A word stands for a truth value, null or a number exactly if it is spelled like one, and else
for itself as a name. A quoted text stands for the characters between its marks, whatever they
spell. -/
theorem classify_recognises_literals :
    (∀ text, (Token.word text).WellFormed → Recognised text) ∧
      ∀ (quote : Quote) (content : String),
        classify (quote.enclose content) = .literal (.text content) :=
  ⟨fun _ => recognised_word, classify_enclose⟩

theorem classify_recognises_literals_large :
    (∃ number, classify "1e400" = .literal (.number number)) ∧
      ¬IsNumberWord "007".toList ∧
      (∃ number, classify "18446744073709551615" = .literal (.number number) ∧
        Number.IsRounded false 18446744073709551615 number) := by
  rcases classify_recognises_literals with ⟨words, -⟩
  have large : IsNumberWord "1e400".toList :=
    ⟨['1'], ['e', '4', '0', '0'], by decide, by decide, by decide, by decide⟩
  have isName : classify "007" = .identifier "007" := by decide +kernel
  refine ⟨(words "1e400" (by decide)).number_iff.mpr large, ?_, ?_⟩
  · exact ((words "007" (by decide)).identifier_iff.mp isName).2.2.2
  · exact (words "18446744073709551615" (by decide)).nearest (by decide) (by decide) (by decide)

end Rulebook.Operand

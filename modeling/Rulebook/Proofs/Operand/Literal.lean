import Rulebook.Proofs.Operand.Word

/-!
The words that are literals, told by their characters alone. They are exactly the words that are not
taken for names.
-/

namespace Rulebook

namespace Json

instance (digits : List Char) : Decidable (IsDigits digits) :=
  decidable_of_iff (digits ≠ [] ∧ digits.all Char.isDigit = true) (by simp [IsDigits])

instance : (text : List Char) → Decidable (IsUnsignedExponent text)
  | [] => .isTrue trivial
  | mark :: digits => inferInstanceAs (Decidable ((mark = 'e' ∨ mark = 'E') ∧ IsDigits digits))

theorem readExponent_of_isUnsignedExponent {text : List Char}
    (isExponent : IsUnsignedExponent text) :
    ∃ exponent?, readExponent text = .ok (exponent?, []) := by
  cases text with
  | nil => exact ⟨none, rfl⟩
  | cons mark digits =>
      rcases isExponent with ⟨isMark, isDigits⟩
      have noSign := takeSign_of_word isDigits.isWordCharacter
      have endsHere : ∀ character ∈ ([] : List Char).head?, character.isDigit = false := by simp
      have isRead : readDigits digits = .ok (digits, []) := by
        simpa using readDigits_append isDigits endsHere
      exact ⟨some (Numeral.digitsValue digits), by
        simp [readExponent, isMark, noSign, isRead, ok_bind]⟩

theorem IsUnsignedExponent.head?_cases {text : List Char} (isExponent : IsUnsignedExponent text)
    {character : Char} (isHead : character ∈ text.head?) : character = 'e' ∨ character = 'E' := by
  cases text with
  | nil => simp at isHead
  | cons mark digits =>
      have same : mark = character := by simpa using isHead
      exact same ▸ isExponent.1

theorem IsUnsignedExponent.isWordCharacter {text : List Char}
    (isExponent : IsUnsignedExponent text) (character : Char) (member : character ∈ text) :
    Token.isWordCharacter character = true := by
  cases text with
  | nil => simp at member
  | cons mark digits =>
      rcases isExponent with ⟨isMark, isDigits⟩
      rcases List.mem_cons.mp member with rfl | inDigits
      · rcases isMark with rfl | rfl <;> decide
      · exact isDigits.isWordCharacter character inDigits

theorem isWordCharacter_whole_append {whole exponent : List Char} (isDigits : IsDigits whole)
    (isExponent : IsUnsignedExponent exponent) (character : Char)
    (member : character ∈ whole ++ exponent) : Token.isWordCharacter character = true := by
  rcases List.mem_append.mp member with inWhole | inExponent
  · exact isDigits.isWordCharacter character inWhole
  · exact isExponent.isWordCharacter character inExponent

theorem readWrittenNumber_whole_append {whole exponent : List Char} (isDigits : IsDigits whole)
    (noLeadingZero : whole.head? = some '0' → whole = ['0'])
    (isExponent : IsUnsignedExponent exponent) :
    ∃ written, readWrittenNumber (whole ++ exponent) = .ok (written, []) := by
  have ends : ∀ character ∈ exponent.head?, character.isDigit = false := by
    intro character isHead
    rcases isExponent.head?_cases isHead with rfl | rfl <;> rfl
  have noPoint : exponent.head? ≠ some '.' := by
    intro point
    rcases isExponent.head?_cases point with isMark | isMark <;> contradiction
  have word := isWordCharacter_whole_append isDigits isExponent
  rcases readExponent_of_isUnsignedExponent isExponent with ⟨exponent?, exponentRead⟩
  rw [readWrittenNumber_of_head?_ne (Token.head?_ne_of_word word (by decide)), readUnsigned,
    readWhole_append isDigits noLeadingZero ends]
  simp only [ok_bind, readFraction_of_head?_ne noPoint, exponentRead]
  exact ⟨_, rfl⟩

end Json

namespace Operand

/-- The word is null, a truth value, or a number: digits without a leading zero, then maybe an
exponent without a sign. -/
inductive IsLiteralWord : String → Prop
  | null : IsLiteralWord "null"
  | isTrue : IsLiteralWord "true"
  | isFalse : IsLiteralWord "false"
  | number {text : String} {whole exponent : List Char} :
      text.toList = whole ++ exponent → Json.IsDigits whole →
      (whole.head? = some '0' → whole = ['0']) → Json.IsUnsignedExponent exponent →
      IsLiteralWord text

theorem exists_number_classify_whole_append {text : String} {whole exponent : List Char}
    (characters : text.toList = whole ++ exponent) (isDigits : Json.IsDigits whole)
    (noLeadingZero : whole.head? = some '0' → whole = ['0'])
    (isExponent : Json.IsUnsignedExponent exponent) :
    ∃ number, classify text = .literal (.number number) := by
  have wellFormed : (Token.word text).WellFormed := by
    rw [Token.WellFormed, characters]
    exact ⟨by simp [isDigits.1],
      List.all_eq_true.mpr (Json.isWordCharacter_whole_append isDigits isExponent)⟩
  have starts : ∀ character ∈ text.toList.head?, character.isDigit = true := by
    intro character isHead
    rw [characters, List.head?_append, List.head?_eq_some_head isDigits.1] at isHead
    have isFirst : whole.head isDigits.1 = character := by simpa using isHead
    exact isFirst ▸ isDigits.2 _ (List.head_mem isDigits.1)
  rcases Json.readWrittenNumber_whole_append isDigits noLeadingZero isExponent with
      ⟨written, isWritten⟩
  rw [← characters] at isWritten
  exact exists_number_classify wellFormed starts isWritten

theorem exists_literal_classify_of_isLiteralWord {text : String}
    (isLiteralWord : IsLiteralWord text) : ∃ value, classify text = .literal value := by
  cases isLiteralWord with
  | null => exact ⟨_, classify_display_null⟩
  | isTrue => exact ⟨_, classify_display_boolean true⟩
  | isFalse => exact ⟨_, classify_display_boolean false⟩
  | number characters isDigits noLeadingZero isExponent =>
      rcases exists_number_classify_whole_append characters isDigits noLeadingZero isExponent with
          ⟨number, isNumber⟩
      exact ⟨.number number, isNumber⟩

theorem eq_append_of_readWord {word text rest : List Char}
    (read : Json.readWord word text = .ok ((), rest)) : text = word ++ rest := by
  induction word generalizing text with
  | nil =>
      cases read
      rfl
  | cons expected word induction =>
      cases text with
      | nil => contradiction
      | cons character text =>
          rw [Json.readWord] at read
          split at read
          · next same => rw [same, induction read, List.cons_append]
          · contradiction

theorem eq_append_of_readWord_bind {word text rest : List Char} {result json : Json}
    (read : (do
      let ((), rest) ← Json.readWord word text
      .ok (result, rest)) = .ok (json, rest)) : text = word ++ rest := by
  rcases bind_eq_ok_iff.mp read with ⟨⟨⟨⟩, after⟩, isWord, isResult⟩
  cases isResult
  exact eq_append_of_readWord isWord

theorem isLiteralWord_of_readWrittenNumber {text rest : List Char} {written : Json.WrittenNumber}
    (word : ∀ character ∈ text, Token.isWordCharacter character = true)
    (read : Json.readWrittenNumber text = .ok (written, rest)) :
    ∃ front, text = front ++ rest ∧ IsLiteralWord (String.ofList front) := by
  rcases Json.exists_of_readWrittenNumber word read with
      ⟨whole, after, exponent?, wholeRead, exponentRead, wordAfter, -⟩
  rcases Json.eq_append_of_readWhole wholeRead with ⟨rfl, isDigits, noLeadingZero⟩
  rcases Json.exists_of_readExponent wordAfter exponentRead with ⟨-, exponent, rfl, isExponent⟩
  exact ⟨whole ++ exponent, (List.append_assoc ..).symm,
    .number String.toList_ofList isDigits noLeadingZero isExponent⟩

theorem isLiteralWord_of_readScalar {text rest : List Char} {json : Json}
    (word : ∀ character ∈ text, Token.isWordCharacter character = true)
    (read : Json.readScalar text = .ok (json, rest)) :
    ∃ front, text = front ++ rest ∧ IsLiteralWord (String.ofList front) := by
  unfold Json.readScalar at read
  split at read
  · cases read
  · exact ⟨"null".toList, congrArg (List.cons _) (eq_append_of_readWord_bind read), .null⟩
  · exact ⟨"true".toList, congrArg (List.cons _) (eq_append_of_readWord_bind read), .isTrue⟩
  · exact ⟨"false".toList, congrArg (List.cons _) (eq_append_of_readWord_bind read), .isFalse⟩
  · simp [Token.isWordCharacter] at word
  · split at read
    · rcases bind_eq_ok_iff.mp read with ⟨⟨written, after⟩, isWritten, isJson⟩
      simp only at isJson
      split at isJson
      · cases isJson
        exact isLiteralWord_of_readWrittenNumber word isWritten
      · contradiction
    · contradiction

theorem isLiteralWord_of_literal? {text : String} {value : Value}
    (wellFormed : (Token.word text).WellFormed) (isLiteral : literal? text = some value) :
    IsLiteralWord text := by
  have word := List.all_eq_true.mp wellFormed.2
  unfold literal? at isLiteral
  split at isLiteral
  · contradiction
  · next json _ readAll =>
      rcases Json.readAll_eq_ok_iff.mp readAll with ⟨rest, read, blank⟩
      rw [readValue_word wellFormed] at read
      rcases isLiteralWord_of_readScalar word read with ⟨front, parts, isLiteralWord⟩
      -- Blanks are no word characters, so that nothing is left after the literal.
      have noBlank : ∀ character ∈ rest.head?, Json.isBlank character = false := by
        intro character isHead
        exact Json.isBlank_of_isWordCharacter
          (word character (by simp [parts, List.mem_of_mem_head? isHead]))
      rw [Json.skipBlanks_of_head? noBlank] at blank
      have isFront : String.ofList front = text := by simp [← String.toList_inj, parts, blank]
      exact isFront ▸ isLiteralWord
  · rw [Option.map_eq_some_iff] at isLiteral
    rcases isLiteral with ⟨number, isNumber, rfl⟩
    unfold exactNumber? at isNumber
    split at isNumber
    · next written isWritten =>
        rcases isLiteralWord_of_readWrittenNumber word isWritten with
            ⟨front, parts, isLiteralWord⟩
        have isFront : String.ofList front = text := by simp [← String.toList_inj, parts]
        exact isFront ▸ isLiteralWord
    · contradiction

theorem classify_eq_identifier_iff {text : String} (wellFormed : (Token.word text).WellFormed) :
    classify text = .identifier text ↔ ¬IsLiteralWord text := by
  constructor
  · intro isName isLiteralWord
    rcases exists_literal_classify_of_isLiteralWord isLiteralWord with ⟨value, isLiteral⟩
    rw [isName] at isLiteral
    contradiction
  · intro noLiteral
    rw [classify, unquote?_word wellFormed]
    cases isLiteral : literal? text with
    | none => rfl
    | some value => exact absurd (isLiteralWord_of_literal? wellFormed isLiteral) noLiteral

theorem isLiteralWord_iff {text : String} :
    IsLiteralWord text ↔ text = "null" ∨ text = "true" ∨ text = "false" ∨
      Json.IsDigits (text.toList.takeWhile Char.isDigit) ∧
        ((text.toList.takeWhile Char.isDigit).head? = some '0' →
          text.toList.takeWhile Char.isDigit = ['0']) ∧
        Json.IsUnsignedExponent (text.toList.dropWhile Char.isDigit) := by
  constructor
  · intro isLiteralWord
    cases isLiteralWord with
    | null => simp
    | isTrue => simp
    | isFalse => simp
    | @number _ whole exponent characters isDigits noLeadingZero isExponent =>
        have ends : ∀ character ∈ exponent.head?, character.isDigit = false := by
          intro character isHead
          rcases isExponent.head?_cases isHead with rfl | rfl <;> rfl
        rcases Token.takeWhile_append_boundary isDigits.2 ends with ⟨isWhole, isRest⟩
        rw [characters, isWhole, isRest]
        exact .inr (.inr (.inr ⟨isDigits, noLeadingZero, isExponent⟩))
  · rintro (rfl | rfl | rfl | ⟨isDigits, noLeadingZero, isExponent⟩)
    · exact .null
    · exact .isTrue
    · exact .isFalse
    · exact .number List.takeWhile_append_dropWhile.symm isDigits noLeadingZero isExponent

instance (text : String) : Decidable (IsLiteralWord text) :=
  decidable_of_iff _ isLiteralWord_iff.symm

end Operand

end Rulebook

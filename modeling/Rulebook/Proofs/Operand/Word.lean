import Rulebook.Proofs.Json.Scalar
import Rulebook.Proofs.Operand

/-!
What words stand for: null, a truth value, a number without sign and fraction, or else a name.
-/

namespace Rulebook.Operand

def IsWordValue : Value → Prop
  | .number number => number.IsNatural
  | .text _ => False
  | _ => True

theorem isWordValue_of_readScalar {text rest : List Char} {json : Json}
    (word : ∀ character ∈ text, Token.isWordCharacter character = true)
    (read : Json.readScalar text = .ok (json, rest)) :
    ∃ value, json.toValue? = some value ∧ IsWordValue value := by
  unfold Json.readScalar at read
  split at read
  · cases read
  · rcases bind_eq_ok_iff.mp read with ⟨⟨⟨⟩, after⟩, -, isJson⟩
    cases isJson
    exact ⟨.null, rfl, trivial⟩
  · rcases bind_eq_ok_iff.mp read with ⟨⟨⟨⟩, after⟩, -, isJson⟩
    cases isJson
    exact ⟨.boolean true, rfl, trivial⟩
  · rcases bind_eq_ok_iff.mp read with ⟨⟨⟨⟩, after⟩, -, isJson⟩
    cases isJson
    exact ⟨.boolean false, rfl, trivial⟩
  · simp [Token.isWordCharacter] at word
  · split at read
    · rcases bind_eq_ok_iff.mp read with ⟨⟨written, after⟩, isWritten, isJson⟩
      rcases Json.readWrittenNumber_of_word word isWritten with ⟨noSign, noFraction, nonneg⟩
      simp only at isJson
      split at isJson
      · next json isJson? =>
          cases isJson
          rcases Json.WrittenNumber.isNatural_of_toJson? noSign noFraction nonneg isJson? with
              ⟨number, natural, isNumber⟩
          exact ⟨.number number, isNumber, natural⟩
      · contradiction
    · contradiction

theorem isNatural_of_exactNumber? {text : List Char} {number : Number}
    (word : ∀ character ∈ text, Token.isWordCharacter character = true)
    (read : exactNumber? text = some number) : number.IsNatural := by
  unfold exactNumber? at read
  split at read
  · next written isWritten =>
      cases read
      rcases Json.readWrittenNumber_of_word word isWritten with ⟨noSign, noFraction, nonneg⟩
      refine ⟨noSign, Magnitude.isWhole_ofDecimal ?_⟩
      simpa [Numeral.decimal, noFraction] using nonneg
  · contradiction

theorem readValue_word {text : String} (wellFormed : (Token.word text).WellFormed)
    (depth : Nat) : Json.readValue depth text.toList = Json.readScalar text.toList := by
  have word := List.all_eq_true.mp wellFormed.2
  apply Json.readValue_of_head?
  · intro character isHead
    exact Json.isBlank_of_isWordCharacter (word character (List.mem_of_mem_head? isHead))
  · exact ⟨Token.head?_ne_of_word word (by decide), Token.head?_ne_of_word word (by decide)⟩

theorem isWordValue_of_literal? {text : String} {value : Value}
    (wellFormed : (Token.word text).WellFormed) (isLiteral : literal? text = some value) :
    IsWordValue value := by
  have word := List.all_eq_true.mp wellFormed.2
  unfold literal? at isLiteral
  split at isLiteral
  · contradiction
  · next json _ readAll =>
      rcases Json.readAll_eq_ok_iff.mp readAll with ⟨rest, read, -⟩
      rw [readValue_word wellFormed] at read
      rcases isWordValue_of_readScalar word read with ⟨other, isOther, isWordValue⟩
      rw [isOther, Option.some.injEq] at isLiteral
      exact isLiteral ▸ isWordValue
  · rw [Option.map_eq_some_iff] at isLiteral
    rcases isLiteral with ⟨number, isNumber, rfl⟩
    exact isNatural_of_exactNumber? word isNumber

theorem unquote?_word {text : String} (wellFormed : (Token.word text).WellFormed) :
    unquote? text.toList = none := by
  rcases wellFormed with ⟨notEmpty, word⟩
  rcases List.exists_cons_of_ne_nil notEmpty with ⟨first, others, characters⟩
  rw [characters, List.all_cons, Bool.and_eq_true] at word
  have noMark : ¬(first = '"' ∨ first = '\'') := by
    rintro (rfl | rfl) <;> exact absurd word.1 (by decide)
  simp [characters, unquote?, noMark]

/-- A word is a name or stands for null, a truth value or a number without sign and fraction. -/
theorem classify_word {text : String} (wellFormed : (Token.word text).WellFormed) :
    classify text = .identifier text ∨
      ∃ value, IsWordValue value ∧ classify text = .literal value := by
  rw [classify, unquote?_word wellFormed]
  cases isLiteral : literal? text with
  | none => exact .inl rfl
  | some value => exact .inr ⟨value, isWordValue_of_literal? wellFormed isLiteral, rfl⟩

/-! ## Numbers -/

theorem readAll_number {text : String} (wellFormed : (Token.word text).WellFormed)
    (starts : ∀ character ∈ text.toList.head?, character.isDigit = true)
    {written : Json.WrittenNumber}
    (isWritten : Json.readWrittenNumber text.toList = .ok (written, [])) :
    Json.readAll (Json.readValue Json.depthLimit) text =
      written.toJson?.elim (.error .malformed) .ok := by
  rcases List.exists_cons_of_ne_nil wellFormed.1 with ⟨first, others, characters⟩
  have isDigit : first.isDigit = true := starts first (by rw [characters]; rfl)
  rw [Json.readAll, readValue_word wellFormed, characters,
    Json.readScalar_cons_of_digit (.inr isDigit), ← characters, Json.readNumber, isWritten]
  simp only [ok_bind]
  cases written.toJson? <;> rfl

theorem exists_number_classify {text : String} (wellFormed : (Token.word text).WellFormed)
    (starts : ∀ character ∈ text.toList.head?, character.isDigit = true)
    {written : Json.WrittenNumber}
    (isWritten : Json.readWrittenNumber text.toList = .ok (written, [])) :
    ∃ number, classify text = .literal (.number number) := by
  have isRead := readAll_number wellFormed starts isWritten
  rw [classify, unquote?_word wellFormed, literal?, isRead]
  cases isJson : written.toJson? with
  | some json =>
      rcases Json.WrittenNumber.exists_number_of_toJson? isJson with ⟨number, isNumber⟩
      cases json with
      | string value => simp [Json.toValue?] at isNumber
      | _ => exact ⟨number, by simp only [Option.elim_some, isNumber]⟩
  | none =>
      refine ⟨written.numeral.number, ?_⟩
      simp only [Option.elim_none, exactNumber?, isWritten, Option.map_some]

/-! ## Digits -/

theorem readWrittenNumber_digits {text : String} (isDigits : Json.IsDigits text.toList)
    (noLeadingZero : text.toList.head? = some '0' → text.toList = ['0']) :
    Json.readWrittenNumber text.toList = .ok ((Json.Spelling.ofDigits text.toList).number, []) := by
  have isWritten := Json.Spelling.readWrittenNumber_text
    (Json.Spelling.valid_ofDigits isDigits noLeadingZero) Json.endsNumber_nil
  rwa [Json.Spelling.text_ofDigits, List.append_nil] at isWritten

theorem exists_number_classify_digits {text : String} (isDigits : Json.IsDigits text.toList)
    (noLeadingZero : text.toList.head? = some '0' → text.toList = ['0']) :
    ∃ number, classify text = .literal (.number number) :=
  exists_number_classify isDigits.wellFormed
    (fun character isHead => isDigits.2 character (List.mem_of_mem_head? isHead))
    (readWrittenNumber_digits isDigits noLeadingZero)

theorem classify_digits {text : String} (isDigits : Json.IsDigits text.toList)
    (noLeadingZero : text.toList.head? = some '0' → text.toList = ['0'])
    (fits : Word.fits (Numeral.digitsValue text.toList) = true) :
    classify text = .literal (.number (.ofNat (Numeral.digitsValue text.toList))) := by
  have isRead := readAll_number isDigits.wellFormed
    (fun character isHead => isDigits.2 character (List.mem_of_mem_head? isHead))
    (readWrittenNumber_digits isDigits noLeadingZero)
  rw [Json.toJson?_ofDigits fits, Option.elim_some] at isRead
  have isNatural : Number.ofInt (Numeral.digitsValue text.toList) =
      .ofNat (Numeral.digitsValue text.toList) := by
    simp [Number.ofInt, Number.ofNat]
  rw [classify, unquote?_word isDigits.wellFormed, literal?, isRead]
  simp only [Json.toValue?, isNatural]

end Rulebook.Operand

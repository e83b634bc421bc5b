import Rulebook.Proofs.Token.Balance
import Rulebook.Proofs.Token.Cutting

/-!
Texts that can stand between parentheses. The tokens of a text stay the same in front of a closing
parenthesis, unless a mark dangles in the text: it could find its partner further on.
-/

namespace Rulebook

open Token (readCharacters isWordCharacter)

namespace Cutting

def gaps : Cutting → List (List Char)
  | last gap => [gap]
  | next gap _ rest => gap :: rest.gaps

def MarksPaired (cutting : Cutting) : Prop :=
  ∀ gap ∈ cutting.gaps, ∀ character ∈ gap, character ∉ ['"', '\'']

/-! ## In front of a closing parenthesis -/

variable {before after : List Char}

theorem Skippable.append_closing {character : Char} (noMark : character ∉ ['"', '\''])
    (skippable : Skippable character after) (rest : List Char) :
    Skippable character (after ++ ')' :: rest) := by
  rcases skippable with ⟨other, noSign, noEqual, noAnd, noOr, -⟩
  cases after <;> simp_all [Skippable]

theorem IsGap.append_closing {gap : List Char}
    (noMark : ∀ character ∈ gap, character ∉ ['"', '\''])
    (isGap : IsGap gap after) (rest : List Char) : IsGap gap (after ++ ')' :: rest) := by
  rintro front character back rfl
  rw [← List.append_assoc]
  exact (isGap front character back rfl).append_closing (noMark character (by simp)) rest

theorem IsLexeme.append_closing {lexeme : List Char} (isLexeme : IsLexeme before after lexeme)
    (rest : List Char) : IsLexeme before (after ++ ')' :: rest) lexeme := by
  cases isLexeme with
  | word notEmpty all startsHere ends =>
      refine .word notEmpty all startsHere ?_
      cases after with
      | nil => exact Token.endsWord_cons (by decide) rest
      | cons character after => exact ends
  | quoted absent => exact .quoted absent
  | oneSign sign ends =>
      refine .oneSign sign ?_
      cases after with
      | nil => simp
      | cons character after => exact ends
  | twoSigns signs => exact .twoSigns signs
  | parenthesis mark => exact .parenthesis mark

/-! ## The tokens of the parts -/

theorem readCharacters_gap_append {gap : List Char} (isGap : IsGap gap after) :
    readCharacters (gap ++ after) = readCharacters after := by
  induction gap with
  | nil => rfl
  | cons character gap induction =>
      rcases isGap_cons_iff.mp isGap with ⟨skippable, isGapLater⟩
      rw [List.cons_append, Token.readCharacters_of_startingAt?_eq_none
        (Token.startingAt?_eq_none_iff.mpr skippable), induction isGapLater]

theorem readCharacters_lexeme_append {lexeme : List Char}
    (isLexeme : IsLexeme before after lexeme) :
    ∃ token, Token.ofLexeme lexeme = .ok token ∧
      readCharacters (lexeme ++ after) = token :: readCharacters after := by
  rcases Token.exists_startingAt?_of_isLexeme isLexeme with
    ⟨token, spelled, -, first, others, rfl, found⟩
  exact ⟨token, spelled, Token.readCharacters_of_startingAt? found⟩

theorem readCharacters_text_append {cutting : Cutting} (follows : cutting.Follows before)
    (paired : cutting.MarksPaired) (rest : List Char) :
    readCharacters (cutting.text ++ ')' :: rest) =
      readCharacters cutting.text ++ readCharacters (')' :: rest) := by
  induction cutting generalizing before with
  | last gap =>
      have isGap : IsGap gap [] := follows
      have noMark := paired gap (by simp [gaps])
      -- A gap is read as nothing in both places: by itself and in front of the parenthesis.
      have alone := readCharacters_gap_append isGap
      have enclosed := readCharacters_gap_append (isGap.append_closing noMark rest)
      rw [List.append_nil, Token.readCharacters_nil] at alone
      rw [text, alone]
      exact enclosed
  | next gap lexeme later induction =>
      rcases follows with ⟨isGap, isLexeme, followsLater⟩
      rw [MarksPaired, gaps, List.forall_mem_cons] at paired
      have laterTokens := induction followsLater paired.2
      have alone := readCharacters_gap_append isGap
      have enclosed := readCharacters_gap_append (isGap.append_closing paired.1 rest)
      rcases readCharacters_lexeme_append isLexeme with ⟨token, spelled, tokens⟩
      rcases readCharacters_lexeme_append (isLexeme.append_closing rest) with
        ⟨other, otherSpelled, otherTokens⟩
      have same : other = token := by simpa [spelled] using otherSpelled.symm
      rw [List.append_assoc] at enclosed
      rw [text, List.append_assoc, List.append_assoc, List.append_assoc, enclosed, alone, tokens,
        otherTokens, laterTokens, same, List.cons_append]

end Cutting

/-- The text can stand between parentheses: its own parentheses have their partners, and no mark
stands outside of its quoted texts. A text is cut in one way only. -/
def ClosedText (source : String) : Prop :=
  Token.Balanced (Token.read source) ∧
    ∃ cutting : Cutting,
      cutting.text = source.toList ∧ cutting.Follows [] ∧ cutting.MarksPaired

theorem ClosedText.spells_group {source : String} (closed : ClosedText source) :
    Token.Spells ('(' :: source.toList ++ [')'])
      (.opening :: Token.read source ++ [.closing]) := by
  rcases closed with ⟨-, cutting, isCut, follows, paired⟩
  intro rest ends
  have inside := Cutting.readCharacters_text_append follows paired rest
  rw [isCut] at inside
  simp only [List.append_assoc, List.cons_append, List.nil_append]
  rw [Token.readCharacters_opening, inside, Token.readCharacters_closing]
  rfl

end Rulebook

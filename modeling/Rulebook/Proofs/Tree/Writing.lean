import Rulebook.Proofs.Token.Spelling
import Rulebook.Proofs.Tree.Shape

/-!
The tokens that the text of a tree is cut into, and the tree that they spell: the tree itself,
except that numbers are read anew.
-/

namespace Rulebook

def Value.Writable : Value → Prop
  | .text value => ¬('"' ∈ value.toList ∧ '\'' ∈ value.toList)
  | .number value => (Token.word value.text).WellFormed
  | _ => True

namespace Tree

def Writable : Tree → Prop
  | identifier name => (Token.word name).WellFormed ∧ Operand.classify name = .identifier name
  | literal value => value.Writable
  | expression _ left right => left.Writable ∧ right.Writable

def rereadNumbers : Tree → Tree
  | literal (.number number) => Operand.classify number.text
  | expression operator left right =>
      .expression operator left.rereadNumbers right.rereadNumbers
  | leaf => leaf

/-! ## The tokens of the text -/

def literalToken : Value → Token
  | .text value => .quoted (if '\'' ∈ value.toList then .double else .single) value
  | value => .word value.display

def sideTokens : Tree → List Token
  | identifier name => [.word name]
  | literal value => [literalToken value]
  | expression operator left right =>
      .opening :: left.sideTokens ++ .operator operator :: right.sideTokens ++ [.closing]

def tokens : Tree → List Token
  | expression operator left right => left.sideTokens ++ .operator operator :: right.sideTokens
  | leaf => leaf.sideTokens

theorem operand?_literalToken (value : Value) :
    (literalToken value).operand? = some (literalText value) := by
  cases value <;> rfl

theorem wellFormed_literalToken {value : Value} (writable : value.Writable) :
    (literalToken value).WellFormed := by
  cases value with
  | null => decide
  | boolean value => cases value <;> decide
  | number value => exact writable
  | text value =>
      by_cases single : '\'' ∈ value.toList
      · have double : '"' ∉ value.toList := fun double => writable ⟨double, single⟩
        simpa [literalToken, single, Token.WellFormed, Quote.mark] using double
      · simp [literalToken, single, Token.WellFormed, Quote.mark]

theorem classify_literalText (value : Value) :
    Operand.classify (literalText value) = (literal value).rereadNumbers := by
  cases value with
  | null => exact Operand.classify_display_null
  | boolean value => exact Operand.classify_display_boolean value
  | number value => rfl
  | text value => exact Operand.classify_enclose _ _

theorem spells_sideTokens {tree : Tree} (writable : tree.Writable) :
    Token.Spells tree.sideText.toList tree.sideTokens := by
  induction tree with
  | identifier name => exact .operand writable.1 rfl
  | literal value =>
      exact .operand (wellFormed_literalToken writable) (operand?_literalToken value)
  | expression operator left right leftInduction rightInduction =>
      have joined := (leftInduction writable.1).joined operator (rightInduction writable.2)
      simpa [sideText, sideTokens] using joined.group

theorem tokens_read_text {tree : Tree} (writable : tree.Writable) :
    Token.read tree.text = tree.tokens := by
  cases tree with
  | identifier name => exact (spells_sideTokens writable).readCharacters_eq
  | literal value => exact (spells_sideTokens writable).readCharacters_eq
  | expression operator left right =>
      have joined :=
        (spells_sideTokens writable.1).joined operator (spells_sideTokens writable.2)
      simpa [Token.read, text, tokens] using joined.readCharacters_eq

/-! ## The grammar of the tokens -/

theorem sideTokens_of_isExpression {tree : Tree} (isExpression : tree.isExpression = true) :
    tree.sideTokens = .opening :: tree.tokens ++ [.closing] := by
  cases tree with
  | expression => simp [sideTokens, tokens]
  | _ => contradiction

theorem sideTokens_of_leaf {tree : Tree} (writable : tree.Writable)
    (leaf : tree.isExpression = false) :
    ∃ token text, tree.sideTokens = [token] ∧ token.operand? = some text ∧
      Operand.classify text = tree.rereadNumbers := by
  cases tree with
  | identifier name => exact ⟨.word name, name, rfl, rfl, writable.2⟩
  | literal value =>
      exact ⟨literalToken value, literalText value, rfl, operand?_literalToken value,
        classify_literalText value⟩
  | expression => contradiction

theorem level_rereadNumbers {tree : Tree} (writable : tree.Writable)
    (isExpression : tree.isExpression = true) (fits : tree.Fits) :
    Grammar.Level tree.tokens tree.rereadNumbers := by
  induction tree with
  | identifier name => contradiction
  | literal value => contradiction
  | expression operator left right leftInduction rightInduction =>
      rcases fits with ⟨leftKind, rightKind, leftFits, rightFits⟩
      cases logical : operator.isLogical with
      | true =>
          rw [logical] at leftKind rightKind
          have leftLevel := leftInduction writable.1 leftKind leftFits
          have rightLevel := rightInduction writable.2 rightKind rightFits
          rw [tokens, sideTokens_of_isExpression leftKind, sideTokens_of_isExpression rightKind]
          exact .joined (.group leftLevel) logical (.single (.group rightLevel))
      | false =>
          rw [logical] at leftKind rightKind
          rcases sideTokens_of_leaf writable.1 leftKind with
              ⟨leftToken, leftText, leftTokens, leftOperand, isLeft⟩
          rcases sideTokens_of_leaf writable.2 rightKind with
              ⟨rightToken, rightText, rightTokens, rightOperand, isRight⟩
          rw [tokens, rereadNumbers, leftTokens, rightTokens, ← isLeft, ← isRight]
          exact .single (.comparison leftOperand (by simp [Operator.isComparison, logical])
            rightOperand)

/-- A tree of the shape that rule texts have is read back from its text, with its numbers read
anew. -/
theorem read_text_of_writable {tree : Tree} (writable : tree.Writable)
    (isExpression : tree.isExpression = true) (fits : tree.Fits) :
    Tree.read tree.text = .ok (some tree.rereadNumbers) :=
  Grammar.read_of_level (tokens_read_text writable)
    (level_rereadNumbers writable isExpression fits)

end Tree

end Rulebook

import Rulebook.Proofs.Tree.Writing

/-!
Trees written as rule text and read again. A tree whose leaves can be written comes back exactly if
its operators stand between sides of their kind, which is the shape that rule texts can spell.
-/

namespace Rulebook

/-- The value can be written as a literal: a text lacks one of the two marks, and a number is
written in word characters that stand for an equal number. -/
def Value.Printable : Value → Prop
  | .text value => ¬('"' ∈ value.toList ∧ '\'' ∈ value.toList)
  | .number value =>
      value.text.toList.all Token.isWordCharacter = true ∧
        ∃ reread, Operand.classify value.text = .literal (.number reread) ∧
          reread.equals value = true
  | _ => True

namespace Tree

def Printable : Tree → Prop
  | identifier name => (Token.word name).WellFormed ∧ Operand.classify name = .identifier name
  | literal value => value.Printable
  | expression _ left right => left.Printable ∧ right.Printable

theorem Printable.writable {tree : Tree} (printable : tree.Printable) : tree.Writable := by
  induction tree with
  | identifier name => exact printable
  | literal value =>
      cases value with
      | number value =>
          rcases printable with ⟨all, reread, classified, -⟩
          have notEmpty : value.text.toList ≠ [] := by
            intro empty
            rw [String.toList_eq_nil_iff] at empty
            simp [empty, Operand.classify_empty] at classified
          exact ⟨notEmpty, all⟩
      | _ => exact printable
  | expression operator left right leftInduction rightInduction =>
      exact ⟨leftInduction printable.1, rightInduction printable.2⟩

theorem Printable.rereadNumbers_equals {tree : Tree} (printable : tree.Printable) :
    tree.rereadNumbers.equals tree = true := by
  induction tree with
  | identifier name => simp [rereadNumbers, equals]
  | literal value =>
      cases value with
      | number value =>
          rcases printable with ⟨-, reread, classified, equal⟩
          simp [rereadNumbers, classified, equals, Value.strictlyEquals, equal]
      | _ => simp [rereadNumbers, equals, Value.strictlyEquals]
  | expression operator left right leftInduction rightInduction =>
      simp [rereadNumbers, equals, leftInduction printable.1, rightInduction printable.2]

theorem read_text {tree : Tree} (printable : tree.Printable) :
    Token.read tree.text = tree.tokens :=
  tokens_read_text printable.writable

theorem level_tokens {tree : Tree} (printable : tree.Printable)
    (isExpression : tree.isExpression = true) (fits : tree.Fits) :
    ∃ other, Grammar.Level tree.tokens other ∧ other.equals tree = true :=
  ⟨tree.rereadNumbers, level_rereadNumbers printable.writable isExpression fits,
    printable.rereadNumbers_equals⟩

/-- A tree whose leaves can be written is read back from its text, as an equal tree, exactly if it
is an expression in which comparisons stand between leaves and logical operators between
expressions. -/
theorem read_text_equals_iff {tree : Tree} (printable : tree.Printable) :
    (∃ other, Tree.read tree.text = .ok (some other) ∧ other.equals tree = true) ↔
      tree.isExpression = true ∧ tree.Fits := by
  simp only [Tree.read, Grammar.ofTokens_eq_some_iff]
  constructor
  · intro given
    rcases given with ⟨other, level, equal⟩
    rcases level.shape with ⟨isExpression, fits⟩
    exact ⟨isExpression_eq_of_equals equal ▸ isExpression, fits_of_equals equal fits⟩
  · intro given
    rcases given with ⟨isExpression, fits⟩
    rcases level_tokens printable isExpression fits with ⟨other, level, equal⟩
    rw [read_text printable, level.balanced]
    exact ⟨other, level, equal⟩

theorem read_text_equals_nested :
    let comparison : Tree :=
      .expression .greaterThan (.identifier "copies") (.literal (.number (.ofNat 1)))
    let tree : Tree :=
      .expression .logicalOr (.expression .logicalAnd comparison comparison)
        (.expression .notEqual (.literal (.text "it's")) (.literal .null))
    tree.Printable ∧
      ∃ other, Tree.read tree.text = .ok (some other) ∧ other.equals tree = true := by
  intro comparison tree
  have number : (Value.number (.ofNat 1)).Printable :=
    ⟨by decide +kernel, .ofNat 1, by decide +kernel, by decide +kernel⟩
  have name : (identifier "copies").Printable := ⟨by decide, by decide +kernel⟩
  have oneMark : ¬('"' ∈ "it's".toList ∧ '\'' ∈ "it's".toList) := by decide
  have printable : tree.Printable := ⟨⟨⟨name, number⟩, name, number⟩, oneMark, trivial⟩
  have fits : tree.Fits := by simp [tree, comparison, Fits, isExpression, Operator.isLogical]
  exact ⟨printable, (read_text_equals_iff printable).mpr ⟨rfl, fits⟩⟩

end Tree

end Rulebook

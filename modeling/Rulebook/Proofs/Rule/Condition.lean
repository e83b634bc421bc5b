import Rulebook.Proofs.Evaluation
import Rulebook.Proofs.Operand.Literal
import Rulebook.Proofs.Tree.Reprinting

/-!
Rules that were read from a text are conditions. Their trees have the shape and the leaves that
operands and parentheses can spell, and their value is a truth value in every context.
-/

namespace Rulebook

namespace Number

def IsNonNegative : Number → Prop
  | nan => False
  | signed negative _ => negative = false

theorem IsNatural.isNonNegative {number : Number} (natural : number.IsNatural) :
    number.IsNonNegative := by
  cases number with
  | nan => contradiction
  | signed negative magnitude => exact natural.1

end Number

namespace Tree

/-- Every leaf is one that an operand stands for: names are words that are no literals, texts lack
one of the two marks, and numbers are not negative. -/
def LeavesSpelled : Tree → Prop
  | identifier name => (Token.word name).WellFormed ∧ ¬Operand.IsLiteralWord name
  | literal (.text value) => '"' ∉ value.toList ∨ '\'' ∉ value.toList
  | literal (.number number) => number.IsNonNegative
  | literal _ => True
  | expression _ left right => left.LeavesSpelled ∧ right.LeavesSpelled

theorem FromText.sides {operator : Operator} {left right : Tree}
    (fromText : (Tree.expression operator left right).FromText) :
    left.FromText ∧ right.FromText := by
  rcases fromText with ⟨⟨leftWritable, rightWritable⟩, natural⟩
  rw [numbers, List.forall_mem_append] at natural
  exact ⟨⟨leftWritable, natural.1⟩, rightWritable, natural.2⟩

theorem FromText.leavesSpelled {tree : Tree} (fromText : tree.FromText) : tree.LeavesSpelled := by
  induction tree with
  | identifier name =>
      rcases fromText.1 with ⟨wellFormed, isName⟩
      refine ⟨wellFormed, ?_⟩
      intro isLiteralWord
      rcases Operand.exists_literal_classify_of_isLiteralWord isLiteralWord with ⟨value, isLiteral⟩
      rw [isName] at isLiteral
      contradiction
  | literal value =>
      cases value with
      | number number => exact (fromText.2 number (by simp [numbers])).isNonNegative
      | text value => exact not_and_or.mp fromText.1
      | _ => trivial
  | expression operator left right leftInduction rightInduction =>
      exact ⟨leftInduction fromText.sides.1, rightInduction fromText.sides.2⟩

theorem equals_self_iff (tree : Tree) :
    tree.equals tree = true ↔ ∀ number ∈ tree.numbers, number ≠ .nan := by
  induction tree with
  | identifier name => simp [equals, numbers]
  | literal value =>
      cases value <;> simp [equals, Value.strictlyEquals, numbers, Number.equals_self_iff]
  | expression operator left right leftInduction rightInduction =>
      simp only [equals, beq_self_eq_true, Bool.true_and, Bool.and_eq_true, leftInduction,
        rightInduction, numbers, List.forall_mem_append]

theorem exists_boolean_of_read {source : String} {tree : Tree}
    (read : Tree.read source = .ok (some tree)) (context : Context) (mode : ComparisonMode) :
    ∃ holds, tree.evaluate context mode = .boolean holds := by
  have level := Grammar.ofTokens_eq_some_iff.mp read
  exact exists_boolean_evaluate level.shape.1 context mode

end Tree

namespace Rule

theorem rule_readOrAlwaysTrue_of_ok {source : String} {tree? : Option Tree}
    (read : Tree.read source = .ok tree?) : (readOrAlwaysTrue source).rule = ⟨tree?⟩ := by
  simp [readOrAlwaysTrue, Rule.read, read, ok_bind]

theorem rule_readOrAlwaysTrue_of_error {source : String} {error : RuleError}
    (refused : Tree.read source = .error error) : (readOrAlwaysTrue source).rule = alwaysTrue := by
  simp [readOrAlwaysTrue, Rule.read, refused, error_bind]

/-- A tree that is read from a text is a condition of the shape that texts can spell, its leaves are
what operands stand for, and it equals itself. So the rule of a text has a truth value in every
context; a text that cannot be read, or holds nothing to read, is no exception. -/
theorem read_gives_condition (source : String) :
    (∀ tree, Tree.read source = .ok (some tree) →
      tree.isExpression = true ∧ tree.Fits ∧ tree.LeavesSpelled ∧ tree.equals tree = true) ∧
    ∀ context mode, ∃ holds,
      (readOrAlwaysTrue source).rule.evaluate context mode = .boolean holds := by
  constructor
  · intro tree read
    have fromText := Tree.fromText_of_read read
    rcases (Grammar.ofTokens_eq_some_iff.mp read).shape with ⟨isExpression, fits⟩
    have noNaN : ∀ number ∈ tree.numbers, number ≠ .nan :=
      fun number member => (fromText.2 number member).ne_nan
    exact ⟨isExpression, fits, fromText.leavesSpelled, tree.equals_self_iff.mpr noNaN⟩
  · intro context mode
    cases read : Tree.read source with
    | error error =>
        rw [rule_readOrAlwaysTrue_of_error read]
        exact ⟨true, rfl⟩
    | ok tree? =>
        rw [rule_readOrAlwaysTrue_of_ok read]
        cases tree? with
        | none => exact ⟨true, rfl⟩
        | some tree => exact Tree.exists_boolean_of_read read context mode

theorem read_gives_condition_unclosed :
    let source := "007 <= 1e400 && (mode != 'a\"b' || NULL = null"
    let tree : Tree :=
      .expression .logicalAnd
        (.expression .lowerThanEqual (.identifier "007") (.literal (.number (.infinity false))))
        (.expression .logicalOr
          (.expression .notEqual (.identifier "mode") (.literal (.text "a\"b")))
          (.expression .equal (.identifier "NULL") (.literal .null)))
    Tree.read source = .ok (some tree) ∧ tree.isExpression = true ∧ tree.Fits ∧
      tree.LeavesSpelled ∧ tree.equals tree = true := by
  intro source tree
  have read : Tree.read source = .ok (some tree) := by decide +kernel
  exact ⟨read, (read_gives_condition source).1 tree read⟩

end Rule

end Rulebook

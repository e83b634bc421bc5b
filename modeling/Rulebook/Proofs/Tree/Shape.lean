import Rulebook.Proofs.Operand
import Rulebook.Proofs.Tree.Grammar

/-!
The shape of the trees that a rule text can spell: comparisons stand between leaves, logical
operators between expressions.
-/

namespace Rulebook

namespace Tree

/-- Every comparison of the tree has two leaves as its sides, and every logical operator two
expressions. -/
def Fits : Tree → Prop
  | expression operator left right =>
      left.isExpression = operator.isLogical ∧ right.isExpression = operator.isLogical ∧
        left.Fits ∧ right.Fits
  | _ => True

theorem fits_of_isExpression_eq_false {tree : Tree} (leaf : tree.isExpression = false) :
    tree.Fits := by
  cases tree with
  | expression => simp [isExpression] at leaf
  | _ => trivial

theorem isExpression_eq_of_equals {left right : Tree} (equal : left.equals right = true) :
    left.isExpression = right.isExpression := by
  cases left <;> cases right <;> simp_all [equals, isExpression]

theorem fits_of_equals {left right : Tree} (equal : left.equals right = true)
    (fits : left.Fits) : right.Fits := by
  induction left generalizing right with
  | identifier name => exact fits_of_isExpression_eq_false (isExpression_eq_of_equals equal).symm
  | literal value => exact fits_of_isExpression_eq_false (isExpression_eq_of_equals equal).symm
  | expression operator a b aInduction bInduction =>
      cases right with
      | expression otherOperator c d =>
          simp only [equals, Bool.and_eq_true, beq_iff_eq] at equal
          rcases equal with ⟨⟨rfl, aEqual⟩, bEqual⟩
          rcases fits with ⟨aKind, bKind, aFits, bFits⟩
          exact ⟨isExpression_eq_of_equals aEqual ▸ aKind, isExpression_eq_of_equals bEqual ▸ bKind,
            aInduction aEqual aFits, bInduction bEqual bFits⟩
      | _ => simp [equals] at equal

end Tree

namespace Grammar

mutual
theorem Term.shape {tokens : List Token} {tree : Tree} :
    Term tokens tree → tree.isExpression = true ∧ tree.Fits
  | @Term.comparison _ _ _ _ sign _ comparison _ => by
      have notLogical : sign.isLogical = false := by simpa [Operator.isComparison] using comparison
      refine ⟨rfl, ?_, ?_, ?_, ?_⟩
      · rw [Operand.isExpression_classify, notLogical]
      · rw [Operand.isExpression_classify, notLogical]
      · exact Tree.fits_of_isExpression_eq_false (Operand.isExpression_classify _)
      · exact Tree.fits_of_isExpression_eq_false (Operand.isExpression_classify _)
  | .group level => level.shape

theorem Level.shape {tokens : List Token} {tree : Tree} :
    Level tokens tree → tree.isExpression = true ∧ tree.Fits
  | .single term => term.shape
  | .joined term logical level => by
      rcases term.shape with ⟨leftKind, leftFits⟩
      rcases level.shape with ⟨rightKind, rightFits⟩
      exact ⟨rfl, by rw [leftKind, logical], by rw [rightKind, logical], leftFits, rightFits⟩
end

end Grammar

end Rulebook

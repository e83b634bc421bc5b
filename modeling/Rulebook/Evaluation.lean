import Rulebook.Context.Basic
import Rulebook.Tree.Basic

/-!
The value of a tree. Both sides of an operator are always evaluated. The evaluator walks along the
right sides in a loop and calls itself on left sides only, so that long chains do not nest calls.
-/

namespace Rulebook

namespace Operator

def holds (operator : Operator) (mode : ComparisonMode) (left right : Value) : Bool :=
  match operator with
  | equal => mode.equals left right
  | notEqual => !mode.equals left right
  | lowerThan => (mode.order? left right).any Ordering.isLT
  | lowerThanEqual => (mode.order? left right).any Ordering.isLE
  | greaterThan => (mode.order? left right).any Ordering.isGT
  | greaterThanEqual => (mode.order? left right).any Ordering.isGE
  | logicalAnd => left.isTruthy && right.isTruthy
  | logicalOr => left.isTruthy || right.isTruthy

def apply (operator : Operator) (mode : ComparisonMode) (left right : Value) : Value :=
  .boolean (operator.holds mode left right)

end Operator

namespace Tree

/-- Applies the operators met on the way, the latest first, to the values of their left sides and
what has been found on the right. -/
def settle (mode : ComparisonMode) (pending : List (Operator × Value)) (value : Value) : Value :=
  pending.foldl (fun right (operator, left) => operator.apply mode left right) value

/-- Walks along the right sides, keeping each operator with the value of its left side. -/
def walk (context : Context) (mode : ComparisonMode) : Tree → List (Operator × Value) → Value
  | literal value, pending => settle mode pending value
  | identifier name, pending => settle mode pending (context.resolve name)
  | expression operator left right, pending =>
    walk context mode right ((operator, walk context mode left []) :: pending)

def evaluate (tree : Tree) (context : Context) (mode : ComparisonMode) : Value :=
  tree.walk context mode []

end Tree

end Rulebook

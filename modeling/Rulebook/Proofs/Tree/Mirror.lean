import Rulebook.Proofs.Evaluation
import Rulebook.Proofs.Text.Units

/-!
Rules written from the other side. Where the sides of every operator are exchanged, and below for
above, each comparison is the same as before, and so is the value of the tree.
-/

namespace Rulebook

namespace Value

theorem strictlyEquals_comm (left right : Value) :
    left.strictlyEquals right = right.strictlyEquals left := by
  cases left <;> cases right <;> simp only [strictlyEquals, Number.equals_comm, Bool.beq_comm]

theorem looselyEquals_comm (left right : Value) :
    left.looselyEquals right = right.looselyEquals left := by
  cases left <;> cases right <;> simp only [looselyEquals, Number.equals_comm, Bool.beq_comm]

theorem swap_strictOrder? (left right : Value) :
    (left.strictOrder? right).map Ordering.swap = right.strictOrder? left := by
  cases left <;> cases right <;> simp only [strictOrder?, Option.map_none, Option.map_some,
    Number.swap_compare?, Option.some.injEq]
  exact Std.OrientedCmp.eq_swap.symm

theorem swap_looseOrder? (left right : Value) :
    (left.looseOrder? right).map Ordering.swap = right.looseOrder? left := by
  cases left <;> cases right <;> simp only [looseOrder?, Option.map_some, Number.swap_compare?,
    Option.some.injEq]
  exact Std.OrientedCmp.eq_swap.symm

end Value

namespace ComparisonMode

variable (mode : ComparisonMode) (left right : Value)

theorem equals_comm : mode.equals left right = mode.equals right left := by
  cases mode with
  | loose => exact Value.looselyEquals_comm left right
  | strict => exact Value.strictlyEquals_comm left right

theorem swap_order? : (mode.order? left right).map Ordering.swap = mode.order? right left := by
  cases mode with
  | loose => exact Value.swap_looseOrder? left right
  | strict => exact Value.swap_strictOrder? left right

end ComparisonMode

namespace Operator

def mirrored : Operator → Operator
  | lowerThan => greaterThan
  | lowerThanEqual => greaterThanEqual
  | greaterThan => lowerThan
  | greaterThanEqual => lowerThanEqual
  | operator => operator

theorem holds_mirrored (operator : Operator) (mode : ComparisonMode) (left right : Value) :
    operator.mirrored.holds mode right left = operator.holds mode left right := by
  -- What a test says of an order, the test for the other way round says of the order swapped.
  have byOrder (test mirrorTest : Ordering → Bool)
      (sameTest : ∀ ordering : Ordering, mirrorTest ordering.swap = test ordering) :
      (mode.order? right left).any mirrorTest = (mode.order? left right).any test := by
    rw [← mode.swap_order? left right]
    cases mode.order? left right with
    | none => rfl
    | some ordering => exact sameTest ordering
  cases operator with
  | equal => exact mode.equals_comm right left
  | notEqual => exact congrArg (!·) (mode.equals_comm right left)
  | lowerThan => exact byOrder _ _ fun ordering => by cases ordering <;> rfl
  | lowerThanEqual => exact byOrder _ _ fun ordering => by cases ordering <;> rfl
  | greaterThan => exact byOrder _ _ fun ordering => by cases ordering <;> rfl
  | greaterThanEqual => exact byOrder _ _ fun ordering => by cases ordering <;> rfl
  | logicalAnd => exact Bool.and_comm _ _
  | logicalOr => exact Bool.or_comm _ _

end Operator

namespace Tree

def mirror : Tree → Tree
  | expression operator left right => .expression operator.mirrored right.mirror left.mirror
  | leaf => leaf

/-- Evaluation does not see on which side an operand is written: a tree and its mirror image have
the same value, whatever their shape. -/
theorem evaluate_mirror (tree : Tree) (context : Context) (mode : ComparisonMode) :
    tree.mirror.evaluate context mode = tree.evaluate context mode := by
  induction tree with
  | identifier name => rfl
  | literal value => rfl
  | expression operator left right leftInduction rightInduction =>
      rw [mirror, evaluate_expression, evaluate_expression, leftInduction, rightInduction,
        Operator.apply, Operator.holds_mirrored, Operator.apply]

end Tree

end Rulebook

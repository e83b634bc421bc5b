import Rulebook.Proofs.Evaluation
import Rulebook.Proofs.Tree.Shape
import Rulebook.Proofs.Value.Comparison

/-!
The strict mode narrows. A rule that asks for no difference holds in the loose mode whenever it
holds in the strict one, and a rule that compares only values that are alike has one value in both.
-/

namespace Rulebook

namespace Value

theorem strictlyEquals_eq_looselyEquals {left right : Value} (alike : left.alike right = true) :
    left.strictlyEquals right = left.looselyEquals right := by
  cases left <;> cases right <;> first | rfl | contradiction

theorem looselyEquals_of_strictlyEquals {left right : Value}
    (equal : left.strictlyEquals right = true) : left.looselyEquals right = true := by
  cases left <;> cases right <;> first | contradiction | exact equal

theorem looseOrder?_of_strictOrder? {left right : Value} {ordering : Ordering}
    (order : left.strictOrder? right = some ordering) :
    left.looseOrder? right = some ordering := by
  cases alike : left.alike right with
  | false =>
      rw [strictOrder?_eq_none alike] at order
      contradiction
  | true => rw [← strictOrder?_eq_looseOrder? alike, order]

end Value

namespace Operator

theorem holds_strict_eq_loose (operator : Operator) {left right : Value}
    (alike : left.alike right = true) :
    operator.holds .strict left right = operator.holds .loose left right := by
  have equals : ComparisonMode.strict.equals left right = ComparisonMode.loose.equals left right :=
    Value.strictlyEquals_eq_looselyEquals alike
  have order : ComparisonMode.strict.order? left right = ComparisonMode.loose.order? left right :=
    Value.strictOrder?_eq_looseOrder? alike
  cases operator <;> simp only [holds, equals, order]

theorem holds_loose_of_strict {operator : Operator} (comparison : operator.isLogical = false)
    (noDifference : operator ≠ notEqual) {left right : Value}
    (holds : operator.holds .strict left right = true) :
    operator.holds .loose left right = true := by
  have byOrder {test : Ordering → Bool}
      (passes : (left.strictOrder? right).any test = true) :
      (left.looseOrder? right).any test = true := by
    cases order : left.strictOrder? right with
    | none =>
        rw [order] at passes
        contradiction
    | some ordering => rwa [Value.looseOrder?_of_strictOrder? order, ← order]
  cases operator with
  | equal => exact Value.looselyEquals_of_strictlyEquals holds
  | notEqual => contradiction
  | lowerThan => exact byOrder holds
  | lowerThanEqual => exact byOrder holds
  | greaterThan => exact byOrder holds
  | greaterThanEqual => exact byOrder holds
  | logicalAnd => contradiction
  | logicalOr => contradiction

theorem holds_of_imp {operator : Operator} (logical : operator.isLogical = true)
    {mode otherMode : ComparisonMode} {left right otherLeft otherRight : Value}
    (leftImp : left.isTruthy = true → otherLeft.isTruthy = true)
    (rightImp : right.isTruthy = true → otherRight.isTruthy = true)
    (holds : operator.holds mode left right = true) :
    operator.holds otherMode otherLeft otherRight = true := by
  cases operator <;> try contradiction
  case logicalAnd =>
      obtain ⟨leftTrue, rightTrue⟩ := Bool.and_eq_true_iff.mp holds
      exact Bool.and_eq_true_iff.mpr ⟨leftImp leftTrue, rightImp rightTrue⟩
  case logicalOr =>
      obtain leftTrue | rightTrue := Bool.or_eq_true_iff.mp holds
      · exact Bool.or_eq_true_iff.mpr (.inl (leftImp leftTrue))
      · exact Bool.or_eq_true_iff.mpr (.inr (rightImp rightTrue))

end Operator

namespace Tree

def operators : Tree → List Operator
  | expression operator left right => left.operators ++ operator :: right.operators
  | _ => []

def comparisons : Tree → List (Operator × Tree × Tree)
  | expression operator left right =>
      if operator.isLogical then left.comparisons ++ right.comparisons
      else [(operator, left, right)]
  | _ => []

variable {tree : Tree} {context : Context}

theorem operators_leaf (leaf : tree.isExpression = false) : tree.operators = [] := by
  cases tree with
  | expression => contradiction
  | _ => rfl

theorem value_leaf (leaf : tree.isExpression = false) (mode otherMode : ComparisonMode) :
    tree.value context mode = tree.value context otherMode := by
  cases tree with
  | expression => contradiction
  | _ => rfl

theorem isTruthy_value_loose (fits : tree.Fits) (noDifference : .notEqual ∉ tree.operators)
    (holds : (tree.value context .strict).isTruthy = true) :
    (tree.value context .loose).isTruthy = true := by
  induction tree with
  | identifier name => exact holds
  | literal value => exact holds
  | expression operator left right leftInduction rightInduction =>
      obtain ⟨leftKind, rightKind, leftFits, rightFits⟩ := fits
      simp only [operators, List.mem_append, List.mem_cons, not_or] at noDifference
      obtain ⟨leftNoDifference, otherOperator, rightNoDifference⟩ := noDifference
      cases logical : operator.isLogical with
      | false =>
          rw [logical] at leftKind rightKind
          rw [value, value_leaf leftKind .strict .loose,
            value_leaf rightKind .strict .loose] at holds
          exact Operator.holds_loose_of_strict logical (Ne.symm otherOperator) holds
      | true =>
          exact Operator.holds_of_imp logical (leftInduction leftFits leftNoDifference)
            (rightInduction rightFits rightNoDifference) holds

theorem value_strict_eq_loose (fits : tree.Fits) (mode : ComparisonMode)
    (alike : ∀ sign left right, (sign, left, right) ∈ tree.comparisons →
      (left.value context mode).alike (right.value context mode) = true) :
    tree.value context .strict = tree.value context .loose := by
  induction tree with
  | identifier name => rfl
  | literal value => rfl
  | expression operator left right leftInduction rightInduction =>
      obtain ⟨leftKind, rightKind, leftFits, rightFits⟩ := fits
      rw [value, value]
      cases logical : operator.isLogical with
      | false =>
          have sides := alike operator left right (by simp [comparisons, logical])
          rw [logical] at leftKind rightKind
          rw [value_leaf leftKind .strict mode, value_leaf rightKind .strict mode,
            value_leaf leftKind .loose mode, value_leaf rightKind .loose mode,
            Operator.apply, Operator.holds_strict_eq_loose operator sides, Operator.apply]
      | true =>
          simp only [comparisons, logical, if_true, List.mem_append] at alike
          have leftEqual := leftInduction leftFits fun sign a b member =>
            alike sign a b (.inl member)
          have rightEqual := rightInduction rightFits fun sign a b member =>
            alike sign a b (.inr member)
          rw [leftEqual, rightEqual]
          cases operator <;> first | rfl | contradiction

theorem value_loose_of_strict (fits : tree.Fits) (noDifference : .notEqual ∉ tree.operators)
    (holds : tree.value context .strict = .boolean true) :
    tree.value context .loose = .boolean true := by
  cases kind : tree.isExpression with
  | false => rw [value_leaf kind .loose .strict, holds]
  | true =>
      have isTruthy := isTruthy_value_loose fits noDifference (by rw [holds]; rfl)
      obtain ⟨answer, isAnswer⟩ := exists_boolean_evaluate kind context .loose
      rw [evaluate_eq_value] at isAnswer
      rw [isAnswer] at isTruthy ⊢
      exact congrArg Value.boolean isTruthy

/-- The strict mode only narrows, for all trees whose comparisons stand between leaves, as in every
tree that is read from a text. Without a comparison for difference, what is true in the strict mode
is true in the loose one; and if both sides of every comparison are numbers or both are texts, the
modes give the same. -/
theorem strict_mode_narrows :
    (∀ (tree : Tree) (context : Context), tree.Fits → .notEqual ∉ tree.operators →
      tree.evaluate context .strict = .boolean true →
      tree.evaluate context .loose = .boolean true) ∧
    (∀ (tree : Tree) (context : Context) (mode : ComparisonMode), tree.Fits →
      (∀ sign left right, (sign, left, right) ∈ tree.comparisons →
        (left.evaluate context mode).alike (right.evaluate context mode) = true) →
      tree.evaluate context .strict = tree.evaluate context .loose) ∧
    ∀ (tokens : List Token) (tree : Tree), ofTokens tokens = .ok (some tree) → tree.Fits := by
  simp only [evaluate_eq_value]
  refine ⟨fun _ _ => value_loose_of_strict, ?_, ?_⟩
  · intro tree context mode fits
    exact value_strict_eq_loose fits mode
  · intro tokens tree read
    exact (Grammar.ofTokens_eq_some_iff.mp read).shape.2

theorem strict_mode_narrows_copies :
    let context := Context.empty.insert "copies" (.number (.ofNat 9))
    let few : Tree := .expression .lowerThan (.identifier "copies") (.literal (.number (.ofNat 10)))
    let printed : Tree := .expression .notEqual (.identifier "mode") (.literal (.text "print"))
    let both : Tree := .expression .logicalAnd few printed
    few.Fits ∧ few.evaluate context .loose = .boolean true ∧
      both.evaluate context .strict = both.evaluate context .loose := by
  intro context few printed both
  obtain ⟨narrows, agrees, fits⟩ := strict_mode_narrows
  have copies : context.get? "copies" = some (.number (.ofNat 9)) := by
    simp [context, Context.get?_insert]
  have mode : context.get? "mode" = none := by simp [context, Context.get?_insert]
  have fewFits : few.Fits :=
    fits [.word "copies", .operator .lowerThan, .word "10"] few (by decide +kernel)
  have fewHolds : few.evaluate context .strict = .boolean true := by
    simp only [few, evaluate_eq_value, value, copies]
    decide +kernel
  have bothFit : both.Fits := ⟨rfl, rfl, fewFits, rfl, rfl, trivial, trivial⟩
  refine ⟨fewFits, narrows few context fewFits (by simp [few, operators]) fewHolds, ?_⟩
  apply agrees both context .loose bothFit
  intro sign left right member
  simp only [both, few, printed, comparisons, Operator.isLogical, if_true, Bool.false_eq_true,
    if_false, List.cons_append, List.nil_append, List.mem_cons, List.not_mem_nil, or_false,
    Prod.mk.injEq] at member
  obtain ⟨-, rfl, rfl⟩ | ⟨-, rfl, rfl⟩ := member
  · simp [evaluate_eq_value, value, copies, Value.alike]
  · simp [evaluate_eq_value, value, mode, Value.alike]

end Tree

end Rulebook

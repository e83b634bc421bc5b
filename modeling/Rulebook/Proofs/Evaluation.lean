import Rulebook.Execution

/-!
The ways to evaluate a tree give the same value: plain recursion, the walk along the right sides,
and running a compiled rule, with and without a trace.
-/

namespace Rulebook

namespace Tree

/-- The value of a tree by plain recursion: an operator is applied to the values of its sides. -/
def value (context : Context) (mode : ComparisonMode) : Tree → Value
  | literal value => value
  | identifier name =>
      match context.get? name with
      | some value => value
      | none => .text name
  | expression operator left right =>
      operator.apply mode (left.value context mode) (right.value context mode)

theorem resolve_eq_value (context : Context) (mode : ComparisonMode) (name : String) :
    context.resolve name = (identifier name).value context mode := by
  rw [Context.resolve, value]
  cases context.get? name <;> rfl

/-- The operators met on the way are applied once the value on the right is known. -/
theorem walk_eq_settle (context : Context) (mode : ComparisonMode) (tree : Tree)
    (pending : List (Operator × Value)) :
    tree.walk context mode pending = settle mode pending (tree.value context mode) := by
  induction tree generalizing pending with
  | identifier name => rw [walk, resolve_eq_value context mode]
  | literal value => rfl
  | expression operator left right leftInduction rightInduction =>
      rw [walk, rightInduction, leftInduction]
      rfl

theorem evaluate_eq_value (tree : Tree) (context : Context) (mode : ComparisonMode) :
    tree.evaluate context mode = tree.value context mode :=
  walk_eq_settle context mode tree []

theorem evaluate_expression (operator : Operator) (left right : Tree) (context : Context)
    (mode : ComparisonMode) :
    (expression operator left right).evaluate context mode =
      operator.apply mode (left.evaluate context mode) (right.evaluate context mode) := by
  simp only [evaluate_eq_value, value]

theorem exists_boolean_evaluate {tree : Tree} (isExpression : tree.isExpression = true)
    (context : Context) (mode : ComparisonMode) :
    ∃ holds, tree.evaluate context mode = .boolean holds := by
  cases tree with
  | expression operator left right =>
      exact ⟨_, evaluate_expression operator left right context mode⟩
  | _ => contradiction

/-- An evaluation reads of its context only what the names in the tree stand for. -/
theorem evaluate_congr_resolve {tree : Tree} {first second : Context}
    (agree : ∀ name ∈ tree.identifiers, first.resolve name = second.resolve name)
    (mode : ComparisonMode) : tree.evaluate first mode = tree.evaluate second mode := by
  induction tree with
  | identifier name => exact agree name (List.mem_singleton_self name)
  | literal value => rfl
  | expression operator left right leftInduction rightInduction =>
      rw [identifiers, List.forall_mem_append] at agree
      rw [evaluate_expression, evaluate_expression, leftInduction agree.1, rightInduction agree.2]

theorem fst_trace (context : Context) (mode : ComparisonMode) (path : Path) (tree : Tree) :
    (tree.trace context mode path).1 = tree.value context mode := by
  induction tree generalizing path with
  | identifier name => rw [trace, resolve_eq_value context mode]
  | literal value => rfl
  | expression operator left right leftInduction rightInduction =>
      simp only [trace, value, leftInduction, rightInduction]

end Tree

namespace Executor

theorem execute_untraced (compiled : CompiledRule) (tree : Tree) (context : Context)
    (mode : ComparisonMode) :
    execute ⟨false, mode⟩ { compiled with rule := ⟨some tree⟩ } context =
      ⟨compiled.name, tree.value context mode, []⟩ := by
  simp [execute, Rule.evaluate, Tree.evaluate_eq_value]

theorem execute_traced (compiled : CompiledRule) (tree : Tree) (context : Context)
    (mode : ComparisonMode) :
    execute ⟨true, mode⟩ { compiled with rule := ⟨some tree⟩ } context =
      ⟨compiled.name, tree.value context mode,
        (tree.trace context mode []).2.map TraceLine.text⟩ := by
  simp [execute, Tree.fst_trace]

end Executor

theorem Metric.count_mem_evaluation_iff {rule name : String} {matched : Bool}
    {labels : List (String × String)} {amount : Nat} :
    count name labels amount ∈ evaluation rule matched ↔
      name = "rule_evaluations_total" ∧ amount = 1 ∧
        labels = [("rule", rule), ("matched", if matched then "true" else "false")] := by
  have spelled : (if matched then "true" else "false") = toString matched := by
    cases matched <;> rfl
  simp [evaluation, evaluations, spelled, and_comm]

/-- All ways to evaluate a tree give the value of plain recursion, and a run with a trace differs
from a run without one in the trace only. Each run counts one evaluation of the rule. -/
theorem evaluations_agree (tree : Tree) (context : Context) (mode : ComparisonMode)
    (compiled : CompiledRule) :
    let value := tree.value context mode
    let rule : Rule := ⟨some tree⟩
    let untraced := Executor.execute ⟨false, mode⟩ { compiled with rule } context
    let traced := Executor.execute ⟨true, mode⟩ { compiled with rule } context
    tree.evaluate context mode = value ∧ rule.evaluate context mode = value ∧
      untraced.value = value ∧ traced.value = value ∧
      untraced.ruleName = compiled.name ∧ traced.ruleName = compiled.name ∧
      untraced.matched = value.isTruthy ∧ traced.matched = value.isTruthy ∧
      untraced.metrics = Metric.evaluation compiled.name value.isTruthy ∧
      traced.metrics = Metric.evaluation compiled.name value.isTruthy ∧
      untraced.trace = [] ∧
      ∀ report ∈ [untraced, traced], ∀ name labels amount,
        Metric.count name labels amount ∈ report.metrics ↔
          name = "rule_evaluations_total" ∧ amount = 1 ∧
            labels = [("rule", compiled.name),
              ("matched", if value.isTruthy then "true" else "false")] := by
  intro value rule untraced traced
  have evaluated : tree.evaluate context mode = value := Tree.evaluate_eq_value tree context mode
  have untracedReport : untraced = _ := Executor.execute_untraced compiled tree context mode
  have tracedReport : traced = _ := Executor.execute_traced compiled tree context mode
  rw [untracedReport, tracedReport]
  refine ⟨evaluated, evaluated, rfl, rfl, rfl, rfl, rfl, rfl, rfl, rfl, rfl, ?_⟩
  intro report isReport name labels amount
  simp only [List.mem_cons, List.not_mem_nil, or_false] at isReport
  rcases isReport with rfl | rfl
  all_goals exact Metric.count_mem_evaluation_iff

end Rulebook

import Rulebook.Proofs.Evaluation

/-!
What an evaluation reads of its context: the names in the tree and nothing else.
-/

namespace Rulebook

namespace Tree

variable {tree : Tree} {first second : Context}

theorem trace_congr (agree : ∀ name ∈ tree.identifiers, first.get? name = second.get? name)
    (mode : ComparisonMode) (path : Path) :
    tree.trace first mode path = tree.trace second mode path := by
  induction tree generalizing path with
  | identifier name =>
      have same : first.get? name = second.get? name := agree name (by simp [identifiers])
      rw [trace, trace, Context.resolve, Context.resolve, same]
  | literal value => rfl
  | expression operator left right leftInduction rightInduction =>
      rw [identifiers, List.forall_mem_append] at agree
      rw [trace, trace, leftInduction agree.1, rightInduction agree.2]

theorem evaluate_congr (agree : ∀ name ∈ tree.identifiers, first.get? name = second.get? name)
    (mode : ComparisonMode) : tree.evaluate first mode = tree.evaluate second mode := by
  apply evaluate_congr_resolve
  intro name member
  rw [Context.resolve, Context.resolve, agree name member]

end Tree

namespace Rule

theorem mem_requiredFields_some {tree : Tree} {name : String} :
    name ∈ requiredFields ⟨some tree⟩ ↔ name ∈ tree.identifiers := by
  simp [requiredFields]

/-- Contexts that agree on the required fields of a rule give it the same value, and the same report
on a run, with a trace or without one. -/
theorem evaluation_reads_required_fields (rule : Rule) (first second : Context)
    (agree : ∀ name ∈ rule.requiredFields, first.get? name = second.get? name) :
    (∀ mode, rule.evaluate first mode = rule.evaluate second mode) ∧
      ∀ (executor : Executor) (compiled : CompiledRule),
        executor.execute { compiled with rule } first =
          executor.execute { compiled with rule } second := by
  rcases rule with ⟨tree?⟩
  cases tree? with
  | none => exact ⟨fun mode => rfl, fun executor compiled => rfl⟩
  | some tree =>
      have agreeOnNames : ∀ name ∈ tree.identifiers, first.get? name = second.get? name :=
        fun name member => agree name (mem_requiredFields_some.mpr member)
      constructor
      · intro mode
        exact Tree.evaluate_congr agreeOnNames mode
      · intro executor compiled
        rcases executor with ⟨traced, mode⟩
        have sameSteps := Tree.trace_congr agreeOnNames mode []
        have sameValue := Tree.evaluate_congr agreeOnNames mode
        rw [Tree.evaluate_eq_value, Tree.evaluate_eq_value] at sameValue
        cases traced with
        | false => rw [Executor.execute_untraced, Executor.execute_untraced, sameValue]
        | true => rw [Executor.execute_traced, Executor.execute_traced, sameValue, sameSteps]

theorem evaluation_reads_required_fields_of_text :
    let tree : Tree :=
      .expression .logicalOr
        (.expression .lowerThan (.identifier "copies") (.literal (.text "mode")))
        (.expression .notEqual (.identifier "flash") (.identifier "copies"))
    let first : Context := .ofList [("mode", .text "print"), ("copies", .number .nan)]
    let second : Context := .ofList [("copies", .number .nan), ("camera", .null)]
    (∀ name ∈ requiredFields ⟨some tree⟩, first.get? name = second.get? name) ∧
      first.get? "mode" ≠ second.get? "mode" ∧
      evaluate ⟨some tree⟩ first .strict = evaluate ⟨some tree⟩ second .strict ∧
      ∀ compiled : CompiledRule,
        Executor.execute ⟨true, .loose⟩ { compiled with rule := ⟨some tree⟩ } first =
          Executor.execute ⟨true, .loose⟩ { compiled with rule := ⟨some tree⟩ } second := by
  intro tree first second
  have agree : ∀ name ∈ requiredFields ⟨some tree⟩, first.get? name = second.get? name := by
    intro name member
    have isName : name = "copies" ∨ name = "flash" := by
      simpa [mem_requiredFields_some, tree, Tree.identifiers, or_comm, or_left_comm] using member
    rcases isName with rfl | rfl <;> simp [first, second, Context.ofList, Context.get?_insert]
  have different : first.get? "mode" ≠ second.get? "mode" := by
    simp [first, second, Context.ofList, Context.get?_insert]
  rcases evaluation_reads_required_fields ⟨some tree⟩ first second agree with ⟨evaluated, executed⟩
  exact ⟨agree, different, evaluated .strict, executed ⟨true, .loose⟩⟩

end Rule

end Rulebook

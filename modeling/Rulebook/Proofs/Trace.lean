import Rulebook.Proofs.Evaluation
import Rulebook.Proofs.Tree.Nodes

/-!
What a trace shows. The nodes of the tree are recorded from left to right, each after the nodes
below it: an expression with the values of its sides, a name only if the context lacks it. The path
in front of a line tells to which node it belongs.
-/

namespace Rulebook

def TraceLine.start (line : String) : String :=
  String.ofList (line.toList.takeWhile (· != ':'))

namespace Tree

def note? (context : Context) (mode : ComparisonMode) : Tree → Option String
  | literal _ => none
  | identifier name =>
      match context.get? name with
      | some _ => none
      | none => some ("字段 " ++ name ++ " 不存在，使用名称本身")
  | expression operator left right =>
      let value := (expression operator left right).evaluate context mode
      some ((left.evaluate context mode).describe ++ " " ++ operator.symbol ++ " " ++
        (right.evaluate context mode).describe ++ " => " ++
        if value.isTruthy then "MATCHED" else "NOT_MATCHED")

def line? (context : Context) (mode : ComparisonMode) (path : Path) (node : Tree) : Option String :=
  (node.note? context mode).map (path.text ++ ": " ++ ·)

theorem map_text_trace (context : Context) (mode : ComparisonMode) (path : Path) (tree : Tree) :
    (tree.trace context mode path).2.map TraceLine.text =
      (tree.nodesFrom path).filterMap fun (path, node) => node.line? context mode path := by
  induction tree generalizing path with
  | identifier name =>
      cases found : context.get? name with
      | none =>
          have isText :
              (TraceStep.missing name).text = "字段 " ++ name ++ " 不存在，使用名称本身" := rfl
          simp [trace, nodesFrom, line?, note?, found, TraceLine.text, isText]
      | some value => simp [trace, nodesFrom, line?, note?, found]
  | literal value => rfl
  | expression operator left right leftInduction rightInduction =>
      rw [trace, nodesFrom]
      simp only [List.map_append, List.filterMap_append, leftInduction, rightInduction, fst_trace]
      simp [line?, note?, TraceLine.text, TraceStep.text, evaluate_eq_value, value]

/-! ## The path in front of a line -/

theorem start_of_line? {context : Context} {mode : ComparisonMode} {path : Path} {node : Tree}
    {line : String} (isLine : node.line? context mode path = some line) :
    TraceLine.start line = path.text := by
  rcases Option.map_eq_some_iff.mp isLine with ⟨note, -, rfl⟩
  have kept : ∀ character ∈ path.text.toList, (character != ':') = true := by
    intro character member
    rw [bne_iff_ne]
    rintro rfl
    exact path.colon_notMem_text member
  rw [TraceLine.start, String.toList_append, String.toList_append, List.append_assoc,
    List.takeWhile_append_of_pos kept]
  simp

end Tree

/-- A trace has the lines of the nodes in their order: each node after those below it, those on its
left before those on its right. No two lines begin with the same path, and the path that a line
begins with is the one that leads to its node. -/
theorem trace_records_nodes (compiled : CompiledRule) (tree : Tree) (context : Context)
    (mode : ComparisonMode) :
    let lines := (Executor.execute ⟨true, mode⟩ { compiled with rule := ⟨some tree⟩ } context).trace
    lines = tree.nodes.filterMap (fun (path, node) => node.line? context mode path) ∧
      (lines.map TraceLine.start).Nodup ∧
      (∀ path (node : Tree) line, node.line? context mode path = some line →
        ∀ other : Path, other.text = TraceLine.start line ↔ other = path) ∧
      (∀ path node, (path, node) ∈ tree.nodes ↔ tree.at? path = some node) ∧
      tree.nodes.Pairwise fun first second => first.1.Precedes second.1 := by
  intro lines
  have isRecord : lines =
      tree.nodes.filterMap (fun (path, node) => node.line? context mode path) := by
    rw [Tree.nodes, ← Tree.map_text_trace]
    exact congrArg Report.trace (Executor.execute_traced compiled tree context mode)
  have inOrder := tree.pairwise_nodesFrom []
  refine ⟨isRecord, ?_, ?_, fun path node => Tree.mem_nodes_iff, inOrder⟩
  · rw [isRecord, List.nodup_iff_pairwise_ne, List.pairwise_map, List.pairwise_filterMap]
    apply inOrder.imp
    rintro ⟨path, node⟩ ⟨otherPath, other⟩ precedes line isLine otherLine isOther equal
    rw [Tree.start_of_line? isLine, Tree.start_of_line? isOther] at equal
    exact precedes.ne (Path.text_injective equal)
  · intro path node line isLine other
    rw [Tree.start_of_line? isLine]
    exact Path.text_injective.eq_iff

theorem trace_records_nodes_missing :
    let tree : Tree :=
      .expression .logicalOr
        (.expression .equal (.identifier "flash") (.literal (.text "on")))
        (.expression .lowerThan (.identifier "copies") (.identifier "flash"))
    let compiled : CompiledRule := ⟨"photo", "", ⟨some tree⟩, ∅, 1⟩
    let context : Context := .ofList [("copies", .number (.ofNat 2))]
    let first := "root.left.left: 字段 flash 不存在，使用名称本身"
    let second := "root.right.right: 字段 flash 不存在，使用名称本身"
    (Executor.execute ⟨true, .loose⟩ compiled context).trace =
        [first, "root.left: \"flash\" == \"on\" => NOT_MATCHED", second,
          "root.right: 2 < \"flash\" => NOT_MATCHED", "root: false || false => NOT_MATCHED"] ∧
      (Tree.identifier "flash").line? context .loose [.right, .right] = some second ∧
      ∀ other : Path, other.text = TraceLine.start second ↔ other = [.right, .right] := by
  intro tree compiled context first second
  rcases trace_records_nodes compiled tree context .loose with ⟨isRecord, -, startsWith, -⟩
  have isLine : (Tree.identifier "flash").line? context .loose [.right, .right] = some second := by
    decide +kernel
  exact ⟨isRecord.trans (by decide +kernel), isLine, startsWith _ _ _ isLine⟩

end Rulebook

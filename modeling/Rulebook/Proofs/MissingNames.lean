import Mathlib.Data.List.Basic
import Rulebook.Proofs.Trace

/-!
Names that the context lacks. To lack a name is as good as to hold it with its own text as the
value: only the lines about missing names go from the trace.
-/

namespace Rulebook

namespace Context

def withOwnNames (context : Context) (names : List String) : Context :=
  let missing := names.filter fun name => (context.get? name).isNone
  missing.foldl (fun context name => context.insert name (.text name)) context

theorem get?_foldl_insert_text (names : List String) (context : Context) (name : String) :
    (names.foldl (fun context name => context.insert name (.text name)) context).get? name =
      if name ∈ names then some (.text name) else context.get? name := by
  induction names generalizing context with
  | nil => simp
  | cons first names induction =>
      rw [List.foldl_cons, induction, get?_insert]
      by_cases later : name ∈ names
      · simp [later]
      · by_cases same : first = name
        · subst same
          simp
        · simp [later, same, Ne.symm same]

theorem get?_withOwnNames (context : Context) (names : List String) (name : String) :
    (context.withOwnNames names).get? name =
      (context.get? name).or (if name ∈ names then some (.text name) else none) := by
  rw [withOwnNames, get?_foldl_insert_text]
  cases found : context.get? name <;> simp [found]

@[simp] theorem resolve_withOwnNames (context : Context) (names : List String) (name : String) :
    (context.withOwnNames names).resolve name = context.resolve name := by
  rw [resolve, get?_withOwnNames, resolve]
  cases context.get? name with
  | some value => rfl
  | none => split <;> rfl

end Context

namespace Tree

@[simp] theorem evaluate_withOwnNames (tree : Tree) (context : Context) (names : List String)
    (mode : ComparisonMode) :
    tree.evaluate (context.withOwnNames names) mode = tree.evaluate context mode :=
  evaluate_congr_resolve (fun name _ => context.resolve_withOwnNames names name) mode

/-! ## Lines about names -/

def isIdentifier : Tree → Bool
  | identifier _ => true
  | _ => false

def LeadsToName (tree : Tree) (line : String) : Prop :=
  ∃ path node, path.text = TraceLine.start line ∧ tree.at? path = some node ∧
    node.isIdentifier = true

instance (tree : Tree) (line : String) : Decidable (tree.LeadsToName line) :=
  decidable_of_iff
    (∃ entry ∈ tree.nodes, entry.1.text = TraceLine.start line ∧ entry.2.isIdentifier = true)
    (by simp [LeadsToName, mem_nodes_iff, and_left_comm])

theorem mem_identifiers_of_at? {tree : Tree} {path : Path} {name : String}
    (leads : tree.at? path = some (identifier name)) : name ∈ tree.identifiers := by
  induction tree generalizing path with
  | identifier other =>
      cases ((at?_of_leaf rfl).mp leads).2
      exact List.mem_singleton_self name
  | literal value => nomatch ((at?_of_leaf rfl).mp leads).2
  | expression operator left right leftInduction rightInduction =>
      rw [identifiers, List.mem_append]
      rcases at?_expression.mp leads with ⟨-, isHere⟩ | ⟨later, -, onLeft⟩ | ⟨later, -, onRight⟩
      · nomatch isHere
      · exact .inl (leftInduction onLeft)
      · exact .inr (rightInduction onRight)

variable {tree node : Tree} {path : Path} {context : Context} {mode : ComparisonMode}

theorem leadsToName_iff {line : String} (leads : tree.at? path = some node)
    (isLine : node.line? context mode path = some line) :
    tree.LeadsToName line ↔ node.isIdentifier = true := by
  rw [LeadsToName, start_of_line? isLine]
  constructor
  · rintro ⟨other, otherNode, sameText, otherLeads, isName⟩
    cases Path.text_injective sameText
    cases leads.symm.trans otherLeads
    exact isName
  · intro isName
    exact ⟨path, node, rfl, leads, isName⟩

theorem line?_withOwnNames (leads : tree.at? path = some node) :
    node.line? (context.withOwnNames tree.identifiers) mode path =
      (node.line? context mode path).filter fun line => ¬tree.LeadsToName line := by
  cases node with
  | literal value => rfl
  | identifier name =>
      have member := mem_identifiers_of_at? leads
      have noLine : (identifier name).line? (context.withOwnNames tree.identifiers) mode path =
          none := by
        rw [line?, note?, Context.get?_withOwnNames, if_pos member]
        cases context.get? name <;> rfl
      rw [noLine]
      cases isLine : (identifier name).line? context mode path with
      | none => rfl
      | some line => simp [Option.filter, (leadsToName_iff leads isLine).mpr rfl]
  | expression operator left right =>
      have sameLine : (expression operator left right).line?
          (context.withOwnNames tree.identifiers) mode path =
            (expression operator left right).line? context mode path := by
        simp only [line?, note?, evaluate_withOwnNames]
      rw [sameLine]
      cases isLine : (expression operator left right).line? context mode path with
      | none => rfl
      | some line => simp [Option.filter, leadsToName_iff leads isLine, isIdentifier]

end Tree

/-- Giving the missing names of a tree their own texts as values changes no value. From the trace it
takes exactly the lines whose paths lead to names. -/
theorem missing_names_stand_for_themselves (compiled : CompiledRule) (tree : Tree)
    (context : Context) (mode : ComparisonMode) :
    let named := context.withOwnNames tree.identifiers
    let rule : CompiledRule := { compiled with rule := ⟨some tree⟩ }
    let report := Executor.execute ⟨true, mode⟩ rule context
    let namedReport := Executor.execute ⟨true, mode⟩ rule named
    (∀ name, named.get? name =
        (context.get? name).or (if name ∈ tree.identifiers then some (.text name) else none)) ∧
      tree.evaluate named mode = tree.evaluate context mode ∧
      namedReport.value = report.value ∧ namedReport.matched = report.matched ∧
      namedReport.trace = report.trace.filter fun line => ¬tree.LeadsToName line := by
  intro named rule report namedReport
  have sameValue : tree.evaluate named mode = tree.evaluate context mode :=
    tree.evaluate_withOwnNames context tree.identifiers mode
  have isReport : report = _ := Executor.execute_traced compiled tree context mode
  have isNamedReport : namedReport = _ := Executor.execute_traced compiled tree named mode
  have sameReported : namedReport.value = report.value := by
    rw [isReport, isNamedReport, ← Tree.evaluate_eq_value, ← Tree.evaluate_eq_value, sameValue]
  refine ⟨context.get?_withOwnNames tree.identifiers, sameValue, sameReported,
    congrArg Value.isTruthy sameReported, ?_⟩
  rw [isReport, isNamedReport, Tree.map_text_trace, Tree.map_text_trace, List.filter_filterMap]
  apply List.filterMap_congr
  rintro ⟨path, node⟩ member
  exact Tree.line?_withOwnNames (Tree.mem_nodes_iff.mp member)

example :
    let tree : Tree :=
      .expression .notEqual
        (.expression .equal (.identifier "flash") (.literal (.text "on")))
        (.expression .equal (.identifier "flash") (.identifier "copies"))
    let context : Context := .ofList [("copies", .number (.ofNat 2))]
    let compiled : CompiledRule := ⟨"photo", "", ⟨some tree⟩, ∅, 1⟩
    (Executor.execute ⟨true, .loose⟩ compiled (context.withOwnNames tree.identifiers)).trace =
      ["root.left: \"flash\" == \"on\" => NOT_MATCHED",
        "root.right: \"flash\" == 2 => NOT_MATCHED",
        "root: false != false => NOT_MATCHED"] := by
  decide +kernel

end Rulebook

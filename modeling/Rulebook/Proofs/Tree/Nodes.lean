import Rulebook.Execution

/-!
The nodes of a tree and the paths that lead to them. Every node has one path, and the text of a path
tells which path it is.
-/

namespace Rulebook

/-- The first path is left before the second one: it leads on from where the second one ends, or
it turns left where the second one turns right. -/
inductive Path.Precedes : Path → Path → Prop
  | below (steps : Path) (side : Side) (path : Path) : Precedes (steps ++ side :: path) path
  | apart (leftSteps rightSteps path : Path) :
      Precedes (leftSteps ++ .left :: path) (rightSteps ++ .right :: path)

theorem Path.Precedes.ne {first second : Path} (precedes : first.Precedes second) :
    first ≠ second := by
  intro equal
  cases precedes with
  | below steps side path =>
      have longer := congrArg List.length equal
      simp at longer
      omega
  | apart leftSteps rightSteps path =>
      have sameEnds := (List.append_inj' equal rfl).2
      simp at sameEnds

namespace Tree

def side? : Side → Tree → Option Tree
  | .left, expression _ left _ => some left
  | .right, expression _ _ right => some right
  | _, _ => none

def at? (tree : Tree) : Path → Option Tree
  | [] => some tree
  | side :: path => (tree.at? path).bind (side? side)

/-- All nodes with their paths: those on the left, then those on the right, then the tree itself,
which `path` leads to. -/
def nodesFrom (path : Path) : Tree → List (Path × Tree)
  | expression operator left right =>
      nodesFrom (.left :: path) left ++ nodesFrom (.right :: path) right ++
        [(path, expression operator left right)]
  | leaf => [(path, leaf)]

def nodes (tree : Tree) : List (Path × Tree) := tree.nodesFrom []

example :
    (expression .equal (identifier "a") (literal .null)).nodes =
      [([.left], identifier "a"), ([.right], literal .null),
        ([], expression .equal (identifier "a") (literal .null))] := rfl

/-! ## Paths and nodes -/

theorem at?_append (tree : Tree) (later earlier : Path) :
    tree.at? (later ++ earlier) = (tree.at? earlier).bind (·.at? later) := by
  induction later with
  | nil => rw [List.nil_append]; cases tree.at? earlier <;> rfl
  | cons side later induction =>
      rw [List.cons_append, at?, induction, Option.bind_assoc]
      rfl

theorem at?_append_side (tree : Tree) (later : Path) (side : Side) :
    tree.at? (later ++ [side]) = (tree.side? side).bind (·.at? later) :=
  tree.at?_append later [side]

theorem side?_of_leaf {tree : Tree} (leaf : tree.isExpression = false) (side : Side) :
    tree.side? side = none := by
  cases tree with
  | expression => contradiction
  | _ => cases side <;> rfl

theorem at?_of_leaf {tree node : Tree} (leaf : tree.isExpression = false) {path : Path} :
    tree.at? path = some node ↔ path = [] ∧ tree = node := by
  rcases List.eq_nil_or_concat path with rfl | ⟨later, side, rfl⟩
  · simp [at?]
  · simp [List.concat_eq_append, at?_append_side, side?_of_leaf leaf]

theorem at?_expression {operator : Operator} {left right node : Tree} {path : Path} :
    (expression operator left right).at? path = some node ↔
      (path = [] ∧ expression operator left right = node) ∨
        (∃ later, path = later ++ [.left] ∧ left.at? later = some node) ∨
        ∃ later, path = later ++ [.right] ∧ right.at? later = some node := by
  rcases List.eq_nil_or_concat path with rfl | ⟨later, side, rfl⟩
  · simp [at?]
  · cases side <;> simp [List.concat_eq_append, at?_append_side, side?]

theorem nodesFrom_of_leaf {tree : Tree} (leaf : tree.isExpression = false) (start : Path) :
    tree.nodesFrom start = [(start, tree)] := by
  cases tree with
  | expression => contradiction
  | _ => rfl

theorem mem_nodesFrom_leaf_iff {tree node : Tree} (leaf : tree.isExpression = false)
    {path start : Path} :
    (path, node) ∈ tree.nodesFrom start ↔
      ∃ steps, path = steps ++ start ∧ tree.at? steps = some node := by
  rw [nodesFrom_of_leaf leaf, List.mem_singleton]
  constructor
  · intro isHere
    cases isHere
    exact ⟨[], rfl, rfl⟩
  · rintro ⟨steps, rfl, leads⟩
    rcases (at?_of_leaf leaf).mp leads with ⟨rfl, rfl⟩
    rfl

theorem mem_nodesFrom_iff {tree node : Tree} {path start : Path} :
    (path, node) ∈ tree.nodesFrom start ↔
      ∃ steps, path = steps ++ start ∧ tree.at? steps = some node := by
  induction tree generalizing start with
  | identifier name => exact mem_nodesFrom_leaf_iff rfl
  | literal value => exact mem_nodesFrom_leaf_iff rfl
  | expression operator left right leftInduction rightInduction =>
      simp only [nodesFrom, List.mem_append, leftInduction, rightInduction, List.mem_singleton,
        at?_expression]
      constructor
      · rintro ((⟨steps, rfl, leads⟩ | ⟨steps, rfl, leads⟩) | isHere)
        · exact ⟨steps ++ [.left], by simp, .inr (.inl ⟨steps, rfl, leads⟩)⟩
        · exact ⟨steps ++ [.right], by simp, .inr (.inr ⟨steps, rfl, leads⟩)⟩
        · cases isHere
          exact ⟨[], rfl, .inl ⟨rfl, rfl⟩⟩
      · rintro ⟨steps, rfl, ⟨rfl, rfl⟩ | ⟨later, rfl, leads⟩ | ⟨later, rfl, leads⟩⟩
        · exact .inr rfl
        · exact .inl (.inl ⟨later, by simp, leads⟩)
        · exact .inl (.inr ⟨later, by simp, leads⟩)

theorem mem_nodes_iff {tree node : Tree} {path : Path} :
    (path, node) ∈ tree.nodes ↔ tree.at? path = some node := by
  simp [nodes, mem_nodesFrom_iff]

theorem pairwise_nodesFrom (tree : Tree) (start : Path) :
    (tree.nodesFrom start).Pairwise fun first second => first.1.Precedes second.1 := by
  induction tree generalizing start with
  | identifier name => exact List.pairwise_singleton _ _
  | literal value => exact List.pairwise_singleton _ _
  | expression operator left right leftInduction rightInduction =>
      rw [nodesFrom, List.pairwise_append, List.pairwise_append]
      refine ⟨⟨leftInduction _, rightInduction _, ?_⟩, List.pairwise_singleton _ _, ?_⟩
      · rintro ⟨first, node⟩ onLeft ⟨second, other⟩ onRight
        rcases mem_nodesFrom_iff.mp onLeft with ⟨leftSteps, rfl, -⟩
        rcases mem_nodesFrom_iff.mp onRight with ⟨rightSteps, rfl, -⟩
        exact .apart leftSteps rightSteps start
      · rintro ⟨first, node⟩ inside ⟨second, other⟩ isHere
        cases List.mem_singleton.mp isHere
        rcases List.mem_append.mp inside with onLeft | onRight
        · rcases mem_nodesFrom_iff.mp onLeft with ⟨steps, rfl, -⟩
          exact .below steps .left start
        · rcases mem_nodesFrom_iff.mp onRight with ⟨steps, rfl, -⟩
          exact .below steps .right start

end Tree

/-! ## The text of a path -/

namespace Path

theorem text_cons (side : Side) (path : Path) :
    text (side :: path) = path.text ++ "." ++ side.name := rfl

theorem text_ne_text_nil (side : Side) (path : Path) : text (side :: path) ≠ text [] := by
  intro equal
  have pointInside : '.' ∈ (text (side :: path)).toList := by simp [text_cons]
  rw [equal] at pointInside
  contradiction

theorem text_injective : Function.Injective text := by
  intro first second equal
  induction first generalizing second with
  | nil =>
      cases second with
      | nil => rfl
      | cons side path => exact absurd equal.symm (text_ne_text_nil side path)
  | cons side path induction =>
      cases second with
      | nil => exact absurd equal (text_ne_text_nil side path)
      | cons other rest =>
          have parts := congrArg String.toList equal
          simp only [text_cons, String.toList_append] at parts
          -- The names of the sides differ in their last character but one.
          have sameSide : side = other := by
            have ends := congrArg (fun text => text.reverse[1]?) parts
            cases side <;> cases other <;> simp [Side.name] at ends ⊢
          subst sameSide
          simp only [List.append_left_inj, String.toList_inj] at parts
          rw [induction parts]

theorem colon_notMem_text (path : Path) : ':' ∉ path.text.toList := by
  induction path with
  | nil => decide
  | cons side path induction =>
      have noColon : ':' ∉ side.name.toList := by cases side <;> decide
      simp [text_cons, induction, noColon]

end Path

end Rulebook

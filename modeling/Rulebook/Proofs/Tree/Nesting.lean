import Mathlib.Data.List.Infix
import Mathlib.Data.List.MinMax
import Rulebook.Proofs.Evaluation
import Rulebook.Proofs.Token.Partner
import Rulebook.Proofs.Tree.Shape

/-!
How deep an evaluation calls itself. It does so on left sides only, and these are groups or single
comparisons: the calls nest no deeper than the groups of the rule text and two more, however long
its chains are.
-/

namespace Rulebook

namespace Token

/-! ## Groups that are open at once -/

def OpensAtMost (limit : Nat) (tokens : List Token) : Prop :=
  ∀ front, front <+: tokens → front.count opening ≤ limit + front.count closing

/-- The largest number of groups that are open at once, among tokens of which each closing
parenthesis ends a group. -/
def mostOpen (tokens : List Token) : Nat := (tokens.inits.map unclosed).foldr max 0

example : mostOpen [opening, opening, closing, opening, closing, closing, opening] = 2 := by decide

theorem opensAtMost_mostOpen (tokens : List Token) : OpensAtMost (mostOpen tokens) tokens := by
  intro front isFront
  have member : unclosed front ∈ tokens.inits.map unclosed :=
    List.mem_map_of_mem ((List.mem_inits front tokens).mpr isFront)
  have bound : unclosed front ≤ mostOpen tokens := List.le_max_of_le' 0 member (Nat.le_refl _)
  exact Nat.le_add_of_sub_le bound

namespace OpensAtMost

variable {limit : Nat} {front rest tokens : List Token}

theorem beginning (opens : OpensAtMost limit (front ++ rest)) : OpensAtMost limit front := by
  intro start isStart
  exact opens start (isStart.trans (List.prefix_append front rest))

theorem after (balanced : Balanced front) (opens : OpensAtMost limit (front ++ rest)) :
    OpensAtMost limit rest := by
  intro start isStart
  have bound := opens (front ++ start) ((List.prefix_append_right_inj front).mpr isStart)
  rw [List.count_append, List.count_append, balanced.count_closing] at bound
  omega

theorem inside (opens : OpensAtMost limit (opening :: tokens ++ [closing])) :
    ∃ inner, limit = inner + 1 ∧ OpensAtMost inner tokens := by
  have positive : 1 ≤ limit := by simpa using opens [opening] (by simp)
  refine ⟨limit - 1, by omega, ?_⟩
  intro start isStart
  have isFront : opening :: start <+: opening :: tokens ++ [closing] :=
    (List.prefix_cons_inj opening).mpr (isStart.trans (List.prefix_append tokens [closing]))
  have bound := opens (opening :: start) isFront
  simp only [List.count_cons_self, ne_eq, reduceCtorEq, not_false_eq_true,
    List.count_cons_of_ne] at bound
  omega

theorem completed (opens : OpensAtMost limit (readable tokens)) :
    OpensAtMost limit (completed tokens) := by
  intro start isStart
  rcases List.prefix_or_prefix_of_prefix isStart (List.prefix_append (readable tokens) _) with
      isFront | ⟨added, rfl⟩
  · exact opens start isFront
  · have isAdded := (List.prefix_append_right_inj (readable tokens)).mp isStart
    have noOpening : added.count opening = 0 := by
      apply List.count_eq_zero_of_not_mem
      intro member
      exact absurd (List.eq_of_mem_replicate (isAdded.subset member)) (by decide)
    have bound := opens (readable tokens) (List.prefix_refl _)
    rw [List.count_append, List.count_append, noOpening]
    omega

end OpensAtMost

end Token

namespace Tree

/-! ## Calls of the evaluator -/

/-- How deep the left sides of the tree nest: a left side is one level deeper than the expression, a
right side is not. -/
def leftNesting : Tree → Nat
  | expression _ left right => max (1 + left.leftNesting) right.leftNesting
  | _ => 0

theorem leftNesting_leaf {tree : Tree} (leaf : tree.isExpression = false) :
    tree.leftNesting = 0 := by
  cases tree with
  | expression => contradiction
  | _ => rfl

/-- The walk of the evaluator if it may call itself only so deep. It gives no value if a left side
asks for one more call. -/
def walkWithin (context : Context) (mode : ComparisonMode) :
    Nat → Tree → List (Operator × Value) → Option Value
  | _, literal value, pending => some (settle mode pending value)
  | _, identifier name, pending => some (settle mode pending (context.resolve name))
  | 0, expression .., _ => none
  | limit + 1, expression operator left right, pending => do
    let value ← walkWithin context mode limit left []
    walkWithin context mode (limit + 1) right ((operator, value) :: pending)

theorem walkWithin_eq (context : Context) (mode : ComparisonMode) (tree : Tree) (limit : Nat)
    (pending : List (Operator × Value)) :
    walkWithin context mode limit tree pending =
      if tree.leftNesting ≤ limit then some (tree.walk context mode pending) else none := by
  induction tree generalizing limit pending with
  | identifier name => simp [walkWithin, walk, leftNesting]
  | literal value => simp [walkWithin, walk, leftNesting]
  | expression operator left right leftInduction rightInduction =>
      cases limit with
      | zero => simp [walkWithin, leftNesting]
      | succ limit =>
          have deeper : 1 + left.leftNesting ≤ limit + 1 ↔ left.leftNesting ≤ limit := by omega
          simp only [walkWithin, leftInduction, leftNesting, walk, Nat.max_le, deeper]
          by_cases leftFits : left.leftNesting ≤ limit
          · simp [leftFits, rightInduction]
          · simp [leftFits]

end Tree

namespace Grammar

open Token (OpensAtMost)

mutual
theorem Term.leftNesting_le {tokens : List Token} {tree : Tree} {limit : Nat} :
    Term tokens tree → OpensAtMost limit tokens → tree.leftNesting ≤ limit + 1
  | @Term.comparison _ _ leftText rightText _ _ _ _, _ => by
      have left := Tree.leftNesting_leaf (Operand.isExpression_classify leftText)
      have right := Tree.leftNesting_leaf (Operand.isExpression_classify rightText)
      simp [Tree.leftNesting, left, right]
  | .group level, opens => by
      obtain ⟨inner, rfl, innerOpens⟩ := opens.inside
      exact level.leftNesting_le innerOpens

/-- The first term of a chain is a left side; the rest of the chain is not, so that the length of
the chain does not matter. -/
theorem Level.leftNesting_le {tokens : List Token} {tree : Tree} {limit : Nat} :
    Level tokens tree → OpensAtMost limit tokens → tree.leftNesting ≤ limit + 2
  | .single term, opens => Nat.le_succ_of_le (term.leftNesting_le opens)
  | @Level.joined front rest _ _ sign term _ level, opens => by
      have balanced : Token.Balanced (front ++ [.operator sign]) :=
        term.balanced.append (Token.balanced_nil.cons_of_isPlain (Token.isPlain_operator sign))
      have restOpens : OpensAtMost limit rest := by
        apply OpensAtMost.after balanced
        simpa using opens
      have leftBound := term.leftNesting_le opens.beginning
      have rightBound := level.leftNesting_le restOpens
      rw [Tree.leftNesting]
      omega
end

end Grammar

namespace Tree

open Token (readable mostOpen)

/-- The evaluator calls itself exactly as deep as left sides nest. In the tree of a rule text that
is at most two levels deeper than parentheses are open at once in the part that is read, however
many terms its chains have. -/
theorem evaluation_depth_of_groups :
    (∀ tokens tree, ofTokens tokens = .ok (some tree) →
      tree.leftNesting ≤ 2 + mostOpen (readable tokens)) ∧
    ∀ (tree : Tree) (context : Context) (mode : ComparisonMode) (limit : Nat),
      walkWithin context mode limit tree [] =
        if tree.leftNesting ≤ limit then some (tree.evaluate context mode) else none := by
  constructor
  · intro tokens tree read
    have level := Grammar.ofTokens_eq_some_iff.mp read
    have opens := (Token.opensAtMost_mostOpen (readable tokens)).completed
    rw [Nat.add_comm]
    exact level.leftNesting_le opens
  · intro tree context mode limit
    exact walkWithin_eq context mode tree limit []

theorem evaluation_depth_of_groups_nested :
    let comparison : List Token := [.word "a", .operator .equal, .word "b"]
    let leaf : Tree := .expression .equal (Operand.classify "a") (Operand.classify "b")
    let pair (left right : Tree) : Tree := .expression .logicalAnd left right
    let joint : Token := .operator .logicalAnd
    let group : List Token := [.opening] ++ comparison ++ [joint] ++ comparison ++ [.closing]
    let tokens : List Token := [.opening] ++ group ++ [joint] ++ comparison ++ [.closing, joint] ++
      comparison ++ [joint, .opening] ++ comparison
    let tree := pair (pair (pair leaf leaf) leaf) (pair leaf leaf)
    ofTokens tokens = .ok (some tree) ∧ mostOpen (readable tokens) = 2 ∧ tree.leftNesting ≤ 2 + 2 ∧
      tree.leftNesting = 4 := by
  intro comparison leaf pair joint group tokens tree
  have read : ofTokens tokens = .ok (some tree) := by decide +kernel
  have most : mostOpen (readable tokens) = 2 := by decide
  have bound := evaluation_depth_of_groups.1 tokens tree read
  rw [most] at bound
  exact ⟨read, most, bound, rfl⟩

end Tree

end Rulebook

import Rulebook.Proofs.Tree.Modes

/-!
Rules whose comparisons are joined by one logical operator. Such a rule asks whether all of its
comparisons hold, or whether one of them does, and parentheses do not matter. What does matter is a
closing parenthesis that ends no group: it ends the rule.
-/

namespace Rulebook

namespace Token

/-! ## Tokens without parentheses -/

instance (token : Token) : Decidable token.IsPlain :=
  inferInstanceAs (Decidable (token ≠ opening ∧ token ≠ closing))

def ungrouped (tokens : List Token) : List Token := tokens.filter fun token => token.IsPlain

def comparisons : List Token → List (Operator × Tree × Tree)
  | left :: operator sign :: right :: rest =>
      match left.operand?, sign.isComparison, right.operand? with
      | some leftText, true, some rightText =>
          (sign, Operand.classify leftText, Operand.classify rightText) :: comparisons rest
      | _, _, _ => comparisons (operator sign :: right :: rest)
  | _ :: rest => comparisons rest
  | [] => []

def JoinedBy (joint : Operator) (tokens : List Token) : Prop :=
  ∀ sign, operator sign ∈ tokens → sign.isLogical = true → sign = joint

instance (joint : Operator) (tokens : List Token) : Decidable (JoinedBy joint tokens) :=
  decidable_of_iff
    (∀ sign ∈ Operator.all, operator sign ∈ tokens → sign.isLogical = true → sign = joint)
    (by simp [JoinedBy])

@[simp] theorem ungrouped_nil : ungrouped [] = [] := rfl

theorem ungrouped_append (front rest : List Token) :
    ungrouped (front ++ rest) = ungrouped front ++ ungrouped rest :=
  List.filter_append ..

theorem ungrouped_cons_of_isPlain {token : Token} (plain : token.IsPlain) (rest : List Token) :
    ungrouped (token :: rest) = token :: ungrouped rest :=
  List.filter_cons_of_pos (by simpa using plain)

@[simp] theorem ungrouped_opening (rest : List Token) :
    ungrouped (opening :: rest) = ungrouped rest := rfl

@[simp] theorem ungrouped_closing (rest : List Token) :
    ungrouped (closing :: rest) = ungrouped rest := rfl

@[simp] theorem ungrouped_replicate_closing (count : Nat) :
    ungrouped (List.replicate count closing) = [] :=
  List.filter_replicate_of_neg (by decide)

theorem ungrouped_completed (tokens : List Token) :
    ungrouped (completed tokens) = ungrouped (readable tokens) := by
  simp [completed, ungrouped_append]

theorem operator_mem_ungrouped_iff {sign : Operator} {tokens : List Token} :
    operator sign ∈ ungrouped tokens ↔ operator sign ∈ tokens := by
  simp [ungrouped, isPlain_operator]

theorem comparisons_cons_of_operand?_eq_none {token : Token} (noOperand : token.operand? = none)
    (rest : List Token) : comparisons (token :: rest) = comparisons rest := by
  rw [comparisons.eq_def]
  split
  · next left sign right after same =>
      obtain ⟨rfl, rfl⟩ := List.cons.inj same
      simp [noOperand]
  · next other after _ same =>
      obtain ⟨rfl, rfl⟩ := List.cons.inj same
      rfl
  · contradiction

end Token

namespace Grammar

open Token (ungrouped comparisons)

/-! ## The comparisons of a level -/

mutual
/-- The comparisons of a term stand in its tokens in the order in which they stand in its tree,
whatever follows. -/
theorem Term.comparisons_append {tokens : List Token} {tree : Tree} :
    Term tokens tree → ∀ rest, comparisons (ungrouped tokens ++ rest) =
      tree.comparisons ++ comparisons rest
  | @Term.comparison left right _ _ sign leftOperand comparison rightOperand, rest => by
      have notLogical : sign.isLogical = false := by simpa [Operator.isComparison] using comparison
      rw [Token.ungrouped_cons_of_isPlain (Token.isPlain_of_operand? leftOperand),
        Token.ungrouped_cons_of_isPlain (Token.isPlain_operator sign),
        Token.ungrouped_cons_of_isPlain (Token.isPlain_of_operand? rightOperand)]
      simp [ungrouped, comparisons, Tree.comparisons, leftOperand, comparison, rightOperand,
        notLogical]
  | .group level, rest => by
      simpa [Token.ungrouped_append] using level.comparisons_append rest

theorem Level.comparisons_append {tokens : List Token} {tree : Tree} :
    Level tokens tree → ∀ rest, comparisons (ungrouped tokens ++ rest) =
      tree.comparisons ++ comparisons rest
  | .single term, rest => term.comparisons_append rest
  | @Level.joined front after left right sign term logical level, rest => by
      rw [Token.ungrouped_append, Token.ungrouped_cons_of_isPlain (Token.isPlain_operator sign),
        List.append_assoc, term.comparisons_append, List.cons_append,
        Token.comparisons_cons_of_operand?_eq_none rfl, level.comparisons_append]
      simp [Tree.comparisons, logical]
end

theorem Level.comparisons_eq {tokens : List Token} {tree : Tree} (level : Level tokens tree) :
    tree.comparisons = comparisons (ungrouped tokens) := by
  simpa [comparisons] using (level.comparisons_append []).symm

mutual
theorem Term.operator_mem {tokens : List Token} {tree : Tree} {sign : Operator} :
    Term tokens tree → sign ∈ tree.operators → .operator sign ∈ tokens
  | @Term.comparison _ _ _ _ other _ _ _, member => by
      have leaf (text : String) : (Operand.classify text).operators = [] :=
        Tree.operators_leaf (Operand.isExpression_classify text)
      have isSign : sign = other := by simpa [Tree.operators, leaf] using member
      simp [isSign]
  | .group level, member => by simp [level.operator_mem member]

theorem Level.operator_mem {tokens : List Token} {tree : Tree} {sign : Operator} :
    Level tokens tree → sign ∈ tree.operators → .operator sign ∈ tokens
  | .single term, member => term.operator_mem member
  | .joined term _ level, member => by
      rcases List.mem_append.mp member with inLeft | inRight
      · exact List.mem_append_left _ (term.operator_mem inLeft)
      · rcases List.mem_cons.mp inRight with rfl | later
        · simp
        · simp [level.operator_mem later]
end

end Grammar

namespace Operator

/-! ## Joining answers -/

/-- What many answers come to if they are joined by the operator: all of them for a conjunction, one
of them for a disjunction. -/
def joins (joint : Operator) (answers : List Bool) : Bool :=
  if joint = logicalAnd then answers.all id else answers.any id

theorem joins_singleton (joint : Operator) (answer : Bool) : joint.joins [answer] = answer := by
  unfold joins
  split <;> simp

theorem joins_append {joint : Operator} (logical : joint.isLogical = true) (mode : ComparisonMode)
    (front rest : List Bool) :
    joint.joins (front ++ rest) =
      joint.holds mode (.boolean (joint.joins front)) (.boolean (joint.joins rest)) := by
  cases joint <;> try contradiction
  case logicalAnd => exact List.all_append
  case logicalOr => exact List.any_append

end Operator

namespace Tree

def comparisonHolds (context : Context) (mode : ComparisonMode) : Operator × Tree × Tree → Bool
  | (sign, left, right) =>
      sign.holds mode (left.evaluate context mode) (right.evaluate context mode)

open Token (JoinedBy readable ungrouped)

variable {tree : Tree}

theorem evaluate_of_one_joint {joint : Operator} (fits : tree.Fits)
    (isExpression : tree.isExpression = true)
    (one : ∀ sign ∈ tree.operators, sign.isLogical = true → sign = joint)
    (context : Context) (mode : ComparisonMode) :
    tree.evaluate context mode =
      .boolean (joint.joins (tree.comparisons.map (comparisonHolds context mode))) := by
  induction tree with
  | identifier name => contradiction
  | literal value => contradiction
  | expression operator left right leftInduction rightInduction =>
      obtain ⟨leftKind, rightKind, leftFits, rightFits⟩ := fits
      rw [evaluate_expression, Operator.apply]
      cases logical : operator.isLogical with
      | false => simp [comparisons, logical, Operator.joins_singleton, comparisonHolds]
      | true =>
          obtain rfl : operator = joint := one operator (by simp [operators]) logical
          rw [leftInduction leftFits (leftKind.trans logical)
              fun sign member => one sign (by simp [operators, member]),
            rightInduction rightFits (rightKind.trans logical)
              fun sign member => one sign (by simp [operators, member]),
            ← Operator.joins_append logical, ← List.map_append]
          simp [comparisons, logical]

theorem evaluate_of_read_joinedBy {source : String} {joint : Operator}
    (read : Tree.read source = .ok (some tree))
    (joined : JoinedBy joint (readable (Token.read source))) (context : Context)
    (mode : ComparisonMode) :
    tree.evaluate context mode =
      .boolean (joint.joins ((Token.comparisons (ungrouped (readable (Token.read source)))).map
        (comparisonHolds context mode))) := by
  have level := Grammar.ofTokens_eq_some_iff.mp read
  have one : ∀ sign ∈ tree.operators, sign.isLogical = true → sign = joint := by
    intro sign member
    have inTokens := Token.operator_mem_ungrouped_iff.mpr (level.operator_mem member)
    rw [Token.ungrouped_completed, Token.operator_mem_ungrouped_iff] at inTokens
    exact joined sign inTokens
  rw [← Token.ungrouped_completed, ← level.comparisons_eq]
  exact evaluate_of_one_joint level.shape.2 level.shape.1 one context mode

/-- Grouping matters only where both logical operators occur. If all of them in the part of a text
that is read are conjunctions, its tree holds where all comparisons of that part hold, and if all
are disjunctions, where one of them does, whatever the parentheses. So two such texts whose parts
differ in parentheses only have the same value in every context. -/
theorem evaluate_joins_comparisons :
    (∀ source tree, Tree.read source = .ok (some tree) →
      let tokens := readable (Token.read source)
      (JoinedBy .logicalAnd tokens → ∀ context mode, tree.evaluate context mode =
        .boolean ((Token.comparisons (ungrouped tokens)).all (comparisonHolds context mode))) ∧
      (JoinedBy .logicalOr tokens → ∀ context mode, tree.evaluate context mode =
        .boolean ((Token.comparisons (ungrouped tokens)).any (comparisonHolds context mode)))) ∧
    ∀ first second left right joint, Tree.read first = .ok (some left) →
      Tree.read second = .ok (some right) →
      JoinedBy joint (readable (Token.read first)) →
      ungrouped (readable (Token.read first)) = ungrouped (readable (Token.read second)) →
      ∀ context mode, left.evaluate context mode = right.evaluate context mode := by
  refine ⟨fun source tree read =>
    ⟨fun joined context mode => ?_, fun joined context mode => ?_⟩, ?_⟩
  · rw [evaluate_of_read_joinedBy read joined, Operator.joins, if_pos rfl, List.all_map]
    rfl
  · rw [evaluate_of_read_joinedBy read joined, Operator.joins, if_neg (by decide), List.any_map]
    rfl
  · intro first second left right joint firstRead secondRead joined same context mode
    have otherJoined : JoinedBy joint (readable (Token.read second)) := by
      intro sign member
      rw [← Token.operator_mem_ungrouped_iff, ← same, Token.operator_mem_ungrouped_iff] at member
      exact joined sign member
    rw [evaluate_of_read_joinedBy firstRead joined,
      evaluate_of_read_joinedBy secondRead otherJoined, same]

theorem evaluate_joins_comparisons_regrouped :
    let first := "a = 'a' && (b != 1 && c < 2)"
    let second := "((a = 'a' && b != 1) && c < 2"
    let third := "(a = 'a') || b != 1) && c < 2"
    let a : Tree := .expression .equal (.identifier "a") (.literal (.text "a"))
    let b : Tree := .expression .notEqual (.identifier "b") (.literal (.number (.ofNat 1)))
    let c : Tree := .expression .lowerThan (.identifier "c") (.literal (.number (.ofNat 2)))
    let left : Tree := .expression .logicalAnd a (.expression .logicalAnd b c)
    let right : Tree := .expression .logicalAnd (.expression .logicalAnd a b) c
    let either : Tree := .expression .logicalOr a b
    (Tree.read first = .ok (some left) ∧ Tree.read second = .ok (some right) ∧
      Tree.read third = .ok (some either)) ∧
      (∀ context mode, left.evaluate context mode = right.evaluate context mode) ∧
      (∀ context mode, left.evaluate context mode =
        .boolean ([(.equal, .identifier "a", .literal (.text "a")),
          (.notEqual, .identifier "b", .literal (.number (.ofNat 1))),
          (.lowerThan, .identifier "c", .literal (.number (.ofNat 2)))].all
            (comparisonHolds context mode))) ∧
      ∀ context mode, either.evaluate context mode =
        .boolean ([(.equal, .identifier "a", .literal (.text "a")),
          (.notEqual, .identifier "b", .literal (.number (.ofNat 1)))].any
            (comparisonHolds context mode)) := by
  intro first second third a b c left right either
  have firstRead : Tree.read first = .ok (some left) := by decide +kernel
  have secondRead : Tree.read second = .ok (some right) := by decide +kernel
  have thirdRead : Tree.read third = .ok (some either) := by decide +kernel
  have joined : JoinedBy .logicalAnd (readable (Token.read first)) := by decide +kernel
  have eitherJoined : JoinedBy .logicalOr (readable (Token.read third)) := by decide +kernel
  have same :
      ungrouped (readable (Token.read first)) = ungrouped (readable (Token.read second)) := by
    decide +kernel
  have firstComparisons : Token.comparisons (ungrouped (readable (Token.read first))) =
      [(.equal, .identifier "a", .literal (.text "a")),
        (.notEqual, .identifier "b", .literal (.number (.ofNat 1))),
        (.lowerThan, .identifier "c", .literal (.number (.ofNat 2)))] := by decide +kernel
  have thirdComparisons : Token.comparisons (ungrouped (readable (Token.read third))) =
      [(.equal, .identifier "a", .literal (.text "a")),
        (.notEqual, .identifier "b", .literal (.number (.ofNat 1)))] := by decide +kernel
  obtain ⟨values, alike⟩ := evaluate_joins_comparisons
  refine ⟨⟨firstRead, secondRead, thirdRead⟩,
    alike first second left right .logicalAnd firstRead secondRead joined same, ?_, ?_⟩
  · intro context mode
    rw [← firstComparisons]
    exact (values first left firstRead).1 joined context mode
  · intro context mode
    rw [← thirdComparisons]
    exact (values third either thirdRead).2 eitherJoined context mode

/-- The texts differ in one parenthesis, and all logical operators are conjunctions. But the
parenthesis ends no group, so that the second text ends there, and only the first asks for `b`. -/
theorem evaluate_differs_after_unmatched_closing :
    let first := "a = 'a' && b = 1"
    let second := "a = 'a') && b = 1"
    ungrouped (Token.read first) = ungrouped (Token.read second) ∧
      JoinedBy .logicalAnd (readable (Token.read first)) ∧
      JoinedBy .logicalAnd (readable (Token.read second)) ∧
      ∃ left right, Tree.read first = .ok (some left) ∧ Tree.read second = .ok (some right) ∧
        left.evaluate .empty .loose = .boolean false ∧
        right.evaluate .empty .loose = .boolean true := by
  intro first second
  let a : Tree := .expression .equal (.identifier "a") (.literal (.text "a"))
  let b : Tree := .expression .equal (.identifier "b") (.literal (.number (.ofNat 1)))
  have same : ungrouped (Token.read first) = ungrouped (Token.read second) := by decide +kernel
  have firstJoined : JoinedBy .logicalAnd (readable (Token.read first)) := by decide +kernel
  have secondJoined : JoinedBy .logicalAnd (readable (Token.read second)) := by decide +kernel
  have firstRead : Tree.read first = .ok (some (.expression .logicalAnd a b)) := by decide +kernel
  have secondRead : Tree.read second = .ok (some a) := by decide +kernel
  refine ⟨same, firstJoined, secondJoined, _, _, firstRead, secondRead, ?_, ?_⟩
  · simp only [a, b, evaluate_eq_value, value, Context.get?_empty]
    decide +kernel
  · simp only [a, evaluate_eq_value, value, Context.get?_empty]
    decide +kernel

end Tree

end Rulebook

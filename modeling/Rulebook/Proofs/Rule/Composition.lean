import Rulebook.Proofs.Rule.Condition
import Rulebook.Proofs.Rule.RequiredFields
import Rulebook.Proofs.Token.Enclosing

/-!
Rules composed from the texts of rules. Two closed texts, each between parentheses, are joined by a
logical operator: the tree, the value and the required fields of the whole are those of the parts,
joined likewise.
-/

namespace Rulebook

namespace Grammar

theorem level_of_closedText {source : String} {tree : Tree} (closed : ClosedText source)
    (read : Tree.read source = .ok (some tree)) : Level (Token.read source) tree := by
  have level := ofTokens_eq_some_iff.mp read
  rwa [closed.1] at level

end Grammar

namespace Tree

variable {first second : String} {left right : Tree}

theorem read_group (closed : ClosedText first) (read : Tree.read first = .ok (some left)) :
    Tree.read ("(" ++ first ++ ")") = .ok (some left) := by
  have level := Grammar.level_of_closedText closed read
  have tokens := closed.spells_group.readCharacters_eq
  apply Grammar.read_of_level _ (.single (.group level))
  simpa [Token.read] using tokens

theorem read_joined (firstClosed : ClosedText first) (secondClosed : ClosedText second)
    (firstRead : Tree.read first = .ok (some left))
    (secondRead : Tree.read second = .ok (some right)) (sign : Operator)
    (logical : sign.isLogical = true) :
    Tree.read ("(" ++ first ++ ") " ++ sign.symbol ++ " (" ++ second ++ ")") =
      .ok (some (.expression sign left right)) := by
  have leftLevel := Grammar.level_of_closedText firstClosed firstRead
  have rightLevel := Grammar.level_of_closedText secondClosed secondRead
  have tokens := (firstClosed.spells_group.joined sign secondClosed.spells_group).readCharacters_eq
  apply Grammar.read_of_level _ (.joined (.group leftLevel) logical (.single (.group rightLevel)))
  simpa [Token.read] using tokens

end Tree

namespace Rule

variable {source : String} {tree : Tree}

theorem tree_of_read (read : Tree.read source = .ok (some tree)) :
    (readOrAlwaysTrue source).rule.tree = some tree := by
  rw [rule_readOrAlwaysTrue_of_ok read]

theorem evaluate_of_read (read : Tree.read source = .ok (some tree)) (context : Context)
    (mode : ComparisonMode) :
    (readOrAlwaysTrue source).rule.evaluate context mode = tree.evaluate context mode := by
  rw [rule_readOrAlwaysTrue_of_ok read]
  rfl

theorem mem_requiredFields_of_read (read : Tree.read source = .ok (some tree)) {field : String} :
    field ∈ (readOrAlwaysTrue source).rule.requiredFields ↔ field ∈ tree.identifiers := by
  rw [rule_readOrAlwaysTrue_of_ok read, mem_requiredFields_some]

/-- A closed text between parentheses is read as before. Two of them joined by a logical operator
are read as that operator between their trees; the value is what the operator makes of their values,
and the required fields are those of either. -/
theorem read_joins_conditions {first second : String} {left right : Tree}
    (firstClosed : ClosedText first) (secondClosed : ClosedText second)
    (firstRead : Tree.read first = .ok (some left))
    (secondRead : Tree.read second = .ok (some right)) :
    let rule (source : String) : Rule := (readOrAlwaysTrue source).rule
    let both := "(" ++ first ++ ") && (" ++ second ++ ")"
    let either := "(" ++ first ++ ") || (" ++ second ++ ")"
    Tree.read ("(" ++ first ++ ")") = .ok (some left) ∧
      Tree.read both = .ok (some (.expression .logicalAnd left right)) ∧
      Tree.read either = .ok (some (.expression .logicalOr left right)) ∧
      ((rule first).tree = some left ∧ (rule second).tree = some right ∧
        (rule both).tree = some (.expression .logicalAnd left right) ∧
        (rule either).tree = some (.expression .logicalOr left right)) ∧
      (∀ context mode, ∃ firstHolds secondHolds,
        (rule first).evaluate context mode = .boolean firstHolds ∧
          (rule second).evaluate context mode = .boolean secondHolds ∧
          (rule both).evaluate context mode = .boolean (firstHolds && secondHolds) ∧
          (rule either).evaluate context mode = .boolean (firstHolds || secondHolds)) ∧
      ∀ field,
        (field ∈ (rule both).requiredFields ↔
          field ∈ (rule first).requiredFields ∨ field ∈ (rule second).requiredFields) ∧
        (field ∈ (rule either).requiredFields ↔
          field ∈ (rule first).requiredFields ∨ field ∈ (rule second).requiredFields) := by
  intro rule both either
  have bothRead : Tree.read both = .ok (some (.expression .logicalAnd left right)) := by
    have spelled : ") && (" = ") " ++ Operator.logicalAnd.symbol ++ " (" := rfl
    have joined := Tree.read_joined firstClosed secondClosed firstRead secondRead .logicalAnd rfl
    simpa only [both, spelled, String.append_assoc] using joined
  have eitherRead : Tree.read either = .ok (some (.expression .logicalOr left right)) := by
    have spelled : ") || (" = ") " ++ Operator.logicalOr.symbol ++ " (" := rfl
    have joined := Tree.read_joined firstClosed secondClosed firstRead secondRead .logicalOr rfl
    simpa only [either, spelled, String.append_assoc] using joined
  refine ⟨Tree.read_group firstClosed firstRead, bothRead, eitherRead,
    ⟨tree_of_read firstRead, tree_of_read secondRead, tree_of_read bothRead,
      tree_of_read eitherRead⟩, ?_, ?_⟩
  · intro context mode
    rcases Tree.exists_boolean_of_read firstRead context mode with ⟨firstHolds, isLeft⟩
    rcases Tree.exists_boolean_of_read secondRead context mode with ⟨secondHolds, isRight⟩
    refine ⟨firstHolds, secondHolds, ?_, ?_, ?_, ?_⟩
    · rw [evaluate_of_read firstRead, isLeft]
    · rw [evaluate_of_read secondRead, isRight]
    · rw [evaluate_of_read bothRead, Tree.evaluate_expression, isLeft, isRight]
      rfl
    · rw [evaluate_of_read eitherRead, Tree.evaluate_expression, isLeft, isRight]
      rfl
  · intro field
    simp only [rule, mem_requiredFields_of_read firstRead, mem_requiredFields_of_read secondRead,
      mem_requiredFields_of_read bothRead, mem_requiredFields_of_read eitherRead,
      Tree.identifiers, List.mem_append, and_self]

theorem read_joins_conditions_quoted :
    let first := "note!='(' &"
    let second := "(name=\"it's\")"
    let left : Tree := .expression .notEqual (.identifier "note") (.literal (.text "("))
    let right : Tree := .expression .equal (.identifier "name") (.literal (.text "it's"))
    (ClosedText first ∧ ClosedText second) ∧
      (Tree.read first = .ok (some left) ∧ Tree.read second = .ok (some right)) ∧
      Tree.read "(note!='(' &) && ((name=\"it's\"))" =
        .ok (some (.expression .logicalAnd left right)) := by
  intro first second left right
  let firstCutting : Cutting :=
    .next [] "note".toList (.next [] "!=".toList (.next [] "'('".toList (.last [' ', '&'])))
  let secondCutting : Cutting :=
    .next [] ['('] (.next [] "name".toList (.next [] ['='] (.next [] "\"it's\"".toList
      (.next [] [')'] (.last [])))))
  have halfOperator : Cutting.IsGap [' ', '&'] [] := by
    simp [Cutting.isGap_cons_iff, Cutting.isGap_nil, Cutting.Skippable, Token.isWordCharacter]
  have firstFollows : firstCutting.Follows [] :=
    ⟨Cutting.isGap_nil _, .word (by decide) (by decide) Token.endsWord_nil
        (Token.endsWord_cons (by decide) _),
      Cutting.isGap_nil _, .twoSigns (by decide),
      Cutting.isGap_nil _, @Cutting.IsLexeme.quoted _ _ .single ['('] (by decide), halfOperator⟩
  have secondFollows : secondCutting.Follows [] :=
    ⟨Cutting.isGap_nil _, .parenthesis (by decide),
      Cutting.isGap_nil _, .word (by decide) (by decide) (Token.endsWord_cons (by decide) _)
        (Token.endsWord_cons (by decide) _),
      Cutting.isGap_nil _, .oneSign (by decide) (by decide),
      Cutting.isGap_nil _, @Cutting.IsLexeme.quoted _ _ .double "it's".toList (by decide),
      Cutting.isGap_nil _, .parenthesis (by decide), Cutting.isGap_nil _⟩
  have firstClosed : ClosedText first :=
    ⟨by decide +kernel, firstCutting, by decide, firstFollows,
      by simp [Cutting.MarksPaired, Cutting.gaps, firstCutting]⟩
  have secondClosed : ClosedText second :=
    ⟨by decide +kernel, secondCutting, by decide, secondFollows,
      by simp [Cutting.MarksPaired, Cutting.gaps, secondCutting]⟩
  have firstRead : Tree.read first = .ok (some left) := by decide +kernel
  have secondRead : Tree.read second = .ok (some right) := by decide +kernel
  exact ⟨⟨firstClosed, secondClosed⟩, ⟨firstRead, secondRead⟩,
    (read_joins_conditions firstClosed secondClosed firstRead secondRead).2.1⟩

end Rule

end Rulebook

import Rulebook.Proofs.Except
import Rulebook.Proofs.Token.Balance
import Rulebook.Tree.Reader

/-!
The grammar of rule texts, apart from the reader: a level is a chain of terms joined by logical
operators, a term is a comparison or a level in parentheses. The reader gives a tree to exactly the
lists of tokens whose completed readable part is a level, and no list is a level in two ways.
-/

namespace Rulebook.Grammar

open Token (completed Balanced)

mutual
inductive Term : List Token → Tree → Prop
  | comparison {left right : Token} {leftText rightText : String} {sign : Operator} :
      left.operand? = some leftText → sign.isComparison = true →
      right.operand? = some rightText →
      Term [left, .operator sign, right]
        (.expression sign (Operand.classify leftText) (Operand.classify rightText))
  | group {tokens : List Token} {tree : Tree} :
      Level tokens tree → Term (.opening :: tokens ++ [.closing]) tree

inductive Level : List Token → Tree → Prop
  | single {tokens : List Token} {tree : Tree} : Term tokens tree → Level tokens tree
  | joined {front rest : List Token} {left right : Tree} {sign : Operator} :
      Term front left → sign.isLogical = true → Level rest right →
      Level (front ++ .operator sign :: rest) (.expression sign left right)
end

mutual
theorem Term.balanced {tokens : List Token} {tree : Tree} : Term tokens tree → Balanced tokens
  | .comparison leftOperand _ rightOperand =>
      .cons_of_isPlain (Token.isPlain_of_operand? leftOperand)
        (.cons_of_isPlain (Token.isPlain_operator _)
          (.cons_of_isPlain (Token.isPlain_of_operand? rightOperand) Token.balanced_nil))
  | .group level => level.balanced.group

theorem Level.balanced {tokens : List Token} {tree : Tree} : Level tokens tree → Balanced tokens
  | .single term => term.balanced
  | .joined term _ level =>
      term.balanced.append (level.balanced.cons_of_isPlain (Token.isPlain_operator _))
end

/-! ## Reading a level from the left -/

/-- The tokens spell what may follow the first term of a level, and this is the level's tree. -/
inductive Continues (first : Tree) : List Token → Tree → Prop
  | stop : Continues first [] first
  | more {sign : Operator} {rest : List Token} {right : Tree} :
      sign.isLogical = true → Level rest right →
      Continues first (.operator sign :: rest) (.expression sign first right)

theorem level_iff {tokens : List Token} {tree : Tree} :
    Level tokens tree ↔
      ∃ front rest first, tokens = front ++ rest ∧ Term front first ∧
        Continues first rest tree := by
  constructor
  · intro level
    cases level with
    | single term => exact ⟨tokens, [], tree, by simp, term, .stop⟩
    | joined term logical level => exact ⟨_, _, _, rfl, term, .more logical level⟩
  · intro given
    rcases given with ⟨front, rest, first, rfl, term, continues⟩
    cases continues with
    | stop => simpa using Level.single term
    | more logical level => exact .joined term logical level

theorem not_level_nil {tree : Tree} : ¬Level [] tree := by
  rw [level_iff]
  intro given
  rcases given with ⟨front, rest, first, empty, term, -⟩
  rcases List.append_eq_nil_iff.mp empty.symm with ⟨rfl, rfl⟩
  cases term

theorem not_level_operator {sign : Operator} {rest : List Token} {tree : Tree} :
    ¬Level (.operator sign :: rest) tree := by
  rw [level_iff]
  intro given
  rcases given with ⟨front, after, first, parts, term, -⟩
  cases term with
  | comparison leftOperand _ _ =>
      rw [List.cons_append, List.cons.injEq] at parts
      simp [← parts.1, Token.operand?] at leftOperand
  | group => simp at parts

theorem level_operand_iff {left : Token} {leftText : String} {rest : List Token} {tree : Tree}
    (leftOperand : left.operand? = some leftText) :
    Level (left :: rest) tree ↔
      ∃ sign right rightText after, rest = .operator sign :: right :: after ∧
        sign.isComparison = true ∧ right.operand? = some rightText ∧
        Continues (.expression sign (Operand.classify leftText) (Operand.classify rightText))
          after tree := by
  rw [level_iff]
  constructor
  · intro given
    rcases given with ⟨front, after, first, parts, term, continues⟩
    cases term with
    | @comparison other right otherText rightText sign otherOperand comparison rightOperand =>
        have sameParts : left = other ∧ rest = .operator sign :: right :: after := by
          simpa using parts
        rcases sameParts with ⟨rfl, rfl⟩
        have sameText : leftText = otherText := by simpa [leftOperand] using otherOperand
        subst sameText
        exact ⟨sign, right, rightText, after, rfl, comparison, rightOperand, continues⟩
    | group =>
        have isOpening : left = .opening := by simpa using congrArg List.head? parts
        simp [isOpening, Token.operand?] at leftOperand
  · intro given
    rcases given with ⟨sign, right, rightText, after, rfl, comparison, rightOperand, continues⟩
    exact ⟨[left, .operator sign, right], after, _, rfl,
      .comparison leftOperand comparison rightOperand, continues⟩

theorem level_opening_iff {inner rest : List Token} {tree : Tree} (balanced : Balanced inner) :
    Level (.opening :: inner ++ .closing :: rest) tree ↔
      ∃ group, Level inner group ∧ Continues group rest tree := by
  rw [level_iff]
  constructor
  · intro given
    rcases given with ⟨front, after, first, parts, term, continues⟩
    cases term with
    | comparison leftOperand =>
        simp only [List.cons_append, List.cons.injEq] at parts
        simp [← parts.1, Token.operand?] at leftOperand
    | group level =>
        rcases balanced.append_closing_inj level.balanced (by simpa using parts) with ⟨rfl, rfl⟩
        exact ⟨first, level, continues⟩
  · intro given
    rcases given with ⟨group, level, continues⟩
    exact ⟨.opening :: inner ++ [.closing], rest, group, by simp, .group level, continues⟩

theorem continues_nil_iff {first tree : Tree} : Continues first [] tree ↔ tree = first := by
  constructor
  · intro continues
    cases continues
    rfl
  · intro equal
    subst equal
    exact .stop

theorem continues_operator_iff {first tree : Tree} {sign : Operator} {rest : List Token} :
    Continues first (.operator sign :: rest) tree ↔
      sign.isLogical = true ∧ ∃ right, Level rest right ∧ tree = .expression sign first right := by
  constructor
  · intro continues
    cases continues with
    | more logical level => exact ⟨logical, _, level, rfl⟩
  · intro given
    rcases given with ⟨logical, right, level, rfl⟩
    exact .more logical level

theorem not_continues_operand {first tree : Tree} {token : Token} {text : String}
    {rest : List Token} (operand : token.operand? = some text) :
    ¬Continues first (token :: rest) tree := by
  intro continues
  cases continues
  simp [Token.operand?] at operand

theorem not_continues_opening {first tree : Tree} {rest : List Token} :
    ¬Continues first (.opening :: rest) tree := by
  intro continues
  cases continues

/-! ## The reader -/

theorem readComparison_eq_ok_iff {leftText : String} {tokens : List Token} {tree : Tree} :
    Tree.readComparison leftText tokens = .ok tree ↔
      ∃ sign right rightText after, tokens = .operator sign :: right :: after ∧
        sign.isComparison = true ∧ right.operand? = some rightText ∧
        tree = .expression sign (Operand.classify leftText) (Operand.classify rightText) := by
  constructor
  · intro read
    unfold Tree.readComparison at read
    split at read
    · contradiction
    · next sign rest =>
        split at read
        · next comparison =>
            cases rest with
            | nil => simp at read
            | cons right after =>
                cases operand : right.operand? with
                | none => simp [operand] at read
                | some rightText =>
                    exact ⟨sign, right, rightText, after, rfl, comparison, operand,
                      by simpa [operand, eq_comm] using read⟩
        · contradiction
    · contradiction
  · intro given
    rcases given with ⟨sign, right, rightText, after, rfl, comparison, operand, rfl⟩
    simp [Tree.readComparison, comparison, operand]

def join (links : List (Tree × Operator)) (last : Tree) : Tree :=
  links.foldl (fun right (left, operator) => .expression operator left right) last

/-- The tokens go on from a chain, and this is the tree of the level from the chain's last term
on. -/
def Completes (chain : Chain) (tokens : List Token) (tree : Tree) : Prop :=
  match chain.last with
  | none => Level tokens tree
  | some first => Continues first tokens tree

theorem finish_eq_some_iff {chain : Chain} {tree : Tree} :
    chain.finish = .ok (some tree) ↔
      ∃ last, Completes chain [] last ∧ join chain.links last = tree := by
  rcases chain with ⟨links, last⟩
  cases last with
  | none => cases links <;> simp [Chain.finish, Completes, not_level_nil]
  | some term => simp [Chain.finish, Completes, continues_nil_iff, join]

theorem finish_eq_none_iff {chain : Chain} : chain.finish = .ok none ↔ chain = .empty := by
  rcases chain with ⟨links, last⟩
  cases last <;> cases links <;> simp [Chain.finish, Chain.empty]

theorem push_none (links : List (Tree × Operator)) (term : Tree) :
    Chain.push ⟨links, none⟩ term = .ok ⟨links, some term⟩ := rfl

theorem push_some (links : List (Tree × Operator)) (last term : Tree) :
    Chain.push ⟨links, some last⟩ term = .error (.unexpectedToken term.text) := rfl

theorem combine_none (links : List (Tree × Operator)) (sign : Operator) :
    Chain.combine ⟨links, none⟩ sign = .error (.missingOperand sign) := rfl

theorem combine_some (links : List (Tree × Operator)) (last : Tree) (sign : Operator) :
    Chain.combine ⟨links, some last⟩ sign = .ok ⟨(last, sign) :: links, none⟩ := rfl

theorem level_operand_completed_iff {left : Token} {leftText : String} {rest : List Token}
    {tree : Tree} (leftOperand : left.operand? = some leftText) :
    Level (completed (left :: rest)) tree ↔
      ∃ comparison, Tree.readComparison leftText rest = .ok comparison ∧
        Continues comparison (completed (rest.drop 2)) tree := by
  rw [Token.completed_cons_of_isPlain (Token.isPlain_of_operand? leftOperand),
    level_operand_iff leftOperand]
  constructor
  · intro given
    rcases given with ⟨sign, right, rightText, after, parts, comparison, rightOperand, continues⟩
    rcases (Token.completed_eq_cons_iff (Token.isPlain_operator sign)).mp parts with
        ⟨middle, rfl, rightParts⟩
    rcases (Token.completed_eq_cons_iff (Token.isPlain_of_operand? rightOperand)).mp rightParts with
        ⟨after, rfl, rfl⟩
    exact ⟨_, readComparison_eq_ok_iff.mpr
      ⟨sign, right, rightText, after, rfl, comparison, rightOperand, rfl⟩, continues⟩
  · intro given
    rcases given with ⟨comparison, read, continues⟩
    rcases readComparison_eq_ok_iff.mp read with
        ⟨sign, right, rightText, after, rfl, comparison, rightOperand, rfl⟩
    refine ⟨sign, right, rightText, completed after, ?_, comparison, rightOperand, continues⟩
    rw [Token.completed_cons_of_isPlain (Token.isPlain_operator sign),
      Token.completed_cons_of_isPlain (Token.isPlain_of_operand? rightOperand)]

private theorem read_operand_eq_some_iff {chain : Chain} {left : Token} {leftText : String}
    {rest : List Token} {tree : Tree} (leftOperand : left.operand? = some leftText)
    (induction : ∀ (next : Chain) (tree : Tree),
      Tree.readLevel next (rest.drop 2) = .ok (some tree) ↔
        ∃ last, Completes next (completed (rest.drop 2)) last ∧ join next.links last = tree) :
    (do Tree.readLevel (← chain.push (← Tree.readComparison leftText rest)) (rest.drop 2)) =
        .ok (some tree) ↔
      ∃ last, Completes chain (completed (left :: rest)) last ∧ join chain.links last = tree := by
  rw [bind_eq_ok_iff]
  rcases chain with ⟨links, last⟩
  cases last with
  | none =>
      simp only [Completes, level_operand_completed_iff leftOperand, push_none, ok_bind, induction]
      constructor
      · intro given
        rcases given with ⟨comparison, read, last, continues, joined⟩
        exact ⟨last, ⟨comparison, read, continues⟩, joined⟩
      · intro given
        rcases given with ⟨last, ⟨comparison, read, continues⟩, joined⟩
        exact ⟨comparison, read, last, continues, joined⟩
  | some term =>
      rw [Token.completed_cons_of_isPlain (Token.isPlain_of_operand? leftOperand)]
      simp [Completes, not_continues_operand leftOperand, push_some, error_bind]

/-- Reading a level of which a chain has been read gives the tree that the grammar gives to the
completed tokens, inside the chain. -/
theorem readLevel_eq_some_iff {chain : Chain} {tokens : List Token} {tree : Tree} :
    Tree.readLevel chain tokens = .ok (some tree) ↔
      ∃ last, Completes chain (completed tokens) last ∧ join chain.links last = tree := by
  induction chain, tokens using Tree.readLevel.induct generalizing tree with
  | case1 chain => rw [Tree.readLevel, Token.completed_nil, finish_eq_some_iff]
  | case2 chain rest => rw [Tree.readLevel, Token.completed_closing, finish_eq_some_iff]
  | case3 chain sign rest logical induction =>
      rw [Tree.readLevel, if_pos logical,
        Token.completed_cons_of_isPlain (Token.isPlain_operator sign)]
      rcases chain with ⟨links, last⟩
      cases last with
      | none => simp [combine_none, error_bind, Completes, not_level_operator]
      | some term =>
          rw [combine_some, ok_bind, induction]
          simp only [Completes, continues_operator_iff]
          constructor
          · intro given
            rcases given with ⟨last, level, joined⟩
            exact ⟨.expression sign term last, ⟨logical, last, level, rfl⟩, joined⟩
          · intro given
            rcases given with ⟨-, ⟨-, last, level, rfl⟩, joined⟩
            exact ⟨last, level, joined⟩
  | case4 chain sign rest comparison =>
      rw [Tree.readLevel, if_neg comparison,
        Token.completed_cons_of_isPlain (Token.isPlain_operator sign)]
      rcases chain with ⟨links, last⟩
      cases last <;> simp [Completes, not_level_operator, continues_operator_iff, comparison]
  | case5 chain rest inner outer =>
      -- `inner` is about the tokens of the group, `outer` about those after it.
      rw [Tree.readLevel, bind_eq_ok_iff, Token.completed_opening]
      rcases chain with ⟨links, last⟩
      cases last with
      | none =>
          simp only [Completes, level_opening_iff (Token.balanced_completed _)]
          constructor
          · intro given
            rcases given with ⟨group?, read, continued⟩
            cases group? with
            | none => contradiction
            | some group =>
                rcases inner.mp read with ⟨level, completes, rfl⟩
                simp only [push_none, ok_bind, outer] at continued
                rcases continued with ⟨last, continues, joined⟩
                exact ⟨last, ⟨level, completes, continues⟩, joined⟩
          · intro given
            rcases given with ⟨last, ⟨group, level, continues⟩, joined⟩
            refine ⟨some group, inner.mpr ⟨group, level, rfl⟩, ?_⟩
            simp only [push_none, ok_bind, outer]
            exact ⟨last, continues, joined⟩
      | some term =>
          simp only [Completes, List.cons_append, not_continues_opening, false_and, exists_false,
            iff_false]
          intro given
          rcases given with ⟨group?, -, continued⟩
          cases group? <;> contradiction
  | case6 chain text rest induction =>
      rw [Tree.readLevel]
      exact read_operand_eq_some_iff rfl fun next tree => induction next
  | case7 chain quote content rest induction =>
      rw [Tree.readLevel]
      exact read_operand_eq_some_iff rfl fun next tree => induction next

private theorem push_bind_ne_none {chain : Chain} {term : Tree} {rest : List Token}
    (later : ∀ next, Tree.readLevel next rest = .ok none → next = .empty) :
    (do Tree.readLevel (← chain.push term) rest) ≠ .ok none := by
  rcases chain with ⟨links, last⟩
  cases last with
  | none =>
      intro read
      have empty := later ⟨links, some term⟩ read
      simp [Chain.empty] at empty
  | some last => simp [push_some, error_bind]

private theorem read_operand_ne_none {chain : Chain} {leftText : String} {rest : List Token}
    (later : ∀ next, Tree.readLevel next (rest.drop 2) = .ok none → next = .empty) :
    (do Tree.readLevel (← chain.push (← Tree.readComparison leftText rest)) (rest.drop 2)) ≠
      .ok none := by
  intro read
  rcases bind_eq_ok_iff.mp read with ⟨comparison, _, continued⟩
  exact push_bind_ne_none later continued

theorem readLevel_eq_none_iff {chain : Chain} {tokens : List Token} :
    Tree.readLevel chain tokens = .ok none ↔ chain = .empty ∧ Token.readable tokens = [] := by
  induction chain, tokens using Tree.readLevel.induct with
  | case1 chain =>
      rw [Tree.readLevel, finish_eq_none_iff]
      simp [Token.readable, Token.readableFrom]
  | case2 chain rest =>
      rw [Tree.readLevel, finish_eq_none_iff]
      simp [Token.readable, Token.readableFrom]
  | case3 chain sign rest logical induction =>
      rw [Tree.readLevel, if_pos logical, Token.readable,
        Token.readableFrom_cons_of_isPlain (Token.isPlain_operator sign)]
      rcases chain with ⟨links, last⟩
      cases last with
      | none => simp [combine_none, error_bind]
      | some term => simp [combine_some, ok_bind, induction, Chain.empty]
  | case4 chain sign rest comparison =>
      rw [Tree.readLevel, if_neg comparison, Token.readable,
        Token.readableFrom_cons_of_isPlain (Token.isPlain_operator sign)]
      simp
  | case5 chain rest inner outer =>
      rw [Tree.readLevel, bind_eq_ok_iff]
      simp only [Token.readable, Token.readableFrom, reduceCtorEq, and_false, iff_false]
      intro given
      rcases given with ⟨group?, -, continued⟩
      cases group? with
      | none => contradiction
      | some group => exact push_bind_ne_none (fun next read => ((outer next).mp read).1) continued
  | case6 chain text rest induction =>
      rw [Tree.readLevel]
      simp only [Token.readable, Token.readableFrom, reduceCtorEq, and_false, iff_false]
      exact read_operand_ne_none fun next read => ((induction next).mp read).1
  | case7 chain quote content rest induction =>
      rw [Tree.readLevel]
      simp only [Token.readable, Token.readableFrom, reduceCtorEq, and_false, iff_false]
      exact read_operand_ne_none fun next read => ((induction next).mp read).1

/-! ## The trees of token lists -/

theorem ofTokens_eq_none_iff {tokens : List Token} :
    Tree.ofTokens tokens = .ok none ↔ Token.readable tokens = [] := by
  simp [Tree.ofTokens, readLevel_eq_none_iff]

theorem ofTokens_eq_some_iff {tokens : List Token} {tree : Tree} :
    Tree.ofTokens tokens = .ok (some tree) ↔ Level (completed tokens) tree := by
  simp [Tree.ofTokens, readLevel_eq_some_iff, Completes, Chain.empty, join]

theorem read_of_level {source : String} {tokens : List Token} {tree : Tree}
    (isRead : Token.read source = tokens) (level : Level tokens tree) :
    Tree.read source = .ok (some tree) := by
  rw [Tree.read, isRead, ofTokens_eq_some_iff, level.balanced]
  exact level

theorem Level.unique {tokens : List Token} {left right : Tree} (isLeft : Level tokens left)
    (isRight : Level tokens right) : left = right := by
  have leftRead : Tree.ofTokens tokens = .ok (some left) := by
    rwa [ofTokens_eq_some_iff, isLeft.balanced]
  have rightRead : Tree.ofTokens tokens = .ok (some right) := by
    rwa [ofTokens_eq_some_iff, isRight.balanced]
  simpa [leftRead] using rightRead

/-- The reader follows the grammar. It finds no tree if there is nothing to read, the tree of the
completed readable tokens if they are a level, and refuses all other tokens; and no tokens are a
level with two trees. -/
theorem ofTokens_follows_grammar :
    (∀ tokens, Tree.ofTokens tokens = .ok none ↔ Token.readable tokens = []) ∧
      (∀ tokens tree, Tree.ofTokens tokens = .ok (some tree) ↔ Level (completed tokens) tree) ∧
      (∀ tokens, (∃ error, Tree.ofTokens tokens = .error error) ↔
        Token.readable tokens ≠ [] ∧ ∀ tree, ¬Level (completed tokens) tree) ∧
      ∀ tokens left right, Level tokens left → Level tokens right → left = right := by
  refine ⟨fun _ => ofTokens_eq_none_iff, fun _ _ => ofTokens_eq_some_iff, fun tokens => ?_,
    fun _ _ _ => Level.unique⟩
  simp only [ne_eq, ← ofTokens_eq_none_iff, ← ofTokens_eq_some_iff]
  cases Tree.ofTokens tokens with
  | error error => simp
  | ok tree? => cases tree? <;> simp

theorem ofTokens_follows_grammar_unclosed :
    let comparison : List Token := [.word "a", .operator .equal, .quoted .single "b"]
    let tree : Tree := .expression .equal (Operand.classify "a") (Operand.classify "'b'")
    let tokens : List Token :=
      .opening :: comparison ++ .operator .logicalOr :: .opening :: comparison
    Level (tokens ++ [.closing, .closing]) (.expression .logicalOr tree tree) ∧
      Tree.ofTokens tokens = .ok (some (.expression .logicalOr tree tree)) ∧
      ∀ other, Level (tokens ++ [.closing, .closing]) other →
        .expression .logicalOr tree tree = other := by
  intro comparison tree tokens
  have term : Term comparison tree := .comparison rfl rfl rfl
  have level : Level (tokens ++ [.closing, .closing]) (.expression .logicalOr tree tree) :=
    .single (.group (.joined term rfl (.single (.group (.single term)))))
  have completes : completed tokens = tokens ++ [.closing, .closing] := by decide
  rcases ofTokens_follows_grammar with ⟨-, some_iff, -, unique⟩
  exact ⟨level, (some_iff tokens _).mpr (completes ▸ level), fun other => unique _ _ other level⟩

end Rulebook.Grammar

import Rulebook.Proofs.Token.Unmatched
import Rulebook.Proofs.Tree.Grammar

/-!
What parentheses without a partner mean to the reader. Reading depends on the settled tokens only, a
refusal and its reason included.
-/

namespace Rulebook.Tree

open Token (settled completed inside afterGroup)

/-- A comparison looks two tokens ahead. These are the same, or the first of them is no sign of a
comparison in either place. -/
theorem readComparison_settled (left : String) (tokens : List Token) :
    readComparison left (settled tokens) = readComparison left tokens := by
  cases tokens with
  | nil => rfl
  | cons token rest =>
      cases token with
      | operator sign =>
          rw [Token.settled_cons_of_isPlain (Token.isPlain_operator sign), readComparison,
            readComparison, Token.head?_settled]
      | opening => rfl
      | closing => rfl
      | word text => rfl
      | quoted quote content => rfl

theorem settled_drop_of_readComparison {left : String} {tokens : List Token} {tree : Tree}
    (read : readComparison left tokens = .ok tree) :
    (settled tokens).drop 2 = settled (tokens.drop 2) := by
  rcases Grammar.readComparison_eq_ok_iff.mp read with
    ⟨sign, right, rightText, after, rfl, comparison, rightOperand, rfl⟩
  rw [Token.settled_cons_of_isPlain (Token.isPlain_operator sign),
    Token.settled_cons_of_isPlain (Token.isPlain_of_operand? rightOperand)]
  rfl

private theorem read_operand_settled {chain : Chain} {leftText : String} {rest : List Token}
    (induction : ∀ next : Chain,
      readLevel next (settled (rest.drop 2)) = readLevel next (rest.drop 2)) :
    (do
        let term ← readComparison leftText (settled rest)
        readLevel (← chain.push term) ((settled rest).drop 2)) =
      (do
        let term ← readComparison leftText rest
        readLevel (← chain.push term) (rest.drop 2)) := by
  rw [readComparison_settled]
  cases read : readComparison leftText rest with
  | error error => rfl
  | ok comparison => simp only [ok_bind, settled_drop_of_readComparison read, induction]

/-- Reading a level depends on the settled tokens only. -/
theorem readLevel_settled (chain : Chain) (tokens : List Token) :
    readLevel chain (settled tokens) = readLevel chain tokens := by
  induction chain, tokens using readLevel.induct with
  | case1 chain => rfl
  | case2 chain rest => rw [Token.settled_closing, readLevel, readLevel]
  | case3 chain sign rest logical induction =>
      rw [Token.settled_cons_of_isPlain (Token.isPlain_operator sign), readLevel, readLevel,
        if_pos logical, if_pos logical]
      cases combined : chain.combine sign with
      | error error => rfl
      | ok next => simp only [ok_bind, induction]
  | case4 chain sign rest comparison =>
      rw [Token.settled_cons_of_isPlain (Token.isPlain_operator sign), readLevel, readLevel,
        if_neg comparison, if_neg comparison]
  | case5 chain rest inner outer =>
      -- The group is closed in both places: by its partner, or at the end of the settled tokens.
      have sameParts := Token.inside_append (Token.balanced_completed (inside rest))
        (settled (afterGroup rest))
      rw [Token.settled_inside] at inner
      rw [Token.settled_opening, readLevel, readLevel, sameParts.1, sameParts.2, inner]
      cases read : readLevel .empty (inside rest) with
      | error error => rfl
      | ok group? =>
          cases group? with
          | none => rfl
          | some group =>
              cases pushed : chain.push group with
              | error error => simp only [ok_bind, pushed, error_bind]
              | ok next => simp only [ok_bind, pushed, outer]
  | case6 chain text rest induction =>
      rw [Token.settled_cons_of_isPlain (Token.isPlain_of_operand? rfl), readLevel, readLevel]
      exact read_operand_settled induction
  | case7 chain quote content rest induction =>
      rw [Token.settled_cons_of_isPlain (Token.isPlain_of_operand? rfl), readLevel, readLevel]
      exact read_operand_settled induction

theorem ofTokens_settled (tokens : List Token) : ofTokens (settled tokens) = ofTokens tokens :=
  readLevel_settled .empty tokens

theorem ofTokens_eq_of_settled_eq {left right : List Token}
    (same : settled left = settled right) : ofTokens left = ofTokens right := by
  rw [← ofTokens_settled left, ← ofTokens_settled right, same]

/-- Closing every group that is left open changes nothing, and nothing after the first closing
parenthesis that ends no group matters. Both hold of trees and of refusals: the error is the
same. -/
theorem ofTokens_parentheses :
    (∀ tokens : List Token,
      ofTokens (tokens ++ List.replicate (Token.unmatchedOpenings tokens) .closing) =
        ofTokens tokens) ∧
      ∀ (tokens : List Token) (index : Nat),
        tokens[index]? = some .closing → Token.readable tokens = tokens.take index →
          ofTokens tokens = ofTokens (tokens.take (index + 1)) := by
  constructor
  · intro tokens
    apply ofTokens_eq_of_settled_eq
    exact Token.settled_append_replicate tokens
  · intro tokens index isClosing isFirst
    have inRange : index < tokens.length := (List.getElem?_eq_some_iff.mp isClosing).1
    have length : (Token.readable tokens).length = index := by
      rw [isFirst, List.length_take, Nat.min_eq_left (Nat.le_of_lt inRange)]
    apply ofTokens_eq_of_settled_eq
    rw [← length]
    exact (Token.settled_take tokens).symm

theorem ofTokens_parentheses_refused :
    let tokens : List Token := [.word "a", .closing, .opening, .word "b"]
    ofTokens (tokens ++ [.closing]) = ofTokens tokens ∧ tokens[1]? = some .closing ∧
      Token.readable tokens = tokens.take 1 ∧ ofTokens tokens = ofTokens [.word "a", .closing] ∧
      ofTokens tokens = .error (.unknownOperator ")") := by
  intro tokens
  rcases ofTokens_parentheses with ⟨closed, cut⟩
  have isCut : ofTokens tokens = ofTokens [.word "a", .closing] := cut tokens 1 rfl rfl
  have refused : ofTokens [.word "a", .closing] = .error (.unknownOperator ")") := by
    rw [ofTokens, readLevel]
    rfl
  exact ⟨closed tokens, rfl, rfl, isCut, isCut.trans refused⟩

end Rulebook.Tree

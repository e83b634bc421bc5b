import Rulebook.Operand
import Rulebook.RuleError
import Rulebook.Token.Grouping
import Rulebook.Token.Reader

/-!
Reading rule text as a tree. There is no precedence: a level is a chain of terms joined by logical
operators, a term is a comparison or a group in parentheses, and chains lean to the right. A group
that is never closed ends with the text; a closing parenthesis without a partner ends the reading.
-/

namespace Rulebook

/-- The part of a level read so far: the terms with the operators after them, the latest first, and
the term that no operator follows yet. -/
structure Chain where
  links : List (Tree × Operator)
  last : Option Tree

namespace Chain

def empty : Chain := ⟨[], none⟩

def push (chain : Chain) (term : Tree) : Except RuleError Chain :=
  match chain.last with
  | some _ => .error (.unexpectedToken term.text)
  | none => .ok { chain with last := some term }

def combine (chain : Chain) (operator : Operator) : Except RuleError Chain :=
  match chain.last with
  | some term => .ok ⟨(term, operator) :: chain.links, none⟩
  | none => .error (.missingOperand operator)

def finish (chain : Chain) : Except RuleError (Option Tree) :=
  match chain.last, chain.links with
  | some term, links =>
    .ok (some (links.foldl (fun right (left, operator) => .expression operator left right) term))
  | none, (_, operator) :: _ => .error (.missingOperand operator)
  | none, [] => .ok none

end Chain

namespace Tree

/-- Reads a comparison whose left operand was taken off the tokens. It takes up two more of them. -/
def readComparison (left : String) : List Token → Except RuleError Tree
  | [] => .error (.missingComparison left)
  | .operator sign :: rest =>
    if sign.isComparison then
      match rest.head?.bind Token.operand? with
      | some right => .ok (.expression sign (Operand.classify left) (Operand.classify right))
      | none => .error (.missingOperand sign)
    else .error (.unknownOperator sign.symbol)
  | token :: _ => .error (.unknownOperator token.text)

def readLevel (chain : Chain) : List Token → Except RuleError (Option Tree)
  | [] => chain.finish
  | .closing :: _ => chain.finish
  | .operator sign :: rest =>
    if sign.isLogical then do readLevel (← chain.combine sign) rest
    else .error (.unexpectedToken sign.symbol)
  | .opening :: rest => do
    match ← readLevel .empty (Token.inside rest) with
    | none => .error .emptyGroup
    | some group => readLevel (← chain.push group) (Token.afterGroup rest)
  | .word text :: rest => do
    readLevel (← chain.push (← readComparison text rest)) (rest.drop 2)
  | .quoted quote content :: rest => do
    readLevel (← chain.push (← readComparison (Token.quoted quote content).text rest)) (rest.drop 2)
  termination_by tokens => tokens.length
  decreasing_by
    all_goals simp only [List.length_cons, List.length_drop]
    · exact Nat.lt_succ_self _
    · exact Nat.lt_succ_of_le (Token.length_inside_le rest)
    · exact Nat.lt_succ_of_le (Token.length_afterGroup_le rest)
    · omega
    · omega

def ofTokens (tokens : List Token) : Except RuleError (Option Tree) := readLevel .empty tokens

def read (source : String) : Except RuleError (Option Tree) := ofTokens (Token.read source)

end Tree

end Rulebook

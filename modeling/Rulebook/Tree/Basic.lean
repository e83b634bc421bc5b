import Rulebook.Token.Basic
import Rulebook.Value.Comparison

/-!
Expression trees and their text.
-/

namespace Rulebook

inductive Tree where
  /-- A name that is looked up when the tree is evaluated. -/
  | identifier (name : String)
  | literal (value : Value)
  | expression (operator : Operator) (left right : Tree)
  deriving DecidableEq, Repr

namespace Tree

def isExpression : Tree → Bool
  | expression .. => true
  | _ => false

def size : Tree → Nat
  | identifier _ | literal _ => 1
  | expression _ left right => 1 + left.size + right.size

def identifiers : Tree → List String
  | identifier name => [name]
  | literal _ => []
  | expression _ left right => left.identifiers ++ right.identifiers

/-- Whether two trees have the same shape, operators, names and literals. Literals are compared as
values of one kind, so both zeros are the same and what is not a number differs from itself. -/
def equals : Tree → Tree → Bool
  | identifier left, identifier right => left == right
  | literal left, literal right => left.strictlyEquals right
  | expression leftOperator a b, expression rightOperator c d =>
    leftOperator == rightOperator && a.equals c && b.equals d
  | _, _ => false

/-- A literal as rule text. A text stands between single marks unless it contains one. -/
def literalText : Value → String
  | .text value =>
    let quote : Quote := if '\'' ∈ value.toList then .double else .single
    quote.enclose value
  | value => value.display

def sideText : Tree → String
  | identifier name => name
  | literal value => literalText value
  | expression operator left right =>
    "(" ++ left.sideText ++ " " ++ operator.symbol ++ " " ++ right.sideText ++ ")"

def text : Tree → String
  | expression operator left right =>
    left.sideText ++ " " ++ operator.symbol ++ " " ++ right.sideText
  | leaf => leaf.sideText

end Tree

end Rulebook

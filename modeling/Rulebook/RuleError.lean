import Rulebook.Operator
import Rulebook.Text.Quoted

/-!
What can go wrong with a rule, and the wording of each case.
-/

namespace Rulebook

inductive RuleError where
  /-- A text stands where a comparison operator is due. -/
  | unknownOperator (text : String)
  /-- The text ends after the first operand of a comparison. -/
  | missingComparison (operand : String)
  /-- An operator lacks one of the two sides it joins. -/
  | missingOperand (operator : Operator)
  /-- Two terms follow each other, or a comparison operator stands where a term is due. -/
  | unexpectedToken (text : String)
  /-- Parentheses without anything inside. -/
  | emptyGroup
  | emptyName
  | ruleNotFound (name : String)
  deriving DecidableEq, Repr

namespace RuleError

def message : RuleError → String
  | unknownOperator text => s!"无效的操作符: {text}"
  | missingComparison operand => s!"操作数 '{operand}' 之后缺少比较操作符"
  | missingOperand operator => s!"操作符 '{operator.symbol}' 缺少操作数"
  | unexpectedToken text => s!"意外的标记: {text}"
  | emptyGroup => "空的括号分组"
  | emptyName => "规则名称不能为空"
  | ruleNotFound name => s!"规则未找到: {name}"

def describe : RuleError → String
  | unknownOperator text => "UnknownOperator(" ++ Text.quoted text ++ ")"
  | missingComparison operand =>
    "MissingComparison \x7b operand: " ++ Text.quoted operand ++ " \x7d"
  | missingOperand operator =>
    "MissingOperand \x7b operator: " ++ Text.quoted operator.symbol ++ " \x7d"
  | unexpectedToken text => "UnexpectedToken(" ++ Text.quoted text ++ ")"
  | emptyGroup => "EmptyGroup"
  | emptyName => "EmptyName"
  | ruleNotFound name => "RuleNotFound(" ++ Text.quoted name ++ ")"

end RuleError

def Operator.read (text : String) : Except RuleError Operator :=
  match Operator.ofSymbol? text with
  | some operator => .ok operator
  | none => .error (.unknownOperator text)

end Rulebook

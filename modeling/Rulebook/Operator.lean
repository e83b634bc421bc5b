/-!
The operators of the rule language. Six compare two operands, two join two conditions.
-/

namespace Rulebook

inductive Operator where
  | equal
  | notEqual
  | lowerThan
  | lowerThanEqual
  | greaterThan
  | greaterThanEqual
  | logicalAnd
  | logicalOr
  deriving DecidableEq, Repr

namespace Operator

def symbol : Operator → String
  | equal => "=="
  | notEqual => "!="
  | lowerThan => "<"
  | lowerThanEqual => "<="
  | greaterThan => ">"
  | greaterThanEqual => ">="
  | logicalAnd => "&&"
  | logicalOr => "||"

def tag : Operator → String
  | equal => "equal"
  | notEqual => "notEqual"
  | lowerThan => "lowerThan"
  | lowerThanEqual => "lowerThanEqual"
  | greaterThan => "greaterThan"
  | greaterThanEqual => "greaterThanEqual"
  | logicalAnd => "logicalAnd"
  | logicalOr => "logicalOr"

def isLogical : Operator → Bool
  | logicalAnd | logicalOr => true
  | _ => false

def isComparison (operator : Operator) : Bool := !operator.isLogical

def all : List Operator :=
  [equal, notEqual, lowerThan, lowerThanEqual, greaterThan, greaterThanEqual, logicalAnd, logicalOr]

def ofSymbol? (text : String) : Option Operator :=
  if text = "=" then some equal else all.find? (·.symbol = text)

def ofTag? (text : String) : Option Operator := all.find? (·.tag = text)

@[simp] theorem mem_all (operator : Operator) : operator ∈ all := by
  cases operator <;> decide

@[simp] theorem ofSymbol?_symbol (operator : Operator) :
    ofSymbol? operator.symbol = some operator := by
  cases operator <;> decide

@[simp] theorem ofTag?_tag (operator : Operator) : ofTag? operator.tag = some operator := by
  cases operator <;> decide

end Operator

end Rulebook

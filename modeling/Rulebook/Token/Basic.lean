import Rulebook.Operator

/-!
The tokens of rule text.
-/

namespace Rulebook

inductive Quote where
  | double
  | single
  deriving DecidableEq, Repr

namespace Quote

def mark : Quote → Char
  | double => '"'
  | single => '\''

def enclose (quote : Quote) (content : String) : String :=
  String.singleton quote.mark ++ content ++ String.singleton quote.mark

end Quote

inductive Token where
  /-- A run of letters, digits and underscores: a name, a number or a word such as `true`. -/
  | word (text : String)
  | quoted (quote : Quote) (content : String)
  | operator (sign : Operator)
  | opening
  | closing
  deriving DecidableEq, Repr

namespace Token

def text : Token → String
  | word text => text
  | quoted quote content => quote.enclose content
  | operator sign => sign.symbol
  | opening => "("
  | closing => ")"

def operand? : Token → Option String
  | word text => some text
  | token@(quoted ..) => some token.text
  | _ => none

def isWordCharacter (character : Char) : Bool := character.isAlphanum || character == '_'

end Token

end Rulebook

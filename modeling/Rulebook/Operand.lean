import Rulebook.Json.Reader
import Rulebook.Tree.Basic

/-!
What an operand of a comparison means: a quoted text, a literal, or a name.
-/

namespace Rulebook

namespace Operand

def unquote? : List Char → Option (List Char)
  | [] => none
  | mark :: rest =>
    if (mark = '"' ∨ mark = '\'') ∧ rest.getLast? = some mark then some rest.dropLast else none

/-- The nearest number to a text that is a number in JSON's spelling and nothing else, however large
it is. -/
def exactNumber? (text : List Char) : Option Number :=
  match Json.readWrittenNumber text with
  | .ok (written, []) => some written.numeral.number
  | _ => none

/-- The literal that a bare text spells: null, a truth value or a number, in JSON's spelling. A
number out of JSON's range is infinite. -/
def literal? (text : String) : Option Value :=
  match Json.readAll (Json.readValue Json.depthLimit) text with
  | .ok (.string _) => none
  | .ok json => json.toValue?
  | .error _ => (exactNumber? text.toList).map .number

/-- The leaf of a tree that an operand stands for. Quoted texts are never literals of another kind,
and what is neither quoted nor a literal is a name. -/
def classify (text : String) : Tree :=
  match unquote? text.toList with
  | some content => .literal (.text (String.ofList content))
  | none =>
    match literal? text with
    | some value => .literal value
    | none => .identifier text

example : classify "'42'" = .literal (.text "42") := by decide +kernel

example : classify "42" = .literal (.number (.ofNat 42)) := by decide +kernel

example : classify "1e400" = .literal (.number (.infinity false)) := by decide +kernel

example : classify "007" = .identifier "007" := by decide +kernel

example : classify "'abc\"" = .identifier "'abc\"" := by decide +kernel

end Operand

end Rulebook

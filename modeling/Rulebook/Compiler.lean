import Rulebook.Rule.Basic
import Rulebook.Text.Parts

/-!
Compiling named rules. Every accepted rule gets the next version number.
-/

namespace Rulebook

structure CompiledRule where
  name : String
  source : String
  rule : Rule
  requiredFields : Std.TreeSet String
  /-- How many rules had been accepted when this one was, itself included. -/
  version : Nat

structure Compiler where
  accepted : Nat := 0
  deriving DecidableEq, Repr

namespace Compiler

/-- Compiles a rule under a name that is not blank. A refused rule takes no version number. -/
def compile (compiler : Compiler) (name source : String) :
    Except RuleError (CompiledRule × Compiler) := do
  if Text.isBlankText name then .error .emptyName
  else
    let rule ← Rule.read source
    let version := compiler.accepted + 1
    .ok ({ name, source, rule, requiredFields := rule.requiredFields, version }, ⟨version⟩)

end Compiler

end Rulebook

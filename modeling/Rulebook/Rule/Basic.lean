import Std.Data.TreeSet
import Rulebook.Evaluation
import Rulebook.Log.Entry
import Rulebook.Metric
import Rulebook.Tree.Reader

/-!
Rules: a tree, or no tree at all, which means that there is no condition.
-/

namespace Rulebook

structure Rule where
  tree : Option Tree
  deriving DecidableEq, Repr

namespace Rule

def alwaysTrue : Rule := ⟨none⟩

def isAlwaysTrue (rule : Rule) : Bool := rule.tree.isNone

def evaluate (rule : Rule) (context : Context) (mode : ComparisonMode := .standard) : Value :=
  match rule.tree with
  | none => .boolean true
  | some tree => tree.evaluate context mode

def requiredFields (rule : Rule) : Std.TreeSet String :=
  .ofList (rule.tree.elim [] Tree.identifiers)

def equals (left right : Rule) : Bool :=
  match left.tree, right.tree with
  | none, none => true
  | some left, some right => left.equals right
  | _, _ => false

def read (source : String) : Except RuleError Rule := do
  .ok ⟨← Tree.read source⟩

structure Reading where
  rule : Rule
  log : List Log.Entry
  metrics : List Metric

/-- Reads a rule text; a text that cannot be read is as good as no rule. -/
def readOrAlwaysTrue (source : String) : Reading :=
  match read source with
  | .ok rule =>
    { rule
      log := [⟨.debug, "规则解析完成",
        [("rule", source), ("always_true", toString rule.isAlwaysTrue)]⟩]
      metrics := [] }
  | .error error =>
    { rule := alwaysTrue
      log := [⟨.warn, "规则解析失败，按恒为真处理",
        [("rule", source), ("error", error.message)]⟩]
      metrics := [.parseFailure] }

end Rule

end Rulebook

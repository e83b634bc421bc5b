import Rulebook.Compiler
import Rulebook.Json.Writer
import Rulebook.Text.Quoted

/-!
Running a compiled rule on a context, with a trace of the evaluation if it is asked for.
-/

namespace Rulebook

inductive Side where
  | left
  | right
  deriving DecidableEq, Repr

def Side.name : Side → String
  | .left => "left"
  | .right => "right"

/-- The way from the root of a tree to a node, the last step first. -/
abbrev Path := List Side

def Path.text (path : Path) : String :=
  path.foldr (fun side text => text ++ "." ++ side.name) "root"

/-- A value in a trace: texts stand between marks, so that no two kinds look alike. -/
def Value.describe : Value → String
  | .text value => Text.quoted value
  | value => value.display

inductive TraceStep where
  /-- The context lacks a name. -/
  | missing (name : String)
  /-- An operator was applied. -/
  | applied (left : Value) (operator : Operator) (right : Value) (matched : Bool)
  deriving DecidableEq, Repr

namespace TraceStep

def text : TraceStep → String
  | missing name => s!"字段 {name} 不存在，使用名称本身"
  | applied left operator right matched =>
    left.describe ++ " " ++ operator.symbol ++ " " ++ right.describe ++ " => " ++
      if matched then "MATCHED" else "NOT_MATCHED"

end TraceStep

structure TraceLine where
  path : Path
  step : TraceStep
  deriving DecidableEq, Repr

def TraceLine.text (line : TraceLine) : String := line.path.text ++ ": " ++ line.step.text

namespace Tree

def trace (context : Context) (mode : ComparisonMode) (path : Path) :
    Tree → Value × List TraceLine
  | literal value => (value, [])
  | identifier name =>
    (context.resolve name,
      if (context.get? name).isNone then [⟨path, .missing name⟩] else [])
  | expression operator left right =>
    let (leftValue, leftLines) := trace context mode (.left :: path) left
    let (rightValue, rightLines) := trace context mode (.right :: path) right
    let value := operator.apply mode leftValue rightValue
    (value, leftLines ++ rightLines ++
      [⟨path, .applied leftValue operator rightValue value.isTruthy⟩])

end Tree

structure Executor where
  traced : Bool := false
  mode : ComparisonMode := .loose
  deriving DecidableEq, Repr

structure Report where
  ruleName : String
  value : Value
  trace : List String
  deriving DecidableEq, Repr

namespace Report

def matched (report : Report) : Bool := report.value.isTruthy

def metrics (report : Report) : List Metric := Metric.evaluation report.ruleName report.matched

def toJson (report : Report) (microseconds : Nat) : Json :=
  .object [("rule_name", .string report.ruleName), ("value", .ofValue report.value),
    ("matched", .boolean report.matched), ("evaluation_trace", .list (report.trace.map .string)),
    ("evaluation_time_us", .integer microseconds)]

end Report

namespace Executor

def execute (executor : Executor) (rule : CompiledRule) (context : Context) : Report :=
  match rule.rule.tree with
  | none =>
    ⟨rule.name, .boolean true, if executor.traced then ["root: 空规则，恒为真"] else []⟩
  | some tree =>
    if executor.traced then
      let (value, lines) := tree.trace context executor.mode []
      ⟨rule.name, value, lines.map TraceLine.text⟩
    else ⟨rule.name, rule.rule.evaluate context executor.mode, []⟩

end Executor

end Rulebook

/-!
What the library tells a collector of metrics. It is a result like any other; durations are left to
the caller.
-/

namespace Rulebook

namespace Metric

inductive Kind where
  | counter
  | histogram
  deriving DecidableEq, Repr

end Metric

inductive Metric where
  | describe (kind : Metric.Kind) (name text : String)
  | count (name : String) (labels : List (String × String)) (amount : Nat)
  | observe (name : String) (labels : List (String × String))
  deriving DecidableEq, Repr

namespace Metric

def parseFailures : String := "rule_parse_failures_total"

def evaluations : String := "rule_evaluations_total"

def evaluationDuration : String := "rule_evaluation_duration_seconds"

def descriptions : List Metric :=
  [describe .counter parseFailures "Total number of rule sources that failed to parse",
    describe .counter evaluations "Total number of rule evaluations",
    describe .histogram evaluationDuration "Rule evaluation duration in seconds"]

def parseFailure : Metric := count parseFailures [] 1

def evaluation (rule : String) (matched : Bool) : List Metric :=
  [count evaluations [("rule", rule), ("matched", toString matched)] 1,
    observe evaluationDuration [("rule", rule)]]

end Metric

end Rulebook

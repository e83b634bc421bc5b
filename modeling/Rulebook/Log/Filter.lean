import Rulebook.Log.Entry
import Rulebook.Number.Numeral
import Rulebook.Text.Parts

/-!
Filters of log entries: texts that say down to which level entries are let through.
-/

namespace Rulebook.Log

/-- The greatest rank that is let through; rank zero lets nothing through. -/
structure Filter where
  rank : Nat
  deriving DecidableEq, Repr

namespace Filter

def number? (text : List Char) : Option Nat :=
  let digits := match text with
    | '+' :: rest => rest
    | text => text
  if digits ≠ [] ∧ digits.all Char.isDigit then some (Numeral.digitsValue digits) else none

def rank? (text : List Char) : Option Nat :=
  match number? text with
  | some rank => if rank ≤ Level.trace.rank then some rank else none
  | none =>
    [("off", 0), ("error", 1), ("warn", 2), ("info", 3), ("debug", 4), ("trace", 5)].lookup
      (String.ofList (text.map Char.toLower))

inductive Directive where
  | all (rank : Nat)
  | elsewhere
  deriving DecidableEq, Repr

/-- Reads a directive: a level, a target, or a target and its level with an equals sign between.
Blanks around it do not count, except that they keep it from being, or from having, a level. -/
def Directive.read? (text : List Char) : Option Directive :=
  let trimmed := Text.trim text
  if trimmed.head?.any fun first => first.isAlphanum || "-:_".toList.contains first then
    match trimmed.dropWhile (· != '=') with
    | [] => some (((rank? text).map .all).getD .elsewhere)
    | _ :: level =>
      if trimmed = text ∧ (level = [] ∨ (rank? level).isSome) then some .elsewhere else none
  else none

/-- Reads a filter: directives with commas between, of which the last for all entries counts. An
empty text lets errors through only. -/
def read? (text : String) : Option Filter := do
  if text.isEmpty then some ⟨Level.error.rank⟩
  else
    let directives ← (Text.parts ',' text.toList).mapM Directive.read?
    let ranks := directives.filterMap fun
      | .all rank => some rank
      | .elsewhere => none
    some ⟨ranks.getLast?.getD 0⟩

example : (read? "WARN").map Filter.rank = some 2 := by decide +kernel

example : read? "a=b=c" = none := by decide +kernel

def choose (override : Option String) (level : String) : Filter :=
  ((override.bind read?).or (read? level)).getD ⟨Level.info.rank⟩

def allows (filter : Filter) (entry : Entry) : Bool := entry.level.rank ≤ filter.rank

end Filter

end Rulebook.Log

import Mathlib.Logic.Function.Basic
import Rulebook.Proofs.Store.Operation

/-!
What a store stands for: a source for each of some names.
-/

namespace Rulebook

abbrev Catalogue := String → Option String

namespace Catalogue

open Store (Operation)

def empty : Catalogue := fun _ => none

def load (catalogue : Catalogue) (name source : String) : Catalogue :=
  match Compiler.refusal? name source with
  | some _ => catalogue
  | none => Function.update catalogue name (some source)

def step (catalogue : Catalogue) : Operation → Catalogue
  | .load name source => catalogue.load name source
  | .update name source =>
      if (catalogue name).isSome then catalogue.load name source else catalogue
  | .delete name => Function.update catalogue name none
  | .loadBatch pairs => pairs.foldl (fun catalogue pair => catalogue.load pair.1 pair.2) catalogue
  | .clear => empty
  | .get _ | .contains _ | .names | .size | .evaluate _ _ _ | .statistics => catalogue

def run (operations : List Operation) : Catalogue := operations.foldl step empty

def absence? (catalogue : Catalogue) (name : String) : Option RuleError :=
  if (catalogue name).isSome then none else some (.ruleNotFound name)

/-- Why an operation is refused. That a name has no source comes before what is wrong with a new
one. -/
def refusal? (catalogue : Catalogue) : Operation → Option RuleError
  | .load name source => Compiler.refusal? name source
  | .update name source => (catalogue.absence? name).or (Compiler.refusal? name source)
  | .delete name | .evaluate name _ _ => catalogue.absence? name
  | .loadBatch _ | .clear | .get _ | .contains _ | .names | .size | .statistics => none

theorem step_of_refusal? {catalogue : Catalogue} {operation : Operation} {error : RuleError}
    (refused : catalogue.refusal? operation = some error) :
    catalogue.step operation = catalogue := by
  cases operation with
  | load name source =>
      rw [refusal?] at refused
      simp only [step, load, refused]
  | update name source =>
      rw [refusal?, absence?] at refused
      rw [step]
      split at refused
      · next present =>
          rw [Option.none_or] at refused
          simp only [load, refused, ite_self]
      · next absent => rw [if_neg absent]
  | delete name =>
      rw [refusal?, absence?] at refused
      split at refused
      · contradiction
      · next absent =>
          rw [Option.not_isSome_iff_eq_none] at absent
          rw [step, ← absent, Function.update_eq_self]
  | evaluate name context executor => rfl
  | _ => contradiction

def tree? (catalogue : Catalogue) (name : String) : Option Tree :=
  (catalogue name).bind fun source => (Tree.read source).toOption.join

def fieldCount (catalogue : Catalogue) (name : String) : Nat :=
  ((catalogue.tree? name).elim [] Tree.identifiers).dedup.length

def figures (catalogue : Catalogue) (names : List String) : Store.Statistics where
  rules := names.length
  alwaysTrue := names.countP fun name => (catalogue.tree? name).isNone
  fields := (names.map catalogue.fieldCount).foldr (· + ·) 0

end Catalogue

end Rulebook

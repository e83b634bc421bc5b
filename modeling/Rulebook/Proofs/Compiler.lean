import Mathlib.Data.List.Dedup
import Rulebook.Execution

/-!
Which rules are compiled, and what a compiled rule holds.
-/

namespace Rulebook

structure CompiledRule.IsFor (compiled : CompiledRule) (name source : String) : Prop where
  name_eq : compiled.name = name
  source_eq : compiled.source = source
  read_source : Tree.read source = .ok compiled.rule.tree
  mem_fields_iff (field : String) :
    field ∈ compiled.requiredFields ↔ field ∈ compiled.rule.tree.elim [] Tree.identifiers

namespace Compiler

def refusal? (name source : String) : Option RuleError :=
  if Text.trim name.toList = [] then some .emptyName
  else
    match Tree.read source with
    | .ok _ => none
    | .error error => some error

def accepts (pair : String × String) : Bool := (refusal? pair.1 pair.2).isNone

theorem accepts_iff {name source : String} :
    accepts (name, source) = true ↔
      Text.trim name.toList ≠ [] ∧ ∃ tree?, Tree.read source = .ok tree? := by
  rw [accepts, refusal?]
  split
  · next blank => simp [blank]
  · next notBlank => cases read : Tree.read source <;> simp [notBlank]

theorem accepts_iff_refusal?_eq_none {pair : String × String} :
    accepts pair = true ↔ refusal? pair.1 pair.2 = none :=
  Option.isNone_iff_eq_none

theorem exists_refusal?_of_accepts_eq_false {pair : String × String}
    (refused : accepts pair = false) : ∃ error, refusal? pair.1 pair.2 = some error := by
  rw [accepts, Option.isNone_eq_false_iff] at refused
  exact Option.isSome_iff_exists.mp refused

theorem compile_of_refusal? {name source : String} {error : RuleError}
    (refused : refusal? name source = some error) (compiler : Compiler) :
    compiler.compile name source = .error error := by
  unfold refusal? at refused
  unfold compile Text.isBlankText
  split at refused
  · next blank =>
      rw [Text.trim_eq_nil_iff] at blank
      simpa [blank] using refused
  · next notBlank =>
      rw [Text.trim_eq_nil_iff] at notBlank
      cases read : Tree.read source with
      | ok tree => simp [read] at refused
      | error other =>
          have sameError : other = error := by simpa [read] using refused
          subst sameError
          simp [notBlank, Rule.read, read, bind, Except.bind]

theorem compile_of_refusal?_eq_none {name source : String} (accepted : refusal? name source = none)
    (compiler : Compiler) :
    ∃ compiled, compiler.compile name source = .ok (compiled, ⟨compiler.accepted + 1⟩) ∧
      compiled.version = compiler.accepted + 1 ∧ compiled.IsFor name source := by
  unfold refusal? at accepted
  unfold compile Text.isBlankText
  split at accepted
  · contradiction
  · next notBlank =>
      rw [Text.trim_eq_nil_iff] at notBlank
      cases read : Tree.read source with
      | error error => simp [read] at accepted
      | ok tree =>
          refine ⟨⟨name, source, ⟨tree⟩, Rule.requiredFields ⟨tree⟩, compiler.accepted + 1⟩,
            ?_, rfl, ⟨rfl, rfl, read, fun field => ?_⟩⟩
          · simp [notBlank, Rule.read, read, bind, Except.bind]
          · simp [Rule.requiredFields]

end Compiler

theorem CompiledRule.IsFor.execute_eq {first second : CompiledRule} {name source : String}
    (firstIsFor : first.IsFor name source) (secondIsFor : second.IsFor name source)
    (executor : Executor) (context : Context) :
    executor.execute first context = executor.execute second context := by
  have sameTree : first.rule.tree = second.rule.tree := by
    simpa [firstIsFor.read_source] using secondIsFor.read_source
  rw [Executor.execute, Executor.execute, Rule.evaluate.eq_def, Rule.evaluate.eq_def, sameTree,
    firstIsFor.name_eq, secondIsFor.name_eq]

theorem CompiledRule.IsFor.perm_requiredFields {compiled : CompiledRule} {name source : String}
    (isFor : compiled.IsFor name source) :
    compiled.requiredFields.toList.Perm (compiled.rule.tree.elim [] Tree.identifiers).dedup := by
  have distinct : compiled.requiredFields.toList.Nodup :=
    Std.TreeSet.distinct_toList.imp fun different equal => different (by simp [equal])
  rw [List.perm_ext_iff_of_nodup distinct (List.nodup_dedup _)]
  intro field
  rw [Std.TreeSet.mem_toList, isFor.mem_fields_iff, List.mem_dedup]

theorem CompiledRule.IsFor.size_requiredFields {compiled : CompiledRule} {name source : String}
    (isFor : compiled.IsFor name source) :
    compiled.requiredFields.size = (compiled.rule.tree.elim [] Tree.identifiers).dedup.length := by
  rw [← Std.TreeSet.length_toList]
  exact isFor.perm_requiredFields.length_eq

end Rulebook

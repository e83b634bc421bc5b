import Rulebook.Proofs.Compiler
import Rulebook.Proofs.Operand.Literal
import Rulebook.Proofs.Tree.Grammar

/-!
The names of a compiled rule. They are the words of its text that are neither quoted nor literals,
as far as the text is read, and come in the order of the text, whatever its groups.
-/

namespace Rulebook

namespace Token

def name? : Token → Option String
  | word text => if Operand.IsLiteralWord text then none else some text
  | _ => none

def names (tokens : List Token) : List String := tokens.filterMap name?

example : names [.word "copies", .operator .lowerThan, .word "1e3", .quoted .single "copies"] =
    ["copies"] := by decide +kernel

theorem names_cons (token : Token) (rest : List Token) :
    names (token :: rest) = token.name?.toList ++ names rest := by
  cases isName : token.name? <;> simp [names, isName]

theorem names_append (front rest : List Token) :
    names (front ++ rest) = names front ++ names rest :=
  List.filterMap_append

theorem names_completed (tokens : List Token) :
    names (completed tokens) = names (readable tokens) := by
  have noName (count : Nat) : names (List.replicate count closing) = [] := by
    rw [names, List.filterMap_replicate_of_none rfl]
  rw [completed, names_append, noName, List.append_nil]

theorem identifiers_classify {token : Token} {text : String} (wellFormed : token.WellFormed)
    (operand : token.operand? = some text) :
    (Operand.classify text).identifiers = token.name?.toList := by
  cases token with
  | word word =>
      obtain rfl : word = text := by simpa [operand?] using operand
      by_cases isLiteralWord : Operand.IsLiteralWord word
      · obtain ⟨value, isLiteral⟩ := Operand.exists_literal_classify_of_isLiteralWord isLiteralWord
        simp [isLiteral, Tree.identifiers, name?, isLiteralWord]
      · have isName := (Operand.classify_eq_identifier_iff wellFormed).mpr isLiteralWord
        simp [isName, Tree.identifiers, name?, isLiteralWord]
  | quoted quote content =>
      obtain rfl : quote.enclose content = text := by simpa [operand?, Token.text] using operand
      simp [Operand.classify_enclose, Tree.identifiers, name?]
  | _ => simp [operand?] at operand

end Token

namespace Grammar

open Token (names)

mutual
theorem Term.identifiers_eq {tokens : List Token} {tree : Tree} :
    Term tokens tree → (∀ token ∈ tokens, token.WellFormed) → tree.identifiers = names tokens
  | @Term.comparison left right _ _ sign leftOperand _ rightOperand, wellFormed => by
      have leftNames := Token.identifiers_classify (wellFormed left (by simp)) leftOperand
      have rightNames := Token.identifiers_classify (wellFormed right (by simp)) rightOperand
      simp only [Tree.identifiers, leftNames, rightNames, Token.names_cons]
      simp [Token.name?, names]
  | @Term.group inner _ level, wellFormed => by
      have innerNames := level.identifiers_eq fun token member =>
        wellFormed token (by simp [member])
      simp only [innerNames, Token.names_append, Token.names_cons]
      simp [Token.name?, names]

theorem Level.identifiers_eq {tokens : List Token} {tree : Tree} :
    Level tokens tree → (∀ token ∈ tokens, token.WellFormed) → tree.identifiers = names tokens
  | .single term, wellFormed => term.identifiers_eq wellFormed
  | @Level.joined front rest _ _ sign term _ level, wellFormed => by
      have leftNames := term.identifiers_eq fun token member => wellFormed token (by simp [member])
      have rightNames := level.identifiers_eq fun token member =>
        wellFormed token (by simp [member])
      rw [Tree.identifiers, leftNames, rightNames, Token.names_append, Token.names_cons]
      rfl
end

end Grammar

namespace Tree

/-- The names met on a walk with a stack of trees: the tree on top is taken off, and the sides of an
expression are put back in its place, the left one on top. -/
def collect : List Tree → List String
  | [] => []
  | identifier name :: stack => name :: collect stack
  | literal _ :: stack => collect stack
  | expression _ left right :: stack => collect (left :: right :: stack)
  termination_by stack => (stack.map size).sum
  decreasing_by
    all_goals simp only [List.map_cons, List.sum_cons, size]; omega

/-- The walk passes through one tree after another, and through each from left to right. -/
theorem collect_eq_flatMap_identifiers (stack : List Tree) :
    collect stack = stack.flatMap identifiers := by
  induction stack using collect.induct with
  | case1 => simp [collect]
  | case2 name stack induction => simp [collect, induction, identifiers]
  | case3 value stack induction => simp [collect, induction, identifiers]
  | case4 operator left right stack induction => simp [collect, induction, identifiers]

theorem identifiers_eq_names {source : String} {tree : Tree}
    (read : Tree.read source = .ok (some tree)) :
    tree.identifiers = Token.names (Token.readable (Token.read source)) := by
  have level := Grammar.ofTokens_eq_some_iff.mp read
  rw [← Token.names_completed]
  exact level.identifiers_eq fun token => Token.wellFormed_of_mem_completed_read

theorem elim_identifiers_eq_names {source : String} {tree? : Option Tree}
    (read : Tree.read source = .ok tree?) :
    tree?.elim [] identifiers = Token.names (Token.readable (Token.read source)) := by
  cases tree? with
  | none =>
      rw [Grammar.ofTokens_eq_none_iff.mp read]
      rfl
  | some tree => exact identifiers_eq_names read

end Tree

namespace Compiler

/-- A rule that can be read compiles under every name that is not blank. Its tree holds the names of
the part of the text that is read, in the order of the text and as often as they stand there, and
its required fields are these names, each of them once. -/
theorem compile_collects_names (compiler : Compiler) {name source : String} {tree? : Option Tree}
    (notBlank : Text.trim name.toList ≠ []) (read : Tree.read source = .ok tree?) :
    let names := Token.names (Token.readable (Token.read source))
    ∃ compiled, compiler.compile name source = .ok (compiled, ⟨compiler.accepted + 1⟩) ∧
      compiled.rule.tree = tree? ∧ Tree.collect tree?.toList = names ∧
      (∀ tree, tree? = some tree → tree.identifiers = names) ∧
      compiled.requiredFields.toList.Perm names.dedup := by
  intro names
  have accepted := accepts_iff_refusal?_eq_none.mp (accepts_iff.mpr ⟨notBlank, tree?, read⟩)
  obtain ⟨compiled, isCompiled, -, isFor⟩ := compile_of_refusal?_eq_none accepted compiler
  obtain rfl : compiled.rule.tree = tree? := by simpa [read, eq_comm] using isFor.read_source
  have sameNames : compiled.rule.tree.elim [] Tree.identifiers = names :=
    Tree.elim_identifiers_eq_names read
  refine ⟨compiled, isCompiled, rfl, ?_, ?_, sameNames ▸ isFor.perm_requiredFields⟩
  · rw [Tree.collect_eq_flatMap_identifiers, ← sameNames]
    cases compiled.rule.tree <;> simp
  · intro tree isTree
    rw [isTree] at read
    exact Tree.identifiers_eq_names read

theorem compile_collects_names_repeated :
    let source := "(1e3 > b && (a = 'c')) || null != a) && d = 007"
    let tree : Tree :=
      .expression .logicalOr
        (.expression .logicalAnd
          (.expression .greaterThan (.literal (.number (.ofNat 1000))) (.identifier "b"))
          (.expression .equal (.identifier "a") (.literal (.text "c"))))
        (.expression .notEqual (.literal .null) (.identifier "a"))
    Text.trim " rule ".toList ≠ [] ∧ Tree.read source = .ok (some tree) ∧
      Token.names (Token.readable (Token.read source)) = ["b", "a", "a"] ∧
      ∃ compiled, compile ⟨6⟩ " rule " source = .ok (compiled, ⟨7⟩) ∧
        Tree.collect [tree] = ["b", "a", "a"] ∧
        compiled.requiredFields.toList.Perm ["b", "a"] := by
  intro source tree
  have notBlank : Text.trim " rule ".toList ≠ [] := by decide +kernel
  have read : Tree.read source = .ok (some tree) := by decide +kernel
  have isNames : Token.names (Token.readable (Token.read source)) = ["b", "a", "a"] := by
    decide +kernel
  obtain ⟨compiled, isCompiled, -, collected, -, fields⟩ :=
    compile_collects_names ⟨6⟩ notBlank read
  rw [isNames] at collected fields
  exact ⟨notBlank, read, isNames, compiled, isCompiled, collected, fields⟩

end Compiler

end Rulebook

import Rulebook.Proofs.Operand.Word
import Rulebook.Proofs.Tree.Writing

/-!
Trees that were read from a rule text, written and read once more. Shape, operators, names, texts
and truth values stay; a number stays if its text stands for an equal number.
-/

namespace Rulebook

def Number.Rereads (number : Number) : Prop :=
  ∃ other, Operand.classify number.text = .literal (.number other) ∧ other.equals number = true

namespace Number

theorem IsNatural.ne_nan {number : Number} (natural : number.IsNatural) : number ≠ .nan := by
  rintro rfl
  exact natural

theorem equals_self_of_isNatural {number : Number} (natural : number.IsNatural) :
    number.equals number = true :=
  number.equals_self_iff.mpr natural.ne_nan

theorem classify_text_infinity :
    Operand.classify (infinity false).text = .identifier "Infinity" := by decide +kernel

theorem exists_number_classify_text {number : Number} (natural : number.IsNatural)
    (finite : number ≠ infinity false) :
    ∃ other, Operand.classify number.text = .literal (.number other) := by
  rcases text_of_isNatural natural finite with ⟨isDigits, noLeadingZero, -⟩
  exact Operand.exists_number_classify_digits isDigits noLeadingZero

theorem rereads_of_length_le {number : Number} (natural : number.IsNatural)
    (finite : number ≠ infinity false) (short : number.text.length ≤ 19) : number.Rereads := by
  rcases text_of_isNatural natural finite with ⟨isDigits, noLeadingZero, isNumber⟩
  have below : Numeral.digitsValue number.text.toList < Word.count := by
    calc
      Numeral.digitsValue number.text.toList < 10 ^ number.text.toList.length :=
        Numeral.digitsValue_lt isDigits.2
      _ ≤ 10 ^ 19 := Nat.pow_le_pow_right (by decide) short
      _ ≤ Word.count := by decide
  have isRead := Operand.classify_digits isDigits noLeadingZero (decide_eq_true below)
  rw [← isNumber] at isRead
  exact ⟨number, isRead, equals_self_of_isNatural natural⟩

end Number

namespace Tree

def numbers : Tree → List Number
  | literal (.number number) => [number]
  | expression _ left right => left.numbers ++ right.numbers
  | _ => []

theorem rereadNumbers_equals_iff (tree : Tree) :
    tree.rereadNumbers.equals tree = true ↔ ∀ number ∈ tree.numbers, number.Rereads := by
  induction tree with
  | identifier name => simp [rereadNumbers, numbers, equals]
  | literal value =>
      cases value with
      | number number =>
          simp only [rereadNumbers, numbers, List.mem_singleton, forall_eq, Number.Rereads]
          cases Operand.classify number.text with
          | literal other => cases other <;> simp [equals, Value.strictlyEquals]
          | _ => simp [equals]
      | _ => simp [rereadNumbers, numbers, equals, Value.strictlyEquals]
  | expression operator left right leftInduction rightInduction =>
      simp [rereadNumbers, numbers, equals, leftInduction, rightInduction, or_imp, forall_and]

/-! ## Trees of rule texts -/

/-- The leaves are what operands stand for: they can be written, and numbers have neither sign nor
fraction. -/
def FromText (tree : Tree) : Prop :=
  tree.Writable ∧ ∀ number ∈ tree.numbers, number.IsNatural

theorem fromText_classify {token : Token} {text : String} (wellFormed : token.WellFormed)
    (operand : token.operand? = some text) : (Operand.classify text).FromText := by
  cases token with
  | word word =>
      have isWord : word = text := by simpa [Token.operand?] using operand
      subst isWord
      rcases Operand.classify_word wellFormed with isName | ⟨value, isWordValue, isLiteral⟩
      · rw [isName]
        exact ⟨⟨wellFormed, isName⟩, by simp [numbers]⟩
      · rw [isLiteral]
        cases value with
        | number number =>
            refine ⟨Number.wellFormed_text_of_isNatural isWordValue, ?_⟩
            simpa [numbers, Operand.IsWordValue] using isWordValue
        | text value => contradiction
        | _ => exact ⟨trivial, by simp [numbers]⟩
  | quoted quote content =>
      have isQuoted : quote.enclose content = text := by
        simpa [Token.operand?, Token.text] using operand
      rw [← isQuoted, Operand.classify_enclose]
      refine ⟨?_, by simp [numbers]⟩
      rintro ⟨double, single⟩
      cases quote with
      | double => exact wellFormed double
      | single => exact wellFormed single
  | _ => simp [Token.operand?] at operand

theorem FromText.expression {operator : Operator} {left right : Tree} (leftFrom : left.FromText)
    (rightFrom : right.FromText) : (Tree.expression operator left right).FromText := by
  refine ⟨⟨leftFrom.1, rightFrom.1⟩, ?_⟩
  intro number member
  rcases List.mem_append.mp member with inLeft | inRight
  · exact leftFrom.2 number inLeft
  · exact rightFrom.2 number inRight

end Tree

namespace Grammar

mutual
theorem Term.fromText {tokens : List Token} {tree : Tree}
    (wellFormed : ∀ token ∈ tokens, token.WellFormed) : Term tokens tree → tree.FromText
  | .comparison leftOperand _ rightOperand =>
      (Tree.fromText_classify (wellFormed _ (by simp)) leftOperand).expression
        (Tree.fromText_classify (wellFormed _ (by simp)) rightOperand)
  | .group level => level.fromText fun token member => wellFormed token (by simp [member])

theorem Level.fromText {tokens : List Token} {tree : Tree}
    (wellFormed : ∀ token ∈ tokens, token.WellFormed) : Level tokens tree → tree.FromText
  | .single term => term.fromText wellFormed
  | .joined term _ level =>
      (term.fromText fun token member => wellFormed token (by simp [member])).expression
        (level.fromText fun token member => wellFormed token (by simp [member]))
end

end Grammar

namespace Tree

theorem fromText_of_read {source : String} {tree : Tree}
    (read : Tree.read source = .ok (some tree)) : tree.FromText := by
  have level := Grammar.ofTokens_eq_some_iff.mp read
  exact level.fromText fun token => Token.wellFormed_of_mem_completed_read

/-- The text of a tree that was read from a rule text is read as the same tree, except that each
number becomes what its text stands for. So an equal tree comes back exactly if every number is read
back from its text. Infinity becomes a name. All other numbers stay numbers, and stay the same if
they have at most nineteen digits; of longer texts the reader drops digits. -/
theorem read_text_of_read {source : String} {tree : Tree}
    (read : Tree.read source = .ok (some tree)) :
    Tree.read tree.text = .ok (some tree.rereadNumbers) ∧
      (tree.rereadNumbers.equals tree = true ↔ ∀ number ∈ tree.numbers, number.Rereads) ∧
      ∀ number ∈ tree.numbers,
        (number = .infinity false →
          Operand.classify number.text = .identifier "Infinity" ∧ ¬number.Rereads) ∧
        (number ≠ .infinity false →
          (∃ other, Operand.classify number.text = .literal (.number other)) ∧
            (number.text.length ≤ 19 → number.Rereads)) := by
  rcases fromText_of_read read with ⟨writable, natural⟩
  rcases (Grammar.ofTokens_eq_some_iff.mp read).shape with ⟨isExpression, fits⟩
  refine ⟨read_text_of_writable writable isExpression fits, rereadNumbers_equals_iff tree, ?_⟩
  intro number member
  constructor
  · rintro rfl
    refine ⟨Number.classify_text_infinity, ?_⟩
    rintro ⟨other, isNumber, -⟩
    simp [Number.classify_text_infinity] at isNumber
  · intro finite
    exact ⟨Number.exists_number_classify_text (natural number member) finite,
      Number.rereads_of_length_le (natural number member) finite⟩

theorem read_text_of_read_short :
    let tree : Tree :=
      .expression .logicalOr
        (.expression .lowerThan (.identifier "a") (.literal (.number (.ofNat 20))))
        (.expression .equal (.literal (.text "b")) (.literal (.boolean true)))
    Tree.read "a < 2e1 || 'b' = true" = .ok (some tree) ∧
      Tree.read tree.text = .ok (some tree.rereadNumbers) ∧
      tree.rereadNumbers.equals tree = true := by
  intro tree
  have read : Tree.read "a < 2e1 || 'b' = true" = .ok (some tree) := by decide +kernel
  rcases read_text_of_read read with ⟨reread, equals_iff, numbersReread⟩
  refine ⟨read, reread, equals_iff.mpr ?_⟩
  intro number member
  have isNumber : number = .ofNat 20 := by simpa [tree, numbers] using member
  subst isNumber
  exact ((numbersReread _ member).2 (by decide +kernel)).2 (by decide +kernel)

/-- The text of a large number is longer than what the reader keeps of it, and the number that comes
back is another one. Infinity comes back as a name. -/
theorem read_text_changes_number :
    let large : Tree := .expression .equal (.identifier "a") (.literal (.number (.ofNat (10 ^ 42))))
    let infinite : Tree :=
      .expression .equal (.identifier "a") (.literal (.number (.infinity false)))
    (Tree.read "a = 1e42" = .ok (some large) ∧
      ∃ other, Tree.read large.text = .ok (some other) ∧ other.equals large = false) ∧
    Tree.read "a = 1e400" = .ok (some infinite) ∧
      ∃ other, Tree.read infinite.text = .ok (some other) ∧ other.equals infinite = false := by
  intro large infinite
  have readLarge : Tree.read "a = 1e42" = .ok (some large) := by decide +kernel
  have rereadLarge : Tree.read large.text = .ok (some large.rereadNumbers) := by decide +kernel
  have largeChanged : large.rereadNumbers.equals large = false := by decide +kernel
  have readInfinite : Tree.read "a = 1e400" = .ok (some infinite) := by decide +kernel
  have rereadInfinite : Tree.read infinite.text = .ok (some infinite.rereadNumbers) := by
    decide +kernel
  have infiniteChanged : infinite.rereadNumbers.equals infinite = false := by decide +kernel
  exact ⟨⟨readLarge, _, rereadLarge, largeChanged⟩, readInfinite, _, rereadInfinite,
    infiniteChanged⟩

end Tree

end Rulebook

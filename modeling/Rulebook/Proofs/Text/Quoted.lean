import Mathlib.Data.List.Basic
import Rulebook.Proofs.Text.Units
import Rulebook.Text.Characters
import Rulebook.Text.Quoted

/-!
Texts between marks tell all texts apart: every character is written in a way that no other one is,
whatever follows it.
-/

namespace Rulebook.Text

/-! ## Code points -/

theorem digitsValue?_append_digit {radix value digit : Nat} {digits : List Char} {character : Char}
    (front : digitsValue? radix digits = some value)
    (last : digitValue? radix character = some digit) :
    digitsValue? radix (digits ++ [character]) = some (radix * value + digit) := by
  rw [digitsValue?] at front ⊢
  simp [List.foldlM_append, front, last]

theorem digitsValue?_toDigits (value : Nat) :
    digitsValue? 16 (Nat.toDigits 16 value) = some value := by
  have digitRead : ∀ digit < 16, digitValue? 16 (Nat.digitChar digit) = some digit := by decide
  induction value using Nat.strongRecOn with
  | ind value induction =>
      rcases Nat.lt_or_ge value 16 with oneDigit | more
      · rw [Nat.toDigits_of_lt_base oneDigit]
        have noDigits : digitsValue? 16 [] = some 0 := rfl
        simpa using digitsValue?_append_digit noDigits (digitRead value oneDigit)
      · rw [Nat.toDigits_of_base_le (by decide) more, digitsValue?_append_digit
          (induction (value / 16) (by omega)) (digitRead (value % 16) (by omega)), Nat.div_add_mod]

theorem brace_notMem_toDigits (value : Nat) : '\x7d' ∉ Nat.toDigits 16 value := by
  induction value using Nat.strongRecOn with
  | ind value induction =>
      rcases Nat.lt_or_ge value 16 with oneDigit | more
      · simp [Nat.toDigits_of_lt_base oneDigit]
      · simpa [Nat.toDigits_of_base_le (by decide) more] using induction (value / 16) (by omega)

/-! ## Characters -/

def letterEscapes : List (Char × Char) :=
  [('"', '"'), ('\\', '\\'), ('\n', 'n'), ('\r', 'r'), ('\t', 't'), ('\x00', '0')]

theorem quoteCharacter_cases (character : Char) :
    (quoteCharacter character = [character] ∧ character ≠ '\\') ∨
      (∃ letter, (character, letter) ∈ letterEscapes ∧
        quoteCharacter character = ['\\', letter]) ∨
      quoteCharacter character = escapeCode character := by
  unfold quoteCharacter
  split
  case h_7 noEscape _ _ _ _ =>
    split
    · exact .inr (.inr rfl)
    · exact .inl ⟨rfl, noEscape⟩
  all_goals exact .inr (.inl ⟨_, by decide, rfl⟩)

def takeQuoted? : List Char → Option (Char × List Char)
  | '\\' :: 'u' :: '\x7b' :: rest => do
    let point ← digitsValue? 16 (rest.takeWhile (· != '\x7d'))
    some (Char.ofNat point, (rest.dropWhile (· != '\x7d')).tail)
  | '\\' :: letter :: rest =>
    (letterEscapes.find? (·.2 = letter)).map fun escape => (escape.1, rest)
  | character :: rest => some (character, rest)
  | [] => none

theorem takeQuoted?_escapeCode (character : Char) (rest : List Char) :
    takeQuoted? (escapeCode character ++ rest) = some (character, rest) := by
  have noBrace : ∀ digit ∈ Nat.toDigits 16 character.toNat, (digit != '\x7d') = true := by
    intro digit member
    rw [bne_iff_ne]
    rintro rfl
    exact brace_notMem_toDigits character.toNat member
  simp [escapeCode, takeQuoted?, List.takeWhile_append_of_pos noBrace,
    List.dropWhile_append_of_pos noBrace, digitsValue?_toDigits]

theorem takeQuoted?_quoteCharacter (character : Char) (rest : List Char) :
    takeQuoted? (quoteCharacter character ++ rest) = some (character, rest) := by
  rcases quoteCharacter_cases character with
    ⟨isText, noEscape⟩ | ⟨letter, listed, isText⟩ | isText
  · rw [isText, List.singleton_append, takeQuoted?] <;> simp [noEscape]
  · have found : ∀ escape ∈ letterEscapes,
        escape.2 ≠ 'u' ∧ letterEscapes.find? (·.2 = escape.2) = some escape := by decide
    have isEscape := found (character, letter) listed
    rw [isText, List.cons_append, List.singleton_append, takeQuoted?]
    · rw [isEscape.2]
      rfl
    · intro after isCode
      exact absurd isCode isEscape.1
  · rw [isText, takeQuoted?_escapeCode]

/-- What a character is written as is not the beginning of what another one is written as. -/
theorem quoteCharacter_append_inj {left right : Char} {leftRest rightRest : List Char}
    (same : quoteCharacter left ++ leftRest = quoteCharacter right ++ rightRest) :
    left = right ∧ leftRest = rightRest := by
  have taken := congrArg takeQuoted? same
  simpa [takeQuoted?_quoteCharacter] using taken

/-! ## Texts -/

theorem flatMap_quoteCharacter_injective :
    Function.Injective fun text : List Char => text.flatMap quoteCharacter := by
  apply flatMap_injective
  · intro character isEmpty
    have taken := takeQuoted?_quoteCharacter character []
    rw [isEmpty] at taken
    contradiction
  · intro left right leftRest rightRest same
    exact quoteCharacter_append_inj same

theorem toList_quoted (text : String) :
    (quoted text).toList = '"' :: (text.toList.flatMap quoteCharacter ++ ['"']) :=
  String.toList_ofList

theorem quoted_injective : Function.Injective quoted := by
  intro left right same
  have sameWritten : left.toList.flatMap quoteCharacter = right.toList.flatMap quoteCharacter := by
    simpa [toList_quoted] using congrArg String.toList same
  exact String.toList_injective (flatMap_quoteCharacter_injective sameWritten)

end Rulebook.Text

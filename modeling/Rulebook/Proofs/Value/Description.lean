import Rulebook.Execution
import Rulebook.Proofs.Number.Text
import Rulebook.Proofs.Text.Quoted

/-!
How values are shown in traces. What is shown identifies the value: its first character tells the
kind, and values of one kind that are shown alike are equal.
-/

namespace Rulebook.Value

def kindOfMark (mark : Char) : String :=
  if mark = '"' then "string"
  else if mark = 'n' then "null"
  else if mark = 't' ∨ mark = 'f' then "boolean"
  else "number"

theorem kindOfMark_eq_number {mark : Char}
    (isMark : mark.isDigit = true ∨ mark ∈ ['-', 'N', 'I']) : kindOfMark mark = "number" := by
  rcases isMark with isDigit | listed
  · have noOther : mark ≠ '"' ∧ mark ≠ 'n' ∧ mark ≠ 't' ∧ mark ≠ 'f' := by
      refine ⟨?_, ?_, ?_, ?_⟩ <;> rintro rfl <;> contradiction
    simp [kindOfMark, noOther]
  · simp only [List.mem_cons, List.not_mem_nil, or_false] at listed
    rcases listed with rfl | rfl | rfl <;> rfl

theorem kindOfMark_describe (value : Value) :
    value.describe.toList.head?.map kindOfMark = some value.kind := by
  cases value with
  | null => decide
  | boolean value => cases value <;> decide
  | number value =>
      rcases value.exists_head_text with ⟨mark, rest, isText, isMark⟩
      rw [describe, display, isText, List.head?_cons, Option.map_some, kindOfMark_eq_number isMark,
        kind]
      simp
  | text value =>
      rw [describe, Text.toList_quoted]
      rfl

theorem kind_eq_of_describe_eq {left right : Value} (same : left.describe = right.describe) :
    left.kind = right.kind := by
  have leftKind := kindOfMark_describe left
  rw [same, kindOfMark_describe right] at leftKind
  exact (Option.some.inj leftKind).symm

theorem describe_eq_iff_of_kind_eq {left right : Value} (sameKind : left.kind = right.kind) :
    left.describe = right.describe ↔
      left.strictlyEquals right = true ∨ left = .number .nan ∧ right = .number .nan := by
  cases left <;> cases right <;> simp only [kind, String.reduceEq] at sameKind
  case null => simp [strictlyEquals]
  case boolean value other => cases value <;> cases other <;> decide
  case number value other =>
      rw [describe, describe, display, display, Number.text_eq_text_iff, strictlyEquals,
        number.injEq, number.injEq]
      · simp
      · simp
  case text value other =>
      rw [describe, describe, Text.quoted_injective.eq_iff, strictlyEquals]
      simp

/-- Two values are shown alike exactly if they are of one kind and equal, or neither of them is a
number. A text is shown as no other value is, whatever its characters are. -/
theorem describe_identifies (left right : Value) :
    (left.describe = right.describe ↔ left.kind = right.kind ∧
      (left.strictlyEquals right = true ∨ left = .number .nan ∧ right = .number .nan)) ∧
    ∀ content, left.describe = (Value.text content).describe ↔ left = .text content := by
  have identifies (other : Value) : left.describe = other.describe ↔ left.kind = other.kind ∧
      (left.strictlyEquals other = true ∨ left = .number .nan ∧ other = .number .nan) := by
    constructor
    · intro same
      have sameKind := kind_eq_of_describe_eq same
      exact ⟨sameKind, (describe_eq_iff_of_kind_eq sameKind).mp same⟩
    · rintro ⟨sameKind, alike⟩
      exact (describe_eq_iff_of_kind_eq sameKind).mpr alike
  refine ⟨identifies right, ?_⟩
  intro content
  rw [identifies]
  cases left <;> simp [kind, strictlyEquals]

end Rulebook.Value

import Rulebook.Operand

/-!
The leaves that operands stand for.
-/

namespace Rulebook.Operand

theorem isExpression_classify (text : String) : (classify text).isExpression = false := by
  unfold classify
  split
  · rfl
  · split <;> rfl

theorem unquote?_enclose (quote : Quote) (content : String) :
    unquote? (quote.enclose content).toList = some content.toList := by
  have isMark : quote.mark = '"' ∨ quote.mark = '\'' := by cases quote <;> simp [Quote.mark]
  simp [Quote.enclose, unquote?, isMark]

theorem classify_enclose (quote : Quote) (content : String) :
    classify (quote.enclose content) = .literal (.text content) := by
  simp [classify, unquote?_enclose]

theorem classify_empty : classify "" = .identifier "" := by decide +kernel

theorem classify_display_boolean (value : Bool) :
    classify (Value.boolean value).display = .literal (.boolean value) := by
  cases value <;> decide +kernel

theorem classify_display_null : classify Value.null.display = .literal .null := by decide +kernel

end Rulebook.Operand

import Mathlib.Order.Compare
import Rulebook.Text.Characters

/-!
The order of texts by code units is a total order of the texts: the units tell all texts apart.
-/

namespace Rulebook.Text

theorem units_cases (character : Char) :
    (units character = [character.toNat] ∧
        (character.toNat < 0xD800 ∨ 0xDFFF < character.toNat)) ∨
      ∃ high low, units character = [0xD800 + high, 0xDC00 + low] ∧ high < 0x400 ∧
        character.toNat = 0x10000 + 0x400 * high + low := by
  have valid : character.toNat < 0xD800 ∨ 0xDFFF < character.toNat ∧ character.toNat < 0x110000 :=
    character.valid
  simp only [units]
  split
  · exact .inl ⟨rfl, by omega⟩
  · exact .inr ⟨_, _, rfl, by omega, by omega⟩

theorem units_append_inj {left right : Char} {leftRest rightRest : List Nat}
    (same : units left ++ leftRest = units right ++ rightRest) :
    left = right ∧ leftRest = rightRest := by
  obtain ⟨leftUnits, leftOther⟩ | ⟨high, low, leftUnits, leftHigh, leftPoint⟩ :=
      units_cases left <;>
    obtain ⟨rightUnits, rightOther⟩ | ⟨otherHigh, otherLow, rightUnits, rightHigh, rightPoint⟩ :=
      units_cases right <;>
    simp only [leftUnits, rightUnits, List.cons_append, List.nil_append, List.cons.injEq] at same
  · exact ⟨Char.toNat_inj.mp same.1, same.2⟩
  · omega
  · omega
  · exact ⟨Char.toNat_inj.mp (by omega), same.2.2⟩

/-- A code that determines each item from the front determines lists of items. -/
theorem flatMap_injective {α β : Type} {code : α → List β} (notEmpty : ∀ item, code item ≠ [])
    (separate : ∀ left right leftRest rightRest,
      code left ++ leftRest = code right ++ rightRest → left = right ∧ leftRest = rightRest) :
    Function.Injective fun items : List α => items.flatMap code := by
  intro left right same
  induction left generalizing right with
  | nil =>
      cases right with
      | nil => rfl
      | cons other right =>
          have empty : code other = [] ∧ right.flatMap code = [] := by simpa using same
          exact absurd empty.1 (notEmpty other)
  | cons item left induction =>
      cases right with
      | nil =>
          have empty : code item = [] ∧ left.flatMap code = [] := by simpa using same
          exact absurd empty.1 (notEmpty item)
      | cons other right =>
          simp only [List.flatMap_cons] at same
          obtain ⟨rfl, sameRest⟩ := separate _ _ _ _ same
          rw [induction sameRest]

theorem flatMap_units_injective :
    Function.Injective fun text : List Char => text.flatMap units := by
  apply flatMap_injective
  · intro character
    rcases units_cases character with ⟨isUnits, _⟩ | ⟨_, _, isUnits, _⟩ <;> simp [isUnits]
  · intro left right leftRest rightRest same
    exact units_append_inj same

theorem flatMap_units_toList_inj {left right : String} :
    left.toList.flatMap units = right.toList.flatMap units ↔ left = right :=
  (flatMap_units_injective.eq_iff).trans String.toList_inj

instance : Std.LawfulEqCmp order where
  compare_self := by
    unfold order
    exact Std.ReflCmp.compare_self
  eq_of_compare := by
    unfold order
    intro left right same
    exact flatMap_units_toList_inj.mp (Std.LawfulEqCmp.eq_of_compare same)

instance : Std.TransCmp order where
  eq_swap := by
    unfold order
    exact Std.OrientedCmp.eq_swap
  isLE_trans := by
    unfold order
    exact Std.TransCmp.isLE_trans

end Rulebook.Text

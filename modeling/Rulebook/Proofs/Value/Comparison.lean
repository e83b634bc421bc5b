import Rulebook.Evaluation
import Rulebook.Proofs.Text.Units

/-!
Equality and order fit together. Where values are comparable, exactly one of `<`, `==` and `>` holds
between them, and `<=` and `>=` are what their spelling says.
-/

namespace Rulebook

namespace Value

def isText : Value → Bool
  | text _ => true
  | _ => false

def alike : Value → Value → Bool
  | number _, number _ => true
  | text _, text _ => true
  | _, _ => false

/-- At least one of the values stands for what is not a number, and they are not compared as
texts. -/
def Unordered (left right : Value) : Prop :=
  ¬(left.isText = true ∧ right.isText = true) ∧ (left.toNumber = .nan ∨ right.toNumber = .nan)

/-! ## Equality by order -/

theorem text_beq_eq (left right : String) :
    (left == right) = (some (Text.order left right) == some .eq) := by
  rw [Bool.eq_iff_iff, beq_iff_eq, beq_iff_eq, Option.some.injEq]
  exact Std.LawfulEqCmp.compare_eq_iff_eq.symm

theorem looselyEquals_eq {left right : Value} (null_iff : left = null ↔ right = null) :
    left.looselyEquals right = (left.looseOrder? right == some .eq) := by
  cases left with
  | null =>
      rw [null_iff.mp rfl]
      decide +kernel
  | boolean left =>
      cases right with
      | null => nomatch null_iff.mpr rfl
      | boolean right => cases left <;> cases right <;> decide +kernel
      | _ => rfl
  | number left =>
      cases right with
      | null => nomatch null_iff.mpr rfl
      | _ => rfl
  | text left =>
      cases right with
      | null => nomatch null_iff.mpr rfl
      | text right => exact text_beq_eq left right
      | _ => rfl

theorem strictlyEquals_eq {left right : Value} (alike : left.alike right = true) :
    left.strictlyEquals right = (left.strictOrder? right == some .eq) := by
  cases left <;> cases right <;> try contradiction
  case number.number left right => rfl
  case text.text left right => exact text_beq_eq left right

/-! ## Values without an order -/

theorem looseOrder?_eq_none_iff {left right : Value} :
    left.looseOrder? right = none ↔ left.Unordered right := by
  cases left <;> cases right <;> simp [looseOrder?, Unordered, isText, Number.compare?_eq_none_iff]

theorem strictOrder?_eq_looseOrder? {left right : Value} (alike : left.alike right = true) :
    left.strictOrder? right = left.looseOrder? right := by
  cases left <;> cases right <;> first | rfl | contradiction

theorem strictOrder?_eq_none {left right : Value} (notAlike : left.alike right = false) :
    left.strictOrder? right = none := by
  cases left <;> cases right <;> first | rfl | contradiction

end Value

/-! ## The comparison operators -/

open Operator

structure Coherent (mode : ComparisonMode) (left right : Value) : Prop where
  lowerThanEqual_eq : lowerThanEqual.holds mode left right =
    (lowerThan.holds mode left right || equal.holds mode left right)
  greaterThanEqual_eq : greaterThanEqual.holds mode left right =
    (greaterThan.holds mode left right || equal.holds mode left right)
  exclusive : (lowerThan.holds mode left right = true →
      equal.holds mode left right = false ∧ greaterThan.holds mode left right = false) ∧
    (equal.holds mode left right = true → greaterThan.holds mode left right = false)
  none_iff : lowerThan.holds mode left right = false ∧ equal.holds mode left right = false ∧
      greaterThan.holds mode left right = false ↔ left.Unordered right

/-- The laws hold where equality is what the order says, and only unordered values lack an order. -/
theorem coherent_of_order {mode : ComparisonMode} {left right : Value}
    (byOrder : mode.equals left right = (mode.order? left right == some .eq))
    (unordered_iff : mode.order? left right = none ↔ left.Unordered right) :
    Coherent mode left right := by
  cases order : mode.order? left right with
  | none =>
      have unordered := unordered_iff.mp order
      constructor <;> simp [holds, byOrder, order, unordered]
  | some ordering =>
      have ordered : ¬left.Unordered right := by simp [← unordered_iff, order]
      cases ordering <;> constructor <;> simp [holds, byOrder, order, ordered]

theorem coherent_loose {left right : Value} (null_iff : left = .null ↔ right = .null) :
    Coherent .loose left right :=
  coherent_of_order (Value.looselyEquals_eq null_iff) Value.looseOrder?_eq_none_iff

theorem coherent_strict {left right : Value} (alike : left.alike right = true) :
    Coherent .strict left right := by
  have unordered_iff : left.strictOrder? right = none ↔ left.Unordered right := by
    rw [Value.strictOrder?_eq_looseOrder? alike, Value.looseOrder?_eq_none_iff]
  exact coherent_of_order (Value.strictlyEquals_eq alike) unordered_iff

/-- The comparison operators are coherent: in the loose mode between all values but null and one
that is not null, in the strict mode between two numbers and between two texts. Other values have no
strict order. To differ is not to be equal. -/
theorem comparisons_coherent :
    (∀ left right : Value, (left = .null ↔ right = .null) → Coherent .loose left right) ∧
      (∀ left right : Value, left.alike right = true → Coherent .strict left right) ∧
      (∀ left right : Value, left.alike right = false →
        ∀ sign ∈ [lowerThan, lowerThanEqual, greaterThan, greaterThanEqual],
          sign.holds .strict left right = false) ∧
      ∀ mode left right, notEqual.holds mode left right = !equal.holds mode left right := by
  refine ⟨fun _ _ => coherent_loose, fun _ _ => coherent_strict, ?_, fun _ _ _ => rfl⟩
  intro left right notAlike sign isOrder
  have unordered : ComparisonMode.order? .strict left right = none :=
    Value.strictOrder?_eq_none notAlike
  simp only [List.mem_cons, List.not_mem_nil, or_false] at isOrder
  rcases isOrder with rfl | rfl | rfl | rfl <;> simp [holds, unordered]

theorem comparisons_coherent_texts :
    Coherent .loose (.text "10") (.number (.ofNat 9)) ∧
      Coherent .strict (.text "😀") (.text "ｱ") ∧
      lowerThan.holds .strict (.text "1") (.number (.ofNat 2)) = false := by
  obtain ⟨loose, strict, unordered, -⟩ := comparisons_coherent
  have isOrder : lowerThan ∈ [lowerThan, lowerThanEqual, greaterThan, greaterThanEqual] := by simp
  exact ⟨loose _ _ (by simp), strict _ _ rfl, unordered _ _ rfl _ isOrder⟩

end Rulebook

import Rulebook.Proofs.Value.Comparison

/-!
Comparisons carry over from one value to the next. In the strict mode they always do, in the loose
mode where all values are compared as texts or all of them as numbers. Texts are totally ordered.
-/

namespace Rulebook

/-! ## Orders of three values -/

/-- The order of the first and the third of three values follows from the orders between them, if
these do not lead down: it is that of the first step that is not level. -/
def Climbs (lower upper whole : Option Ordering) : Prop :=
  ∀ first second : Ordering, lower = some first → upper = some second →
    first.isLE = true → second.isLE = true → whole = some (first.then second)

theorem climbs_of_transCmp {α : Type} (order : α → α → Ordering) [Std.TransCmp order]
    (first second third : α) :
    Climbs (some (order first second)) (some (order second third))
      (some (order first third)) := by
  rintro lower upper ⟨⟩ ⟨⟩ lowerLE upperLE
  cases isLower : order first second with
  | lt => rw [Std.TransCmp.lt_of_lt_of_isLE isLower upperLE]; rfl
  | eq => rw [Std.TransCmp.congr_left isLower]; rfl
  | gt =>
      rw [isLower] at lowerLE
      contradiction

theorem Number.climbs_compare? (first second third : Number) :
    Climbs (first.compare? second) (second.compare? third) (first.compare? third) := by
  cases first with
  | nan => exact nofun
  | signed firstNegative first =>
      cases second with
      | nan => exact nofun
      | signed secondNegative second =>
          cases third with
          | nan => exact nofun
          | signed thirdNegative third => exact climbs_of_transCmp compare _ _ _

theorem Climbs.any {lower upper whole : Option Ordering} (climbs : Climbs lower upper whole)
    {test : Ordering → Bool} (isLE : ∀ ordering, test ordering = true → ordering.isLE = true)
    (kept : ∀ first second, test first = true → test second = true →
      test (first.then second) = true)
    (lowerPasses : lower.any test = true) (upperPasses : upper.any test = true) :
    whole.any test = true := by
  cases lower with
  | none => contradiction
  | some first =>
      cases upper with
      | none => contradiction
      | some second =>
          rw [climbs first second rfl rfl (isLE first lowerPasses) (isLE second upperPasses)]
          exact kept first second lowerPasses upperPasses

/-! ## Modes -/

namespace Value

/-- Three values that the loose mode compares in one way: as texts, or as numbers because at most
one of them is a text. -/
inductive ComparedAlike : Value → Value → Value → Prop
  | texts (first second third : String) : ComparedAlike (text first) (text second) (text third)
  | numbers {first second third : Value} :
      [first, second, third].countP isText ≤ 1 → ComparedAlike first second third

theorem climbs_strictOrder? (first second third : Value) :
    Climbs (first.strictOrder? second) (second.strictOrder? third) (first.strictOrder? third) := by
  cases first with
  | number first =>
      cases second with
      | number second =>
          cases third with
          | number third => exact Number.climbs_compare? first second third
          | _ => exact nofun
      | _ => exact nofun
  | text first =>
      cases second with
      | text second =>
          cases third with
          | text third => exact climbs_of_transCmp Text.order first second third
          | _ => exact nofun
      | _ => exact nofun
  | _ => exact nofun

theorem looseOrder?_of_notText {left right : Value}
    (notTexts : ¬(left.isText = true ∧ right.isText = true)) :
    left.looseOrder? right = left.toNumber.compare? right.toNumber := by
  cases left <;> cases right <;> first | rfl | simp [isText] at notTexts

theorem ComparedAlike.climbs {first second third : Value}
    (alike : ComparedAlike first second third) :
    Climbs (first.looseOrder? second) (second.looseOrder? third) (first.looseOrder? third) := by
  cases alike with
  | texts first second third => exact climbs_of_transCmp Text.order first second third
  | numbers atMostOne =>
      have notTexts : ¬(first.isText = true ∧ second.isText = true) ∧
          ¬(second.isText = true ∧ third.isText = true) ∧
          ¬(first.isText = true ∧ third.isText = true) := by
        cases isFirst : first.isText <;> cases isSecond : second.isText <;>
          cases isThird : third.isText <;>
          simp [isFirst, isSecond, isThird] at atMostOne ⊢
      rw [looseOrder?_of_notText notTexts.1, looseOrder?_of_notText notTexts.2.1,
        looseOrder?_of_notText notTexts.2.2]
      exact Number.climbs_compare? _ _ _

theorem null_iff_of_looselyEquals {left right : Value} (equal : left.looselyEquals right = true) :
    left = null ↔ right = null := by
  cases left <;> cases right <;> simp [looselyEquals] at equal ⊢

theorem looselyEquals_trans {first second third : Value} (alike : ComparedAlike first second third)
    (lower : first.looselyEquals second = true) (upper : second.looselyEquals third = true) :
    first.looselyEquals third = true := by
  -- Null equals only null, so that equality is what the order says at every step.
  have lowerNull := null_iff_of_looselyEquals lower
  have upperNull := null_iff_of_looselyEquals upper
  rw [looselyEquals_eq lowerNull, beq_iff_eq] at lower
  rw [looselyEquals_eq upperNull, beq_iff_eq] at upper
  rw [looselyEquals_eq (lowerNull.trans upperNull), beq_iff_eq]
  exact alike.climbs .eq .eq lower upper rfl rfl

theorem strictlyEquals_trans {first second third : Value}
    (lower : first.strictlyEquals second = true) (upper : second.strictlyEquals third = true) :
    first.strictlyEquals third = true := by
  cases first <;> cases second <;> try contradiction
  all_goals cases third <;> try contradiction
  case null.null.null => rfl
  case boolean.boolean.boolean first second third =>
      simp only [strictlyEquals, beq_iff_eq] at lower upper ⊢
      exact lower.trans upper
  case text.text.text first second third =>
      simp only [strictlyEquals, beq_iff_eq] at lower upper ⊢
      exact lower.trans upper
  case number.number.number first second third =>
      simp only [strictlyEquals, Number.equals_iff] at lower upper ⊢
      exact Number.climbs_compare? first second third .eq .eq lower upper rfl rfl

end Value

/-! ## The comparison operators -/

open Operator

def Operator.CarriesOver (sign : Operator) (mode : ComparisonMode) (first second third : Value) :
    Prop :=
  sign.holds mode first second = true → sign.holds mode second third = true →
    sign.holds mode first third = true

theorem carriesOver_of_climbs {mode : ComparisonMode} {first second third : Value}
    (climbs : Climbs (mode.order? first second) (mode.order? second third)
      (mode.order? first third))
    (equals : equal.CarriesOver mode first second third) :
    ∀ sign ∈ [lowerThan, lowerThanEqual, equal], sign.CarriesOver mode first second third := by
  simp only [List.forall_mem_cons, List.not_mem_nil, false_implies, implies_true, and_true]
  refine ⟨?_, ?_, equals⟩
  · exact climbs.any (by rintro (_ | _ | _) <;> decide)
      (by rintro (_ | _ | _) (_ | _ | _) <;> decide)
  · exact climbs.any (by rintro (_ | _ | _) <;> decide)
      (by rintro (_ | _ | _) (_ | _ | _) <;> decide)

theorem order?_text (mode : ComparisonMode) (left right : String) :
    mode.order? (.text left) (.text right) = some (Text.order left right) := by
  cases mode <;> rfl

theorem equals_text (mode : ComparisonMode) (left right : String) :
    mode.equals (.text left) (.text right) = decide (left = right) := by
  cases mode <;> rfl

theorem count_order_text (mode : ComparisonMode) (left right : String) :
    [lowerThan.holds mode (.text left) (.text right), decide (left = right),
      lowerThan.holds mode (.text right) (.text left)].count true = 1 := by
  have swapped : Text.order right left = (Text.order left right).swap := Std.OrientedCmp.eq_swap
  have same : left = right ↔ Text.order left right = .eq :=
    Std.LawfulEqCmp.compare_eq_iff_eq.symm
  simp only [holds, order?_text, swapped, same]
  cases Text.order left right <;> rfl

/-- Lower, lower or equal, and equal carry over: in the strict mode always, in the loose mode if the
three values are compared in one way, be some of them null or not. Texts are totally ordered:
exactly one of three cases holds for any two of them. -/
theorem comparisons_transitive :
    (∀ first second third : Value, ∀ sign ∈ [lowerThan, lowerThanEqual, equal],
      sign.CarriesOver .strict first second third) ∧
      (∀ first second third : Value, first.ComparedAlike second third →
        ∀ sign ∈ [lowerThan, lowerThanEqual, equal],
          sign.CarriesOver .loose first second third) ∧
      ∀ (mode : ComparisonMode) (left right : String),
        equal.holds mode (.text left) (.text right) = decide (left = right) ∧
          [lowerThan.holds mode (.text left) (.text right), decide (left = right),
            lowerThan.holds mode (.text right) (.text left)].count true = 1 := by
  refine ⟨?_, ?_, ?_⟩
  · intro first second third
    exact carriesOver_of_climbs (Value.climbs_strictOrder? first second third)
      Value.strictlyEquals_trans
  · intro first second third alike
    exact carriesOver_of_climbs alike.climbs (Value.looselyEquals_trans alike)
  · intro mode left right
    exact ⟨equals_text mode left right, count_order_text mode left right⟩

theorem comparisons_transitive_mixed :
    let half : Value := .text " 0.5 "
    lowerThan.holds .loose (.boolean false) half = true ∧
      lowerThan.holds .loose half (.number (.ofNat 1)) = true ∧
      lowerThan.holds .loose (.boolean false) (.number (.ofNat 1)) = true ∧
      lowerThan.holds .loose (.text "z") (.text "😀") = true ∧
      lowerThan.holds .loose (.text "😀") (.text "ｱ") = true ∧
      lowerThan.holds .loose (.text "z") (.text "ｱ") = true := by
  intro half
  rcases comparisons_transitive with ⟨-, loose, -⟩
  have isSign : lowerThan ∈ [lowerThan, lowerThanEqual, equal] := by simp
  have mixed : Value.ComparedAlike (.boolean false) half (.number (.ofNat 1)) :=
    .numbers (by decide)
  have lower : lowerThan.holds .loose (.boolean false) half = true := by decide +kernel
  have upper : lowerThan.holds .loose half (.number (.ofNat 1)) = true := by decide +kernel
  have first : lowerThan.holds .loose (.text "z") (.text "😀") = true := by decide
  have second : lowerThan.holds .loose (.text "😀") (.text "ｱ") = true := by decide
  exact ⟨lower, upper, loose _ _ _ mixed _ isSign lower upper,
    first, second, loose _ _ _ (.texts "z" "😀" "ｱ") _ isSign first second⟩

/-- Two texts and a number are compared in both ways, and nothing carries over. -/
example : lowerThan.holds .loose (.text "10") (.text "9") = true ∧
    lowerThan.holds .loose (.text "9") (.number (.ofNat 10)) = true ∧
    lowerThan.holds .loose (.text "10") (.number (.ofNat 10)) = false := by decide +kernel

end Rulebook

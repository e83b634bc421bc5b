import Mathlib.Data.List.Basic
import Rulebook.Proofs.Number.Plain

/-!
The text of a number tells it from all other numbers: the digits of a finite number read back as it,
so that two numbers have one text only if they are equal. Both zeros are written alike, and so is
whatever is not a number.
-/

namespace Rulebook

namespace Decimal

/-! ## Positional notation -/

theorem plain_inj {left right : Decimal} (same : left.plain = right.plain) :
    left.numerator = right.numerator ∧ left.denominator = right.denominator := by
  rcases left.exists_plain_eq with
    ⟨whole, fraction, isPlain, isWhole, -, isFraction, places, value⟩
  rcases right.exists_plain_eq with
    ⟨otherWhole, otherFraction, isOther, isOtherWhole, -, isOtherFraction, otherPlaces, otherValue⟩
  have noPoint {digits : List Char} (all : ∀ character ∈ digits, character.isDigit = true) :
      '.' ∉ digits := fun member => absurd (all '.' member) (by decide)
  have sameDigits : whole = otherWhole ∧ fraction = otherFraction := by
    rw [isPlain, isOther] at same
    by_cases none : fraction = [] <;> by_cases otherNone : otherFraction = []
    · simpa [none, otherNone] using same
    · have point := congrArg ('.' ∈ ·) same
      simp [none, otherNone, noPoint isWhole.2] at point
    · have point := congrArg ('.' ∈ ·) same
      simp [none, otherNone, noPoint isOtherWhole.2] at point
    · rw [if_neg none, if_neg otherNone,
        List.append_cons_inj_of_notMem (noPoint isWhole.2) (noPoint isFraction)] at same
      exact ⟨same.1, same.2.2⟩
  rw [← value, ← otherValue, denominator, denominator, ← places, ← otherPlaces, sameDigits.1,
    sameDigits.2]
  exact ⟨rfl, rfl⟩

theorem exists_head_plain (decimal : Decimal) :
    ∃ digit rest, decimal.plain = digit :: rest ∧ digit.isDigit = true := by
  rcases decimal.exists_plain_eq with ⟨whole, fraction, isPlain, ⟨notEmpty, all⟩, -⟩
  rcases List.exists_cons_of_ne_nil notEmpty with ⟨digit, others, rfl⟩
  exact ⟨digit, _, isPlain, all digit List.mem_cons_self⟩

theorem mem_plain {decimal : Decimal} {character : Char} (member : character ∈ decimal.plain) :
    character.isDigit = true ∨ character = '.' := by
  rcases decimal.exists_plain_eq with ⟨whole, fraction, isPlain, isWhole, -, isFraction, -⟩
  rw [isPlain, List.mem_append] at member
  rcases member with inWhole | inFraction
  · exact .inl (isWhole.2 character inWhole)
  · split at inFraction
    · contradiction
    · rcases List.mem_cons.mp inFraction with isPoint | inDigits
      · exact .inr isPoint
      · exact .inl (isFraction character inDigits)

end Decimal

namespace Number

/-! ## Texts of numbers -/

def shown (magnitude : Magnitude) : Decimal :=
  if magnitude.place = 0 then ⟨0, 0⟩ else magnitude.shortest .up

theorem nearest_shown (magnitude : Magnitude) :
    Magnitude.nearest (shown magnitude).numerator (shown magnitude).denominator = magnitude := by
  rw [shown]
  split
  · next isZero =>
      have isZeroMagnitude : magnitude = Magnitude.zero := by
        cases magnitude
        subst isZero
        rfl
      rw [isZeroMagnitude]
      decide +kernel
  · next notZero => exact Magnitude.nearest_shortest (Nat.pos_of_ne_zero notZero)

def shownSign (negative : Bool) (magnitude : Magnitude) : List Char :=
  if negative = true ∧ magnitude.place ≠ 0 then ['-'] else []

theorem text_of_isFinite (negative : Bool) {magnitude : Magnitude}
    (finite : magnitude.isFinite = true) :
    (signed negative magnitude).text.toList =
      shownSign negative magnitude ++ (shown magnitude).plain := by
  by_cases isZero : magnitude.place = 0
  · rw [text, if_pos isZero, shownSign, if_neg (fun given => given.2 isZero), shown, if_pos isZero]
    decide
  · rw [text, if_neg isZero, if_pos finite, String.toList_ofList, shown, if_neg isZero, shownSign]
    cases negative with
    | false => exact if_neg isZero
    | true =>
        rw [if_pos ⟨rfl, isZero⟩]
        exact congrArg ('-' :: ·) (if_neg isZero)

theorem mem_text_of_isFinite {negative : Bool} {magnitude : Magnitude} {character : Char}
    (finite : magnitude.isFinite = true)
    (member : character ∈ (signed negative magnitude).text.toList) :
    character.isDigit = true ∨ character = '.' ∨ character = '-' := by
  rw [text_of_isFinite negative finite, List.mem_append] at member
  rcases member with inSign | inPlain
  · rw [shownSign] at inSign
    split at inSign
    · exact .inr (.inr (List.mem_singleton.mp inSign))
    · contradiction
  · rcases Decimal.mem_plain inPlain with isDigit | isPoint
    · exact .inl isDigit
    · exact .inr (.inl isPoint)

theorem text_of_isFinite_eq_false (negative : Bool) {magnitude : Magnitude}
    (infinite : magnitude.isFinite = false) :
    (signed negative magnitude).text = if negative then "-Infinity" else "Infinity" := by
  have notZero : magnitude.place ≠ 0 := by
    intro isZero
    rw [Magnitude.isFinite, isZero] at infinite
    contradiction
  rw [text, if_neg notZero, infinite, if_neg Bool.false_ne_true]

theorem minus_mem_text_iff {negative : Bool} {magnitude : Magnitude}
    (finite : magnitude.isFinite = true) :
    '-' ∈ (signed negative magnitude).text.toList ↔ negative = true ∧ magnitude.place ≠ 0 := by
  have noMinus : '-' ∉ (shown magnitude).plain := by
    intro member
    rcases Decimal.mem_plain member with isDigit | isPoint <;> contradiction
  rw [text_of_isFinite negative finite, List.mem_append, or_iff_left noMinus, shownSign]
  split <;> simp_all

theorem eq_of_text_eq_of_isFinite {negative otherNegative : Bool} {magnitude other : Magnitude}
    (finite : magnitude.isFinite = true) (otherFinite : other.isFinite = true)
    (same : (signed negative magnitude).text = (signed otherNegative other).text) :
    magnitude = other ∧ (negative = otherNegative ∨ magnitude.place = 0) := by
  have sameSign : negative = true ∧ magnitude.place ≠ 0 ↔
      otherNegative = true ∧ other.place ≠ 0 := by
    rw [← minus_mem_text_iff finite, ← minus_mem_text_iff otherFinite, same]
  have sameCharacters := congrArg String.toList same
  have samePlain : (shown magnitude).plain = (shown other).plain := by
    rw [text_of_isFinite negative finite, text_of_isFinite otherNegative otherFinite, shownSign,
      shownSign] at sameCharacters
    simp only [sameSign] at sameCharacters
    exact List.append_cancel_left sameCharacters
  have sameMagnitude : magnitude = other := by
    rcases Decimal.plain_inj samePlain with ⟨sameNumerator, sameDenominator⟩
    rw [← nearest_shown magnitude, sameNumerator, sameDenominator, nearest_shown]
  subst sameMagnitude
  refine ⟨rfl, ?_⟩
  by_cases isZero : magnitude.place = 0
  · exact .inr isZero
  · have sameTrue : negative = true ↔ otherNegative = true := by simpa [isZero] using sameSign
    exact .inl (Bool.eq_iff_iff.mpr sameTrue)

theorem place_of_isFinite_eq_false {magnitude : Magnitude}
    (infinite : magnitude.isFinite = false) : magnitude.place = Magnitude.lastPlace := by
  rw [Magnitude.isFinite, decide_eq_false_iff_not, Nat.not_lt] at infinite
  exact Nat.le_antisymm magnitude.place_le infinite

theorem text_ne_text_of_isFinite {negative otherNegative : Bool} {magnitude other : Magnitude}
    (finite : magnitude.isFinite = true) (infinite : other.isFinite = false) :
    (signed negative magnitude).text ≠ (signed otherNegative other).text := by
  intro same
  have member : 'I' ∈ (signed negative magnitude).text.toList := by
    rw [same, text_of_isFinite_eq_false otherNegative infinite]
    cases otherNegative <;> decide
  rcases mem_text_of_isFinite finite member with isDigit | isPoint | isMinus <;> contradiction

theorem text_ne_text_nan (negative : Bool) (magnitude : Magnitude) :
    (signed negative magnitude).text ≠ nan.text := by
  intro same
  cases finite : magnitude.isFinite with
  | false =>
      rw [text_of_isFinite_eq_false negative finite] at same
      cases negative <;> contradiction
  | true =>
      have member : 'N' ∈ (signed negative magnitude).text.toList := by
        rw [same]
        decide
      rcases mem_text_of_isFinite finite member with isDigit | isPoint | isMinus <;> contradiction

theorem exists_head_text (number : Number) :
    ∃ mark rest, number.text.toList = mark :: rest ∧
      (mark.isDigit = true ∨ mark ∈ ['-', 'N', 'I']) := by
  cases number with
  | nan => exact ⟨'N', _, rfl, .inr (by decide)⟩
  | signed negative magnitude =>
      cases finite : magnitude.isFinite with
      | false =>
          rw [text_of_isFinite_eq_false negative finite]
          cases negative
          · exact ⟨'I', _, rfl, .inr (by decide)⟩
          · exact ⟨'-', _, rfl, .inr (by decide)⟩
      | true =>
          rw [text_of_isFinite negative finite, shownSign]
          split
          · exact ⟨'-', _, rfl, .inr (by decide)⟩
          · rcases (shown magnitude).exists_head_plain with ⟨digit, rest, isPlain, isDigit⟩
            exact ⟨digit, rest, isPlain, .inl isDigit⟩

theorem eq_of_text_eq {negative otherNegative : Bool} {magnitude other : Magnitude}
    (same : (signed negative magnitude).text = (signed otherNegative other).text) :
    magnitude = other ∧ (negative = otherNegative ∨ magnitude.place = 0) := by
  cases finite : magnitude.isFinite <;> cases otherFinite : other.isFinite
  · have samePlace : magnitude.place = other.place := by
      rw [place_of_isFinite_eq_false finite, place_of_isFinite_eq_false otherFinite]
    rw [text_of_isFinite_eq_false negative finite,
      text_of_isFinite_eq_false otherNegative otherFinite] at same
    refine ⟨?_, .inl ?_⟩
    · cases magnitude
      cases other
      cases samePlace
      rfl
    · cases negative <;> cases otherNegative <;> first | rfl | contradiction
  · exact absurd same.symm (text_ne_text_of_isFinite otherFinite finite)
  · exact absurd same (text_ne_text_of_isFinite finite otherFinite)
  · exact eq_of_text_eq_of_isFinite finite otherFinite same

theorem equals_signed_iff {negative otherNegative : Bool} {magnitude other : Magnitude} :
    (signed negative magnitude).equals (signed otherNegative other) = true ↔
      magnitude = other ∧ (negative = otherNegative ∨ magnitude.place = 0) := by
  rw [equals_iff, compare?, Option.some.injEq, Std.LawfulEqCmp.compare_eq_iff_eq]
  rcases magnitude with ⟨place, atMost⟩
  rcases other with ⟨otherPlace, otherAtMost⟩
  rw [Magnitude.mk.injEq]
  cases negative <;> cases otherNegative <;> simp [rank] <;> omega

/-- Two numbers have one text exactly if they are equal, or if neither of them is a number. -/
theorem text_eq_text_iff {left right : Number} :
    left.text = right.text ↔ left.equals right = true ∨ left = nan ∧ right = nan := by
  cases left with
  | nan =>
      cases right with
      | nan => simp
      | signed negative magnitude =>
          simpa [equals, compare?] using (text_ne_text_nan negative magnitude).symm
  | signed negative magnitude =>
      cases right with
      | nan => simpa [equals, compare?] using text_ne_text_nan negative magnitude
      | signed otherNegative other =>
          rw [equals_signed_iff, or_iff_left (by simp)]
          constructor
          · exact eq_of_text_eq
          · rintro ⟨rfl, rfl | isZero⟩
            · rfl
            · simp [text, isZero]

end Number

end Rulebook

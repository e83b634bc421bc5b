import Rulebook.Number.Numeral
import Rulebook.Proofs.Json.Numeral

/-!
How numerals are written. The reader takes exactly the texts of a sign, digits around at most one
point, and an exponent; of these only a digit is never missing.
-/

namespace Rulebook.Numeral

open Json (IsDigits)

/-! ## Signs -/

inductive SignText : List Char → Bool → Prop where
  | none : SignText [] false
  | plus : SignText ['+'] false
  | minus : SignText ['-'] true

theorem exists_signText (text : List Char) :
    ∃ sign, SignText sign (takeSign text).1 ∧ text = sign ++ (takeSign text).2 := by
  unfold takeSign
  split
  · exact ⟨['-'], .minus, rfl⟩
  · exact ⟨['+'], .plus, rfl⟩
  · exact ⟨[], .none, rfl⟩

theorem takeSign_append {sign rest : List Char} {negative : Bool}
    (signText : SignText sign negative)
    (noSign : ∀ character ∈ rest.head?, character ≠ '-' ∧ character ≠ '+') :
    takeSign (sign ++ rest) = (negative, rest) := by
  cases signText with
  | plus => rfl
  | minus => rfl
  | none =>
      cases rest with
      | nil => rfl
      | cons character rest =>
          obtain ⟨noMinus, noPlus⟩ := noSign character rfl
          simp [takeSign, noMinus, noPlus]

/-! ## Exponents -/

inductive ExponentText : List Char → Int → Prop where
  | none : ExponentText [] 0
  | digits {mark : Char} {sign digits : List Char} {negative : Bool} :
      mark = 'e' ∨ mark = 'E' → SignText sign negative → IsDigits digits →
        ExponentText (mark :: (sign ++ digits))
          (if negative then -(digitsValue digits : Int) else digitsValue digits)

theorem ne_sign_of_isDigit {character : Char} (digit : character.isDigit = true) :
    character ≠ '-' ∧ character ≠ '+' := by
  constructor <;> rintro rfl <;> contradiction

theorem exponent?_eq_some_iff {text : List Char} {exponent : Int} :
    exponent? text = some exponent ↔ ExponentText text exponent := by
  constructor
  · intro read
    cases text with
    | nil =>
        cases read
        exact .none
    | cons mark rest =>
        obtain ⟨sign, signText, parts⟩ := exists_signText rest
        rw [exponent?] at read
        generalize takeSign rest = cut at *
        obtain ⟨negative, digits⟩ := cut
        simp only [Option.ite_none_right_eq_some, Option.some.injEq, List.all_eq_true] at read
        obtain ⟨⟨isMark, isDigits⟩, rfl⟩ := read
        rw [parts]
        exact .digits isMark signText isDigits
  · intro exponentText
    cases exponentText with
    | none => rfl
    | @digits mark sign digits negative isMark signText isDigits =>
        have noSign : ∀ character ∈ digits.head?, character ≠ '-' ∧ character ≠ '+' :=
          fun character isHead =>
            ne_sign_of_isDigit (isDigits.2 character (List.mem_of_mem_head? isHead))
        rw [exponent?, takeSign_append signText noSign]
        exact if_pos ⟨isMark, isDigits.1, List.all_eq_true.mpr isDigits.2⟩

/-! ## Points -/

/-- The digits after the whole ones as they are written, with the point before them. There may be
none of them, with or without the point. -/
inductive FractionText : List Char → List Char → Prop where
  | none : FractionText [] []
  | point {digits : List Char} :
      (∀ character ∈ digits, character.isDigit = true) → FractionText ('.' :: digits) digits

theorem exists_fractionText (text : List Char) :
    ∃ front, FractionText front (takeFraction text).1 ∧ text = front ++ (takeFraction text).2 := by
  unfold takeFraction
  split
  · next rest =>
      refine ⟨'.' :: rest.takeWhile Char.isDigit, .point ?_, ?_⟩
      · exact List.all_eq_true.mp List.all_takeWhile
      · simp
  · exact ⟨[], .none, rfl⟩

theorem takeFraction_append {front fraction rest : List Char}
    (fractionText : FractionText front fraction)
    (ends : ∀ character ∈ rest.head?, character.isDigit = false ∧ character ≠ '.') :
    takeFraction (front ++ rest) = (fraction, rest) := by
  cases fractionText with
  | none =>
      cases rest with
      | nil => rfl
      | cons character rest => simp [takeFraction, (ends character rfl).2]
  | point digits =>
      have boundary : ∀ character ∈ rest.head?, character.isDigit = false :=
        fun character isHead => (ends character isHead).1
      rw [List.cons_append, takeFraction, (Token.takeWhile_append_boundary digits boundary).1,
        (Token.takeWhile_append_boundary digits boundary).2]

/-! ## Numerals -/

/-- A numeral as it is written. Either the digits before the point or those after it may be missing,
but not both. -/
inductive Written : List Char → Numeral → Prop where
  | parts {sign whole front fraction exponentText : List Char} {negative : Bool} {exponent : Int} :
      SignText sign negative → (∀ character ∈ whole, character.isDigit = true) →
        FractionText front fraction → ¬(whole = [] ∧ fraction = []) →
        ExponentText exponentText exponent →
        Written (sign ++ (whole ++ (front ++ exponentText)))
          ⟨negative, whole, fraction, exponent⟩

theorem ExponentText.ends {text : List Char} {exponent : Int}
    (exponentText : ExponentText text exponent) :
    ∀ character ∈ text.head?, character.isDigit = false ∧ character ≠ '.' := by
  cases exponentText with
  | none => simp
  | digits isMark signText isDigits => rcases isMark with rfl | rfl <;> simp

theorem FractionText.noDigit {front fraction exponentText : List Char} {exponent : Int}
    (fractionText : FractionText front fraction) (isExponent : ExponentText exponentText exponent) :
    ∀ character ∈ (front ++ exponentText).head?, character.isDigit = false := by
  cases fractionText with
  | none => exact fun character isHead => (isExponent.ends character isHead).1
  | point digits => simp

theorem FractionText.noSign {whole front fraction : List Char}
    (fractionText : FractionText front fraction)
    (digits : ∀ character ∈ whole, character.isDigit = true)
    (notEmpty : ¬(whole = [] ∧ fraction = [])) (rest : List Char) :
    ∀ character ∈ (whole ++ (front ++ rest)).head?, character ≠ '-' ∧ character ≠ '+' := by
  cases whole with
  | cons digit whole => simpa using ne_sign_of_isDigit (digits digit (by simp))
  | nil =>
      cases fractionText with
      | none => simp at notEmpty
      | point fractionDigits => simp

/-- The reader takes what is written as a numeral, and nothing else. -/
theorem read?_eq_some_iff {text : List Char} {numeral : Numeral} :
    read? text = some numeral ↔ Written text numeral := by
  constructor
  · intro read
    obtain ⟨sign, signText, parts⟩ := exists_signText text
    rw [read?] at read
    generalize takeSign text = cut at *
    obtain ⟨negative, unsigned⟩ := cut
    obtain ⟨front, fractionText, otherParts⟩ :=
      exists_fractionText (unsigned.dropWhile Char.isDigit)
    simp only at read parts
    generalize takeFraction (unsigned.dropWhile Char.isDigit) = cut at *
    obtain ⟨fraction, rest⟩ := cut
    simp only [Option.ite_none_left_eq_some, Option.map_eq_some_iff,
      exponent?_eq_some_iff] at read
    obtain ⟨notEmpty, exponent, exponentText, rfl⟩ := read
    have digits := List.all_eq_true.mp (List.all_takeWhile (p := Char.isDigit) (l := unsigned))
    have isText : text = sign ++ (unsigned.takeWhile Char.isDigit ++ (front ++ rest)) := by
      rw [parts, ← otherParts, List.takeWhile_append_dropWhile]
    rw [isText]
    exact .parts signText digits fractionText notEmpty exponentText
  · intro written
    cases written with
    | @parts sign whole front fraction exponentPart negative exponent signText digits fractionText
        notEmpty exponentText =>
        have noDigit := fractionText.noDigit exponentText
        have noSign := fractionText.noSign digits notEmpty exponentPart
        obtain ⟨taken, dropped⟩ := Token.takeWhile_append_boundary digits noDigit
        rw [read?, takeSign_append signText noSign]
        simp only
        rw [taken, dropped, takeFraction_append fractionText exponentText.ends]
        simp only
        rw [if_neg notEmpty, exponent?_eq_some_iff.mpr exponentText, Option.map_some]

end Rulebook.Numeral

import Mathlib.Data.Nat.Digits.Defs
import Rulebook.Proofs.Number.Nearest
import Rulebook.Proofs.Number.Numeral
import Rulebook.Value.Comparison

/-!
The texts that stand for numbers: a text of blanks, infinity, whole numbers of 64 bits in base
sixteen, eight or two, and decimal numbers. The number is the one nearest to what is written.
-/

namespace Rulebook

/-! ## Digits -/

namespace Text

def SpellsInBase (radix : Nat) (digits : List Char) (value : Nat) : Prop :=
  ∃ values, List.Forall₂ (fun digit value => digitValue? radix digit = some value) digits values ∧
    value = Nat.ofDigits radix values.reverse

theorem foldlM_digitValue?_eq_some_iff {radix start value : Nat} {digits : List Char} :
    digits.foldlM (fun value digit => (digitValue? radix digit).map (radix * value + ·)) start =
        some value ↔
      ∃ values, List.Forall₂ (fun digit value => digitValue? radix digit = some value)
          digits values ∧
        value = Nat.ofDigits radix values.reverse + radix ^ values.length * start := by
  induction digits generalizing start with
  | nil => simp [eq_comm]
  | cons digit digits induction =>
      rw [List.foldlM_cons, Option.bind_eq_bind, Option.bind_eq_some_iff]
      simp only [Option.map_eq_some_iff, List.forall₂_cons_left_iff, induction]
      constructor
      · rintro ⟨_, ⟨first, isFirst, rfl⟩, values, areValues, rfl⟩
        refine ⟨first :: values, ⟨first, values, isFirst, areValues, rfl⟩, ?_⟩
        rw [List.reverse_cons, Nat.ofDigits_append, Nat.ofDigits_singleton, List.length_reverse,
          List.length_cons]
        ring
      · rintro ⟨_, ⟨first, values, isFirst, areValues, rfl⟩, rfl⟩
        refine ⟨_, ⟨first, isFirst, rfl⟩, values, areValues, ?_⟩
        rw [List.reverse_cons, Nat.ofDigits_append, Nat.ofDigits_singleton, List.length_reverse,
          List.length_cons]
        ring

theorem digitsValue?_eq_some_iff {radix value : Nat} {digits : List Char} :
    digitsValue? radix digits = some value ↔ SpellsInBase radix digits value := by
  simp [digitsValue?, SpellsInBase, foldlM_digitValue?_eq_some_iff]

end Text

namespace NumericText

open Numeral (SignText Written)

/-! ## Texts that spell numbers -/

inductive RadixMark : Char → Nat → Prop where
  | lowerHexadecimal : RadixMark 'x' 16
  | upperHexadecimal : RadixMark 'X' 16
  | lowerOctal : RadixMark 'o' 8
  | upperOctal : RadixMark 'O' 8
  | lowerBinary : RadixMark 'b' 2
  | upperBinary : RadixMark 'B' 2

/-- Digits, at least one, after the letter of their base spell a number of at most 64 bits. -/
def SpellsWhole (mark : Char) (digits : List Char) (number : Number) : Prop :=
  ∃ radix value, RadixMark mark radix ∧ digits ≠ [] ∧ Text.SpellsInBase radix digits value ∧
    value < 2 ^ 64 ∧ Number.IsRounded false value number

/-- The texts without blanks around them that spell a number, and the number. -/
inductive Spells : List Char → Number → Prop where
  | empty : Spells [] .zero
  | infinity {sign : List Char} {negative : Bool} :
      SignText sign negative → Spells (sign ++ "Infinity".toList) (.infinity negative)
  | whole {mark : Char} {digits : List Char} {number : Number} :
      SpellsWhole mark digits number → Spells ('0' :: mark :: digits) number
  | decimal {text : List Char} {numeral : Numeral} {number : Number} :
      Written text numeral →
        Number.IsRounded numeral.negative numeral.decimal.exact number → Spells text number

def SpellsAfterPlus (text : List Char) (number : Number) : Prop :=
  ∃ mark digits, text = '0' :: mark :: '+' :: digits ∧ SpellsWhole mark digits number

theorem takeRadix?_eq_some_iff {text digits : List Char} {radix : Nat} :
    takeRadix? text = some (radix, digits) ↔
      ∃ mark, RadixMark mark radix ∧ text = '0' :: mark :: digits := by
  constructor
  · intro taken
    unfold takeRadix? at taken
    split at taken
    · next mark rest =>
        split_ifs at taken with isMark isMark isMark <;> cases taken <;>
          rcases isMark with rfl | rfl <;> exact ⟨_, by constructor, rfl⟩
    · contradiction
  · rintro ⟨mark, isMark, rfl⟩
    cases isMark <;> rfl

theorem read?_of_radixMark {mark : Char} {radix : Nat} (isMark : RadixMark mark radix)
    (digits : List Char) : Numeral.read? ('0' :: mark :: digits) = none := by
  cases isMark <;> rfl

theorem not_spellsInBase_plus {radix value : Nat} {digits : List Char} :
    ¬Text.SpellsInBase radix ('+' :: digits) value := by
  rw [← Text.digitsValue?_eq_some_iff]
  simp [Text.digitsValue?, Text.digitValue?]

theorem ofRadix?_eq_some_iff {radix value : Nat} {text : List Char} :
    ofRadix? radix text = some value ↔
      ∃ digits, (text = digits ∨ text = '+' :: digits) ∧ digits ≠ [] ∧
        Text.SpellsInBase radix digits value ∧ value < 2 ^ 64 := by
  have fits : Word.fits value = true ↔ value < 2 ^ 64 := decide_eq_true_iff
  unfold ofRadix?
  split
  · next rest =>
      simp only [Option.ite_none_left_eq_some, Option.filter_eq_some_iff, fits,
        Text.digitsValue?_eq_some_iff]
      constructor
      · intro read
        exact ⟨rest, .inr rfl, read⟩
      · rintro ⟨digits, rfl | same, notEmpty, spells, small⟩
        · exact absurd spells not_spellsInBase_plus
        · cases same
          exact ⟨notEmpty, spells, small⟩
  · next noPlus =>
      simp only [Option.ite_none_left_eq_some, Option.filter_eq_some_iff, fits,
        Text.digitsValue?_eq_some_iff]
      constructor
      · intro read
        exact ⟨text, .inl rfl, read⟩
      · rintro ⟨digits, rfl | isPlus, read⟩
        · exact read
        · exact absurd isPlus (noPlus digits)

theorem ofTrimmed?_infinity {sign : List Char} {negative : Bool}
    (signText : SignText sign negative) :
    ofTrimmed? (sign ++ "Infinity".toList) = some (.infinity negative) := by
  cases signText <;> decide +kernel

theorem ofTrimmed?_of_finite {text : List Char} (notEmpty : text ≠ [])
    (finite : ∀ sign negative, SignText sign negative → text ≠ sign ++ "Infinity".toList) :
    ofTrimmed? text =
      match takeRadix? text with
      | some (radix, digits) => (ofRadix? radix digits).map .ofNat
      | none => (Numeral.read? text).map Numeral.number := by
  have noSign : text ≠ "Infinity".toList := finite [] false .none
  have noPlus : text ≠ "+Infinity".toList := finite ['+'] false .plus
  have noMinus : text ≠ "-Infinity".toList := finite ['-'] true .minus
  rewrite [ofTrimmed?, if_neg notEmpty, if_neg (not_or.mpr ⟨noSign, noPlus⟩), if_neg noMinus]
  rfl

theorem ne_infinity_of_radixMark (mark : Char) (digits : List Char) (sign : List Char)
    (negative : Bool) (signText : SignText sign negative) :
    '0' :: mark :: digits ≠ sign ++ "Infinity".toList := by
  cases signText <;> simp

theorem ofTrimmed?_radix {mark : Char} {radix : Nat} (isMark : RadixMark mark radix)
    (digits : List Char) :
    ofTrimmed? ('0' :: mark :: digits) = (ofRadix? radix digits).map .ofNat := by
  have taken : takeRadix? ('0' :: mark :: digits) = some (radix, digits) :=
    takeRadix?_eq_some_iff.mpr ⟨mark, isMark, rfl⟩
  rw [ofTrimmed?_of_finite (by simp) (ne_infinity_of_radixMark mark digits), taken]

theorem ofTrimmed?_written {text : List Char} {numeral : Numeral} (written : Written text numeral) :
    ofTrimmed? text = some numeral.number := by
  have read := Numeral.read?_eq_some_iff.mpr written
  have noRadix : takeRadix? text = none := by
    cases taken : takeRadix? text with
    | none => rfl
    | some radix =>
        obtain ⟨mark, isMark, rfl⟩ := takeRadix?_eq_some_iff.mp taken
        rw [read?_of_radixMark isMark] at read
        contradiction
  have notEmpty : text ≠ [] := by
    rintro rfl
    contradiction
  have finite : ∀ sign negative, SignText sign negative →
      text ≠ sign ++ "Infinity".toList := by
    rintro sign negative signText rfl
    cases signText <;> contradiction
  rw [ofTrimmed?_of_finite notEmpty finite, noRadix]
  simp only [read, Option.map_some]

theorem ofTrimmed?_of_spellsWhole {mark : Char} {digits text : List Char} {number : Number}
    (spells : SpellsWhole mark digits number) (plus : text = digits ∨ text = '+' :: digits) :
    ofTrimmed? ('0' :: mark :: text) = some number := by
  obtain ⟨radix, value, isMark, notEmpty, spelled, small, rounded⟩ := spells
  have read : ofRadix? radix text = some value :=
    ofRadix?_eq_some_iff.mpr ⟨digits, plus, notEmpty, spelled, small⟩
  rw [ofTrimmed?_radix isMark, read, Option.map_some,
    rounded.unique (Number.isRounded_ofNat value)]

theorem ofTrimmed?_of_spells {text : List Char} {number : Number} (spells : Spells text number) :
    ofTrimmed? text = some number := by
  cases spells with
  | empty => rfl
  | infinity signText => exact ofTrimmed?_infinity signText
  | whole spells => exact ofTrimmed?_of_spellsWhole spells (.inl rfl)
  | @decimal text numeral number written rounded =>
      rw [ofTrimmed?_written written, rounded.unique (Number.isRounded_number numeral)]

theorem ofTrimmed?_eq_some_iff {text : List Char} {number : Number} :
    ofTrimmed? text = some number ↔ Spells text number ∨ SpellsAfterPlus text number := by
  constructor
  · intro read
    by_cases isEmpty : text = []
    · subst isEmpty
      cases read
      exact .inl .empty
    by_cases infinite : ∃ sign negative, SignText sign negative ∧ text = sign ++ "Infinity".toList
    · obtain ⟨sign, negative, signText, rfl⟩ := infinite
      rw [ofTrimmed?_infinity signText] at read
      cases read
      exact .inl (.infinity signText)
    rw [ofTrimmed?_of_finite isEmpty
      fun sign negative signText same => infinite ⟨sign, negative, signText, same⟩] at read
    cases taken : takeRadix? text with
    | none =>
        rw [taken] at read
        obtain ⟨numeral, isNumeral, rfl⟩ := Option.map_eq_some_iff.mp read
        have written := Numeral.read?_eq_some_iff.mp isNumeral
        exact .inl (.decimal written (Number.isRounded_number numeral))
    | some parts =>
        obtain ⟨radix, rest⟩ := parts
        rw [taken] at read
        obtain ⟨mark, isMark, rfl⟩ := takeRadix?_eq_some_iff.mp taken
        obtain ⟨value, isValue, rfl⟩ := Option.map_eq_some_iff.mp read
        obtain ⟨digits, plus, notEmpty, spelled, small⟩ := ofRadix?_eq_some_iff.mp isValue
        have spells : SpellsWhole mark digits (.ofNat value) :=
          ⟨radix, value, isMark, notEmpty, spelled, small, Number.isRounded_ofNat value⟩
        obtain rfl | rfl := plus
        · exact .inl (.whole spells)
        · exact .inr ⟨mark, digits, rfl, spells⟩
  · rintro (spells | ⟨mark, digits, rfl, spells⟩)
    · exact ofTrimmed?_of_spells spells
    · exact ofTrimmed?_of_spellsWhole spells (.inr rfl)

theorem SpellsWhole.ne_nan {mark : Char} {digits : List Char} {number : Number}
    (spells : SpellsWhole mark digits number) : number ≠ .nan := by
  obtain ⟨_, _, _, _, _, _, rounded⟩ := spells
  exact rounded.ne_nan

theorem ne_nan_of_spells {text : List Char} {number : Number}
    (spells : Spells text number ∨ SpellsAfterPlus text number) : number ≠ .nan := by
  rcases spells with spells | ⟨mark, digits, rfl, spells⟩
  · cases spells with
    | empty => exact nofun
    | infinity signText => exact nofun
    | whole spells => exact spells.ne_nan
    | decimal written rounded => exact rounded.ne_nan
  · exact spells.ne_nan

theorem not_spells_plus {mark : Char} {radix : Nat} (isMark : RadixMark mark radix)
    (digits : List Char) (number : Number) : ¬Spells ('0' :: mark :: '+' :: digits) number := by
  intro spells
  generalize isText : '0' :: mark :: '+' :: digits = text at spells
  cases spells with
  | empty => contradiction
  | infinity signText => exact ne_infinity_of_radixMark _ _ _ _ signText isText
  | whole spells =>
      obtain ⟨_, _, _, _, spelled, _⟩ := spells
      obtain ⟨rfl, rfl⟩ : mark = _ ∧ '+' :: digits = _ := by simpa using isText
      exact not_spellsInBase_plus spelled
  | decimal written rounded =>
      rw [← isText, ← Numeral.read?_eq_some_iff, read?_of_radixMark isMark] at written
      contradiction

/-- A text stands for a number exactly if, without the blanks around it, it is empty or spells
infinity, a whole number of at most 64 bits in base sixteen, eight or two, or a decimal number. It
stands for the nearest value to what it spells. A plus sign is let pass after the letter of a
base. -/
theorem toNumber_text_spelled (text : String) :
    let trimmed := Text.trim text.toList
    ((Value.text text).toNumber ≠ .nan ↔
        ∃ number, Spells trimmed number ∨ SpellsAfterPlus trimmed number) ∧
      ∀ number, Spells trimmed number ∨ SpellsAfterPlus trimmed number →
        (Value.text text).toNumber = number := by
  intro trimmed
  have isNumber : (Value.text text).toNumber = (ofTrimmed? trimmed).getD .nan := rfl
  simp only [← ofTrimmed?_eq_some_iff]
  constructor
  · constructor
    · intro notNaN
      cases read : ofTrimmed? trimmed with
      | none =>
          rw [isNumber, read] at notNaN
          contradiction
      | some number => exact ⟨number, rfl⟩
    · rintro ⟨number, read⟩
      rw [isNumber, read]
      exact ne_nan_of_spells (ofTrimmed?_eq_some_iff.mp read)
  · intro number read
    rw [isNumber, read, Option.getD_some]

theorem toNumber_text_spelled_decimal :
    let numeral : Numeral := ⟨true, [], ['2', '5'], 1⟩
    Spells (Text.trim " -.25E+1\n".toList) numeral.number ∧
      (Value.text " -.25E+1\n").toNumber = numeral.number ∧
      numeral.number = .ofDecimal true ⟨25, -1⟩ := by
  intro numeral
  have written : Written (Text.trim " -.25E+1\n".toList) numeral :=
    Numeral.read?_eq_some_iff.mp (by decide)
  have spells := Spells.decimal written (Number.isRounded_number numeral)
  exact ⟨spells, (toNumber_text_spelled " -.25E+1\n").2 _ (.inl spells), rfl⟩

/-- The plus sign lets more texts pass than those that spell a number. -/
theorem toNumber_text_accepts_plus :
    (Value.text "0x+1F").toNumber = .ofNat 31 ∧
      ¬((Value.text "0x+1F").toNumber ≠ .nan ↔
        ∃ number, Spells (Text.trim "0x+1F".toList) number) := by
  have isNumber : (Value.text "0x+1F").toNumber = .ofNat 31 := by decide +kernel
  have noBlanks : Text.trim "0x+1F".toList = ['0', 'x', '+', '1', 'F'] := by decide
  refine ⟨isNumber, ?_⟩
  rw [isNumber, noBlanks]
  intro same
  obtain ⟨number, spells⟩ := same.mp nofun
  exact not_spells_plus .lowerHexadecimal _ number spells

end NumericText

end Rulebook

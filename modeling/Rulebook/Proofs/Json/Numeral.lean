import Rulebook.Json.Numeral
import Rulebook.Proofs.Except
import Rulebook.Proofs.Token.Spelling

/-!
Reading numbers in JSON's spelling, part by part. Each part is read to its end if what follows does
not go on with a number.
-/

namespace Rulebook.Json

/-- The text does not go on with a number: it begins neither with a digit nor with a point nor with
the letter of an exponent. -/
def EndsNumber (rest : List Char) : Prop :=
  ∀ character ∈ rest.head?,
    character.isDigit = false ∧ character ≠ '.' ∧ character ≠ 'e' ∧ character ≠ 'E'

theorem endsNumber_nil : EndsNumber [] := by simp [EndsNumber]

theorem endsNumber_cons {character : Char} (other : character.isDigit = false)
    (noPoint : character ≠ '.') (noMark : character ≠ 'e' ∧ character ≠ 'E') (rest : List Char) :
    EndsNumber (character :: rest) := by
  simpa [EndsNumber] using ⟨other, noPoint, noMark⟩

/-! ## The parts of a number -/

def IsDigits (digits : List Char) : Prop :=
  digits ≠ [] ∧ ∀ character ∈ digits, character.isDigit = true

theorem isDigits_zero : IsDigits ['0'] := ⟨by simp, by simp⟩

theorem isDigits_toDigits (value : Nat) : IsDigits (Nat.toDigits 10 value) :=
  ⟨Nat.toDigits_ne_nil, fun _ member => Nat.isDigit_of_mem_toDigits (by decide) (by decide) member⟩

theorem IsDigits.isWordCharacter {digits : List Char} (isDigits : IsDigits digits)
    (character : Char) (member : character ∈ digits) : Token.isWordCharacter character = true := by
  simp [Token.isWordCharacter, Char.isAlphanum, isDigits.2 character member]

theorem IsDigits.wellFormed {text : String} (isDigits : IsDigits text.toList) :
    (Token.word text).WellFormed :=
  ⟨isDigits.1, List.all_eq_true.mpr isDigits.isWordCharacter⟩

theorem readDigits_append {digits rest : List Char} (isDigits : IsDigits digits)
    (ends : ∀ character ∈ rest.head?, character.isDigit = false) :
    readDigits (digits ++ rest) = .ok (digits, rest) := by
  rcases isDigits with ⟨notEmpty, all⟩
  rcases Token.takeWhile_append_boundary all ends with ⟨taken, dropped⟩
  rw [readDigits, taken, dropped]
  cases digits with
  | nil => contradiction
  | cons => rfl

theorem readWhole_append {digits rest : List Char} (isDigits : IsDigits digits)
    (noLeadingZero : digits.head? = some '0' → digits = ['0'])
    (ends : ∀ character ∈ rest.head?, character.isDigit = false) :
    readWhole (digits ++ rest) = .ok (digits, rest) := by
  rw [readWhole, readDigits_append isDigits ends, ok_bind]
  simp only
  rw [if_neg fun leading => leading.2 (noLeadingZero leading.1)]

theorem readFraction_append {digits rest : List Char} (isDigits : IsDigits digits)
    (ends : ∀ character ∈ rest.head?, character.isDigit = false) :
    readFraction ('.' :: (digits ++ rest)) = .ok (digits, rest) :=
  readDigits_append isDigits ends

theorem readFraction_of_head?_ne {rest : List Char} (noPoint : rest.head? ≠ some '.') :
    readFraction rest = .ok ([], rest) := by
  unfold readFraction
  split
  · simp at noPoint
  · rfl

theorem readExponent_append {negative : Bool} {digits rest : List Char}
    (isDigits : IsDigits digits) (ends : ∀ character ∈ rest.head?, character.isDigit = false) :
    readExponent ('e' :: (if negative then '-' else '+') :: (digits ++ rest)) =
      .ok (some (if negative then -(Numeral.digitsValue digits : Int)
        else Numeral.digitsValue digits), rest) := by
  cases negative <;>
    simp [readExponent, Numeral.takeSign, readDigits_append isDigits ends, ok_bind]

theorem readExponent_of_endsNumber {rest : List Char} (ends : EndsNumber rest) :
    readExponent rest = .ok (none, rest) := by
  cases rest with
  | nil => rfl
  | cons character rest =>
      rcases ends character rfl with ⟨-, -, lower, upper⟩
      simp [readExponent, lower, upper]

def readUnsigned (negative : Bool) (text : List Char) : Except Fault (Parsed WrittenNumber) := do
  let (whole, text) ← readWhole text
  let (fraction, text) ← readFraction text
  let (exponent?, text) ← readExponent text
  .ok (⟨⟨negative, whole, fraction, exponent?.getD 0⟩, fraction.isEmpty && exponent?.isNone⟩, text)

theorem readWrittenNumber_minus (text : List Char) :
    readWrittenNumber ('-' :: text) = readUnsigned true text := rfl

theorem readWrittenNumber_of_head?_ne {text : List Char} (noMinus : text.head? ≠ some '-') :
    readWrittenNumber text = readUnsigned false text := by
  cases text with
  | nil => rfl
  | cons character text =>
      have other : character ≠ '-' := by simpa using noMinus
      simp [readWrittenNumber, readUnsigned, other]

/-! ## Spellings -/

structure Spelling where
  negative : Bool
  whole : List Char
  fraction : List Char
  exponent? : Option (Bool × List Char)

namespace Spelling

def fractionText : List Char → List Char
  | [] => []
  | digits => '.' :: digits

def exponentText : Option (Bool × List Char) → List Char
  | none => []
  | some (negative, digits) => 'e' :: (if negative then '-' else '+') :: digits

def exponentValue : Option (Bool × List Char) → Int
  | none => 0
  | some (negative, digits) =>
      if negative then -(Numeral.digitsValue digits : Int) else Numeral.digitsValue digits

def text (spelling : Spelling) : List Char :=
  (if spelling.negative then ['-'] else []) ++
    (spelling.whole ++ (fractionText spelling.fraction ++ exponentText spelling.exponent?))

def number (spelling : Spelling) : WrittenNumber :=
  ⟨⟨spelling.negative, spelling.whole, spelling.fraction, exponentValue spelling.exponent?⟩,
    spelling.fraction.isEmpty && spelling.exponent?.isNone⟩

structure Valid (spelling : Spelling) : Prop where
  whole : IsDigits spelling.whole
  noLeadingZero : spelling.whole.head? = some '0' → spelling.whole = ['0']
  fraction : ∀ character ∈ spelling.fraction, character.isDigit = true
  exponent : ∀ sign digits, spelling.exponent? = some (sign, digits) → IsDigits digits

theorem fractionText_of_ne_nil {digits : List Char} (notEmpty : digits ≠ []) :
    fractionText digits = '.' :: digits := by
  cases digits with
  | nil => contradiction
  | cons => rfl

def ofDigits (digits : List Char) : Spelling := ⟨false, digits, [], none⟩

theorem valid_ofDigits {digits : List Char} (isDigits : IsDigits digits)
    (noLeadingZero : digits.head? = some '0' → digits = ['0']) : (ofDigits digits).Valid :=
  ⟨isDigits, noLeadingZero, by simp [ofDigits], by simp [ofDigits]⟩

@[simp] theorem text_ofDigits (digits : List Char) : (ofDigits digits).text = digits := by
  simp [text, ofDigits, fractionText, exponentText]

theorem exists_cons_of_valid {spelling : Spelling} (valid : spelling.Valid) :
    ∃ first others, spelling.text = first :: others ∧ (first = '-' ∨ first.isDigit = true) := by
  rcases spelling with ⟨negative, whole, fraction, exponent?⟩
  cases negative with
  | true => exact ⟨'-', _, rfl, .inl rfl⟩
  | false =>
      rcases List.exists_cons_of_ne_nil valid.whole.1 with ⟨digit, digits, isWhole⟩
      change whole = digit :: digits at isWhole
      subst isWhole
      exact ⟨digit, _, rfl, .inr (valid.whole.2 digit (by simp))⟩

theorem head?_exponentText_append (exponent? : Option (Bool × List Char)) {rest : List Char}
    (ends : EndsNumber rest) :
    ∀ character ∈ (exponentText exponent? ++ rest).head?,
      character.isDigit = false ∧ character ≠ '.' := by
  cases exponent? with
  | none => exact fun character isHead => ⟨(ends character isHead).1, (ends character isHead).2.1⟩
  | some parts =>
      intro character isHead
      have isMark : 'e' = character := by simpa [exponentText] using isHead
      rw [← isMark]
      decide

theorem readExponent_exponentText_append {exponent? : Option (Bool × List Char)}
    (isDigits : ∀ sign digits, exponent? = some (sign, digits) → IsDigits digits)
    {rest : List Char} (ends : EndsNumber rest) :
    readExponent (exponentText exponent? ++ rest) =
      .ok (exponent?.map fun parts => exponentValue (some parts), rest) := by
  cases exponent? with
  | none => exact readExponent_of_endsNumber ends
  | some parts =>
      exact readExponent_append (isDigits _ _ rfl) fun character isHead =>
        (ends character isHead).1

theorem readFraction_fractionText_append {fraction : List Char}
    (isDigits : ∀ character ∈ fraction, character.isDigit = true) {rest : List Char}
    (ends : ∀ character ∈ rest.head?, character.isDigit = false ∧ character ≠ '.') :
    readFraction (fractionText fraction ++ rest) = .ok (fraction, rest) := by
  cases fraction with
  | nil => exact readFraction_of_head?_ne fun point => (ends '.' point).2 rfl
  | cons digit digits =>
      exact readFraction_append ⟨by simp, isDigits⟩ fun character isHead =>
        (ends character isHead).1

theorem head?_fractionText_append (fraction : List Char) {rest : List Char}
    (ends : ∀ character ∈ rest.head?, character.isDigit = false) :
    ∀ character ∈ (fractionText fraction ++ rest).head?, character.isDigit = false := by
  cases fraction with
  | nil => exact ends
  | cons digit digits =>
      intro character isHead
      have isPoint : '.' = character := by simpa [fractionText] using isHead
      rw [← isPoint]
      rfl

/-- A number is read as its spelling says, up to where it ends. -/
theorem readWrittenNumber_text {spelling : Spelling} (valid : spelling.Valid) {rest : List Char}
    (ends : EndsNumber rest) :
    readWrittenNumber (spelling.text ++ rest) = .ok (spelling.number, rest) := by
  rcases spelling with ⟨negative, whole, fraction, exponent?⟩
  rcases valid with ⟨isWhole, noLeadingZero, isFraction, isExponent⟩
  have exponentRead := readExponent_exponentText_append isExponent ends
  have fractionEnds := head?_exponentText_append exponent? ends
  have fractionRead := readFraction_fractionText_append isFraction fractionEnds
  have wholeEnds := head?_fractionText_append fraction fun character isHead =>
    (fractionEnds character isHead).1
  have wholeRead := readWhole_append isWhole noLeadingZero wholeEnds
  have numberRead : readUnsigned negative
      (whole ++ (fractionText fraction ++ (exponentText exponent? ++ rest))) =
        .ok (number ⟨negative, whole, fraction, exponent?⟩, rest) := by
    simp only [readUnsigned, wholeRead, fractionRead, exponentRead, ok_bind, number]
    cases exponent? <;> rfl
  cases negative with
  | true =>
      have isMinus : text ⟨true, whole, fraction, exponent?⟩ ++ rest =
          '-' :: (whole ++ (fractionText fraction ++ (exponentText exponent? ++ rest))) := by
        simp [text]
      rw [isMinus, readWrittenNumber_minus]
      exact numberRead
  | false =>
      rcases List.exists_cons_of_ne_nil isWhole.1 with ⟨digit, digits, rfl⟩
      have notMinus : digit ≠ '-' := by
        intro isMinus
        have isDigit := isWhole.2 digit (by simp)
        rw [isMinus] at isDigit
        contradiction
      rw [← readWrittenNumber_of_head?_ne (by simpa using notMinus)] at numberRead
      simpa [text] using numberRead

end Spelling

/-! ## Numbers in word characters -/

theorem eq_append_of_readDigits {text digits rest : List Char}
    (read : readDigits text = .ok (digits, rest)) : text = digits ++ rest ∧ IsDigits digits := by
  unfold readDigits at read
  split at read
  · contradiction
  · next notEmpty =>
      simp only [Except.ok.injEq, Prod.mk.injEq] at read
      obtain ⟨rfl, rfl⟩ := read
      exact ⟨List.takeWhile_append_dropWhile.symm, notEmpty,
        List.all_eq_true.mp List.all_takeWhile⟩

theorem eq_append_of_readWhole {text digits rest : List Char}
    (read : readWhole text = .ok (digits, rest)) :
    text = digits ++ rest ∧ IsDigits digits ∧ (digits.head? = some '0' → digits = ['0']) := by
  rcases bind_eq_ok_iff.mp read with ⟨⟨first, after⟩, firstRead, checked⟩
  simp only at checked
  split at checked
  · contradiction
  · next noLeadingZero =>
      cases checked
      obtain ⟨parts, isDigits⟩ := eq_append_of_readDigits firstRead
      exact ⟨parts, isDigits, fun zero =>
        Decidable.not_not.mp fun longer => noLeadingZero ⟨zero, longer⟩⟩

theorem takeSign_of_word {text : List Char}
    (word : ∀ character ∈ text, Token.isWordCharacter character = true) :
    Numeral.takeSign text = (false, text) := by
  unfold Numeral.takeSign
  split
  · simp [Token.isWordCharacter] at word
  · simp [Token.isWordCharacter] at word
  · rfl

def IsUnsignedExponent : List Char → Prop
  | [] => True
  | mark :: digits => (mark = 'e' ∨ mark = 'E') ∧ IsDigits digits

theorem exists_of_readExponent {text rest : List Char} {exponent? : Option Int}
    (word : ∀ character ∈ text, Token.isWordCharacter character = true)
    (read : readExponent text = .ok (exponent?, rest)) :
    0 ≤ exponent?.getD 0 ∧ ∃ exponent, text = exponent ++ rest ∧ IsUnsignedExponent exponent := by
  cases text with
  | nil =>
      cases read
      exact ⟨by decide, [], rfl, trivial⟩
  | cons mark text =>
      have noSign : Numeral.takeSign text = (false, text) :=
        takeSign_of_word fun character member => word character (by simp [member])
      simp only [readExponent] at read
      split at read
      · next isMark =>
          rw [noSign] at read
          rcases bind_eq_ok_iff.mp read with ⟨⟨digits, after⟩, digitsRead, isExponent⟩
          cases isExponent
          obtain ⟨rfl, isDigits⟩ := eq_append_of_readDigits digitsRead
          exact ⟨Int.natCast_nonneg _, mark :: digits, rfl, isMark, isDigits⟩
      · cases read
        exact ⟨by decide, [], rfl, trivial⟩

theorem exists_of_readWrittenNumber {text rest : List Char} {written : WrittenNumber}
    (word : ∀ character ∈ text, Token.isWordCharacter character = true)
    (read : readWrittenNumber text = .ok (written, rest)) :
    ∃ whole after exponent?, readWhole text = .ok (whole, after) ∧
      readExponent after = .ok (exponent?, rest) ∧
      (∀ character ∈ after, Token.isWordCharacter character = true) ∧
      written.numeral = ⟨false, whole, [], exponent?.getD 0⟩ := by
  rw [readWrittenNumber_of_head?_ne (Token.head?_ne_of_word word (by decide))] at read
  rcases bind_eq_ok_iff.mp read with ⟨⟨whole, after⟩, wholeRead, read⟩
  have wordAfter : ∀ character ∈ after, Token.isWordCharacter character = true :=
    fun character member => word character (by simp [(eq_append_of_readWhole wholeRead).1, member])
  have noPoint : after.head? ≠ some '.' := Token.head?_ne_of_word wordAfter (by decide)
  simp only [readFraction_of_head?_ne noPoint, ok_bind] at read
  rcases bind_eq_ok_iff.mp read with ⟨⟨exponent?, afterExponent⟩, exponentRead, isWritten⟩
  cases isWritten
  exact ⟨whole, after, exponent?, wholeRead, exponentRead, wordAfter, rfl⟩

theorem readWrittenNumber_of_word {text rest : List Char} {written : WrittenNumber}
    (word : ∀ character ∈ text, Token.isWordCharacter character = true)
    (read : readWrittenNumber text = .ok (written, rest)) :
    written.numeral.negative = false ∧ written.numeral.fraction = [] ∧
      0 ≤ written.numeral.exponent := by
  rcases exists_of_readWrittenNumber word read with
      ⟨whole, after, exponent?, -, exponentRead, wordAfter, isNumeral⟩
  rw [isNumeral]
  exact ⟨rfl, rfl, (exists_of_readExponent wordAfter exponentRead).1⟩

end Rulebook.Json

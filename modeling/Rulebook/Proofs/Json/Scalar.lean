import Rulebook.Json.Reader
import Rulebook.Proofs.Number.Plain

/-!
Reading values that are neither lists nor objects, and what numbers are taken for.
-/

namespace Rulebook.Json

/-! ## Blanks in front -/

theorem skipBlanks_of_head? {text : List Char}
    (noBlank : ∀ character ∈ text.head?, isBlank character = false) : skipBlanks text = text := by
  cases text with
  | nil => rfl
  | cons character text =>
      have notBlank : isBlank character = false := noBlank character rfl
      simp [skipBlanks, notBlank]

theorem isBlank_of_isWordCharacter {character : Char}
    (word : Token.isWordCharacter character = true) : isBlank character = false := by
  by_contra blank
  rw [Bool.not_eq_false] at blank
  simp only [isBlank, Bool.or_eq_true, beq_iff_eq] at blank
  rcases blank with ((rfl | rfl) | rfl) | rfl <;> contradiction

theorem readValue_of_head? (depth : Nat) {text : List Char}
    (noBlank : ∀ character ∈ text.head?, isBlank character = false)
    (noOpening : text.head? ≠ some '[' ∧ text.head? ≠ some '\x7b') :
    readValue depth text = readScalar text := by
  rw [readValue, skipBlanks_of_head? noBlank]
  split
  · simp at noOpening
  · simp at noOpening
  · rfl

theorem readAll_eq_ok_iff {α : Type} {read : List Char → Except Fault (Parsed α)}
    {source : String} {value : α} :
    readAll read source = .ok value ↔
      ∃ rest, read source.toList = .ok (value, rest) ∧ skipBlanks rest = [] := by
  rw [readAll, bind_eq_ok_iff]
  constructor
  · intro given
    rcases given with ⟨⟨other, rest⟩, isRead, checked⟩
    simp only at checked
    split at checked
    · next blank =>
        cases checked
        exact ⟨rest, isRead, blank⟩
    · contradiction
  · intro given
    rcases given with ⟨rest, isRead, blank⟩
    exact ⟨(value, rest), isRead, if_pos blank⟩

/-! ## Numbers -/

theorem readScalar_cons_of_digit {first : Char} (starts : first = '-' ∨ first.isDigit = true)
    (others : List Char) : readScalar (first :: others) = readNumber (first :: others) := by
  have other : first ≠ 'n' ∧ first ≠ 't' ∧ first ≠ 'f' ∧ first ≠ '"' := by
    refine ⟨?_, ?_, ?_, ?_⟩ <;> rintro rfl <;> simp at starts
  simp [readScalar, other, starts]

theorem readScalar_spelling {spelling : Spelling} (valid : spelling.Valid) {rest : List Char}
    (ends : EndsNumber rest) :
    readScalar (spelling.text ++ rest) =
      match spelling.number.toJson? with
      | some json => .ok (json, rest)
      | none => .error .malformed := by
  rcases Spelling.exists_cons_of_valid valid with ⟨first, others, isText, starts⟩
  have isRead := Spelling.readWrittenNumber_text valid ends
  rw [isText, List.cons_append] at isRead ⊢
  rw [readScalar_cons_of_digit starts, readNumber, isRead]
  rfl

theorem WrittenNumber.exists_number_of_toJson? {written : WrittenNumber} {json : Json}
    (isJson : written.toJson? = some json) :
    ∃ number : Number, json.toValue? = some (.number number) := by
  unfold toJson? at isJson
  split at isJson
  · cases isJson
    exact ⟨_, rfl⟩
  · rcases Option.map_eq_some_iff.mp isJson with ⟨magnitude, -, rfl⟩
    exact ⟨_, rfl⟩

theorem toJson?_ofDigits {digits : List Char}
    (fits : Word.fits (Numeral.digitsValue digits) = true) :
    (Spelling.ofDigits digits).number.toJson? = some (.integer (Numeral.digitsValue digits)) := by
  simp [WrittenNumber.toJson?, WrittenNumber.integer?, Spelling.number, Spelling.ofDigits, fits]

/-! ## Numbers without sign, point and negative exponent -/

theorem isWhole_powerOfTen (exponent : Nat) : (powerOfTen exponent).IsWhole :=
  Magnitude.isWhole_nearest _

theorem isWhole_of_scaleUp? {magnitude scaled : Magnitude} {exponent : Nat}
    (whole : magnitude.IsWhole) (isScaled : scaleUp? magnitude exponent = some scaled) :
    scaled.IsWhole := by
  have productWhole := Magnitude.isWhole_product whole (isWhole_powerOfTen exponent)
  unfold scaleUp? at isScaled
  split at isScaled
  · simp only [Option.ite_none_right_eq_some, Option.some.injEq] at isScaled
    exact isScaled.2 ▸ productWhole
  · simp only [Option.ite_none_right_eq_some, Option.some.injEq] at isScaled
    exact isScaled.2 ▸ whole

theorem isWhole_of_approximate? {numeral : Numeral} {magnitude : Magnitude}
    (noFraction : numeral.fraction = []) (nonneg : 0 ≤ numeral.exponent)
    (isMagnitude : approximate? numeral = some magnitude) : magnitude.IsWhole := by
  rw [approximate?, noFraction] at isMagnitude
  simp only [takeIn, List.length_nil, Int.natCast_zero, Int.sub_self, Int.sub_zero] at isMagnitude
  rw [if_pos (by omega)] at isMagnitude
  exact isWhole_of_scaleUp? (Magnitude.isWhole_nearest _) isMagnitude

namespace WrittenNumber

theorem nonneg_of_integer? {written : WrittenNumber} {value : Int}
    (noSign : written.numeral.negative = false) (isInteger : written.integer? = some value) :
    0 ≤ value := by
  simp only [integer?, noSign, Bool.false_eq_true, if_false] at isInteger
  split at isInteger
  · contradiction
  · rw [Option.ite_none_right_eq_some, Option.some.injEq] at isInteger
    exact isInteger.2 ▸ Int.natCast_nonneg _

theorem isNatural_of_toJson? {written : WrittenNumber} {json : Json}
    (noSign : written.numeral.negative = false) (noFraction : written.numeral.fraction = [])
    (nonneg : 0 ≤ written.numeral.exponent) (isJson : written.toJson? = some json) :
    ∃ number : Number, number.IsNatural ∧ json.toValue? = some (.number number) := by
  unfold toJson? at isJson
  split at isJson
  · next value isInteger =>
      cases isJson
      have nonneg := nonneg_of_integer? noSign isInteger
      exact ⟨.ofInt value, ⟨decide_eq_false (not_lt.mpr nonneg), Magnitude.isWhole_nearest _⟩, rfl⟩
  · rw [Option.map_eq_some_iff] at isJson
    rcases isJson with ⟨magnitude, isMagnitude, rfl⟩
    exact ⟨.signed written.numeral.negative magnitude,
      ⟨noSign, isWhole_of_approximate? noFraction nonneg isMagnitude⟩, rfl⟩

end WrittenNumber

end Rulebook.Json

import Rulebook.Json.Text
import Rulebook.Proofs.Except

/-!
Texts that were written are read back. Each character is written on its own, so the escapes are
undone one character at a time.
-/

namespace Rulebook.Json

/-! ## One character -/

theorem readCharacters_of_readEscape {text after : List Char} {character : Char}
    (escape : readEscape text = .ok (character, after)) :
    readCharacters ('\\' :: text) =
      (readCharacters after).map fun (characters, rest) => (character :: characters, rest) := by
  rw [readCharacters]
  split
  · next fault failed =>
      rw [escape] at failed
      contradiction
  · next other remaining same =>
      rw [escape] at same
      cases same
      cases readCharacters after <;> rfl

theorem readCharacters_cons {character : Char} (noMark : character ≠ '"')
    (noEscape : character ≠ '\\') (printable : 0x20 ≤ character.toNat) (text : List Char) :
    readCharacters (character :: text) =
      (readCharacters text).map fun (characters, rest) => (character :: characters, rest) := by
  rw [readCharacters]
  · rw [if_neg (Nat.not_lt.mpr printable)]
    cases readCharacters text <;> rfl
  · exact noMark
  · exact noEscape

theorem readUnit_control {point : Nat} (control : point < 0x20) (rest : List Char) :
    readUnit ('0' :: '0' :: Nat.digitChar (point / 16) :: Nat.digitChar (point % 16) :: rest) =
      .ok (point, rest) := by
  have spelled : ∀ point < 0x20,
      Text.digitsValue? 16 ['0', '0', Nat.digitChar (point / 16), Nat.digitChar (point % 16)] =
        some point := by decide
  simp only [readUnit, spelled point control]

theorem readEscape_control {character : Char} (control : character.toNat < 0x20)
    (rest : List Char) :
    readEscape ('u' :: '0' :: '0' :: Nat.digitChar (character.toNat / 16) ::
      Nat.digitChar (character.toNat % 16) :: rest) = .ok (character, rest) := by
  have noTrailing : isTrailing character.toNat = false := by
    rw [isTrailing, Bool.and_eq_false_iff]
    exact .inl (decide_eq_false (by omega))
  have noLeading : isLeading character.toNat = false := by
    rw [isLeading, Bool.and_eq_false_iff]
    exact .inl (decide_eq_false (by omega))
  simp [readEscape, readEscapedUnits, readUnit_control control, ok_bind, noTrailing, noLeading]

theorem readCharacters_writeCharacter (character : Char) (text : List Char) :
    readCharacters (writeCharacter character ++ text) =
      (readCharacters text).map fun (characters, rest) => (character :: characters, rest) := by
  unfold writeCharacter
  split
  case h_8 noMark noEscape _ _ _ _ _ =>
    simp only
    split
    · next control => exact readCharacters_of_readEscape (readEscape_control control text)
    · next printable => exact readCharacters_cons noMark noEscape (Nat.not_lt.mp printable) text
  all_goals exact readCharacters_of_readEscape rfl

/-! ## Whole texts -/

theorem readCharacters_flatMap_writeCharacter (characters rest : List Char) :
    readCharacters (characters.flatMap writeCharacter ++ '"' :: rest) =
      .ok (characters, rest) := by
  induction characters with
  | nil =>
      rw [List.flatMap_nil, List.nil_append, readCharacters]
  | cons character characters induction =>
      rw [List.flatMap_cons, List.append_assoc, readCharacters_writeCharacter, induction]
      rfl

theorem toList_writeText (value : String) :
    (writeText value).toList = '"' :: (value.toList.flatMap writeCharacter ++ ['"']) := by
  simp [writeText]

theorem readText_append (value : String) (rest : List Char) :
    readText (value.toList.flatMap writeCharacter ++ '"' :: rest) = .ok (value, rest) := by
  simp [readText, readCharacters_flatMap_writeCharacter, ok_bind]

end Rulebook.Json

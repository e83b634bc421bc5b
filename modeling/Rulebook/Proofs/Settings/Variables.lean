import Mathlib.Data.List.Infix
import Rulebook.Proofs.Number.Numeral
import Rulebook.Proofs.Settings.Layers

/-!
Which setting a variable gives. Its name leads to a place, part by part, and its value spells a
truth value or a number, or else is a text.
-/

namespace Rulebook

/-! ## Parts of a key -/

namespace Text

variable {mark : Char} {piece : List Char}

theorem parts_append_cons (noMark : mark ∉ piece) (rest : List Char) :
    parts mark (piece ++ mark :: rest) = piece :: parts mark rest := by
  induction piece with
  | nil => simp [parts]
  | cons character piece induction =>
      rw [List.mem_cons, not_or] at noMark
      simp [parts, Ne.symm noMark.1, induction noMark.2]

theorem parts_of_notMem (noMark : mark ∉ piece) : parts mark piece = [piece] := by
  induction piece with
  | nil => rfl
  | cons character piece induction =>
      rw [List.mem_cons, not_or] at noMark
      simp [parts, Ne.symm noMark.1, induction noMark.2]

theorem parts_intercalate {pieces : List (List Char)} (notEmpty : pieces ≠ [])
    (noMark : ∀ piece ∈ pieces, mark ∉ piece) :
    parts mark ([mark].intercalate pieces) = pieces := by
  induction pieces with
  | nil => contradiction
  | cons piece pieces induction =>
      rw [List.forall_mem_cons] at noMark
      cases pieces with
      | nil =>
          rw [List.intercalate_singleton]
          exact parts_of_notMem noMark.1
      | cons next pieces =>
          rw [List.intercalate_cons_cons, List.append_assoc, List.singleton_append,
            parts_append_cons noMark.1, induction (by simp) noMark.2]

end Text

namespace Layer

open Setting (Step)

/-- A name that stands in a key as it is, without being cut or taken for an index. -/
def IsKeyName (name : String) : Prop :=
  name.toList ≠ [] ∧ name.toList.all Setting.isNameCharacter = true

instance (name : String) : Decidable (IsKeyName name) :=
  inferInstanceAs (Decidable (name.toList ≠ [] ∧ name.toList.all Setting.isNameCharacter = true))

theorem IsKeyName.notMem {name : String} (isName : IsKeyName name) {mark : Char}
    (other : Setting.isNameCharacter mark = false) : mark ∉ name.toList := by
  intro member
  have allowed := List.all_eq_true.mp isName.2 mark member
  rw [other] at allowed
  contradiction

theorem readPart?_of_isKeyName {name : String} (isName : IsKeyName name) :
    readPart? name.toList = some [.name name] := by
  have whole : Text.parts '[' name.toList = [name.toList] :=
    Text.parts_of_notMem (isName.notMem (by decide))
  simp [readPart?, whole, name?, isName.1, isName.2]

theorem mapM_readPart? {names : List String} (areNames : ∀ name ∈ names, IsKeyName name) :
    (names.map String.toList).mapM readPart? = some (names.map fun name => [.name name]) := by
  induction names with
  | nil => rfl
  | cons name names induction =>
      rw [List.forall_mem_cons] at areNames
      simp [readPart?_of_isKeyName areNames.1, induction areNames.2]

theorem path_intercalate {names : List String} (notEmpty : names ≠ [])
    (areNames : ∀ name ∈ names, IsKeyName name) :
    path (".".intercalate names) = names.map .name := by
  have cut : Text.parts '.' (".".intercalate names).toList = names.map String.toList := by
    rw [String.toList_intercalate]
    apply Text.parts_intercalate (by simpa using notEmpty)
    intro piece isPiece
    rcases List.mem_map.mp isPiece with ⟨name, isName, rfl⟩
    exact (areNames name isName).notMem (by decide)
  rw [path, cut, mapM_readPart? areNames]
  exact List.map_eq_flatMap.symm

theorem remaining?_map_name (names : List String) :
    remaining? (names.map .name) names = some [] := by
  induction names with
  | nil => rfl
  | cons name names induction => simp [remaining?, induction]

theorem at?_append (names : List String) (before after : Layer) :
    Layer.at? names (before ++ after) = (Layer.at? names after).or (Layer.at? names before) := by
  rw [Layer.at?, List.reverse_append, List.findSome?_append]
  rfl

end Layer

namespace Variables

/-! ## The place of a variable -/

theorem joinParts_cons {character : Char} {text : List Char}
    (single : ¬(character = '_' ∧ text.head? = some '_')) :
    joinParts (character :: text) = character :: joinParts text := by
  rw [joinParts]
  rintro rest rfl rfl
  exact single ⟨rfl, rfl⟩

theorem joinParts_append {part rest : List Char} (single : ¬['_', '_'] <:+: part ++ rest.take 1) :
    joinParts (part ++ rest) = part ++ joinParts rest := by
  induction part with
  | nil => rfl
  | cons character part induction =>
      rw [List.cons_append, joinParts_cons, induction]
      · rfl
      · exact fun inside => single (List.infix_cons inside)
      · rintro ⟨rfl, follows⟩
        have sameHead : (part ++ rest.take 1).head? = (part ++ rest).head? := by
          cases part <;> cases rest <;> rfl
        rcases List.head?_eq_some_iff.mp (sameHead.trans follows) with ⟨tail, isTail⟩
        rw [List.cons_append, isTail] at single
        exact single ⟨[], tail, rfl⟩

theorem joinParts_intercalate {parts : List (List Char)}
    (single : ∀ part ∈ parts, ¬['_', '_'] <:+: part ++ ['_']) :
    joinParts (['_', '_'].intercalate parts) = ['.'].intercalate parts := by
  induction parts with
  | nil => rfl
  | cons part parts induction =>
      rw [List.forall_mem_cons] at single
      cases parts with
      | nil =>
          have whole : ¬['_', '_'] <:+: part ++ List.take 1 [] := by
            rw [List.take_nil, List.append_nil]
            exact fun inside => single.1 (inside.trans (List.prefix_append part ['_']).isInfix)
          rw [List.intercalate_singleton, List.intercalate_singleton]
          simpa [joinParts] using joinParts_append whole
      | cons next parts =>
          rw [List.intercalate_cons_cons, List.intercalate_cons_cons, List.append_assoc,
            List.append_assoc, joinParts_append single.1, ← induction single.2]
          rfl

/-- The name of a variable, in small letters, is the prefix and then the names of the place with two
underscores between them. -/
structure LeadsTo (name : String) (place : List String) : Prop where
  spelled : lowercase name.toList =
    namePrefix ++ ['_', '_'].intercalate (place.map String.toList)
  notEmpty : place ≠ []
  areNames : ∀ part ∈ place, Layer.IsKeyName part
  single : ∀ part ∈ place, ¬['_', '_'] <:+: part.toList ++ ['_']

namespace LeadsTo

variable {name : String} {place : List String}

theorem key?_eq (leads : LeadsTo name place) : key? name = some (".".intercalate place) := by
  have joined : joinParts (['_', '_'].intercalate (place.map String.toList)) =
      ['.'].intercalate (place.map String.toList) := by
    apply joinParts_intercalate
    intro part isPart
    rcases List.mem_map.mp isPart with ⟨name, isName, rfl⟩
    exact leads.single name isName
  have isKey : String.ofList (['.'].intercalate (place.map String.toList)) =
      ".".intercalate place := by
    rw [← String.toList_inj, String.toList_ofList, String.toList_intercalate]
    rfl
  simp [key?, leads.spelled, joined, isKey]

/-- A variable gives the setting that its value spells to the place that its name leads to, unless a
later variable gives another one. -/
theorem at?_layer (leads : LeadsTo name place) (before : Environment) (value : String)
    {after : Environment} (last : Layer.at? place (layer after) = none) :
    Layer.at? place (layer (before ++ (name, value) :: after)) = some (setting value) := by
  have isLayer : layer (before ++ (name, value) :: after) =
      layer before ++ ([(".".intercalate place, setting value)] ++ layer after) := by
    simp [layer, leads.key?_eq]
  have isEntry :
      Layer.at? place [(".".intercalate place, setting value)] = some (setting value) := by
    simp [Layer.at?, Layer.entryAt?, Layer.path_intercalate leads.notEmpty leads.areNames,
      Layer.remaining?_map_name, Setting.at?]
  rw [isLayer, Layer.at?_append, Layer.at?_append, last, isEntry]
  rfl

end LeadsTo

/-! ## The value of a variable -/

theorem setting_of_lowercase {value : String} {truth : Bool}
    (word : (toString truth).toList = lowercase value.toList) : setting value = .boolean truth := by
  rw [setting, ← word]
  cases truth <;> rfl

theorem toLower_of_isDigit {character : Char} (digit : character.isDigit = true) :
    toLower character = character := by
  have noKelvin : character ≠ '\u212a' := by
    rintro rfl
    contradiction
  have noCapital : ¬('A'.val ≤ character.val ∧ character.val ≤ 'Z'.val) := by
    intro capital
    simp only [Char.isDigit, Bool.and_eq_true, decide_eq_true_eq] at digit
    exact absurd (UInt32.le_trans capital.1 digit.2) (by decide)
  rw [toLower, if_neg noKelvin]
  exact dif_neg noCapital

theorem toNat_lt_of_isAlpha {character : Char} (letter : character.isAlpha = true) :
    character.toNat < 128 := by
  have bounded {last : Char} (early : last.toNat < 128) (below : character.val ≤ last.val) :
      character.toNat < 128 :=
    Nat.lt_of_le_of_lt (UInt32.le_iff_toNat_le.mp below) early
  rcases (Bool.or_eq_true _ _).mp letter with capital | small
  · have between : 'A'.val ≤ character.val ∧ character.val ≤ 'Z'.val := of_decide_eq_true capital
    exact bounded (by decide) between.2
  · have between := (Bool.and_eq_true _ _).mp small
    have below : character.val ≤ 'z'.val := of_decide_eq_true between.2
    exact bounded (by decide) below

/-- What holds of every letter in the table of characters holds of every letter. -/
theorem of_isAlpha {motive : Char → Prop} {character : Char} (letter : character.isAlpha = true)
    (table : ∀ number < 128, (Char.ofNat number).isAlpha = true → motive (Char.ofNat number)) :
    motive character := by
  have isListed := table character.toNat (toNat_lt_of_isAlpha letter)
  rw [Char.ofNat_toNat] at isListed
  exact isListed letter

theorem isAlpha_toLower {character : Char} (letter : character.isAlpha = true) :
    (toLower character).isAlpha = true :=
  of_isAlpha (motive := fun letter => (toLower letter).isAlpha = true) letter (by decide +kernel)

theorem toLower_ne_of_sign {sign : List Char} {negative : Bool}
    (signText : Numeral.SignText sign negative) : ∀ character ∈ sign, toLower character ≠ 'e' := by
  cases signText with
  | none => simp only [List.not_mem_nil, false_implies, implies_true]
  | plus => simpa only [List.mem_singleton, forall_eq] using by decide
  | minus => simpa only [List.mem_singleton, forall_eq] using by decide

theorem setting_of_digits {value : String} {sign digits : List Char} {negative : Bool}
    (isText : value.toList = sign ++ digits) (signText : Numeral.SignText sign negative)
    (isDigits : Json.IsDigits digits) :
    let number : Int :=
      if negative then -(Numeral.digitsValue digits : Int) else Numeral.digitsValue digits
    Word.fitsSigned number = true → setting value = .integer number := by
  intro number fits
  have noLetter : 'e' ∉ lowercase value.toList := by
    rw [lowercase, List.mem_map, isText]
    rintro ⟨character, member, isLetter⟩
    rcases List.mem_append.mp member with inSign | inDigits
    · exact toLower_ne_of_sign signText character inSign isLetter
    · have digit := isDigits.2 character inDigits
      rw [toLower_of_isDigit digit] at isLetter
      rw [isLetter] at digit
      contradiction
  have noTrue : lowercase value.toList ≠ "true".toList :=
    fun same => noLetter (same ▸ by decide)
  have noFalse : lowercase value.toList ≠ "false".toList :=
    fun same => noLetter (same ▸ by decide)
  have noSign : ∀ character ∈ digits.head?, character ≠ '-' ∧ character ≠ '+' :=
    fun character isHead =>
      Numeral.ne_sign_of_isDigit (isDigits.2 character (List.mem_of_mem_head? isHead))
  have isInteger : integer? value.toList = some number := by
    rw [integer?, isText, Numeral.takeSign_append signText noSign]
    exact if_pos ⟨isDigits.1, List.all_eq_true.mpr isDigits.2, fits⟩
  rw [setting, if_neg noTrue, if_neg noFalse, isInteger]

theorem takeSign_of_letter {first : Char} (letter : first.isAlpha = true) (others : List Char) :
    Numeral.takeSign (first :: others) = (false, first :: others) := by
  apply Numeral.takeSign_append .none
  intro character isHead
  cases isHead
  constructor <;> rintro rfl <;> contradiction

theorem isDigit_of_isAlpha {character : Char} (letter : character.isAlpha = true) :
    character.isDigit = false :=
  of_isAlpha (motive := fun letter => letter.isDigit = false) letter (by decide +kernel)

theorem read?_of_letter {first : Char} (letter : first.isAlpha = true) (others : List Char) :
    Numeral.read? (first :: others) = none := by
  have noPoint : first ≠ '.' := by
    rintro rfl
    contradiction
  simp [Numeral.read?, takeSign_of_letter letter, isDigit_of_isAlpha letter, Numeral.takeFraction,
    noPoint]

theorem setting_of_letter {value : String} {first : Char} {others : List Char}
    (begins : value.toList = first :: others) (letter : first.isAlpha = true)
    (noWord : lowercase value.toList ∉
      ["true", "false", "inf", "infinity", "nan"].map String.toList) :
    setting value = .text value := by
  simp only [List.map_cons, List.map_nil, List.mem_cons, List.not_mem_nil, or_false, not_or]
    at noWord
  rcases noWord with ⟨noTrue, noFalse, noInf, noInfinity, noNan⟩
  have isLower : lowercase value.toList = toLower first :: lowercase others := by
    rw [begins]
    rfl
  have noDecimal : decimal? value.toList = none := by
    rw [decimal?, isLower, takeSign_of_letter (isAlpha_toLower letter), ← isLower]
    simp only [noInf, noInfinity, noNan, or_self, if_false]
    rw [begins, read?_of_letter letter]
    rfl
  have noInteger : integer? value.toList = none := by
    rw [begins, integer?, takeSign_of_letter letter]
    simp [isDigit_of_isAlpha letter]
  rw [setting, if_neg noTrue, if_neg noFalse, noInteger, noDecimal]

end Variables

end Rulebook

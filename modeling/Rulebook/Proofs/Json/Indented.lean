import Rulebook.Proofs.Json.Rereading

/-!
Reading what was written on several lines. Line breaks and blanks between items and members do not
matter: a value is read as what its parts are read as.
-/

namespace Rulebook.Json

/-! ## Whole numbers -/

namespace Spelling

def ofInt (value : Int) : Spelling :=
  ⟨decide (value < 0), Nat.toDigits 10 value.natAbs, [], none⟩

theorem text_ofInt (value : Int) : (toString value).toList = (ofInt value).text := by
  cases value with
  | ofNat value =>
      simp [ofInt, text, fractionText, exponentText, Int.toString_eq_repr, Int.repr,
        Nat.toList_repr]
  | negSucc value =>
      simp [ofInt, text, fractionText, exponentText, Int.toString_eq_repr, Int.repr,
        Nat.toList_repr, Int.negSucc_lt_zero]

theorem valid_ofInt (value : Int) : (ofInt value).Valid where
  whole := isDigits_toDigits value.natAbs
  noLeadingZero := by
    intro leading
    rcases Nat.eq_zero_or_pos value.natAbs with isZero | positive
    · rw [ofInt, isZero]
      rfl
    · exact absurd leading (Decimal.head?_toDigits_ne_zero positive)
  fraction := by simp [ofInt]
  exponent := by simp [ofInt]

theorem toJson?_ofInt {value : Int} (fits : Word.fitsSigned value = true) :
    (ofInt value).number.toJson? = some (.integer value) := by
  have isValue : Numeral.digitsValue (Nat.toDigits 10 value.natAbs) = value.natAbs :=
    Nat.ofDigitChars_toDigits (by decide) (by decide)
  have isInteger : (ofInt value).number.integer? = some value := by
    have sign : (ofInt value).number.numeral.negative = decide (value < 0) := rfl
    have size : Numeral.digitsValue (ofInt value).number.numeral.whole = value.natAbs := isValue
    have isWhole : (ofInt value).number.isWhole = true := rfl
    rw [WrittenNumber.integer?, sign, size, isWhole]
    rcases lt_or_ge value 0 with negative | nonneg
    · have isNegative : -(value.natAbs : Int) = value := by omega
      have positive : 0 < value.natAbs := by omega
      rw [decide_eq_true negative, isNegative]
      exact if_pos (And.intro positive fits)
    · have isSame : (value.natAbs : Int) = value := Int.natAbs_of_nonneg nonneg
      have below : value < 0x8000000000000000 :=
        of_decide_eq_true (Bool.and_eq_true_iff.mp fits).2
      have fitsUnsigned : Word.fits value.natAbs = true :=
        decide_eq_true (show value.natAbs < 0x10000000000000000 by omega)
      rw [decide_eq_false (not_lt.mpr nonneg), isSame]
      exact if_pos fitsUnsigned
  rw [WrittenNumber.toJson?, isInteger]

end Spelling

theorem rereads_integer (depth : Nat) (value : Int) :
    RereadsAs depth (.integer value)
      ((Spelling.ofInt value).number.toJson?.elim (.error .malformed) .ok) :=
  .of_spelling (by rw [compact, Spelling.text_ofInt]) (Spelling.valid_ofInt value)

theorem rereadAt_integer {value : Int} (fits : Word.fitsSigned value = true) (depth : Nat) :
    rereadAt depth (.integer value) = .ok (.integer value) := by
  rw [(rereads_integer depth value).rereadAt_eq, Spelling.toJson?_ofInt fits]
  rfl

/-! ## What becomes of a value -/

mutual
/-- What a value becomes when its text is read: its parts are read on their own, and lists and
objects may be nested `depth` deep. -/
def reread (depth : Nat) : Json → Except Fault Json
  | list items =>
      match depth with
      | 0 => .error .malformed
      | depth + 1 => (rereadItems depth items).map list
  | object members =>
      match depth with
      | 0 => .error .malformed
      | depth + 1 => (rereadMembers depth members).map object
  | scalar => rereadAt depth scalar

def rereadItems (depth : Nat) : List Json → Except Fault (List Json)
  | [] => .ok []
  | item :: items => do
      let item ← item.reread depth
      .ok (item :: (← rereadItems depth items))

def rereadMembers (depth : Nat) : List (String × Json) → Except Fault (List (String × Json))
  | [] => .ok []
  | (name, value) :: members => do
      let value ← value.reread depth
      .ok ((name, value) :: (← rereadMembers depth members))
end

theorem rereadItems_eq_mapM (depth : Nat) (items : List Json) :
    rereadItems depth items = items.mapM (reread depth) := by
  induction items with
  | nil => rfl
  | cons item items induction =>
      rw [rereadItems, List.mapM_cons, induction]
      rfl

def addMember (depth : Nat) (found : List (String × Json)) (member : String × Json) :
    Except Fault (List (String × Json)) :=
  (member.2.reread depth).map fun value => (member.1, value) :: found

theorem foldlM_addMember (depth : Nat) (members found : List (String × Json)) :
    members.foldlM (addMember depth) found =
      (rereadMembers depth members).map fun members => members.reverse ++ found := by
  induction members generalizing found with
  | nil => rfl
  | cons member members induction =>
      rw [List.foldlM_cons, rereadMembers, addMember]
      cases member.2.reread depth with
      | error fault => rfl
      | ok value =>
          simp only [Except.map, ok_bind]
          rw [induction]
          cases rereadMembers depth members <;> simp [Except.map, bind, Except.bind]

/-! ## The text of a block -/

theorem blanks_lineBreak (depth : Nat) : Blanks (lineBreak depth).toList := by
  have blanks (count : Nat) : Blanks ("".pushn ' ' count).toList := by
    induction count with
    | zero => exact blanks_nil
    | succ count induction =>
        have next : "".pushn ' ' (count + 1) = ("".pushn ' ' count).push ' ' := rfl
        rw [next, String.toList_push]
        intro character member
        rcases List.mem_append.mp member with before | isLast
        · exact induction character before
        · rw [List.mem_singleton.mp isLast]
          rfl
  intro character member
  rw [lineBreak, String.toList_append] at member
  rcases List.mem_append.mp member with isBreak | isBlank
  · rw [List.mem_singleton.mp isBreak]
    rfl
  · exact blanks _ character isBlank

theorem toList_writeBlock (opening closing : String) (depth : Nat) (lines : List String) :
    (writeBlock opening closing depth lines).toList =
      opening.toList ++ (blockText (lineBreak (depth + 1)).toList (lineBreak depth).toList
        (lines.map String.toList) ++ closing.toList) := by
  cases lines with
  | nil => simp [writeBlock, blockText]
  | cons line lines =>
      have separated := intercalate_cons (lineBreak (depth + 1)).toList line.toList
        (lines.map String.toList)
      simp [writeBlock, blockText, String.toList_intercalate, separated]

/-! ## Reading -/

theorem startsItem_spelling {spelling : Spelling} (valid : spelling.Valid) :
    StartsItem spelling.text := by
  rcases Spelling.exists_cons_of_valid valid with ⟨first, others, isText, rfl | isDigit⟩
  · exact ⟨'-', others, isText, by decide⟩
  · have word : Token.isWordCharacter first = true := by
      simp [Token.isWordCharacter, Char.isAlphanum, isDigit]
    have noSeparator : first ≠ ',' ∧ first ≠ ']' := by
      constructor <;> rintro rfl <;> contradiction
    exact ⟨first, others, isText, isBlank_of_isWordCharacter word, noSeparator⟩

theorem startsItem_writeNumber (number : Number) : StartsItem (writeNumber number).toList := by
  cases isNumber : number.json? with
  | none =>
      rw [writeNumber_of_eq_none isNumber]
      exact ⟨'n', _, rfl, by decide⟩
  | some text =>
      rcases Number.exists_spelling_json? isNumber with ⟨spelling, valid, isText⟩
      rw [writeNumber_of_eq_some isNumber, isText]
      exact startsItem_spelling valid

theorem rereads_decimal (depth : Nat) (number : Number) :
    RereadsAs depth (.decimal number) (rereadAt depth (.decimal number)) := by
  cases isNumber : number.json? with
  | none => exact (RereadsAs.decimal_of_json?_eq_none isNumber).self
  | some text =>
      rcases Number.exists_spelling_json? isNumber with ⟨spelling, valid, isText⟩
      exact (RereadsAs.decimal_of_spelling isNumber isText valid).self

def IsScalar (json : Json) : Prop := json.toValue?.isSome = true

namespace IsScalar

variable {json : Json}

theorem indented_eq (isScalar : json.IsScalar) (depth : Nat) :
    json.indented depth = json.compact := by
  cases json with
  | list items => contradiction
  | object members => contradiction
  | _ => simp [indented]

theorem reread_eq (isScalar : json.IsScalar) (depth : Nat) :
    json.reread depth = rereadAt depth json := by
  cases json with
  | list items => contradiction
  | object members => contradiction
  | _ => rfl

theorem startsItem (isScalar : json.IsScalar) : StartsItem json.compact.toList := by
  cases json with
  | null => exact ⟨'n', ['u', 'l', 'l'], by simp [compact], by decide⟩
  | boolean value =>
      cases value with
      | true => exact ⟨'t', ['r', 'u', 'e'], by simp [compact], by decide⟩
      | false => exact ⟨'f', ['a', 'l', 's', 'e'], by simp [compact], by decide⟩
  | integer value =>
      rw [compact, Spelling.text_ofInt]
      exact startsItem_spelling (Spelling.valid_ofInt value)
  | decimal value =>
      rw [compact_decimal]
      exact startsItem_writeNumber value
  | string value =>
      rw [compact, toList_writeText]
      exact ⟨'"', _, rfl, by decide⟩
  | list items => contradiction
  | object members => contradiction

theorem rereads (isScalar : json.IsScalar) (depth : Nat) :
    RereadsAs depth json (rereadAt depth json) := by
  cases json with
  | null => exact RereadsAs.null.self
  | boolean value => exact (RereadsAs.boolean value).self
  | integer value => exact (rereads_integer depth value).self
  | decimal value => exact rereads_decimal depth value
  | string value => exact (RereadsAs.string value).self
  | list items => contradiction
  | object members => contradiction

theorem readsAs_indented (isScalar : json.IsScalar) (nesting depth : Nat) :
    ReadsAs (readValue nesting) (json.indented depth).toList (json.reread nesting) := by
  rw [isScalar.indented_eq, isScalar.reread_eq]
  exact isScalar.rereads nesting

end IsScalar

/-! ## Lists and objects -/

theorem map_toList_indentedItems (depth : Nat) (items : List Json) :
    (indentedItems depth items).map String.toList =
      items.map fun item => (item.indented depth).toList := by
  induction items with
  | nil => rfl
  | cons item items induction => simp [indentedItems, induction]

theorem map_toList_indentedMembers (depth : Nat) (members : List (String × Json)) :
    (indentedMembers depth members).map String.toList =
      members.map (memberText fun value => ' ' :: (value.indented depth).toList) := by
  induction members with
  | nil => rfl
  | cons member members induction => simp [indentedMembers, memberText, induction]

theorem toList_indented_list (depth : Nat) (items : List Json) :
    ((list items).indented depth).toList =
      '[' :: (blockText (lineBreak (depth + 1)).toList (lineBreak depth).toList
        (items.map fun item => (item.indented (depth + 1)).toList) ++ [']']) := by
  rw [indented, toList_writeBlock, map_toList_indentedItems]
  rfl

theorem toList_indented_object (depth : Nat) (members : List (String × Json)) :
    ((object members).indented depth).toList =
      '\x7b' :: (blockText (lineBreak (depth + 1)).toList (lineBreak depth).toList
        (members.map (memberText fun value => ' ' :: (value.indented (depth + 1)).toList)) ++
          ['\x7d']) := by
  rw [indented, toList_writeBlock, map_toList_indentedMembers]
  rfl

theorem startsItem_indented (depth : Nat) (json : Json) :
    StartsItem (json.indented depth).toList := by
  cases json with
  | list items =>
      rw [toList_indented_list]
      exact ⟨'[', _, rfl, by decide⟩
  | object members =>
      rw [toList_indented_object]
      exact ⟨'\x7b', _, rfl, by decide⟩
  | _ =>
      rw [IsScalar.indented_eq (by rfl)]
      exact IsScalar.startsItem (by rfl)

theorem readValue_bracket (depth : Nat) (text : List Char) :
    readValue (depth + 1) ('[' :: text) = (do
      let (items, rest) ← readItems (readValue depth) (text.length + 1) true text
      .ok (.list items, rest)) := by
  rw [readValue]
  rfl

theorem readsAs_list {nesting depth : Nat} {items : List Json}
    (reads : ∀ item ∈ items,
      ReadsAs (readValue nesting) (item.indented (depth + 1)).toList (item.reread nesting)) :
    ReadsAs (readValue (nesting + 1)) ((list items).indented depth).toList
      ((list items).reread (nesting + 1)) := by
  intro rest _
  have starts : ∀ item ∈ items, StartsItem (item.indented (depth + 1)).toList :=
    fun item _ => startsItem_indented (depth + 1) item
  have enough := length_le_blockText_append (lineBreak (depth + 1)).toList
    (lineBreak depth).toList (items.map fun item => (item.indented (depth + 1)).toList) ']' rest
  rw [List.length_map] at enough
  rw [toList_indented_list, List.cons_append, List.append_assoc, List.singleton_append,
    readValue_bracket, readItems_block (blanks_lineBreak _) (blanks_lineBreak _) reads starts rest
      enough, reread, rereadItems_eq_mapM]
  cases items.mapM (reread nesting) <;> rfl

theorem readsMember_indented {nesting depth : Nat} {member : String × Json}
    (reads : ReadsAs (readValue nesting) (member.2.indented depth).toList
      (member.2.reread nesting)) :
    ReadsMember (readNested nesting) (addMember nesting) member
      (' ' :: (member.2.indented depth).toList) := by
  intro found rest ends
  have noBlank : readValue nesting (' ' :: ((member.2.indented depth).toList ++ rest)) =
      readValue nesting ((member.2.indented depth).toList ++ rest) := by
    rw [readValue, readValue]
    rfl
  rw [readNested, List.cons_append, readColon_cons, ok_bind, noBlank, reads rest ends, addMember]
  cases member.2.reread nesting <;> rfl

theorem readsAs_object {nesting depth : Nat} {members : List (String × Json)}
    (reads : ∀ member ∈ members,
      ReadsAs (readValue nesting) (member.2.indented (depth + 1)).toList
        (member.2.reread nesting)) :
    ReadsAs (readValue (nesting + 1)) ((object members).indented depth).toList
      ((object members).reread (nesting + 1)) := by
  intro rest _
  have readsMembers : ∀ member ∈ members, ReadsMember (readNested nesting) (addMember nesting)
      member (' ' :: (member.2.indented (depth + 1)).toList) :=
    fun member isMember => readsMember_indented (reads member isMember)
  have enough := length_le_blockText_append (lineBreak (depth + 1)).toList
    (lineBreak depth).toList
    (members.map (memberText fun value => ' ' :: (value.indented (depth + 1)).toList)) '\x7d' rest
  rw [List.length_map] at enough
  rw [toList_indented_object, List.cons_append, List.append_assoc, List.singleton_append,
    readValue_brace, foldMembers_block (blanks_lineBreak _) (blanks_lineBreak _) readsMembers rest
      enough, foldlM_addMember, reread]
  cases rereadMembers nesting members <;> simp [Except.map, bind, Except.bind]

mutual
/-- The indented text of a value is read, up to its end, as what the value becomes. -/
theorem readsAs_indented : ∀ (json : Json) (nesting depth : Nat),
    ReadsAs (readValue nesting) (json.indented depth).toList (json.reread nesting)
  | null, nesting, depth => IsScalar.readsAs_indented (by rfl) nesting depth
  | boolean _, nesting, depth => IsScalar.readsAs_indented (by rfl) nesting depth
  | integer _, nesting, depth => IsScalar.readsAs_indented (by rfl) nesting depth
  | decimal _, nesting, depth => IsScalar.readsAs_indented (by rfl) nesting depth
  | string _, nesting, depth => IsScalar.readsAs_indented (by rfl) nesting depth
  | list items, 0, depth => by
      intro rest _
      rw [toList_indented_list, List.cons_append, readValue, reread]
      rfl
  | object members, 0, depth => by
      intro rest _
      rw [toList_indented_object, List.cons_append, readValue, reread]
      rfl
  | list items, nesting + 1, depth => readsAs_list (readsAs_indentedItems items nesting (depth + 1))
  | object members, nesting + 1, depth =>
      readsAs_object (readsAs_indentedMembers members nesting (depth + 1))

theorem readsAs_indentedItems : ∀ (items : List Json) (nesting depth : Nat), ∀ item ∈ items,
    ReadsAs (readValue nesting) (item.indented depth).toList (item.reread nesting)
  | [], _, _ => by simp
  | item :: items, nesting, depth =>
      List.forall_mem_cons.mpr
        ⟨readsAs_indented item nesting depth, readsAs_indentedItems items nesting depth⟩

theorem readsAs_indentedMembers : ∀ (members : List (String × Json)) (nesting depth : Nat),
    ∀ member ∈ members,
      ReadsAs (readValue nesting) (member.2.indented depth).toList (member.2.reread nesting)
  | [], _, _ => by simp
  | (_, value) :: members, nesting, depth =>
      List.forall_mem_cons.mpr
        ⟨readsAs_indented value nesting depth, readsAs_indentedMembers members nesting depth⟩
end

/-- What is printed on several lines is read as what the value becomes. -/
theorem readAll_pretty (depth : Nat) (json : Json) :
    readAll (readValue depth) json.pretty = json.reread depth := by
  have isRead := readsAs_indented json depth 0 [] endsNumber_nil
  rw [List.append_nil] at isRead
  rw [readAll, pretty, isRead]
  cases json.reread depth <;> rfl

end Rulebook.Json

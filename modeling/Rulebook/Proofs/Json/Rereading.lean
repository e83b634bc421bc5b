import Rulebook.Proofs.Json.Block
import Rulebook.Proofs.Number.JsonText

/-!
Reading what was written on one line. Null, truth values and texts are read back as they are, and
objects member by member; a number becomes what the reader takes its text for.
-/

namespace Rulebook.Json

theorem compact_decimal (number : Number) : compact (.decimal number) = writeNumber number := by
  rw [compact]

theorem writeNumber_of_eq_some {number : Number} {text : String}
    (isText : number.json? = some text) : writeNumber number = text := by
  rw [writeNumber, isText, Option.getD_some]

theorem writeNumber_of_eq_none {number : Number} (noText : number.json? = none) :
    writeNumber number = "null" := by
  rw [writeNumber, noText, Option.getD_none]

/-! ## Objects on one line -/

theorem map_toList_compactMembers (members : List (String × Json)) :
    (compactMembers members).map String.toList =
      members.map (memberText fun json => json.compact.toList) := by
  induction members with
  | nil => rfl
  | cons member members induction => simp [compactMembers, memberText, induction]

theorem toList_compact_object (members : List (String × Json)) :
    (object members).compact.toList =
      '\x7b' :: (blockText [] [] (members.map (memberText fun json => json.compact.toList)) ++
        ['\x7d']) := by
  have joined : (",".intercalate (compactMembers members)).toList =
      blockText [] [] (members.map (memberText fun json => json.compact.toList)) := by
    rw [String.toList_intercalate, map_toList_compactMembers]
    cases members with
    | nil => rfl
    | cons member members =>
        have separated := intercalate_cons [] (memberText (fun json => json.compact.toList) member)
          (members.map (memberText fun json => json.compact.toList))
        rw [List.map_cons, blockText, List.append_nil, List.nil_append, ← separated]
        rfl
  rw [compact, String.toList_append, String.toList_append, joined]
  rfl

theorem foldMembers_compact {σ : Type}
    {onMember : σ → String → List Char → Except Fault (Parsed σ)}
    {step : σ → String × Json → Except Fault σ} {members : List (String × Json)}
    (reads : ∀ member ∈ members, ReadsMember onMember step member member.2.compact.toList)
    (state : σ) (rest : List Char) :
    let text := blockText [] [] (members.map (memberText fun json => json.compact.toList)) ++
      '\x7d' :: rest
    foldMembers readText onMember (text.length + 1) true state text =
      (members.foldlM step state).map fun state => (state, rest) := by
  intro text
  have enough : (members.map (memberText fun json => json.compact.toList)).length ≤ text.length :=
    length_le_blockText_append _ _ _ _ _
  rw [List.length_map] at enough
  exact foldMembers_block blanks_nil blanks_nil reads rest enough state

/-! ## What is read -/

def rereadAt (depth : Nat) (json : Json) : Except Fault Json :=
  (readValue depth json.compact.toList).map Prod.fst

def RereadsAs (depth : Nat) (json : Json) (result : Except Fault Json) : Prop :=
  ∀ rest, EndsNumber rest →
    readValue depth (json.compact.toList ++ rest) = result.map fun other => (other, rest)

def readNested (depth : Nat) (found : List (String × Json)) (name : String) (text : List Char) :
    Except Fault (Parsed (List (String × Json))) := do
  let (value, text) ← readValue depth (← readColon text)
  .ok ((name, value) :: found, text)

theorem readValue_brace (depth : Nat) (text : List Char) :
    readValue (depth + 1) ('\x7b' :: text) = (do
      let (members, rest) ← foldMembers readText (readNested depth) (text.length + 1) true [] text
      .ok (.object members.reverse, rest)) := by
  rw [readValue]
  rfl

theorem readColon_cons (text : List Char) : readColon (':' :: text) = .ok text := rfl

def addReread (depth : Nat) (found : List (String × Json)) (member : String × Json) :
    Except Fault (List (String × Json)) :=
  (rereadAt depth member.2).map fun value => (member.1, value) :: found

namespace RereadsAs

variable {depth : Nat} {json : Json} {result : Except Fault Json}

theorem rereadAt_eq (rereads : RereadsAs depth json result) : rereadAt depth json = result := by
  have isRead := rereads [] endsNumber_nil
  rw [List.append_nil] at isRead
  rw [rereadAt, isRead]
  cases result <;> rfl

theorem self (rereads : RereadsAs depth json result) :
    RereadsAs depth json (rereadAt depth json) := by
  rwa [rereads.rereadAt_eq]

theorem of_readScalar {first : Char} {others : List Char}
    (isText : json.compact.toList = first :: others) (notBlank : isBlank first = false)
    (noOpening : first ≠ '[' ∧ first ≠ '\x7b')
    (reads : ∀ rest, EndsNumber rest →
      readScalar (first :: (others ++ rest)) = result.map fun other => (other, rest)) :
    RereadsAs depth json result := by
  intro rest ends
  rw [isText, List.cons_append, readValue_of_head?, reads rest ends]
  · simpa using notBlank
  · simpa using noOpening

theorem null : RereadsAs depth .null (.ok .null) :=
  of_readScalar rfl (by decide) (by decide) fun _ _ => rfl

theorem boolean (value : Bool) : RereadsAs depth (.boolean value) (.ok (.boolean value)) := by
  cases value with
  | true => exact of_readScalar rfl (by decide) (by decide) fun _ _ => rfl
  | false => exact of_readScalar rfl (by decide) (by decide) fun _ _ => rfl

theorem string (value : String) : RereadsAs depth (.string value) (.ok (.string value)) := by
  have isText : (compact (.string value)).toList =
      '"' :: (value.toList.flatMap writeCharacter ++ ['"']) := by
    rw [compact, toList_writeText]
  apply of_readScalar isText (by decide) (by decide)
  intro rest _
  simp [readScalar, readText_append, ok_bind, Except.map]

theorem of_spelling {spelling : Spelling} (isText : json.compact.toList = spelling.text)
    (valid : spelling.Valid) :
    RereadsAs depth json (spelling.number.toJson?.elim (.error .malformed) .ok) := by
  rcases Spelling.exists_cons_of_valid valid with ⟨first, others, isFirst, starts⟩
  apply of_readScalar (isText.trans isFirst)
  · rcases starts with rfl | isDigit
    · rfl
    · exact isBlank_of_isWordCharacter (by simp [Token.isWordCharacter, Char.isAlphanum, isDigit])
  · rcases starts with rfl | isDigit
    · decide
    · constructor <;> rintro rfl <;> simp at isDigit
  · intro rest ends
    rw [← List.cons_append, ← isFirst, readScalar_spelling valid ends]
    cases spelling.number.toJson? <;> rfl

theorem decimal_of_spelling {number : Number} {text : String} {spelling : Spelling}
    (isNumber : number.json? = some text) (isText : text.toList = spelling.text)
    (valid : spelling.Valid) :
    RereadsAs depth (.decimal number) (spelling.number.toJson?.elim (.error .malformed) .ok) := by
  apply of_spelling _ valid
  rw [compact_decimal, writeNumber_of_eq_some isNumber, isText]

theorem decimal_of_json?_eq_none {number : Number} (noNumber : number.json? = none) :
    RereadsAs depth (.decimal number) (.ok .null) := by
  have isNull : compact (.decimal number) = compact .null := by
    rw [compact_decimal, writeNumber_of_eq_none noNumber, compact]
  intro rest ends
  rw [isNull]
  exact RereadsAs.null rest ends

/-! ## Objects -/

theorem object_zero (members : List (String × Json)) :
    RereadsAs 0 (.object members) (.error .malformed) := by
  intro rest _
  rw [toList_compact_object]
  rfl

theorem object {members : List (String × Json)}
    (rereads : ∀ member ∈ members, RereadsAs depth member.2 (rereadAt depth member.2)) :
    RereadsAs (depth + 1) (.object members)
      ((members.foldlM (addReread depth) []).map fun found => .object found.reverse) := by
  intro rest _
  have readsMembers : ∀ member ∈ members,
      ReadsMember (readNested depth) (addReread depth) member member.2.compact.toList := by
    intro member isMember found rest ends
    rw [readNested, readColon_cons, ok_bind, rereads member isMember rest ends, addReread]
    cases rereadAt depth member.2 <;> rfl
  rw [toList_compact_object, List.cons_append, List.append_assoc, List.singleton_append,
    readValue_brace, foldMembers_compact readsMembers]
  cases members.foldlM (addReread depth) [] <;> rfl

end RereadsAs

/-! ## Values of rules -/

theorem readRuleValue_compact {json : Json} {result : Except Fault Json}
    (rereads : RereadsAs depthLimit json result) :
    readRuleValue json.compact =
      result >>= fun other =>
        match other.toValue? with
        | some value => .ok value
        | none => .error .mismatched := by
  have isRead := rereads [] endsNumber_nil
  rw [List.append_nil] at isRead
  rw [readRuleValue, readAll, isRead]
  cases result with
  | error fault => rfl
  | ok other =>
      simp only [Except.map, ok_bind]
      cases other.toValue? <;> rfl

theorem readRuleValue_spelling {number : Number} {text : String} {spelling : Spelling}
    (isNumber : number.json? = some text) (isText : text.toList = spelling.text)
    (valid : spelling.Valid) :
    readRuleValue text = (spelling.number.toJson?.bind toValue?).elim (.error .malformed) .ok := by
  have isRead := readRuleValue_compact (.decimal_of_spelling isNumber isText valid)
  rw [compact_decimal, writeNumber_of_eq_some isNumber] at isRead
  rw [isRead]
  cases isJson : spelling.number.toJson? with
  | none => rfl
  | some json =>
      rcases WrittenNumber.exists_number_of_toJson? isJson with ⟨other, isOther⟩
      simp [ok_bind, isOther]

end Rulebook.Json

namespace Rulebook

open Json (Fault RereadsAs rereadAt)

def Value.rereadJson : Value → Except Fault Value
  | .number written => Json.readRuleValue (Json.writeNumber written)
  | other => .ok other

/-- A value is read as a JSON value that stands for what the value becomes, or refused. -/
theorem Value.rereads_ofValue (value : Value) :
    (∃ json other, (∀ depth, RereadsAs depth (.ofValue value) (.ok json)) ∧
      json.toValue? = some other ∧ value.rereadJson = .ok other) ∨
    (∀ depth, RereadsAs depth (.ofValue value) (.error .malformed)) ∧
      value.rereadJson = .error .malformed := by
  cases value with
  | null => exact .inl ⟨.null, .null, fun _ => .null, rfl, rfl⟩
  | boolean value => exact .inl ⟨.boolean value, .boolean value, fun _ => .boolean value, rfl, rfl⟩
  | text value => exact .inl ⟨.string value, .text value, fun _ => .string value, rfl, rfl⟩
  | number written =>
      cases isNumber : written.json? with
      | none =>
          have rereads : ∀ depth, RereadsAs depth (.decimal written) (.ok .null) :=
            fun _ => .decimal_of_json?_eq_none isNumber
          refine .inl ⟨.null, .null, rereads, rfl, ?_⟩
          rw [rereadJson, Json.writeNumber_of_eq_none isNumber]
          rfl
      | some text =>
          rcases Number.exists_spelling_json? isNumber with ⟨spelling, valid, isText⟩
          have rereads : ∀ depth, RereadsAs depth (.decimal written)
              (spelling.number.toJson?.elim (.error .malformed) .ok) :=
            fun _ => .decimal_of_spelling isNumber isText valid
          have isRead := Json.readRuleValue_spelling isNumber isText valid
          rw [rereadJson, Json.writeNumber_of_eq_some isNumber, isRead]
          cases isJson : spelling.number.toJson? with
          | none =>
              rw [isJson] at rereads
              exact .inr ⟨rereads, rfl⟩
          | some json =>
              rw [isJson] at rereads
              rcases Json.WrittenNumber.exists_number_of_toJson? isJson with ⟨other, isOther⟩
              exact .inl ⟨json, .number other, rereads, isOther, by simp [isOther]⟩

end Rulebook

import Rulebook.Proofs.Token.Balance
import Rulebook.Token.Reader

/-!
Reading back what tokens are written as. A token's text is cut off the rule text again if what
follows does not go on with it.
-/

namespace Rulebook.Token

/-- The token's text can stand in a rule: words have at least one character and word characters
only, and a quoted text does not contain its own mark. -/
def WellFormed : Token → Prop
  | word text => text.toList ≠ [] ∧ text.toList.all isWordCharacter = true
  | quoted quote content => quote.mark ∉ content.toList
  | _ => True

instance : (token : Token) → Decidable token.WellFormed
  | word text =>
      inferInstanceAs (Decidable (text.toList ≠ [] ∧ text.toList.all isWordCharacter = true))
  | quoted quote content => inferInstanceAs (Decidable (quote.mark ∉ content.toList))
  | operator _ | opening | closing => .isTrue trivial

def EndsWord (rest : List Char) : Prop :=
  ∀ character ∈ rest.head?, isWordCharacter character = false

theorem endsWord_nil : EndsWord [] := by simp [EndsWord]

theorem endsWord_cons {character : Char} (other : isWordCharacter character = false)
    (rest : List Char) : EndsWord (character :: rest) := by
  simpa [EndsWord] using other

theorem head?_ne_of_word {text : List Char}
    (word : ∀ character ∈ text, isWordCharacter character = true) {sign : Char}
    (other : isWordCharacter sign = false) : text.head? ≠ some sign := by
  intro isHead
  have isWord := word sign (List.mem_of_mem_head? isHead)
  rw [other] at isWord
  contradiction

/-! ## Cutting off one token -/

theorem takeWhile_append_boundary {keep : Char → Bool} {front rest : List Char}
    (kept : ∀ character ∈ front, keep character = true)
    (boundary : ∀ character ∈ rest.head?, keep character = false) :
    (front ++ rest).takeWhile keep = front ∧ (front ++ rest).dropWhile keep = rest := by
  rw [List.takeWhile_append_of_pos kept, List.dropWhile_append_of_pos kept]
  cases rest with
  | nil => simp
  | cons character rest =>
      have stopped : keep character = false := boundary character rfl
      simp [stopped]

theorem startingAt?_of_isWordCharacter {character : Char}
    (wordCharacter : isWordCharacter character = true) (rest : List Char) :
    startingAt? character rest =
      some (.word (String.ofList (character :: rest.takeWhile isWordCharacter)),
        rest.dropWhile isWordCharacter) := by
  simp [startingAt?, wordCharacter]

theorem readCharacters_word_append {text : String} (wellFormed : (word text).WellFormed)
    {rest : List Char} (ends : EndsWord rest) :
    readCharacters (text.toList ++ rest) = .word text :: readCharacters rest := by
  rcases wellFormed with ⟨notEmpty, all⟩
  rcases List.exists_cons_of_ne_nil notEmpty with ⟨first, others, characters⟩
  rw [characters, List.all_cons, Bool.and_eq_true, List.all_eq_true] at all
  rcases takeWhile_append_boundary all.2 ends with ⟨taken, dropped⟩
  have found := startingAt?_of_isWordCharacter all.1 (others ++ rest)
  rw [taken, dropped, ← characters, String.ofList_toList] at found
  rw [characters]
  exact readCharacters_of_startingAt? found

theorem quotedAt?_append {quote : Quote} {content : String}
    (wellFormed : (quoted quote content).WellFormed) (rest : List Char) :
    quotedAt? quote (content.toList ++ quote.mark :: rest) =
      some (.quoted quote content, rest) := by
  have inside : ∀ character ∈ content.toList, (character != quote.mark) = true := by
    intro character member
    rw [bne_iff_ne]
    intro equal
    subst equal
    exact wellFormed member
  have boundary : ∀ character ∈ (quote.mark :: rest).head?, (character != quote.mark) = false := by
    simp
  rcases takeWhile_append_boundary inside boundary with ⟨taken, dropped⟩
  simp [quotedAt?, taken, dropped]

theorem readCharacters_quoted_append {quote : Quote} {content : String}
    (wellFormed : (quoted quote content).WellFormed) (rest : List Char) :
    readCharacters ((quote.enclose content).toList ++ rest) =
      .quoted quote content :: readCharacters rest := by
  have found := quotedAt?_append wellFormed rest
  have started : startingAt? quote.mark (content.toList ++ quote.mark :: rest) =
      some (.quoted quote content, rest) := by
    cases quote <;> simpa [startingAt?, Quote.mark, isWordCharacter] using found
  simpa [Quote.enclose] using readCharacters_of_startingAt? started

theorem operatorAt?_of_head?_ne {rest : List Char} (ends : rest.head? ≠ some '=') :
    operatorAt? ('=' :: rest) = some (.equal, rest) ∧
      operatorAt? ('<' :: rest) = some (.lowerThan, rest) ∧
        operatorAt? ('>' :: rest) = some (.greaterThan, rest) := by
  cases rest with
  | nil => exact ⟨rfl, rfl, rfl⟩
  | cons character rest =>
      have different : character ≠ '=' := by simpa using ends
      refine ⟨?_, ?_, ?_⟩ <;> rw [operatorAt?] <;> simp_all

theorem readCharacters_operator_append {sign : Operator} {rest : List Char}
    (ends : rest.head? ≠ some '=') :
    readCharacters (sign.symbol.toList ++ rest) = .operator sign :: readCharacters rest := by
  cases sign with
  | lowerThan =>
      have started : startingAt? '<' rest = some (.operator .lowerThan, rest) := by
        simp [startingAt?, isWordCharacter, operatorAt?_of_head?_ne ends]
      exact readCharacters_of_startingAt? started
  | greaterThan =>
      have started : startingAt? '>' rest = some (.operator .greaterThan, rest) := by
        simp [startingAt?, isWordCharacter, operatorAt?_of_head?_ne ends]
      exact readCharacters_of_startingAt? started
  | _ => exact readCharacters_of_startingAt? rfl

theorem readCharacters_opening (rest : List Char) :
    readCharacters ('(' :: rest) = .opening :: readCharacters rest :=
  readCharacters_of_startingAt? rfl

theorem readCharacters_closing (rest : List Char) :
    readCharacters (')' :: rest) = .closing :: readCharacters rest :=
  readCharacters_of_startingAt? rfl

theorem readCharacters_space (rest : List Char) :
    readCharacters (' ' :: rest) = readCharacters rest :=
  readCharacters_of_startingAt?_eq_none rfl

/-! ## The tokens of any text -/

theorem wellFormed_of_quotedAt? {quote : Quote} {text after : List Char} {token : Token}
    (found : quotedAt? quote text = some (token, after)) : token.WellFormed := by
  unfold quotedAt? at found
  split at found
  · contradiction
  · simp only [Option.some.injEq, Prod.mk.injEq] at found
    have noMark : quote.mark ∉ text.takeWhile (· != quote.mark) := by
      intro member
      have notMark := List.all_eq_true.mp List.all_takeWhile quote.mark member
      simp at notMark
    rw [← found.1]
    simpa [WellFormed] using noMark

theorem wellFormed_of_startingAt? {character : Char} {rest after : List Char} {token : Token}
    (found : startingAt? character rest = some (token, after)) : token.WellFormed := by
  unfold startingAt? at found
  split at found
  · next isWord =>
      simp only [Option.some.injEq, Prod.mk.injEq] at found
      rw [← found.1]
      simp [WellFormed, isWord]
  · split at found
    · exact wellFormed_of_quotedAt? found
    · exact wellFormed_of_quotedAt? found
    · simp only [Option.some.injEq, Prod.mk.injEq] at found
      exact found.1 ▸ trivial
    · simp only [Option.some.injEq, Prod.mk.injEq] at found
      exact found.1 ▸ trivial
    · rcases Option.map_eq_some_iff.mp found with ⟨⟨sign, remaining⟩, -, isToken⟩
      simp only [Prod.mk.injEq] at isToken
      exact isToken.1 ▸ trivial

theorem wellFormed_of_mem_readCharacters {text : List Char} {token : Token}
    (member : token ∈ readCharacters text) : token.WellFormed := by
  induction text using readCharacters.induct with
  | case1 => simp at member
  | case2 character rest first after found shorter induction =>
      rw [readCharacters_of_startingAt? found] at member
      rcases List.mem_cons.mp member with rfl | later
      · exact wellFormed_of_startingAt? found
      · exact induction later
  | case3 character rest missing induction =>
      rw [readCharacters_of_startingAt?_eq_none missing] at member
      exact induction member

theorem wellFormed_of_mem_completed_read {source : String} {token : Token}
    (member : token ∈ completed (read source)) : token.WellFormed := by
  rcases mem_or_eq_closing_of_mem_completed member with inText | rfl
  · exact wellFormed_of_mem_readCharacters inText
  · trivial

/-! ## Texts of several tokens -/

/-- The text is read as these tokens, whatever follows that is not a word character. -/
def Spells (text : List Char) (tokens : List Token) : Prop :=
  ∀ rest, EndsWord rest → readCharacters (text ++ rest) = tokens ++ readCharacters rest

namespace Spells

theorem readCharacters_eq {text : List Char} {tokens : List Token} (spells : Spells text tokens) :
    readCharacters text = tokens := by
  simpa using spells [] endsWord_nil

theorem operand {token : Token} {text : String} (wellFormed : token.WellFormed)
    (operand : token.operand? = some text) : Spells text.toList [token] := by
  intro rest ends
  cases token with
  | word word =>
      have sameText : word = text := by simpa [operand?] using operand
      subst sameText
      exact readCharacters_word_append wellFormed ends
  | quoted quote content =>
      have sameText : quote.enclose content = text := by simpa [operand?, Token.text] using operand
      subst sameText
      exact readCharacters_quoted_append wellFormed rest
  | _ => simp [operand?] at operand

theorem joined {left right : List Char} {leftTokens rightTokens : List Token} (sign : Operator)
    (leftSpells : Spells left leftTokens) (rightSpells : Spells right rightTokens) :
    Spells (left ++ ' ' :: (sign.symbol.toList ++ ' ' :: right))
      (leftTokens ++ .operator sign :: rightTokens) := by
  intro rest ends
  simp only [List.append_assoc, List.cons_append]
  rw [leftSpells _ (endsWord_cons (by decide) _), readCharacters_space,
    readCharacters_operator_append (by simp), readCharacters_space, rightSpells rest ends]

theorem group {text : List Char} {tokens : List Token} (spells : Spells text tokens) :
    Spells ('(' :: text ++ [')']) (.opening :: tokens ++ [.closing]) := by
  intro rest ends
  simp only [List.append_assoc, List.cons_append, List.nil_append]
  rw [readCharacters_opening, spells _ (endsWord_cons (by decide) _), readCharacters_closing]

end Spells

/-! ## Tokens joined by spaces -/

theorem readCharacters_token_append {token : Token} (wellFormed : token.WellFormed)
    {rest : List Char} (separated : ∀ character ∈ rest.head?, character = ' ') :
    readCharacters (token.text.toList ++ rest) = token :: readCharacters rest := by
  have ends : EndsWord rest := by
    intro character isHead
    rw [separated character isHead]
    rfl
  cases token with
  | word text => exact readCharacters_word_append wellFormed ends
  | quoted quote content => exact readCharacters_quoted_append wellFormed rest
  | operator sign =>
      apply readCharacters_operator_append
      intro isHead
      exact absurd (separated '=' isHead) (by decide)
  | opening => exact readCharacters_opening rest
  | closing => exact readCharacters_closing rest

theorem readCharacters_intercalate {tokens : List Token}
    (wellFormed : ∀ token ∈ tokens, token.WellFormed) :
    readCharacters ([' '].intercalate (tokens.map fun token => token.text.toList)) = tokens := by
  induction tokens with
  | nil => exact readCharacters_nil
  | cons token rest induction =>
      rw [List.forall_mem_cons] at wellFormed
      rcases wellFormed with ⟨tokenWellFormed, restWellFormed⟩
      have restRead := induction restWellFormed
      cases rest with
      | nil => simpa using @readCharacters_token_append token tokenWellFormed [] (by simp)
      | cons next later =>
          simp only [List.map_cons] at restRead ⊢
          rw [List.intercalate_cons_cons, List.append_assoc,
            readCharacters_token_append tokenWellFormed (by simp), List.singleton_append,
            readCharacters_space, restRead]

theorem read_intercalate {tokens : List Token} (wellFormed : ∀ token ∈ tokens, token.WellFormed) :
    read (" ".intercalate (tokens.map text)) = tokens := by
  rw [read, String.toList_intercalate, List.map_map]
  exact readCharacters_intercalate wellFormed

/-- Tokens are read back from their texts joined by spaces, whatever their order. The tokens of any
text can be written so: reading that text again gives the same tokens. -/
theorem read_intercalate_text :
    (∀ tokens : List Token, (∀ token ∈ tokens, token.WellFormed) →
      read (" ".intercalate (tokens.map text)) = tokens) ∧
      ∀ source, (∀ token ∈ read source, token.WellFormed) ∧
        read (" ".intercalate ((read source).map text)) = read source := by
  refine ⟨fun tokens => read_intercalate, fun source => ?_⟩
  have wellFormed : ∀ token ∈ read source, token.WellFormed :=
    fun token => wellFormed_of_mem_readCharacters
  exact ⟨wellFormed, read_intercalate wellFormed⟩

theorem read_intercalate_text_adjacent :
    let tokens : List Token :=
      [.quoted .single "a\"b", .quoted .double "it's", .operator .lowerThan, .operator .equal,
        .closing, .word "_7"]
    (∀ token ∈ tokens, token.WellFormed) ∧ read "'a\"b' \"it's\" < == ) _7" = tokens := by
  intro tokens
  have wellFormed : ∀ token ∈ tokens, token.WellFormed := by decide
  have joined : " ".intercalate (tokens.map text) = "'a\"b' \"it's\" < == ) _7" := rfl
  exact ⟨wellFormed, joined ▸ read_intercalate_text.1 tokens wellFormed⟩

end Rulebook.Token

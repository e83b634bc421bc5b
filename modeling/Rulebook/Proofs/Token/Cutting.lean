import Mathlib.Data.List.Forall2
import Mathlib.Data.List.TakeWhile
import Rulebook.Proofs.Token.Spelling
import Rulebook.RuleError

/-!
Cutting rule text into the texts of tokens and the gaps between them. The rules of a cutting speak
of a place in the text and of what stands before and after it, not of a reader. Every text has
exactly one cutting that follows them, and the tokens that its parts spell are the ones that are
read.
-/

namespace Rulebook

/-- A text cut as gap, token text, gap, ..., token text, gap. -/
inductive Cutting where
  | last (gap : List Char)
  | next (gap lexeme : List Char) (rest : Cutting)
  deriving DecidableEq, Repr

namespace Cutting

def text : Cutting → List Char
  | last gap => gap
  | next gap lexeme rest => gap ++ lexeme ++ rest.text

def lexemes : Cutting → List (List Char)
  | last _ => []
  | next _ lexeme rest => lexeme :: rest.lexemes

def Skippable (character : Char) (after : List Char) : Prop :=
  Token.isWordCharacter character = false ∧ character ∉ ['=', '<', '>', '(', ')'] ∧
    (character = '!' → after.head? ≠ some '=') ∧ (character = '&' → after.head? ≠ some '&') ∧
    (character = '|' → after.head? ≠ some '|') ∧
    (character ∈ ['"', '\''] → character ∉ after)

def IsGap (gap after : List Char) : Prop :=
  ∀ front character back, gap = front ++ character :: back → Skippable character (back ++ after)

/-- The text of a token, between these texts: a word that goes on in neither direction, anything
without the mark between two marks, an operator or a parenthesis. An operator of one sign is not
followed by the sign that would make it another operator. -/
inductive IsLexeme (before after : List Char) : List Char → Prop
  | word {text : List Char} : text ≠ [] → text.all Token.isWordCharacter = true →
      Token.EndsWord before.reverse → Token.EndsWord after → IsLexeme before after text
  | quoted {quote : Quote} {content : List Char} : quote.mark ∉ content →
      IsLexeme before after (quote.mark :: content ++ [quote.mark])
  | oneSign {sign : Char} : sign ∈ ['=', '<', '>'] → after.head? ≠ some '=' →
      IsLexeme before after [sign]
  | twoSigns {first second : Char} :
      (first, second) ∈ [('=', '='), ('!', '='), ('<', '='), ('>', '='), ('&', '&'), ('|', '|')] →
      IsLexeme before after [first, second]
  | parenthesis {mark : Char} : mark ∈ ['(', ')'] → IsLexeme before after [mark]

/-- Every gap and every token text follows the rules, with a text in front of the cutting. -/
def Follows (before : List Char) : Cutting → Prop
  | last gap => IsGap gap []
  | next gap lexeme rest =>
      IsGap gap (lexeme ++ rest.text) ∧ IsLexeme (before ++ gap) rest.text lexeme ∧
        rest.Follows (before ++ gap ++ lexeme)

end Cutting

namespace Token

/-- The token that a text is by itself. A text that begins with a mark is taken for a quoted one,
and what is neither that nor a parenthesis nor a word has to be an operator. -/
def ofLexeme (lexeme : List Char) : Except RuleError Token :=
  match lexeme with
  | ['('] => .ok .opening
  | [')'] => .ok .closing
  | '"' :: rest => .ok (.quoted .double (String.ofList rest.dropLast))
  | '\'' :: rest => .ok (.quoted .single (String.ofList rest.dropLast))
  | _ =>
    if lexeme.all isWordCharacter then .ok (.word (String.ofList lexeme))
    else do .ok (.operator (← Operator.read (String.ofList lexeme)))

def IsWrittenAs (token : Token) (lexeme : List Char) : Prop :=
  token.text.toList = lexeme ∨ token = .operator .equal ∧ lexeme = ['=']

example :
    (ofLexeme ['>', '=']).toOption = some (.operator .greaterThanEqual) ∧
      (ofLexeme ['=', '!']).toOption = none := by decide

/-! ## What begins at a place -/

open Cutting (Skippable IsGap IsLexeme)

theorem quotedAt?_of_notMem {quote : Quote} {content : List Char} (absent : quote.mark ∉ content)
    (after : List Char) :
    quotedAt? quote (content ++ quote.mark :: after) =
      some (.quoted quote (String.ofList content), after) := by
  have wellFormed : (quoted quote (String.ofList content)).WellFormed := by
    simpa [WellFormed] using absent
  simpa using quotedAt?_append wellFormed after

theorem quotedAt?_eq_none_iff {quote : Quote} {text : List Char} :
    quotedAt? quote text = none ↔ quote.mark ∉ text := by
  by_cases member : quote.mark ∈ text
  · rcases List.eq_append_cons_of_mem member with ⟨content, after, rfl, absent⟩
    simp [quotedAt?_of_notMem absent]
  · have noMark : text.dropWhile (· != quote.mark) = [] := by
      rw [List.dropWhile_eq_nil_iff]
      intro character inside
      rw [bne_iff_ne]
      exact fun equal => member (equal ▸ inside)
    simp [quotedAt?, noMark, member]

theorem exists_of_quotedAt? {quote : Quote} {text after : List Char} {token : Token}
    (found : quotedAt? quote text = some (token, after)) :
    ∃ content, quote.mark ∉ content ∧ text = content ++ quote.mark :: after := by
  have member : quote.mark ∈ text := by
    by_contra absent
    rw [quotedAt?_eq_none_iff.mpr absent] at found
    contradiction
  rcases List.eq_append_cons_of_mem member with ⟨content, rest, rfl, absent⟩
  rw [quotedAt?_of_notMem absent] at found
  have sameRest : rest = after := by simpa using congrArg (Option.map Prod.snd) found
  exact ⟨content, absent, by rw [sameRest]⟩

theorem operatorAt?_eq_none_iff {character : Char} {after : List Char} :
    operatorAt? (character :: after) = none ↔
      character ∉ ['=', '<', '>'] ∧ (character = '!' → after.head? ≠ some '=') ∧
        (character = '&' → after.head? ≠ some '&') ∧
        (character = '|' → after.head? ≠ some '|') := by
  unfold operatorAt?
  split <;> simp_all [List.head?_eq_some_iff]

theorem startingAt?_eq_none_iff {character : Char} {after : List Char} :
    startingAt? character after = none ↔ Skippable character after := by
  unfold startingAt? Skippable
  split
  · next wordCharacter => simp [wordCharacter]
  · next other =>
      split
      · simp [isWordCharacter, quotedAt?_eq_none_iff, Quote.mark]
      · simp [isWordCharacter, quotedAt?_eq_none_iff, Quote.mark]
      · simp
      · simp
      · next notDouble notSingle notOpening notClosing =>
          rw [Option.map_eq_none_iff, operatorAt?_eq_none_iff]
          simp_all

theorem exists_isLexeme_of_operatorAt? {before text after : List Char} {sign : Operator}
    (found : operatorAt? text = some (sign, after)) :
    ∃ lexeme, text = lexeme ++ after ∧ IsLexeme before after lexeme := by
  unfold operatorAt? at found
  split at found
  case h_10 => contradiction
  all_goals
    simp only [Option.some.injEq, Prod.mk.injEq] at found
    rcases found with ⟨rfl, rfl⟩
  case h_7 | h_8 | h_9 =>
    refine ⟨[_], rfl, .oneSign (by decide) ?_⟩
    simp_all [List.head?_eq_some_iff]
  all_goals exact ⟨[_, _], rfl, .twoSigns (by decide)⟩

theorem exists_isLexeme_of_startingAt? {character : Char} {before rest after : List Char}
    {token : Token} (found : startingAt? character rest = some (token, after))
    (boundary : isWordCharacter character = true → EndsWord before.reverse) :
    ∃ lexeme, character :: rest = lexeme ++ after ∧ IsLexeme before after lexeme := by
  unfold startingAt? at found
  split at found
  · next wordCharacter =>
      simp only [Option.some.injEq, Prod.mk.injEq] at found
      rcases found with ⟨-, rfl⟩
      refine ⟨character :: rest.takeWhile isWordCharacter, ?_,
        .word (by simp) ?_ (boundary wordCharacter) ?_⟩
      · rw [List.cons_append, List.takeWhile_append_dropWhile]
      · rw [List.all_cons, wordCharacter, List.all_takeWhile, Bool.and_self]
      · intro next isHead
        have stopped := List.head?_dropWhile_not isWordCharacter rest
        rwa [isHead] at stopped
  · split at found
    · rcases exists_of_quotedAt? found with ⟨content, absent, rfl⟩
      exact ⟨'"' :: content ++ ['"'], by simp [Quote.mark], .quoted absent⟩
    · rcases exists_of_quotedAt? found with ⟨content, absent, rfl⟩
      exact ⟨'\'' :: content ++ ['\''], by simp [Quote.mark], .quoted absent⟩
    · simp only [Option.some.injEq, Prod.mk.injEq] at found
      exact ⟨['('], by simp [found.2], .parenthesis (by decide)⟩
    · simp only [Option.some.injEq, Prod.mk.injEq] at found
      exact ⟨[')'], by simp [found.2], .parenthesis (by decide)⟩
    · rcases Option.map_eq_some_iff.mp found with ⟨⟨sign, remaining⟩, operator, pair⟩
      rw [Prod.mk.injEq] at pair
      exact exists_isLexeme_of_operatorAt? (pair.2 ▸ operator)

theorem exists_startingAt?_of_isLexeme {before after lexeme : List Char}
    (isLexeme : IsLexeme before after lexeme) :
    ∃ token, ofLexeme lexeme = .ok token ∧ token.IsWrittenAs lexeme ∧
      ∃ first others, lexeme = first :: others ∧
        startingAt? first (others ++ after) = some (token, after) := by
  cases isLexeme with
  | word notEmpty all startsHere ends =>
      rcases List.exists_cons_of_ne_nil notEmpty with ⟨first, others, rfl⟩
      rw [List.all_cons, Bool.and_eq_true, List.all_eq_true] at all
      rcases all with ⟨firstWord, othersWord⟩
      rcases takeWhile_append_boundary othersWord ends with ⟨taken, dropped⟩
      have found := startingAt?_of_isWordCharacter firstWord (others ++ after)
      rw [taken, dropped] at found
      refine ⟨.word (String.ofList (first :: others)), ?_, .inl (by simp [Token.text]), first,
        others, rfl, found⟩
      unfold ofLexeme
      split <;> simp_all [isWordCharacter]
  | @quoted quote content absent =>
      have found := quotedAt?_of_notMem absent after
      refine ⟨.quoted quote (String.ofList content), ?_, .inl ?_, quote.mark,
        content ++ [quote.mark], rfl, ?_⟩
      · cases quote <;> simp [ofLexeme, Quote.mark]
      · simp [Token.text, Quote.enclose]
      · cases quote <;> simpa [startingAt?, isWordCharacter, Quote.mark] using found
  | @oneSign sign member ends =>
      have signs : sign = '=' ∨ sign = '<' ∨ sign = '>' := by simpa using member
      have operator := operatorAt?_of_head?_ne ends
      rcases signs with rfl | rfl | rfl
      · exact ⟨.operator .equal, rfl, .inr ⟨rfl, rfl⟩, '=', [], rfl,
          by simp [startingAt?, isWordCharacter, operator]⟩
      · exact ⟨.operator .lowerThan, rfl, .inl rfl, '<', [], rfl,
          by simp [startingAt?, isWordCharacter, operator]⟩
      · exact ⟨.operator .greaterThan, rfl, .inl rfl, '>', [], rfl,
          by simp [startingAt?, isWordCharacter, operator]⟩
  | @twoSigns first second member =>
      simp only [List.mem_cons, Prod.mk.injEq, List.not_mem_nil, or_false] at member
      rcases member with ⟨rfl, rfl⟩ | ⟨rfl, rfl⟩ | ⟨rfl, rfl⟩ | ⟨rfl, rfl⟩ | ⟨rfl, rfl⟩ | ⟨rfl, rfl⟩
      all_goals exact ⟨.operator _, rfl, .inl rfl, _, [_], rfl, rfl⟩
  | @parenthesis mark member =>
      have marks : mark = '(' ∨ mark = ')' := by simpa using member
      rcases marks with rfl | rfl
      · exact ⟨.opening, rfl, .inl rfl, '(', [], rfl, rfl⟩
      · exact ⟨.closing, rfl, .inl rfl, ')', [], rfl, rfl⟩

theorem exists_spelled_of_startingAt? {character : Char} {before rest after : List Char}
    {token : Token} (found : startingAt? character rest = some (token, after))
    (boundary : isWordCharacter character = true → EndsWord before.reverse) :
    ∃ others, rest = others ++ after ∧ IsLexeme before after (character :: others) ∧
      ofLexeme (character :: others) = .ok token ∧ token.IsWrittenAs (character :: others) := by
  rcases exists_isLexeme_of_startingAt? found boundary with ⟨lexeme, parts, isLexeme⟩
  rcases exists_startingAt?_of_isLexeme isLexeme with
    ⟨other, spelled, isWritten, first, others, rfl, otherFound⟩
  rw [List.cons_append, List.cons.injEq] at parts
  rcases parts with ⟨rfl, rfl⟩
  have same : other = token := by
    simpa [found] using congrArg (Option.map Prod.fst) otherFound.symm
  exact ⟨others, rfl, isLexeme, same ▸ spelled, same ▸ isWritten⟩

end Token

namespace Cutting

open Token (startingAt? readCharacters EndsWord isWordCharacter)

/-! ## One step of a cutting -/

def skip (character : Char) : Cutting → Cutting
  | last gap => last (character :: gap)
  | next gap lexeme rest => next (character :: gap) lexeme rest

@[simp] theorem text_skip (character : Char) (cutting : Cutting) :
    (cutting.skip character).text = character :: cutting.text := by
  cases cutting <;> rfl

@[simp] theorem lexemes_skip (character : Char) (cutting : Cutting) :
    (cutting.skip character).lexemes = cutting.lexemes := by
  cases cutting <;> rfl

theorem isGap_nil (after : List Char) : IsGap [] after := by
  intro front character back parts
  simp at parts

theorem isGap_cons_iff {character : Char} {gap after : List Char} :
    IsGap (character :: gap) after ↔ Skippable character (gap ++ after) ∧ IsGap gap after := by
  constructor
  · intro isGap
    refine ⟨isGap [] character gap rfl, ?_⟩
    intro front other back parts
    exact isGap (character :: front) other back (by rw [parts, List.cons_append])
  · rintro ⟨skippable, isGap⟩ front other back parts
    cases front with
    | nil =>
        rw [List.nil_append, List.cons.injEq] at parts
        rw [← parts.1, ← parts.2]
        exact skippable
    | cons head front =>
        rw [List.cons_append, List.cons.injEq] at parts
        exact isGap front other back parts.2

theorem follows_skip_iff {character : Char} {before : List Char} {cutting : Cutting} :
    (cutting.skip character).Follows before ↔
      Skippable character cutting.text ∧ cutting.Follows (before ++ [character]) := by
  cases cutting with
  | last gap => simp [skip, Follows, text, isGap_cons_iff]
  | next gap lexeme rest => simp [skip, Follows, text, isGap_cons_iff, and_assoc]

theorem eq_skip_or_eq_next {character : Char} {after : List Char} {cutting : Cutting}
    (isCut : cutting.text = character :: after) :
    (∃ rest : Cutting, cutting = rest.skip character ∧ rest.text = after) ∨
      ∃ (lexeme : List Char) (rest : Cutting),
        cutting = next [] lexeme rest ∧ lexeme ++ rest.text = character :: after := by
  match cutting with
  | last [] => simp [text] at isCut
  | last (head :: gap) =>
      simp only [text, List.cons.injEq] at isCut
      exact .inl ⟨last gap, by simp [skip, isCut.1], isCut.2⟩
  | next [] lexeme rest => exact .inr ⟨lexeme, rest, rfl, by simpa [text] using isCut⟩
  | next (head :: gap) lexeme rest =>
      simp only [text, List.cons_append, List.cons.injEq] at isCut
      exact .inl ⟨next gap lexeme rest, by simp [skip, isCut.1], isCut.2⟩

theorem follows_next_nil_iff {before lexeme : List Char} {rest : Cutting} :
    (next [] lexeme rest).Follows before ↔
      IsLexeme before rest.text lexeme ∧ rest.Follows (before ++ lexeme) := by
  simp [Follows, isGap_nil]

theorem exists_startingAt?_of_follows {character : Char} {before after lexeme : List Char}
    {rest : Cutting} (follows : (next [] lexeme rest).Follows before)
    (isCut : lexeme ++ rest.text = character :: after) :
    ∃ token, startingAt? character after = some (token, rest.text) := by
  have isLexeme := (follows_next_nil_iff.mp follows).1
  rcases Token.exists_startingAt?_of_isLexeme isLexeme with
    ⟨token, -, -, first, others, rfl, found⟩
  rw [List.cons_append, List.cons.injEq] at isCut
  rw [isCut.1, isCut.2] at found
  exact ⟨token, found⟩

/-! ## The cutting of a text -/

def Boundary (before text : List Char) : Prop :=
  EndsWord text ∨ EndsWord before.reverse

theorem Boundary.endsWord {before after : List Char} {character : Char}
    (boundary : Boundary before (character :: after))
    (wordCharacter : isWordCharacter character = true) : EndsWord before.reverse := by
  apply boundary.resolve_left
  intro ends
  have other := ends character rfl
  rw [wordCharacter] at other
  contradiction

theorem boundary_of_isLexeme {front before after lexeme : List Char}
    (isLexeme : IsLexeme before after lexeme) : Boundary (front ++ lexeme) after := by
  have endsLast {character : Char} {others : List Char}
      (other : isWordCharacter character = false) :
      Boundary (front ++ (others ++ [character])) after :=
    .inr (by simpa using Token.endsWord_cons other _)
  cases isLexeme with
  | word notEmpty all startsHere ends => exact .inl ends
  | @quoted quote content absent => exact endsLast (by cases quote <;> rfl)
  | @oneSign sign member ends =>
      have signs : sign = '=' ∨ sign = '<' ∨ sign = '>' := by simpa using member
      exact @endsLast sign [] (by rcases signs with rfl | rfl | rfl <;> rfl)
  | @twoSigns first second member =>
      have signs : second = '=' ∨ second = '&' ∨ second = '|' := by
        simp only [List.mem_cons, Prod.mk.injEq, List.not_mem_nil, or_false] at member
        tauto
      exact @endsLast second [first] (by rcases signs with rfl | rfl | rfl <;> rfl)
  | @parenthesis mark member =>
      have marks : mark = '(' ∨ mark = ')' := by simpa using member
      exact @endsLast mark [] (by rcases marks with rfl | rfl <;> rfl)

/-- The places where tokens are read give a cutting that follows the rules. -/
theorem exists_follows (before text : List Char) (boundary : Boundary before text) :
    ∃ cutting : Cutting, cutting.text = text ∧ cutting.Follows before ∧
      cutting.lexemes.mapM Token.ofLexeme = .ok (readCharacters text) ∧
      List.Forall₂ Token.IsWrittenAs (readCharacters text) cutting.lexemes := by
  match text with
  | [] => exact ⟨last [], rfl, isGap_nil [], by simp [lexemes]; rfl, by simp [lexemes]⟩
  | character :: rest =>
      cases found : startingAt? character rest with
      | none =>
          have skippable := Token.startingAt?_eq_none_iff.mp found
          have later : Boundary (before ++ [character]) rest :=
            .inr (by simpa using Token.endsWord_cons skippable.1 _)
          rcases exists_follows _ rest later with ⟨cutting, rfl, follows, spells, written⟩
          rw [Token.readCharacters_of_startingAt?_eq_none found]
          refine ⟨cutting.skip character, cutting.text_skip character,
            follows_skip_iff.mpr ⟨skippable, follows⟩, ?_, ?_⟩
          · rw [lexemes_skip, spells]
          · rwa [lexemes_skip]
      | some pair =>
          rcases pair with ⟨token, after⟩
          have shorter := Token.length_le_of_startingAt? found
          rcases Token.exists_spelled_of_startingAt? found boundary.endsWord with
            ⟨others, rfl, isLexeme, spelled, isWritten⟩
          rcases exists_follows _ after (boundary_of_isLexeme isLexeme) with
            ⟨cutting, rfl, follows, spells, written⟩
          rw [Token.readCharacters_of_startingAt? found]
          refine ⟨next [] (character :: others) cutting, rfl,
            follows_next_nil_iff.mpr ⟨isLexeme, follows⟩, ?_, .cons isWritten written⟩
          rw [lexemes, List.mapM_cons, spelled, spells]
          rfl
  termination_by text.length

theorem eq_last_of_text_eq_nil {before : List Char} {cutting : Cutting} (isCut : cutting.text = [])
    (follows : cutting.Follows before) : cutting = last [] := by
  cases cutting with
  | last gap =>
      have noGap : gap = [] := isCut
      rw [noGap]
  | next gap lexeme rest =>
      rcases Token.exists_startingAt?_of_isLexeme follows.2.1 with ⟨-, -, -, first, others, rfl, -⟩
      simp [text] at isCut

theorem eq_of_follows {text before : List Char} {left right : Cutting} (leftCut : left.text = text)
    (rightCut : right.text = text) (leftFollows : left.Follows before)
    (rightFollows : right.Follows before) : left = right := by
  match text with
  | [] =>
      rw [eq_last_of_text_eq_nil leftCut leftFollows, eq_last_of_text_eq_nil rightCut rightFollows]
  | character :: after =>
      rcases eq_skip_or_eq_next leftCut with
        ⟨leftRest, rfl, leftPart⟩ | ⟨lexeme, leftRest, rfl, leftPart⟩
      all_goals
        rcases eq_skip_or_eq_next rightCut with
          ⟨rightRest, rfl, rightPart⟩ | ⟨other, rightRest, rfl, rightPart⟩
      · rw [follows_skip_iff] at leftFollows rightFollows
        rw [eq_of_follows leftPart rightPart leftFollows.2 rightFollows.2]
      · -- On the left the character is in a gap, on the right a token begins with it.
        rw [follows_skip_iff, leftPart, ← Token.startingAt?_eq_none_iff] at leftFollows
        rcases exists_startingAt?_of_follows rightFollows rightPart with ⟨token, found⟩
        rw [leftFollows.1] at found
        contradiction
      · rw [follows_skip_iff, rightPart, ← Token.startingAt?_eq_none_iff] at rightFollows
        rcases exists_startingAt?_of_follows leftFollows leftPart with ⟨token, found⟩
        rw [rightFollows.1] at found
        contradiction
      · rcases exists_startingAt?_of_follows leftFollows leftPart with ⟨token, leftFound⟩
        rcases exists_startingAt?_of_follows rightFollows rightPart with ⟨otherToken, rightFound⟩
        have shorter := Token.length_le_of_startingAt? leftFound
        have sameRest : rightRest.text = leftRest.text := by
          simpa [rightFound] using congrArg (Option.map Prod.snd) leftFound
        have sameLexeme : lexeme = other := by
          rw [← rightPart, sameRest] at leftPart
          exact List.append_cancel_right leftPart
        subst sameLexeme
        rw [follows_next_nil_iff] at leftFollows rightFollows
        rw [eq_of_follows rfl sameRest leftFollows.2 rightFollows.2]
  termination_by text.length

/-- Every text is cut in exactly one way that follows the rules. Each part is taken for a token, and
these tokens are the ones that are read. -/
theorem read_cuts (source : String) :
    ∃ cutting : Cutting, cutting.text = source.toList ∧ cutting.Follows [] ∧
      cutting.lexemes.mapM Token.ofLexeme = .ok (Token.read source) ∧
      List.Forall₂ Token.IsWrittenAs (Token.read source) cutting.lexemes ∧
      ∀ other : Cutting, other.text = source.toList → other.Follows [] → other = cutting := by
  have startsHere : Boundary [] source.toList := .inr (by simp [EndsWord])
  rcases exists_follows [] source.toList startsHere with ⟨cutting, isCut, follows, spells, written⟩
  refine ⟨cutting, isCut, follows, spells, written, ?_⟩
  intro other otherCut otherFollows
  exact eq_of_follows otherCut isCut otherFollows follows

end Cutting

end Rulebook

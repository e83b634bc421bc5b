import Rulebook.Token.Basic

/-!
Cutting rule text into tokens. Reading never fails: what begins no token is skipped one character at
a time.
-/

namespace Rulebook.Token

/-- The operator at the beginning of a text, and the text after it. An operator of two signs comes
before one of a single sign. -/
def operatorAt? : List Char → Option (Operator × List Char)
  | '=' :: '=' :: rest => some (.equal, rest)
  | '!' :: '=' :: rest => some (.notEqual, rest)
  | '<' :: '=' :: rest => some (.lowerThanEqual, rest)
  | '>' :: '=' :: rest => some (.greaterThanEqual, rest)
  | '&' :: '&' :: rest => some (.logicalAnd, rest)
  | '|' :: '|' :: rest => some (.logicalOr, rest)
  | '=' :: rest => some (.equal, rest)
  | '<' :: rest => some (.lowerThan, rest)
  | '>' :: rest => some (.greaterThan, rest)
  | _ => none

def quotedAt? (quote : Quote) (text : List Char) : Option (Token × List Char) :=
  match text.dropWhile (· != quote.mark) with
  | [] => none
  | _ :: rest =>
    some (.quoted quote (String.ofList (text.takeWhile (· != quote.mark))), rest)

def startingAt? (character : Char) (rest : List Char) : Option (Token × List Char) :=
  if isWordCharacter character then
    some (.word (String.ofList (character :: rest.takeWhile isWordCharacter)),
      rest.dropWhile isWordCharacter)
  else
    match character with
    | '"' => quotedAt? .double rest
    | '\'' => quotedAt? .single rest
    | '(' => some (.opening, rest)
    | ')' => some (.closing, rest)
    | _ => (operatorAt? (character :: rest)).map fun (sign, after) => (.operator sign, after)

private theorem length_dropWhile_le (keep : Char → Bool) (text : List Char) :
    (text.dropWhile keep).length ≤ text.length :=
  (List.dropWhile_sublist keep).length_le

theorem length_lt_of_operatorAt? {text after : List Char} {sign : Operator}
    (found : operatorAt? text = some (sign, after)) : after.length < text.length := by
  unfold operatorAt? at found
  split at found
  all_goals cases found
  all_goals simp only [List.length_cons]; omega

theorem length_lt_of_quotedAt? {quote : Quote} {text after : List Char} {token : Token}
    (found : quotedAt? quote text = some (token, after)) : after.length < text.length := by
  unfold quotedAt? at found
  split at found
  · contradiction
  · next mark rest cut =>
    simp only [Option.some.injEq, Prod.mk.injEq] at found
    have bound := length_dropWhile_le (· != quote.mark) text
    rw [cut, List.length_cons] at bound
    rw [← found.2]
    omega

theorem length_le_of_startingAt? {character : Char} {rest after : List Char} {token : Token}
    (found : startingAt? character rest = some (token, after)) : after.length ≤ rest.length := by
  unfold startingAt? at found
  split at found
  · simp only [Option.some.injEq, Prod.mk.injEq] at found
    rw [← found.2]
    exact length_dropWhile_le _ _
  · split at found
    · exact Nat.le_of_lt (length_lt_of_quotedAt? found)
    · exact Nat.le_of_lt (length_lt_of_quotedAt? found)
    · simp_all
    · simp_all
    · obtain ⟨⟨sign, remaining⟩, some, pair⟩ := Option.map_eq_some_iff.mp found
      simp only [Prod.mk.injEq] at pair
      have shorter := length_lt_of_operatorAt? some
      rw [pair.2, List.length_cons] at shorter
      omega

def readCharacters : List Char → List Token
  | [] => []
  | character :: rest =>
    match found : startingAt? character rest with
    | some (token, after) =>
      have := length_le_of_startingAt? found
      token :: readCharacters after
    | none => readCharacters rest
  termination_by text => text.length

@[simp] theorem readCharacters_nil : readCharacters [] = [] := by
  rw [readCharacters]

theorem readCharacters_of_startingAt? {character : Char} {rest after : List Char} {token : Token}
    (found : startingAt? character rest = some (token, after)) :
    readCharacters (character :: rest) = token :: readCharacters after := by
  rw [readCharacters]
  split
  · next other remaining same =>
    rw [found] at same
    cases same
    rfl
  · next missing =>
    rw [found] at missing
    contradiction

theorem readCharacters_of_startingAt?_eq_none {character : Char} {rest : List Char}
    (missing : startingAt? character rest = none) :
    readCharacters (character :: rest) = readCharacters rest := by
  rw [readCharacters]
  split
  · next other remaining found =>
    rw [missing] at found
    contradiction
  · rfl

def read (source : String) : List Token := readCharacters source.toList

end Rulebook.Token

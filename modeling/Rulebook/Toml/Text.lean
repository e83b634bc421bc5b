import Rulebook.Text.Characters

/-!
TOML's texts: on one line or on several, with escapes or without.
-/

namespace Rulebook.Toml

abbrev Parsed (α : Type) := α × List Char

def isPlain (character : Char) : Bool :=
  character == '\t' || (0x20 ≤ character.toNat && character.toNat != 0x7F)

def readBreak? : List Char → Option (List Char)
  | '\n' :: rest => some rest
  | '\r' :: '\n' :: rest => some rest
  | _ => none

def skipBreak (text : List Char) : List Char := (readBreak? text).getD text

def isSpace (character : Char) : Bool := character == ' ' || character == '\t'

def skipSpaces (text : List Char) : List Char := text.dropWhile isSpace

def skipSpacesAndBreaks : List Char → List Char
  | '\r' :: '\n' :: rest => skipSpacesAndBreaks rest
  | character :: rest =>
    if isSpace character || character == '\n' then skipSpacesAndBreaks rest else character :: rest
  | [] => []

example : skipSpacesAndBreaks [' ', '\r', '\n', '\r', 'a'] = ['\r', 'a'] := by decide

def readCode? (width : Nat) (text : List Char) : Option (Parsed Char) := do
  let digits := text.take width
  let point ← Text.digitsValue? 16 digits
  if digits.length = width ∧ point.isValidChar then some (Char.ofNat point, text.drop width)
  else none

def readEscape? : List Char → Option (Parsed Char)
  | 'b' :: rest => some ('\x08', rest)
  | 't' :: rest => some ('\t', rest)
  | 'n' :: rest => some ('\n', rest)
  | 'f' :: rest => some ('\x0c', rest)
  | 'r' :: rest => some ('\r', rest)
  | 'e' :: rest => some ('\x1b', rest)
  | '"' :: rest => some ('"', rest)
  | '\\' :: rest => some ('\\', rest)
  | 'x' :: rest => readCode? 2 rest
  | 'u' :: rest => readCode? 4 rest
  | 'U' :: rest => readCode? 8 rest
  | _ => none

def readBasic? : Nat → List Char → Option (Parsed (List Char))
  | 0, _ => none
  | bound + 1, text =>
    match text with
    | [] => none
    | '"' :: rest => some ([], rest)
    | '\\' :: rest => do
      let (character, rest) ← readEscape? rest
      let (characters, rest) ← readBasic? bound rest
      some (character :: characters, rest)
    | character :: rest =>
      if isPlain character then do
        let (characters, rest) ← readBasic? bound rest
        some (character :: characters, rest)
      else none

def readLiteral? (text : List Char) : Option (Parsed (List Char)) :=
  let characters := text.takeWhile (· != '\'')
  match text.dropWhile (· != '\'') with
  | _ :: rest => if characters.all isPlain then some (characters, rest) else none
  | [] => none

def skipLineEnd? (text : List Char) : Option (List Char) :=
  (readBreak? (skipSpaces text)).map skipSpacesAndBreaks

/-- Reads the rest of a text on several lines; three marks end it, and up to two more before them
belong to the text. Line breaks stay as they are written. The number bounds the characters. -/
def readMultiline? (mark : Char) (escapes : Bool) : Nat → List Char → Option (Parsed (List Char))
  | 0, _ => none
  | bound + 1, text =>
    let go (character : Char) (rest : List Char) : Option (Parsed (List Char)) := do
      let (characters, rest) ← readMultiline? mark escapes bound rest
      some (character :: characters, rest)
    match text with
    | [] => none
    | character :: rest =>
      if character = mark then
        let marks := (text.takeWhile (· == mark)).length
        if marks < 3 then go character rest
        else
          let extra := min (marks - 3) 2
          some (List.replicate extra mark, text.drop (extra + 3))
      else if character = '\\' ∧ escapes then
        match skipLineEnd? rest with
        | some rest => readMultiline? mark escapes bound rest
        | none => do
          let (escaped, rest) ← readEscape? rest
          go escaped rest
      else if isPlain character ∨ (readBreak? text).isSome then go character rest
      else none

def readText? (text : List Char) : Option (Parsed String) := do
  let bound := text.length + 1
  let (characters, rest) ← match text with
    | '"' :: '"' :: '"' :: rest => readMultiline? '"' true bound (skipBreak rest)
    | '\'' :: '\'' :: '\'' :: rest => readMultiline? '\'' false bound (skipBreak rest)
    | '"' :: rest => readBasic? bound rest
    | '\'' :: rest => readLiteral? rest
    | _ => none
  some (String.ofList characters, rest)

end Rulebook.Toml

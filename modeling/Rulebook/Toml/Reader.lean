import Rulebook.Text.Parts
import Rulebook.Toml.Scalar
import Rulebook.Toml.Table

/-!
Reading TOML documents. A document is read as a whole or not at all.
-/

namespace Rulebook.Toml

/-- How deeply lists and tables may be nested in a value, and how many parts a key may have. -/
def depthLimit : Nat := 80

def readSimpleKey? (text : List Char) : Option (Parsed String) :=
  match text with
  | '"' :: rest => do
    let (characters, rest) ← readBasic? (rest.length + 1) rest
    some (String.ofList characters, rest)
  | '\'' :: rest => do
    let (characters, rest) ← readLiteral? rest
    some (String.ofList characters, rest)
  | text =>
    match text.takeWhile Setting.isNameCharacter with
    | [] => none
    | key => some (String.ofList key, text.dropWhile Setting.isNameCharacter)

def readKey? : Nat → List Char → Option (Parsed (List String))
  | 0, _ => none
  | bound + 1, text => do
    let (key, rest) ← readSimpleKey? (skipSpaces text)
    match skipSpaces rest with
    | '.' :: rest => do
      let (keys, rest) ← readKey? bound rest
      some (key :: keys, rest)
    | rest => some ([key], rest)

def skipComment? : List Char → Option (List Char)
  | '#' :: rest =>
    let isBreak (character : Char) : Bool := character == '\n' || character == '\r'
    if (rest.takeWhile (!isBreak ·)).all isPlain then some (rest.dropWhile (!isBreak ·)) else none
  | text => some text

def skipLines? : Nat → List Char → Option (List Char)
  | 0, _ => none
  | bound + 1, text => do
    let rest ← skipComment? (skipSpaces text)
    match readBreak? rest with
    | some rest => skipLines? bound rest
    | none => some rest

/-- Reads the values of a list after its opening bracket, up to and with the closing one. Lines,
comments and a comma at the end do not matter. The number bounds the values. -/
def readItems? (readItem : List Char → Option (Parsed Setting)) :
    Nat → List Char → Option (Parsed (List Setting))
  | 0, _ => none
  | bound + 1, text => do
    let text ← skipLines? (text.length + 1) text
    match text with
    | ']' :: rest => some ([], rest)
    | text => do
      let (item, rest) ← readItem text
      let rest ← skipLines? (rest.length + 1) rest
      match rest with
      | ',' :: rest => do
        let (items, rest) ← readItems? readItem bound rest
        some (item :: items, rest)
      | ']' :: rest => some ([item], rest)
      | _ => none

def readEntries? (readItem : List Char → Option (Parsed Setting)) :
    Nat → Entries → List Char → Option (Parsed Entries)
  | 0, _, _ => none
  | bound + 1, entries, text => do
    let text ← skipLines? (text.length + 1) text
    match text with
    | '\x7d' :: rest => some (entries, rest)
    | text => do
      let (key, rest) ← readKey? depthLimit text
      let (item, rest) ← readItem (skipSpaces (← readMark? '=' rest))
      let entries ← Entries.insert? item key entries
      let rest ← skipLines? (rest.length + 1) rest
      match rest with
      | ',' :: rest => readEntries? readItem bound entries rest
      | '\x7d' :: rest => some (entries, rest)
      | _ => none

def readValue? (depth : Nat) (text : List Char) : Option (Parsed Setting) :=
  match text with
  | '[' :: rest =>
    match depth with
    | 0 => none
    | depth + 1 => do
      let (items, rest) ← readItems? (readValue? depth) (rest.length + 1) rest
      some (.list items, rest)
  | '\x7b' :: rest =>
    match depth with
    | 0 => none
    | depth + 1 => do
      let (entries, rest) ← readEntries? (readValue? depth) (rest.length + 1) [] rest
      some (.table (settings entries), rest)
  | '"' :: _ | '\'' :: _ => (readText? text).map fun (value, rest) => (.text value, rest)
  | text => readScalar? text

structure Document where
  entries : Entries
  header : List String

namespace Document

def empty : Document := ⟨[], []⟩

def readHeader? (closing : List Char) (text : List Char) : Option (Parsed (List String)) := do
  let (key, rest) ← readKey? depthLimit text
  if closing.isPrefixOf rest then some (key, rest.drop closing.length) else none

def readStatement? (document : Document) (text : List Char) : Option (Parsed Document) :=
  match text with
  | [] | '#' :: _ | '\n' :: _ | '\r' :: _ => some (document, text)
  | '[' :: '[' :: rest => do
    let (key, rest) ← readHeader? [']', ']'] rest
    some (⟨← Entries.openItem? key document.entries, key⟩, rest)
  | '[' :: rest => do
    let (key, rest) ← readHeader? [']'] rest
    some (⟨← Entries.openTable? key document.entries, key⟩, rest)
  | text => do
    let (key, rest) ← readKey? depthLimit text
    let (setting, rest) ← readValue? depthLimit (skipSpaces (← readMark? '=' rest))
    let entries ← Entries.insertUnder? setting key document.header document.entries
    some (⟨entries, document.header⟩, rest)

def readLines? : Nat → Document → List Char → Option Document
  | 0, _, _ => none
  | bound + 1, document, text => do
    let (document, rest) ← readStatement? document (skipSpaces text)
    let rest ← skipComment? (skipSpaces rest)
    match readBreak? rest with
    | some rest => readLines? bound document rest
    | none => if rest = [] then some document else none

end Document

def read? (source : String) : Option (List (String × Setting)) := do
  let text := Text.dropOrderMark source.toList
  let document ← Document.readLines? (text.length + 1) .empty text
  some (settings document.entries)

end Rulebook.Toml

import Rulebook.Json.Numeral
import Rulebook.Json.Text

/-!
Reading JSON texts from left to right. The pieces are shared by the readers of contexts, trees and
settings, which take some members of an object as they come and read all others as plain values.
-/

namespace Rulebook.Json

def readWord : List Char → List Char → Except Fault (Parsed Unit)
  | [], text => .ok ((), text)
  | _ :: _, [] => .error .unfinished
  | expected :: word, character :: text =>
    if character = expected then readWord word text else .error .malformed

def readScalar : List Char → Except Fault (Parsed Json)
  | [] => .error .unfinished
  | 'n' :: rest => do
    let ((), rest) ← readWord ['u', 'l', 'l'] rest
    .ok (.null, rest)
  | 't' :: rest => do
    let ((), rest) ← readWord ['r', 'u', 'e'] rest
    .ok (.boolean true, rest)
  | 'f' :: rest => do
    let ((), rest) ← readWord ['a', 'l', 's', 'e'] rest
    .ok (.boolean false, rest)
  | '"' :: rest => do
    let (value, rest) ← readText rest
    .ok (.string value, rest)
  | character :: rest =>
    if character = '-' ∨ character.isDigit then readNumber (character :: rest)
    else .error .malformed

/-- Passes over a value that is neither a list nor an object. Only the spelling counts: numbers out
of range and lone surrogates are let through. A number that the text breaks off is malformed
here. -/
def skipScalar : List Char → Except Fault (Parsed Unit)
  | '"' :: rest => skipText rest
  | character :: rest =>
    if character = '-' ∨ character.isDigit then
      match readWrittenNumber (character :: rest) with
      | .ok (_, rest) => .ok ((), rest)
      | .error _ => .error .malformed
    else do
      let (_, rest) ← readScalar (character :: rest)
      .ok ((), rest)
  | [] => .error .unfinished

def nextItem? (isFirst : Bool) (text : List Char) : Except Fault (Option (List Char)) :=
  match skipBlanks text with
  | [] => .error .unfinished
  | ']' :: _ => .ok none
  | ',' :: rest =>
    if isFirst then .error .malformed
    else
      match skipBlanks rest with
      | [] => .error .unfinished
      | ']' :: _ => .error .malformed
      | item => .ok (some item)
  | item => if isFirst then .ok (some item) else .error .malformed

def endItems (text : List Char) : Except Fault (List Char) :=
  match skipBlanks text with
  | ']' :: rest => .ok rest
  | [] => .error .unfinished
  | _ => .error .malformed

def nextMember? (isFirst : Bool) (text : List Char) : Except Fault (Option (List Char)) :=
  let openName : List Char → Except Fault (Option (List Char))
    | [] => .error .unfinished
    | '"' :: rest => .ok (some rest)
    | _ => .error .malformed
  match skipBlanks text with
  | '\x7d' :: _ => .ok none
  | ',' :: rest => if isFirst then .error .malformed else openName (skipBlanks rest)
  | [] => .error .unfinished
  | rest => if isFirst then openName rest else .error .malformed

def skipClosing (text : List Char) : List Char := (skipBlanks text).tail

/-- Reads the items of a list after its opening bracket, up to and with the closing one. The number
bounds the items and is never reached if it is the length of the text. -/
def readItems {α : Type} (readItem : List Char → Except Fault (Parsed α)) :
    Nat → Bool → List Char → Except Fault (Parsed (List α))
  | 0, _, _ => .error .unfinished
  | bound + 1, isFirst, text => do
    match ← nextItem? isFirst text with
    | none => .ok ([], skipClosing text)
    | some text =>
      let (item, text) ← readItem text
      let (items, text) ← readItems readItem bound false text
      .ok (item :: items, text)

/-- Reads the members of an object after its opening brace, up to and with the closing one. The
names are read by `readName`, after their opening marks; what a member does to the result is up to
`onMember`, which reads on after the name. The number bounds the members and is never reached if it
is the length of the text. -/
def foldMembers {ν σ : Type} (readName : List Char → Except Fault (Parsed ν))
    (onMember : σ → ν → List Char → Except Fault (Parsed σ)) :
    Nat → Bool → σ → List Char → Except Fault (Parsed σ)
  | 0, _, _, _ => .error .unfinished
  | bound + 1, isFirst, state, text => do
    match ← nextMember? isFirst text with
    | none => .ok (state, skipClosing text)
    | some text =>
      let (name, text) ← readName text
      let (state, text) ← onMember state name text
      foldMembers readName onMember bound false state text

def readColon (text : List Char) : Except Fault (List Char) :=
  match skipBlanks text with
  | [] => .error .unfinished
  | ':' :: rest => .ok rest
  | _ => .error .malformed

def readValue (depth : Nat) (text : List Char) : Except Fault (Parsed Json) :=
  match skipBlanks text with
  | '[' :: rest =>
    match depth with
    | 0 => .error .malformed
    | depth + 1 => do
      let (items, rest) ← readItems (readValue depth) (rest.length + 1) true rest
      .ok (.list items, rest)
  | '\x7b' :: rest =>
    match depth with
    | 0 => .error .malformed
    | depth + 1 => do
      let onMember := fun (members : List (String × Json)) name text => do
        let (value, text) ← readValue depth (← readColon text)
        .ok ((name, value) :: members, text)
      let (members, rest) ← foldMembers readText onMember (rest.length + 1) true [] rest
      .ok (.object members.reverse, rest)
  | text => readScalar text

def skipValue (bound : Nat) (text : List Char) : Except Fault (Parsed Unit) :=
  match skipBlanks text with
  | '[' :: rest =>
    match bound with
    | 0 => .error .malformed
    | bound + 1 => do
      let (_, rest) ← readItems (skipValue bound) (rest.length + 1) true rest
      .ok ((), rest)
  | '\x7b' :: rest =>
    match bound with
    | 0 => .error .malformed
    | bound + 1 =>
      foldMembers skipText (fun () () text => do skipValue bound (← readColon text))
        (rest.length + 1) true () rest
  | text => skipScalar text

/-- Why a text is refused whose value begins in the wrong way: a list or an object at once, any
other value after it was read. The text has no blanks in front. -/
def refusal (text : List Char) : Fault :=
  match text with
  | '[' :: _ | '\x7b' :: _ => .mismatched
  | text =>
    match readScalar text with
    | .error fault => fault
    | .ok _ => .mismatched

def readString (text : List Char) : Except Fault (Parsed String) :=
  match skipBlanks text with
  | '"' :: rest => readText rest
  | text => .error (refusal text)

def readBoolean (text : List Char) : Except Fault (Parsed Bool) :=
  match skipBlanks text with
  | text@('t' :: _) | text@('f' :: _) => do
    let (value, rest) ← readScalar text
    .ok (value matches .boolean true, rest)
  | text => .error (refusal text)

def readNull (text : List Char) : Except Fault (Parsed Unit) :=
  match skipBlanks text with
  | 'n' :: rest => readWord ['u', 'l', 'l'] rest
  | text => .error (refusal text)

/-- Reads one of some known words: a text, or an object whose only member has the word as its name
and the value null. -/
def readChoice {α : Type} (ofName? : String → Option α) (text : List Char) :
    Except Fault (Parsed α) :=
  let readName := fun text => do
    let (name, rest) ← readString text
    match ofName? name with
    | some choice => .ok (choice, rest)
    | none => .error .mismatched
  match skipBlanks text with
  | '"' :: rest => readName ('"' :: rest)
  | '\x7b' :: rest => do
    let (choice, rest) ← readName rest
    let ((), rest) ← readNull (← readColon rest)
    match skipBlanks rest with
    | '\x7d' :: rest => .ok (choice, rest)
    | [] => .error .unfinished
    | _ => .error .malformed
  | [] => .error .unfinished
  | _ => .error .malformed

def readAll {α : Type} (read : List Char → Except Fault (Parsed α)) (source : String) :
    Except Fault α := do
  let (value, rest) ← read source.toList
  if skipBlanks rest = [] then .ok value else .error .malformed

def readRuleValue (source : String) : Except Fault Value :=
  readAll (fun text => do
    let (json, rest) ← readValue depthLimit text
    match json.toValue? with
    | some value => .ok (value, rest)
    | none => .error .mismatched) source

end Rulebook.Json

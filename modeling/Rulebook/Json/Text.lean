import Rulebook.Json.Basic
import Rulebook.Text.Characters

/-!
JSON's texts: escapes, and how a text is written between its marks.
-/

namespace Rulebook.Json

/-- Reads a code unit of four hexadecimal digits. Fewer than four bytes are an unfinished text,
whatever they are. -/
def readUnit (text : List Char) : Except Fault (Parsed Nat) :=
  match text with
  | a :: b :: c :: d :: rest =>
    match Text.digitsValue? 16 [a, b, c, d] with
    | some unit => .ok (unit, rest)
    | none => .error .malformed
  | _ =>
    if (String.ofList text).utf8ByteSize < 4 then .error .unfinished else .error .malformed

def isLeading (unit : Nat) : Bool := 0xD800 ≤ unit && unit ≤ 0xDBFF

def isTrailing (unit : Nat) : Bool := 0xDC00 ≤ unit && unit ≤ 0xDFFF

def readEscapedUnits (text : List Char) : Except Fault (Parsed Char) := do
  let (unit, rest) ← readUnit text
  if isTrailing unit then .error .malformed
  else if isLeading unit then
    match rest with
    | '\\' :: 'u' :: rest => do
      let (second, rest) ← readUnit rest
      if isTrailing second then
        .ok (Char.ofNat (0x10000 + (unit - 0xD800) * 0x400 + (second - 0xDC00)), rest)
      else .error .malformed
    | [] | ['\\'] => .error .unfinished
    | _ => .error .malformed
  else .ok (Char.ofNat unit, rest)

def readEscape : List Char → Except Fault (Parsed Char)
  | [] => .error .unfinished
  | 'u' :: rest => readEscapedUnits rest
  | mark :: rest =>
    match mark with
    | '"' => .ok ('"', rest)
    | '\\' => .ok ('\\', rest)
    | '/' => .ok ('/', rest)
    | 'b' => .ok ('\x08', rest)
    | 'f' => .ok ('\x0c', rest)
    | 'n' => .ok ('\n', rest)
    | 'r' => .ok ('\r', rest)
    | 't' => .ok ('\t', rest)
    | _ => .error .malformed

theorem length_le_of_readUnit {text rest : List Char} {unit : Nat}
    (read : readUnit text = .ok (unit, rest)) : rest.length ≤ text.length := by
  unfold readUnit at read
  split at read
  · split at read
    · simp only [Except.ok.injEq, Prod.mk.injEq] at read
      simp only [List.length_cons, ← read.2]
      omega
    · contradiction
  · split at read <;> contradiction

theorem length_le_of_readEscapedUnits {text rest : List Char} {character : Char}
    (read : readEscapedUnits text = .ok (character, rest)) : rest.length ≤ text.length := by
  unfold readEscapedUnits at read
  cases first : readUnit text with
  | error fault => simp [first, bind, Except.bind] at read
  | ok pair =>
    obtain ⟨unit, after⟩ := pair
    have bound := length_le_of_readUnit first
    simp only [first, bind, Except.bind] at read
    split at read
    · contradiction
    · split at read
      · split at read
        · next tail =>
          cases second : readUnit tail with
          | error fault => simp [second] at read
          | ok pair =>
            have secondBound := length_le_of_readUnit second
            simp only [second] at read
            split at read
            · simp only [Except.ok.injEq, Prod.mk.injEq] at read
              simp only [List.length_cons] at bound
              rw [← read.2]
              omega
            · contradiction
        all_goals contradiction
      · simp only [Except.ok.injEq, Prod.mk.injEq] at read
        rw [← read.2]
        exact bound

theorem length_le_of_readEscape {text rest : List Char} {character : Char}
    (read : readEscape text = .ok (character, rest)) : rest.length ≤ text.length := by
  unfold readEscape at read
  split at read
  · contradiction
  · exact Nat.le_succ_of_le (length_le_of_readEscapedUnits read)
  · split at read <;> simp_all

def readCharacters : List Char → Except Fault (Parsed (List Char))
  | [] => .error .unfinished
  | '"' :: rest => .ok ([], rest)
  | '\\' :: rest =>
    match escape : readEscape rest with
    | .error fault => .error fault
    | .ok (character, after) =>
      have := length_le_of_readEscape escape
      match readCharacters after with
      | .error fault => .error fault
      | .ok (characters, after) => .ok (character :: characters, after)
  | character :: rest =>
    if character.toNat < 0x20 then .error .malformed
    else
      match readCharacters rest with
      | .error fault => .error fault
      | .ok (characters, after) => .ok (character :: characters, after)
  termination_by text => text.length

def readText (text : List Char) : Except Fault (Parsed String) := do
  let (characters, rest) ← readCharacters text
  .ok (String.ofList characters, rest)

/-- Passes over the rest of a text, after its opening mark. Code units need not pair up here. -/
def skipText : List Char → Except Fault (Parsed Unit)
  | [] => .error .unfinished
  | '"' :: rest => .ok ((), rest)
  | '\\' :: 'u' :: rest =>
    match unit : readUnit rest with
    | .error fault => .error fault
    | .ok (_, after) =>
      have := length_le_of_readUnit unit
      skipText after
  | '\\' :: rest =>
    match escape : readEscape rest with
    | .error fault => .error fault
    | .ok (_, after) =>
      have := length_le_of_readEscape escape
      skipText after
  | character :: rest =>
    if character.toNat < 0x20 then .error .malformed else skipText rest
  termination_by text => text.length

def writeCharacter (character : Char) : List Char :=
  match character with
  | '"' => ['\\', '"']
  | '\\' => ['\\', '\\']
  | '\x08' => ['\\', 'b']
  | '\x0c' => ['\\', 'f']
  | '\n' => ['\\', 'n']
  | '\r' => ['\\', 'r']
  | '\t' => ['\\', 't']
  | character =>
    let point := character.toNat
    if point < 0x20 then
      ['\\', 'u', '0', '0', Nat.digitChar (point / 16), Nat.digitChar (point % 16)]
    else [character]

def writeText (value : String) : String :=
  String.ofList ('"' :: (value.toList.flatMap writeCharacter ++ ['"']))

example : writeText "a\"\n" = "\"a\\\"\\n\"" := by decide

example : writeCharacter '\x1f' = ['\\', 'u', '0', '0', '1', 'f'] := by decide

end Rulebook.Json

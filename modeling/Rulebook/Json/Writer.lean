import Rulebook.Json.Text

/-!
Writing JSON, on one line or indented.
-/

namespace Rulebook.Json

def writeNumber (value : Number) : String := value.json?.getD "null"

mutual
def compact : Json → String
  | null => "null"
  | boolean value => if value then "true" else "false"
  | integer value => toString value
  | decimal value => writeNumber value
  | string value => writeText value
  | list items => "[" ++ ",".intercalate (compactItems items) ++ "]"
  | object members => "\x7b" ++ ",".intercalate (compactMembers members) ++ "\x7d"

def compactItems : List Json → List String
  | [] => []
  | item :: items => item.compact :: compactItems items

def compactMembers : List (String × Json) → List String
  | [] => []
  | (name, value) :: members => (writeText name ++ ":" ++ value.compact) :: compactMembers members
end

def lineBreak (depth : Nat) : String := "\n" ++ "".pushn ' ' (2 * depth)

def writeBlock (opening closing : String) (depth : Nat) (lines : List String) : String :=
  if lines.isEmpty then opening ++ closing
  else
    opening ++ lineBreak (depth + 1) ++ ("," ++ lineBreak (depth + 1)).intercalate lines
      ++ lineBreak depth ++ closing

mutual
def indented (depth : Nat) : Json → String
  | list items => writeBlock "[" "]" depth (indentedItems (depth + 1) items)
  | object members => writeBlock "\x7b" "\x7d" depth (indentedMembers (depth + 1) members)
  | scalar => scalar.compact

def indentedItems (depth : Nat) : List Json → List String
  | [] => []
  | item :: items => item.indented depth :: indentedItems depth items

def indentedMembers (depth : Nat) : List (String × Json) → List String
  | [] => []
  | (name, value) :: members =>
    (writeText name ++ ": " ++ value.indented depth) :: indentedMembers depth members
end

def pretty (json : Json) : String := json.indented 0

end Rulebook.Json

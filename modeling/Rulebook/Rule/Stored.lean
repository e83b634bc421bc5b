import Rulebook.Rule.Basic
import Rulebook.Tree.Stored

/-!
Rules as JSON: the tree alone, or an object or list that holds it.
-/

namespace Rulebook.Rule

open Json (Fault Parsed)

def treeJson (rule : Rule) : Json := rule.tree.elim .null Tree.toJson

def toJson (rule : Rule) : Json := .object [("ast", rule.treeJson)]

def readTreeJson (source : String) : Except Fault Rule := do
  .ok ⟨← Json.readAll (Tree.readOptional Json.depthLimit) source⟩

/-- Reads a member of a rule after its name. There may be one tree; other members are passed
over. -/
def readMember (depth : Nat) (found : Option (Option Tree)) (name : String) (text : List Char) :
    Except Fault (Parsed (Option (Option Tree))) :=
  if name = "ast" then
    if found.isSome then .error .mismatched
    else do
      let (tree, text) ← Tree.readOptional depth (← Json.readColon text)
      .ok (some tree, text)
  else do
    let text ← Json.readColon text
    let ((), text) ← Json.skipValue text.length text
    .ok (found, text)

/-- Reads a rule from the beginning of a text. An object may lack the tree, a list may not. -/
def readWrapped (text : List Char) : Except Fault (Parsed Rule) := do
  let depth := Json.depthLimit - 1
  match Json.skipBlanks text with
  | '\x7b' :: rest =>
    let (found, rest) ←
      Json.foldMembers Json.readText (readMember depth) (rest.length + 1) true none rest
    .ok (⟨found.join⟩, rest)
  | '[' :: rest =>
    match ← Json.nextItem? true rest with
    | none => .error .mismatched
    | some text =>
      let (tree, rest) ← Tree.readOptional depth text
      let rest ← Json.endItems rest
      .ok (⟨tree⟩, rest)
  | text => .error (Json.refusal text)

def readJson (source : String) : Except Fault Rule := Json.readAll readWrapped source

end Rulebook.Rule

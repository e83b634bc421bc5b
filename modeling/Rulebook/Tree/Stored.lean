import Rulebook.Json.Reader
import Rulebook.Json.Writer
import Rulebook.Tree.Basic

/-!
Trees as JSON. A node is an object with its kind and its parts, or a list of the kind and the parts
in order. A node inside another one may name its kind by number. A fault in the parts of the
outermost node shows only after the whole text of the node was read; its kind is checked at once.
-/

namespace Rulebook

namespace Tree

open Json (Fault Parsed)

inductive Kind where
  | identifier
  | raw
  | expression
  deriving DecidableEq, Repr

namespace Kind

def name : Kind → String
  | identifier => "identifier"
  | raw => "raw"
  | expression => "expression"

def all : List Kind := [identifier, raw, expression]

def ofName? (text : String) : Option Kind := all.find? (·.name = text)

def ofJson? : Json → Option Kind
  | .string text => ofName? text
  | .integer (.ofNat index) => all[index]?
  | _ => none

end Kind

def toJson : Tree → Json
  | identifier name => .object [("kind", .string Kind.identifier.name), ("value", .string name)]
  | literal value => .object [("kind", .string Kind.raw.name), ("value", .ofValue value)]
  | expression operator left right =>
    .object [("kind", .string Kind.expression.name), ("operator", .string operator.tag),
      ("left", left.toJson), ("right", right.toJson)]

abbrev Part := Json × Option Tree

def operatorOfJson? : Json → Option Operator
  | .string tag => Operator.ofTag? tag
  | .object [(tag, .null)] | .object [(tag, .object [])] => Operator.ofTag? tag
  | _ => none

def ofParts? : Kind → List Part → Option Tree
  | .identifier, [(.string name, _)] => some (.identifier name)
  | .raw, [(value, _)] => value.toValue?.map .literal
  | .expression, [(operator, _), (_, some left), (_, some right)] =>
    (operatorOfJson? operator).map fun operator => .expression operator left right
  | _, _ => none

def partNames : Kind → List String
  | .identifier | .raw => ["value"]
  | .expression => ["operator", "left", "right"]

def part? (members : List (String × Part)) (name : String) : Option Part :=
  match members.filter (·.1 = name) with
  | [(_, part)] => some part
  | _ => none

def ofMembers? (kind : Kind) (members : List (String × Part)) : Option Tree := do
  ofParts? kind (← (partNames kind).mapM (part? members))

mutual
def ofJson? : Json → Option Tree
  | .object members => do
    let parts := memberParts members
    ofMembers? (← Kind.ofJson? (← part? parts "kind").1) parts
  | .list (kind :: items) => do ofParts? (← Kind.ofJson? kind) (itemParts items)
  | _ => none

def itemParts : List Json → List Part
  | [] => []
  | item :: items => (item, ofJson? item) :: itemParts items

def memberParts : List (String × Json) → List (String × Part)
  | [] => []
  | (name, value) :: members => (name, value, ofJson? value) :: memberParts members
end

def readKind (text : List Char) : Except Fault (Parsed Kind) := do
  let (name, rest) ← Json.readString text
  match Kind.ofName? name with
  | some kind => .ok (kind, rest)
  | none => .error .mismatched

structure Outline where
  kind : Option Kind
  members : List (String × Json)

def readMember (depth : Nat) (outline : Outline) (name : String) (text : List Char) :
    Except Fault (Parsed Outline) :=
  if name = "kind" then
    if outline.kind.isSome then .error .mismatched
    else do
      let (kind, text) ← readKind (← Json.readColon text)
      .ok ({ outline with kind := some kind }, text)
  else do
    let (value, text) ← Json.readValue depth (← Json.readColon text)
    .ok ({ outline with members := (name, value) :: outline.members }, text)

def readNode (depth : Nat) (text : List Char) : Except Fault (Parsed Tree) := do
  let finish (tree? : Option Tree) (rest : List Char) : Except Fault (Parsed Tree) :=
    match tree? with
    | some tree => .ok (tree, rest)
    | none => .error .mismatched
  match Json.skipBlanks text, depth with
  | '\x7b' :: _, 0 | '[' :: _, 0 => .error .malformed
  | '\x7b' :: rest, depth + 1 =>
    let (outline, rest) ←
      Json.foldMembers Json.readText (readMember depth) (rest.length + 1) true ⟨none, []⟩ rest
    finish (outline.kind.bind fun kind => ofMembers? kind (memberParts outline.members)) rest
  | '[' :: rest, depth + 1 =>
    match ← Json.nextItem? true rest with
    | none => .error .mismatched
    | some text =>
      let (kind, rest) ← readKind text
      let (items, rest) ← Json.readItems (Json.readValue depth) (rest.length + 1) false rest
      finish (ofParts? kind (itemParts items)) rest
  | text, _ => .error (Json.refusal text)

def readOptional (depth : Nat) (text : List Char) : Except Fault (Parsed (Option Tree)) :=
  match Json.skipBlanks text with
  | 'n' :: rest => do
    let ((), rest) ← Json.readWord ['u', 'l', 'l'] rest
    .ok (none, rest)
  | text => do
    let (tree, rest) ← readNode depth text
    .ok (some tree, rest)

end Tree

end Rulebook

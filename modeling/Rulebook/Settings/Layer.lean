import Rulebook.Number.Numeral
import Rulebook.Settings.Setting
import Rulebook.Text.Parts

/-!
Layers of settings. The key of a setting is a path to its place. An upper layer is laid over a lower
one entry by entry: tables are joined, and anything else replaces what was there.
-/

namespace Rulebook

namespace Setting

mutual
/-- Lays a setting over the one below. A table without entries changes nothing, unless nothing is
there. -/
def overlay : Setting → Setting → Setting
  | table upper, unset => overlayEntries upper (table [])
  | table upper, lower => overlayEntries upper lower
  | upper, _ => upper

def overlayEntries : List (String × Setting) → Setting → Setting
  | [], lower => lower
  | (name, setting) :: upper, lower =>
    let old := (find? name lower.entries).getD unset
    overlayEntries upper (table (set lower.entries name (setting.overlay old)))
end

/-- Changes an item of a list. An index from zero on counts from the front, one below zero from the
end, and the list is extended on that side until it has the place. -/
def changeItem (change : Setting → Setting) (index : Int) (items : List Setting) : List Setting :=
  let distance := index.natAbs
  if index < 0 then
    let items := List.replicate (distance - items.length) unset ++ items
    items.modify (items.length - distance) change
  else (items ++ List.replicate (distance + 1 - items.length) unset).modify distance change

inductive Step where
  | name (name : String)
  | index (index : Int)
  deriving DecidableEq

/-- Changes the setting at the end of a path. What lies on the way and is not the table or the list
that a step needs is replaced by an empty one. -/
def changeAt (change : Setting → Setting) : List Step → Setting → Setting
  | [], setting => change setting
  | .name name :: path, setting =>
    let old := (find? name setting.entries).getD unset
    table (set setting.entries name (changeAt change path old))
  | .index index :: path, setting => list (changeItem (changeAt change path) index setting.items)

theorem find?_changeAt (change : Setting → Setting) (name other : String) (path : List Step)
    (setting : Setting) :
    find? other (changeAt change (.name name :: path) setting).entries =
      if name = other then
        some (changeAt change path ((find? name setting.entries).getD unset))
      else find? other setting.entries := by
  simp [changeAt, entries, find?_set]

end Setting

/-- Settings from one source: each has a key, which may be a path of names joined by dots, with
indices in brackets after them. -/
abbrev Layer := List (String × Setting)

namespace Layer

open Setting (Step)

def name? (text : List Char) : Option Step :=
  if text ≠ [] ∧ text.all Setting.isNameCharacter then some (.name (String.ofList text)) else none

def index? (text : List Char) : Option Step :=
  let isSpace (character : Char) : Bool := character == ' ' || character == '\t'
  let signed := text.dropWhile isSpace
  let negative := signed.head? = some '-'
  let unsigned := if negative then signed.tail else signed
  let digits := unsigned.takeWhile Char.isDigit
  let value : Int := Numeral.digitsValue digits
  let index := if negative then -value else value
  let rest := (unsigned.dropWhile Char.isDigit).dropWhile isSpace
  if digits ≠ [] ∧ rest = [']'] ∧ Word.fitsSigned index then some (.index index) else none

def readPart? (text : List Char) : Option (List Step) :=
  match Text.parts '[' text with
  | [] => none
  | name :: indices => do some ((← name? name) :: (← indices.mapM index?))

def path (key : String) : List Step :=
  match (Text.parts '.' key.toList).mapM readPart? with
  | some parts => parts.flatten
  | none => [.name key]

def overlay (layer : Layer) (lower : Setting) : Setting :=
  layer.foldl (fun lower (key, setting) => Setting.changeAt setting.overlay (path key) lower) lower

example : path "rules.strict_comparison" = [.name "rules", .name "strict_comparison"] := by decide

example : path "rules[-1].x" = [.name "rules", .index (-1), .name "x"] := by decide

example : path "rules..x" = [.name "rules..x"] := by decide

end Layer

end Rulebook

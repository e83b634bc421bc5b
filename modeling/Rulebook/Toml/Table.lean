import Rulebook.Settings.Setting

/-!
The tables of a TOML document while it is read. A table may be reached in several ways but defined
only once, so each table remembers how it came about.
-/

namespace Rulebook.Toml

inductive Origin where
  /-- By the header of a table inside it. -/
  | implied
  /-- By a key with dots. -/
  | dotted
  /-- By its own header. -/
  | headed
  deriving DecidableEq

inductive Item where
  /-- A value, tables written as values included. Nothing can be added to it. -/
  | value (setting : Setting)
  | table (origin : Origin) (entries : List (String × Item))
  /-- A list of tables, the latest first. -/
  | tables (items : List (List (String × Item)))

abbrev Entries := List (String × Item)

namespace Entries

def set (key : String) (item : Item) : Entries → Entries
  | [] => [(key, item)]
  | (other, old) :: rest =>
    if other = key then (key, item) :: rest else (other, old) :: set key item rest

def openTable? : List String → Entries → Option Entries
  | [], _ => none
  | [key], entries =>
    match entries.lookup key with
    | none => some (set key (.table .headed []) entries)
    | some (.table .implied inner) => some (set key (.table .headed inner) entries)
    | some _ => none
  | key :: path, entries =>
    match entries.lookup key with
    | none => (openTable? path []).map fun inner => set key (.table .implied inner) entries
    | some (.table origin inner) =>
      (openTable? path inner).map fun inner => set key (.table origin inner) entries
    | some (.tables (latest :: earlier)) =>
      (openTable? path latest).map fun latest => set key (.tables (latest :: earlier)) entries
    | some _ => none

def openItem? : List String → Entries → Option Entries
  | [], _ => none
  | [key], entries =>
    match entries.lookup key with
    | none => some (set key (.tables [[]]) entries)
    | some (.tables items) => some (set key (.tables ([] :: items)) entries)
    | some _ => none
  | key :: path, entries =>
    match entries.lookup key with
    | none => (openItem? path []).map fun inner => set key (.table .implied inner) entries
    | some (.table origin inner) =>
      (openItem? path inner).map fun inner => set key (.table origin inner) entries
    | some (.tables (latest :: earlier)) =>
      (openItem? path latest).map fun latest => set key (.tables (latest :: earlier)) entries
    | some _ => none

/-- Gives a key with dots a value. A table on the way that has a header of its own cannot be added
to, and the table that gets the value belongs to keys with dots from then on. A list of tables may
be passed through, by its latest table, but not added to. -/
def insert? (setting : Setting) : List String → Entries → Option Entries
  | [], _ => none
  | [key], entries =>
    match entries.lookup key with
    | none => some (set key (.value setting) entries)
    | some _ => none
  | key :: path, entries =>
    match entries.lookup key with
    | none => (insert? setting path []).map fun inner => set key (.table .dotted inner) entries
    | some (.table .headed _) => none
    | some (.table origin inner) =>
      let origin := if path.length = 1 then .dotted else origin
      (insert? setting path inner).map fun inner => set key (.table origin inner) entries
    | some (.tables (latest :: earlier)) =>
      if path.length = 1 then none
      else
        (insert? setting path latest).map fun latest =>
          set key (.tables (latest :: earlier)) entries
    | some _ => none

def insertUnder? (setting : Setting) (key : List String) : List String → Entries → Option Entries
  | [], entries => insert? setting key entries
  | step :: header, entries =>
    match entries.lookup step with
    | some (.table origin inner) =>
      (insertUnder? setting key header inner).map fun inner =>
        set step (.table origin inner) entries
    | some (.tables (latest :: earlier)) =>
      (insertUnder? setting key header latest).map fun latest =>
        set step (.tables (latest :: earlier)) entries
    | _ => none

end Entries

mutual
def Item.setting : Item → Setting
  | .value setting => setting
  | .table _ entries => .table (settings entries)
  | .tables items => .list (tableSettings items).reverse

def settings : List (String × Item) → List (String × Setting)
  | [] => []
  | (key, item) :: rest => (key, item.setting) :: settings rest

def tableSettings : List (List (String × Item)) → List Setting
  | [] => []
  | entries :: rest => .table (settings entries) :: tableSettings rest
end

end Rulebook.Toml

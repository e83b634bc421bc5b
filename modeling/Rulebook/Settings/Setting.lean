import Rulebook.Number.Basic

/-!
Settings as they stand in a file or a variable, before anything is asked of them.
-/

namespace Rulebook

inductive Setting where
  /-- A place that no source has filled, such as one before the end of a list. -/
  | unset
  | boolean (value : Bool)
  | integer (value : Int)
  | decimal (value : Number)
  | text (value : String)
  | list (items : List Setting)
  /-- Settings by name; no name occurs twice. -/
  | table (entries : List (String × Setting))

namespace Setting

mutual
/-- Whether two settings are equal. There is no derived instance, since settings hold lists of
settings. -/
def same : Setting → Setting → Bool
  | unset, unset => true
  | boolean one, boolean other => one == other
  | integer one, integer other => one == other
  | decimal one, decimal other => one == other
  | text one, text other => one == other
  | list items, list others => sameItems items others
  | table entries, table others => sameEntries entries others
  | _, _ => false

def sameItems : List Setting → List Setting → Bool
  | [], [] => true
  | one :: items, other :: others => same one other && sameItems items others
  | _, _ => false

def sameEntries : List (String × Setting) → List (String × Setting) → Bool
  | [], [] => true
  | (name, one) :: entries, (otherName, other) :: others =>
    name == otherName && same one other && sameEntries entries others
  | _, _ => false
end

mutual
theorem same_iff : ∀ one other : Setting, same one other = true ↔ one = other
  | unset, other => by cases other <;> simp [same]
  | boolean _, other => by cases other <;> simp [same]
  | integer _, other => by cases other <;> simp [same]
  | decimal _, other => by cases other <;> simp [same]
  | text _, other => by cases other <;> simp [same]
  | list items, other => by cases other <;> simp [same, sameItems_iff items]
  | table entries, other => by cases other <;> simp [same, sameEntries_iff entries]

theorem sameItems_iff : ∀ items others, sameItems items others = true ↔ items = others
  | [], others => by cases others <;> simp [sameItems]
  | one :: items, others => by
    cases others <;> simp [sameItems, same_iff one, sameItems_iff items]

theorem sameEntries_iff : ∀ entries others, sameEntries entries others = true ↔ entries = others
  | [], others => by cases others <;> simp [sameEntries]
  | (_, one) :: entries, others => by
    cases others <;> simp [sameEntries, Prod.ext_iff, same_iff one, sameEntries_iff entries]
end

instance : DecidableEq Setting := fun one other => decidable_of_iff _ (same_iff one other)

def isNameCharacter (character : Char) : Bool :=
  character.isAlphanum || character == '_' || character == '-'

def find? (name : String) : List (String × Setting) → Option Setting
  | [] => none
  | (other, setting) :: rest => if other = name then some setting else find? name rest

def entries : Setting → List (String × Setting)
  | table entries => entries
  | _ => []

def items : Setting → List Setting
  | list items => items
  | _ => []

def set (entries : List (String × Setting)) (name : String) (setting : Setting) :
    List (String × Setting) :=
  match entries with
  | [] => [(name, setting)]
  | (other, old) :: rest =>
    if other = name then (name, setting) :: rest else (other, old) :: set rest name setting

theorem find?_set (entries : List (String × Setting)) (name other : String)
    (setting : Setting) :
    find? other (set entries name setting) =
      if name = other then some setting else find? other entries := by
  induction entries with
  | nil => rfl
  | cons head rest induction =>
    obtain ⟨key, old⟩ := head
    by_cases replaced : key = name
    · by_cases same : name = other <;> simp [set, find?, replaced, same]
    · by_cases same : key = other
      · subst same
        simp [set, find?, replaced, Ne.symm replaced]
      · simp [set, find?, replaced, same, induction]

end Setting

end Rulebook

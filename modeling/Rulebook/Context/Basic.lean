import Std.Data.TreeMap
import Rulebook.Value.Comparison

/-!
Contexts: what the names in a rule stand for during an evaluation.
-/

namespace Rulebook

structure Context where
  values : Std.TreeMap String Value

namespace Context

def empty : Context := ⟨∅⟩

def insert (context : Context) (name : String) (value : Value) : Context :=
  ⟨context.values.insert name value⟩

def ofList (entries : List (String × Value)) : Context :=
  entries.foldl (fun context (name, value) => context.insert name value) empty

def get? (context : Context) (name : String) : Option Value := context.values[name]?

def size (context : Context) : Nat := context.values.size

def isEmpty (context : Context) : Bool := context.values.isEmpty

def toList (context : Context) : List (String × Value) := context.values.toList

def resolve (context : Context) (name : String) : Value := (context.get? name).getD (.text name)

def equals (left right : Context) : Bool :=
  left.size == right.size &&
    left.toList.all fun (name, value) => (right.get? name).any value.strictlyEquals

@[simp] theorem get?_empty (name : String) : empty.get? name = none := by
  simp [empty, get?]

theorem get?_insert (context : Context) (name other : String) (value : Value) :
    (context.insert name value).get? other =
      if name = other then some value else context.get? other := by
  simp [insert, get?, Std.TreeMap.getElem?_insert]

end Context

end Rulebook

import Rulebook.Proofs.Compiler
import Rulebook.Store

/-!
The operations of a store as data, and whole runs of them.
-/

namespace Rulebook.Store

inductive Operation where
  | load (name source : String)
  | update (name source : String)
  | delete (name : String)
  | loadBatch (pairs : List (String × String))
  | clear
  | get (name : String)
  | contains (name : String)
  | names
  | size
  | evaluate (name : String) (context : Context) (executor : Executor)
  | statistics

inductive Answer where
  | changed (result : Except RuleError Unit)
  | loaded (names : List String)
  | cleared
  | found (compiled : Option CompiledRule)
  | contained (present : Bool)
  | listed (names : List String)
  | counted (size : Nat)
  | evaluated (result : Except RuleError Report)
  | summed (statistics : Statistics)

def Answer.error? : Answer → Option RuleError
  | changed (.error error) => some error
  | evaluated (.error error) => some error
  | _ => none

def observe (store : Store) (answer : Answer) : Outcome Answer := ⟨answer, store, []⟩

def Outcome.answer {α : Type} (wrap : α → Answer) (outcome : Outcome α) : Outcome Answer :=
  ⟨wrap outcome.result, outcome.store, outcome.log⟩

def perform (store : Store) : Operation → Outcome Answer
  | .load name source => (store.load name source).answer .changed
  | .update name source => (store.update name source).answer .changed
  | .delete name => (store.delete name).answer .changed
  | .loadBatch pairs => (store.loadBatch pairs).answer .loaded
  | .clear => store.clear.answer fun () => .cleared
  | .get name => store.observe (.found (store.get? name))
  | .contains name => store.observe (.contained (store.contains name))
  | .names => store.observe (.listed store.names)
  | .size => store.observe (.counted store.size)
  | .evaluate name context executor =>
      store.observe (.evaluated (store.evaluate name context executor))
  | .statistics => store.observe (.summed store.statistics)

def run (operations : List Operation) : Store :=
  operations.foldl (fun store operation => (store.perform operation).store) empty

/-! ## Single operations -/

theorem contains_eq_isSome_get? (store : Store) (name : String) :
    store.contains name = (store.get? name).isSome :=
  Std.TreeMap.contains_eq_isSome_getElem?

theorem get?_insert (store : Store) (compiler : Compiler) (name other : String)
    (compiled : CompiledRule) :
    get? ⟨store.rules.insert name compiled, compiler⟩ other =
      if name = other then some compiled else store.get? other := by
  simp [get?, Std.TreeMap.getElem?_insert]

theorem get?_erase (store : Store) (compiler : Compiler) (name other : String) :
    get? ⟨store.rules.erase name, compiler⟩ other =
      if name = other then none else store.get? other := by
  simp [get?, Std.TreeMap.getElem?_erase]

theorem load_of_refusal? {name source : String} {error : RuleError}
    (refused : Compiler.refusal? name source = some error) (store : Store) :
    store.load name source = ⟨.error error, store, []⟩ := by
  rw [load, Compiler.compile_of_refusal? refused]

theorem load_of_refusal?_eq_none {name source : String}
    (accepted : Compiler.refusal? name source = none) (store : Store) :
    ∃ compiled, (store.load name source).result = .ok () ∧
      (store.load name source).store =
        ⟨store.rules.insert name compiled, ⟨store.compiler.accepted + 1⟩⟩ ∧
      compiled.version = store.compiler.accepted + 1 ∧ compiled.IsFor name source := by
  rcases Compiler.compile_of_refusal?_eq_none accepted store.compiler with
      ⟨compiled, compiles, version, isFor⟩
  refine ⟨compiled, ?_, ?_, version, isFor⟩
  · rw [load, compiles]
  · rw [load, compiles]

theorem update_of_contains {store : Store} {name : String} (present : store.contains name = true)
    (source : String) : store.update name source = store.load name source := by
  rw [update, if_pos present]

theorem Batch.store_add (batch : Batch) (name source : String) :
    (batch.add name source).store = (batch.store.load name source).store := by
  cases loaded : (batch.store.load name source).result <;> simp only [add, loaded]

theorem update_of_contains_eq_false {store : Store} {name : String}
    (absent : store.contains name = false) (source : String) :
    (store.update name source).result = .error (.ruleNotFound name) ∧
      (store.update name source).store = store := by
  simp [update, absent]

theorem delete_of_contains_eq_false {store : Store} {name : String}
    (absent : store.contains name = false) :
    (store.delete name).result = .error (.ruleNotFound name) ∧
      (store.delete name).store = store := by
  simp [delete, absent]

theorem Batch.store_addAll (batch : Batch) (pairs : List (String × String)) :
    (batch.addAll pairs).store =
      pairs.foldl (fun store pair => (store.load pair.1 pair.2).store) batch.store := by
  induction pairs generalizing batch with
  | nil => rfl
  | cons pair pairs induction =>
      rw [List.foldl_cons, ← batch.store_add]
      exact induction (batch.add pair.1 pair.2)

theorem store_loadBatch (store : Store) (pairs : List (String × String)) :
    (store.loadBatch pairs).store =
      pairs.foldl (fun store pair => (store.load pair.1 pair.2).store) store :=
  Batch.store_addAll ⟨store, [], [], []⟩ pairs

end Rulebook.Store

import Rulebook.Execution

/-!
A store of compiled rules by name. Operations that can be refused leave a refused store unchanged.
-/

namespace Rulebook

structure Store where
  rules : Std.TreeMap String CompiledRule
  compiler : Compiler

namespace Store

def empty : Store := ⟨∅, {}⟩

structure Outcome (α : Type) where
  result : α
  store : Store
  log : List Log.Entry

private def report (level : Log.Level) (message : String) : Log.Entry := ⟨level, message, []⟩

def size (store : Store) : Nat := store.rules.size

def isEmpty (store : Store) : Bool := store.rules.isEmpty

def contains (store : Store) (name : String) : Bool := store.rules.contains name

def get? (store : Store) (name : String) : Option CompiledRule := store.rules[name]?

def names (store : Store) : List String := store.rules.keys

def load (store : Store) (name source : String) : Outcome (Except RuleError Unit) :=
  match store.compiler.compile name source with
  | .error error => ⟨.error error, store, []⟩
  | .ok (rule, compiler) =>
    ⟨.ok (), ⟨store.rules.insert name rule, compiler⟩, [report .info s!"规则已加载: {name}"]⟩

def update (store : Store) (name source : String) : Outcome (Except RuleError Unit) :=
  if store.contains name then store.load name source
  else ⟨.error (.ruleNotFound name), store, [report .warn s!"更新不存在的规则: {name}"]⟩

def delete (store : Store) (name : String) : Outcome (Except RuleError Unit) :=
  if store.contains name then
    ⟨.ok (), { store with rules := store.rules.erase name }, [report .info s!"规则已删除: {name}"]⟩
  else ⟨.error (.ruleNotFound name), store, [report .warn s!"删除不存在的规则: {name}"]⟩

/-- Removes all rules. Version numbers go on from where they were. -/
def clear (store : Store) : Outcome Unit :=
  ⟨(), { store with rules := ∅ }, [report .info s!"已清空 {store.size} 条规则"]⟩

structure Batch where
  store : Store
  loaded : List String
  refused : List (String × RuleError)
  log : List Log.Entry

def Batch.add (batch : Batch) (name source : String) : Batch :=
  let outcome := batch.store.load name source
  let log := batch.log ++ outcome.log
  match outcome.result with
  | .ok () => { batch with store := outcome.store, loaded := batch.loaded ++ [name], log }
  | .error error =>
    { batch with store := outcome.store, refused := batch.refused ++ [(name, error)], log }

def describeRefused (refused : List (String × RuleError)) : String :=
  let pairs := refused.map fun (name, error) =>
    "(" ++ Text.quoted name ++ ", " ++ error.describe ++ ")"
  "[" ++ ", ".intercalate pairs ++ "]"

def Batch.addAll (batch : Batch) (pairs : List (String × String)) : Batch :=
  pairs.foldl (fun (batch : Batch) (name, source) => batch.add name source) batch

/-- Loads pairs of names and sources in order. A refused pair does not disturb the others; the names
of the loaded ones are returned. -/
def loadBatch (store : Store) (pairs : List (String × String)) : Outcome (List String) :=
  let batch := Batch.addAll ⟨store, [], [], []⟩ pairs
  let failures :=
    if batch.refused.isEmpty then []
    else [report .warn s!"批量加载部分失败: {describeRefused batch.refused}"]
  let summary :=
    report .info s!"批量加载完成: {batch.loaded.length} 成功, {batch.refused.length} 失败"
  ⟨batch.loaded, batch.store, batch.log ++ failures ++ [summary]⟩

def evaluate (store : Store) (name : String) (context : Context) (executor : Executor) :
    Except RuleError Report :=
  match store.get? name with
  | some rule => .ok (executor.execute rule context)
  | none => .error (.ruleNotFound name)

structure Statistics where
  rules : Nat
  alwaysTrue : Nat
  fields : Nat
  deriving DecidableEq, Repr

def Statistics.averageFields (statistics : Statistics) : Number :=
  if statistics.rules = 0 then .zero else .ofFraction statistics.fields statistics.rules

def statistics (store : Store) : Statistics where
  rules := store.size
  alwaysTrue := store.rules.values.countP fun compiled => compiled.rule.isAlwaysTrue
  fields := store.rules.values.foldr
    (fun compiled fields => compiled.requiredFields.size + fields) 0

end Store

end Rulebook

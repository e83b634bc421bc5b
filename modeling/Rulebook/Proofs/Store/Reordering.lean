import Mathlib.Data.List.Nodup
import Mathlib.Data.List.Sort
import Rulebook.Proofs.Store.Batch
import Rulebook.Proofs.Store.Refinement

/-!
Batches in another order. Pairs of different names lead to the same rules in whatever order they are
loaded; only the version numbers tell the orders apart.
-/

namespace Rulebook

def CompiledRule.unversioned (compiled : CompiledRule) : CompiledRule :=
  { compiled with version := 0 }

/-- What is compiled from a pair of a name and a source, but for the version number. -/
def Compiler.blueprint? (pair : String × String) : Option CompiledRule :=
  (compile {} pair.1 pair.2).toOption.map fun result => result.1.unversioned

theorem Compiler.compile_cases (compiler : Compiler) (pair : String × String) :
    (∃ error, compiler.compile pair.1 pair.2 = .error error ∧ blueprint? pair = none) ∨
      ∃ compiled, compiler.compile pair.1 pair.2 = .ok (compiled, ⟨compiler.accepted + 1⟩) ∧
        blueprint? pair = some compiled.unversioned := by
  unfold blueprint? compile
  split
  · exact .inl ⟨_, rfl, rfl⟩
  · cases Rule.read pair.2 with
    | error error => exact .inl ⟨error, rfl, rfl⟩
    | ok rule => exact .inr ⟨_, rfl, rfl⟩

namespace Store

structure Unversioned where
  rules : String → Option CompiledRule
  accepted : Nat

def unversioned (store : Store) : Unversioned where
  rules name := (store.get? name).map CompiledRule.unversioned
  accepted := store.compiler.accepted

namespace Unversioned

def load (held : Unversioned) (pair : String × String) : Unversioned :=
  match Compiler.blueprint? pair with
  | none => held
  | some compiled => ⟨Function.update held.rules pair.1 (some compiled), held.accepted + 1⟩

theorem load_comm {first second : String × String} (different : first.1 ≠ second.1)
    (held : Unversioned) : (held.load first).load second = (held.load second).load first := by
  rw [load, load, load, load]
  cases Compiler.blueprint? first with
  | none => rfl
  | some compiled =>
      cases Compiler.blueprint? second with
      | none => rfl
      | some other => simp only [Function.update_comm different]

theorem foldl_load_of_perm {first second : List (String × String)} (perm : first.Perm second)
    (distinct : (first.map Prod.fst).Nodup) (held : Unversioned) :
    first.foldl load held = second.foldl load held := by
  apply perm.foldl_eq'
  intro pair member other otherMember held
  by_cases same : pair.1 = other.1
  · -- No name occurs twice, so that this is a pair and itself.
    rw [List.inj_on_of_nodup_map distinct member otherMember same]
  · exact held.load_comm same

end Unversioned

theorem unversioned_load (store : Store) (pair : String × String) :
    (store.load pair.1 pair.2).store.unversioned = store.unversioned.load pair := by
  rw [load, Unversioned.load]
  rcases store.compiler.compile_cases pair with ⟨error, refused, none⟩ | ⟨compiled, accepted, some⟩
  · rw [refused, none]
  · rw [accepted, some]
    simp only [unversioned, Unversioned.mk.injEq, and_true]
    funext name
    rw [get?_insert]
    by_cases same : pair.1 = name
    · subst same
      simp
    · rw [if_neg same, Function.update_of_ne (Ne.symm same)]

theorem unversioned_loadBatch (store : Store) (pairs : List (String × String)) :
    (store.loadBatch pairs).store.unversioned = pairs.foldl Unversioned.load store.unversioned := by
  rw [store_loadBatch]
  induction pairs generalizing store with
  | nil => rfl
  | cons pair pairs induction => rw [List.foldl_cons, List.foldl_cons, induction, unversioned_load]

/-- The stores differ in nothing but the version numbers of their rules: they show the same rules
and run them alike, and have accepted equally many. -/
structure SameButVersions (first second : Store) : Prop where
  names : first.names = second.names
  rules (name : String) : (first.get? name).map CompiledRule.unversioned =
    (second.get? name).map CompiledRule.unversioned
  accepted : first.compiler.accepted = second.compiler.accepted
  evaluate (name : String) (context : Context) (executor : Executor) :
    first.evaluate name context executor = second.evaluate name context executor

theorem names_eq_of_contains {first second : Store}
    (same : ∀ name, first.contains name = second.contains name) : first.names = second.names := by
  apply first.pairwise_lt_names.eq_of_mem_iff second.pairwise_lt_names
  intro name
  rw [mem_names_iff, mem_names_iff, same]

theorem contains_eq_isSome_rules (store : Store) (name : String) :
    store.contains name = (store.unversioned.rules name).isSome := by
  rw [contains_eq_isSome_get?, unversioned, Option.isSome_map]

theorem evaluate_eq_match_rules (store : Store) (name : String) (context : Context)
    (executor : Executor) :
    store.evaluate name context executor =
      match store.unversioned.rules name with
      | some compiled => .ok (executor.execute compiled context)
      | none => .error (.ruleNotFound name) := by
  simp only [Store.evaluate, unversioned]
  cases store.get? name <;> rfl

theorem sameButVersions_of_unversioned {first second : Store}
    (same : first.unversioned = second.unversioned) : first.SameButVersions second where
  names := by
    apply names_eq_of_contains
    intro name
    rw [contains_eq_isSome_rules, contains_eq_isSome_rules, same]
  rules := congrFun (congrArg Unversioned.rules same)
  accepted := congrArg Unversioned.accepted same
  evaluate name context executor := by
    rw [evaluate_eq_match_rules, evaluate_eq_match_rules, same]

theorem accepts_iff_result_load (store : Store) (pair : String × String) :
    Compiler.accepts pair = true ↔ (store.load pair.1 pair.2).result = .ok () := by
  cases accepted : Compiler.accepts pair with
  | false =>
      rcases Compiler.exists_refusal?_of_accepts_eq_false accepted with ⟨error, refusal⟩
      simp [load_of_refusal? refusal]
  | true =>
      rcases load_of_accepts accepted store with ⟨compiled, loaded, -⟩
      simp [loaded]

/-- A batch answers with the names of the accepted pairs in their order. Without the refused pairs
the answer and the store are the same, and a refused pair leaves all rules as they are. Pairs of
different names may be loaded in any order: only the version numbers depend on it. -/
theorem loadBatch_without_refused_in_any_order (store : Store) :
    (∀ (pair : String × String) (other : Store),
      Compiler.accepts pair = true ↔ (other.load pair.1 pair.2).result = .ok ()) ∧
      (∀ pairs : List (String × String),
        let accepted := pairs.filter Compiler.accepts
        (store.loadBatch pairs).result = accepted.map Prod.fst ∧
          (store.loadBatch accepted).result = (store.loadBatch pairs).result ∧
          (store.loadBatch accepted).store = (store.loadBatch pairs).store ∧
          ∀ pair, Compiler.accepts pair = false →
            (store.loadBatch (pairs ++ [pair])).store = (store.loadBatch pairs).store) ∧
      ∀ first second : List (String × String), first.Perm second →
        (first.map Prod.fst).Nodup →
          (store.loadBatch first).store.SameButVersions (store.loadBatch second).store := by
  refine ⟨fun pair other => other.accepts_iff_result_load pair, ?_, ?_⟩
  · intro pairs accepted
    refine ⟨store.result_loadBatch pairs, ?_, store.store_loadBatch_filter pairs, ?_⟩
    · rw [result_loadBatch, result_loadBatch, List.filter_filter]
      simp only [Bool.and_self]
    · intro pair refused
      rw [store_loadBatch, store_loadBatch, List.foldl_append]
      exact store_load_of_accepts_eq_false refused _
  · intro first second perm distinct
    apply sameButVersions_of_unversioned
    rw [unversioned_loadBatch, unversioned_loadBatch,
      Unversioned.foldl_load_of_perm perm distinct]

theorem loadBatch_without_refused_in_any_order_swapped :
    let store := run [.load "tall" "height > 180"]
    let wide := ("wide", "width > 90")
    let tall := ("tall", "height > 190")
    let first := [wide, tall]
    let second := [tall, wide]
    Compiler.accepts ("tall", "height <") = false ∧
      (store.loadBatch [wide, ("tall", "height <")]).store = (store.loadBatch [wide]).store ∧
      (store.loadBatch first).store.SameButVersions (store.loadBatch second).store ∧
      ((store.loadBatch first).store.get? "tall").map (·.version) = some 3 ∧
      ((store.loadBatch second).store.get? "tall").map (·.version) = some 2 := by
  intro store wide tall first second
  rcases loadBatch_without_refused_in_any_order store with ⟨-, refusedLeaves, anyOrder⟩
  have refused : Compiler.accepts ("tall", "height <") = false := by decide +kernel
  have distinct : (first.map Prod.fst).Nodup := by decide
  exact ⟨refused, (refusedLeaves [wide]).2.2.2 _ refused,
    anyOrder first second (.swap tall wide []) distinct, by decide +kernel, by decide +kernel⟩

end Store

end Rulebook

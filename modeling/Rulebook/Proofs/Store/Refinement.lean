import Rulebook.Proofs.Store.Catalogue

/-!
A store refines a map from names to sources: it changes as the map does, refuses what the map
refuses, and what it shows is a function of the map.
-/

namespace Rulebook.Store

/-- The rules of the store are those that the sources of the catalogue compile to. -/
def Refines (store : Store) (catalogue : Catalogue) : Prop :=
  ∀ name, Option.Rel (fun compiled source => compiled.IsFor name source)
    (store.get? name) (catalogue name)

structure Shows (store : Store) (catalogue : Catalogue) : Prop where
  get? (name : String) : Option.Rel (fun compiled source => compiled.IsFor name source)
    (store.get? name) (catalogue name)
  contains (name : String) : store.contains name = (catalogue name).isSome
  /-- The names are in ascending order and without repetition. -/
  ascending_names : store.names.Pairwise (· < ·)
  mem_names_iff (name : String) : name ∈ store.names ↔ (catalogue name).isSome
  size : store.size = store.names.length
  statistics : store.statistics = catalogue.figures store.names
  /-- Any rule compiled from the source reports what the stored one does. -/
  evaluate (name source : String) (context : Context) (executor : Executor)
    (compiled : CompiledRule) : catalogue name = some source → compiled.IsFor name source →
    store.evaluate name context executor = .ok (executor.execute compiled context)

/-! ## Changes -/

namespace Refines

variable {store : Store} {catalogue : Catalogue}

theorem contains (refines : store.Refines catalogue) (name : String) :
    store.contains name = (catalogue name).isSome := by
  have related := refines name
  rw [contains_eq_isSome_get?]
  cases found : store.get? name <;> cases listed : catalogue name <;>
    simp [found, listed] at related ⊢

theorem insert (refines : store.Refines catalogue) {compiled : CompiledRule}
    {name source : String} (isFor : compiled.IsFor name source) (compiler : Compiler) :
    Refines ⟨store.rules.insert name compiled, compiler⟩
      (Function.update catalogue name (some source)) := by
  intro other
  rw [get?_insert]
  by_cases same : name = other
  · subst same
    simpa using isFor
  · rw [if_neg same, Function.update_of_ne (Ne.symm same)]
    exact refines other

theorem erase (refines : store.Refines catalogue) (name : String) :
    Refines { store with rules := store.rules.erase name }
      (Function.update catalogue name none) := by
  intro other
  rw [get?_erase]
  by_cases same : name = other
  · subst same
    simp
  · rw [if_neg same, Function.update_of_ne (Ne.symm same)]
    exact refines other

theorem load (refines : store.Refines catalogue) (name source : String) :
    (store.load name source).store.Refines (catalogue.load name source) := by
  rw [Catalogue.load]
  cases refusal : Compiler.refusal? name source with
  | some error =>
      rw [load_of_refusal? refusal]
      exact refines
  | none =>
      rcases load_of_refusal?_eq_none refusal store with ⟨compiled, -, stored, -, isFor⟩
      rw [stored]
      exact refines.insert isFor _

theorem loadBatch (refines : store.Refines catalogue) (pairs : List (String × String)) :
    (store.loadBatch pairs).store.Refines
      (pairs.foldl (fun catalogue pair => catalogue.load pair.1 pair.2) catalogue) := by
  rw [store_loadBatch]
  induction pairs generalizing store catalogue with
  | nil => exact refines
  | cons pair pairs induction => exact induction (refines.load pair.1 pair.2)

theorem perform (refines : store.Refines catalogue) (operation : Operation) :
    (store.perform operation).store.Refines (catalogue.step operation) := by
  have sameNames := refines.contains
  cases operation with
  | load name source => exact refines.load name source
  | update name source =>
      show (store.update name source).store.Refines _
      rw [Catalogue.step, Store.update, sameNames]
      split
      · exact refines.load name source
      · exact refines
  | delete name =>
      show (store.delete name).store.Refines _
      rw [Catalogue.step, Store.delete]
      split
      · exact refines.erase name
      · next absent =>
          rw [sameNames, Option.not_isSome_iff_eq_none] at absent
          rw [← absent, Function.update_eq_self]
          exact refines
  | loadBatch pairs => exact refines.loadBatch pairs
  | clear =>
      intro name
      simp [Store.perform, Store.clear, Store.get?, Outcome.answer, Catalogue.step, Catalogue.empty]
  | _ => exact refines

end Refines

/-! ## Observations -/

private theorem values_eq_map_toList (rules : Std.TreeMap String CompiledRule) :
    rules.values = rules.toList.map Prod.snd := by
  show Std.DTreeMap.Internal.Impl.values _ = List.map _ (Std.DTreeMap.Internal.Impl.Const.toList _)
  rw [Std.DTreeMap.Internal.Impl.values_eq_map_snd,
    Std.DTreeMap.Internal.Impl.Const.toList_eq_toListModel_map, List.map_map]
  rfl

theorem pairwise_lt_names (store : Store) : store.names.Pairwise (· < ·) := by
  have ordered : store.names.Pairwise fun left right => compare left right = .lt :=
    Std.TreeMap.ordered_keys
  exact ordered.imp compareOfLessAndEq_eq_lt.mp

theorem mem_names_iff (store : Store) (name : String) :
    name ∈ store.names ↔ store.contains name = true := by
  rw [names, Std.TreeMap.mem_keys, contains, Std.TreeMap.contains_iff_mem]

namespace Refines

variable {store : Store} {catalogue : Catalogue}

theorem exists_source (refines : store.Refines catalogue) {name : String}
    {compiled : CompiledRule} (found : store.get? name = some compiled) :
    ∃ source, catalogue name = some source ∧ compiled.IsFor name source := by
  have related := refines name
  cases listed : catalogue name with
  | none => simp [found, listed] at related
  | some source => exact ⟨source, rfl, by simpa [found, listed] using related⟩

theorem exists_compiled (refines : store.Refines catalogue) {name source : String}
    (listed : catalogue name = some source) :
    ∃ compiled, store.get? name = some compiled ∧ compiled.IsFor name source := by
  have related := refines name
  cases found : store.get? name with
  | none => simp [found, listed] at related
  | some compiled => exact ⟨compiled, rfl, by simpa [found, listed] using related⟩

theorem tree?_eq (refines : store.Refines catalogue) {name : String} {compiled : CompiledRule}
    (found : store.get? name = some compiled) : catalogue.tree? name = compiled.rule.tree := by
  rcases refines.exists_source found with ⟨source, listed, isFor⟩
  simp [Catalogue.tree?, listed, isFor.read_source, Except.toOption]

theorem fieldCount_eq (refines : store.Refines catalogue) {name : String}
    {compiled : CompiledRule} (found : store.get? name = some compiled) :
    catalogue.fieldCount name = compiled.requiredFields.size := by
  rcases refines.exists_source found with ⟨source, listed, isFor⟩
  rw [Catalogue.fieldCount, refines.tree?_eq found, isFor.size_requiredFields]

theorem statistics (refines : store.Refines catalogue) :
    store.statistics = catalogue.figures store.names := by
  have foundEntry : ∀ entry ∈ store.rules.toList, store.get? entry.1 = some entry.2 := by
    intro entry member
    exact Std.TreeMap.mem_toList_iff_getElem?_eq_some.mp member
  -- Both sides are brought to the entries of the map, of which the names are the keys.
  rw [Store.statistics, Catalogue.figures, names, ← Std.TreeMap.map_fst_toList_eq_keys,
    values_eq_map_toList, List.length_map, Std.TreeMap.length_toList, List.countP_map,
    List.countP_map, List.map_map, List.foldr_map, List.foldr_map]
  congr 1
  · apply List.countP_congr
    intro entry member
    simp [Rule.isAlwaysTrue, refines.tree?_eq (foundEntry entry member)]
  · apply List.foldr_ext
    intro entry member fields
    simp [refines.fieldCount_eq (foundEntry entry member)]

theorem shows (refines : store.Refines catalogue) : store.Shows catalogue where
  get? := refines
  contains := refines.contains
  ascending_names := store.pairwise_lt_names
  mem_names_iff name := by rw [Store.mem_names_iff, refines.contains]
  size := Std.TreeMap.length_keys.symm
  statistics := refines.statistics
  evaluate name source context executor compiled listed isFor := by
    rcases refines.exists_compiled listed with ⟨stored, found, storedIsFor⟩
    rw [Store.evaluate, found]
    exact congrArg Except.ok (storedIsFor.execute_eq isFor executor context)

end Refines

/-! ## Refusals -/

theorem error?_load (store : Store) (name source : String) :
    ((store.load name source).answer .changed).result.error? = Compiler.refusal? name source := by
  cases refusal : Compiler.refusal? name source with
  | some error =>
      rw [load_of_refusal? refusal]
      rfl
  | none =>
      rcases load_of_refusal?_eq_none refusal store with ⟨compiled, loaded, -⟩
      rw [Outcome.answer, loaded]
      rfl

namespace Refines

variable {store : Store} {catalogue : Catalogue}

theorem error?_perform (refines : store.Refines catalogue) (operation : Operation) :
    (store.perform operation).result.error? = catalogue.refusal? operation := by
  cases operation with
  | load name source => exact store.error?_load name source
  | update name source =>
      rw [Store.perform, Catalogue.refusal?, Catalogue.absence?, ← refines.contains]
      cases present : store.contains name with
      | true =>
          rw [update_of_contains present, error?_load]
          rfl
      | false =>
          rw [Outcome.answer, (update_of_contains_eq_false present source).1]
          rfl
  | delete name =>
      rw [Store.perform, Catalogue.refusal?, Catalogue.absence?, ← refines.contains, Store.delete]
      cases store.contains name <;> rfl
  | evaluate name context executor =>
      rw [Store.perform, Catalogue.refusal?, Catalogue.absence?, ← refines.contains, Store.evaluate,
        contains_eq_isSome_get?]
      cases store.get? name <;> rfl
  | _ => rfl

theorem store_perform_of_refusal? (refines : store.Refines catalogue) {operation : Operation}
    {error : RuleError} (refused : catalogue.refusal? operation = some error) :
    (store.perform operation).store = store := by
  cases operation with
  | load name source =>
      rw [Store.perform, load_of_refusal? refused]
      rfl
  | update name source =>
      rw [Catalogue.refusal?, Catalogue.absence?, ← refines.contains] at refused
      cases present : store.contains name with
      | true =>
          have refusal : Compiler.refusal? name source = some error := by
            simpa [present] using refused
          rw [Store.perform, update_of_contains present, load_of_refusal? refusal]
          rfl
      | false => exact (update_of_contains_eq_false present source).2
  | delete name =>
      rw [Catalogue.refusal?, Catalogue.absence?, ← refines.contains] at refused
      cases present : store.contains name with
      | true => simp [present] at refused
      | false => exact (delete_of_contains_eq_false present).2
  | evaluate name context executor => rfl
  | _ => contradiction

end Refines

/-! ## Runs -/

theorem refines_empty : empty.Refines Catalogue.empty := by
  intro name
  simp [empty, get?, Catalogue.empty]

theorem Refines.foldl {store : Store} {catalogue : Catalogue} (refines : store.Refines catalogue)
    (operations : List Operation) :
    Refines (operations.foldl (fun store operation => (store.perform operation).store) store)
      (operations.foldl Catalogue.step catalogue) := by
  induction operations generalizing store catalogue with
  | nil => exact refines
  | cons operation operations induction => exact induction (refines.perform operation)

theorem run_refines (operations : List Operation) :
    (run operations).Refines (Catalogue.run operations) :=
  refines_empty.foldl operations

/-- After any operations the store shows the catalogue that they lead to. The next operation is
refused exactly if the catalogue refuses it, and then changes neither of the two. -/
theorem run_follows_catalogue (operations : List Operation) :
    let store := run operations
    let catalogue := Catalogue.run operations
    store.Shows catalogue ∧ ∀ operation,
      let outcome := store.perform operation
      outcome.result.error? = catalogue.refusal? operation ∧
        (catalogue.refusal? operation ≠ none →
          outcome.store = store ∧ catalogue.step operation = catalogue) := by
  intro store catalogue
  have refines : store.Refines catalogue := run_refines operations
  refine ⟨refines.shows, fun operation => ⟨refines.error?_perform operation, fun isRefused => ?_⟩⟩
  rcases Option.ne_none_iff_exists'.mp isRefused with ⟨error, refused⟩
  exact ⟨refines.store_perform_of_refusal? refused, Catalogue.step_of_refusal? refused⟩

theorem run_follows_catalogue_update_absent :
    let store := run [.load "tall" "height > 180"]
    let outcome := store.perform (.update "small" "height <")
    outcome.result.error? = some (.ruleNotFound "small") ∧ outcome.store = store := by
  intro store outcome
  have refused : (Catalogue.run [.load "tall" "height > 180"]).refusal?
      (.update "small" "height <") = some (.ruleNotFound "small") := by decide +kernel
  rcases run_follows_catalogue [.load "tall" "height > 180"] with ⟨_, follows⟩
  rcases follows (.update "small" "height <") with ⟨sameError, unchanged⟩
  have isRefused := refused ▸ Option.some_ne_none (RuleError.ruleNotFound "small")
  exact ⟨sameError.trans refused, (unchanged isRefused).1⟩

end Rulebook.Store

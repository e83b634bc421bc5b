import Rulebook.Proofs.Store.Batch
import Rulebook.Proofs.Store.Refinement

/-!
Version numbers. They number the accepted loads of a store: every rule has the number of the load
that it comes from, refused loads have none, and removing rules gives no number back.
-/

namespace Rulebook

/-! ## Accepted loads -/

namespace Store.Operation

def loads : Operation → List (String × String)
  | load name source | update name source => [(name, source)]
  | loadBatch pairs => pairs
  | _ => []

def reportedLoads : Operation → Answer → List String
  | load name _, .changed (.ok ()) | update name _, .changed (.ok ()) => [name]
  | loadBatch _, .loaded loaded => loaded
  | _, _ => []

theorem reportedLoads_of_error? {operation : Operation} {answer : Answer} {error : RuleError}
    (refused : answer.error? = some error) : operation.reportedLoads answer = [] := by
  unfold Answer.error? at refused
  split at refused
  · cases operation <;> rfl
  · cases operation <;> rfl
  · contradiction

end Store.Operation

namespace Catalogue

open Store (Operation)

def acceptedLoads (catalogue : Catalogue) (operation : Operation) : List (String × String) :=
  match catalogue.refusal? operation with
  | some _ => []
  | none => operation.loads.filter Compiler.accepts

theorem accepts_of_mem_acceptedLoads {catalogue : Catalogue} {operation : Operation}
    {pair : String × String} (member : pair ∈ catalogue.acceptedLoads operation) :
    Compiler.accepts pair = true := by
  rw [acceptedLoads] at member
  split at member
  · contradiction
  · exact (List.mem_filter.mp member).2

def history (catalogue : Catalogue) : List Operation → List (String × String)
  | [] => []
  | operation :: later =>
      catalogue.acceptedLoads operation ++ (catalogue.step operation).history later

theorem history_append (catalogue : Catalogue) (earlier later : List Operation) :
    catalogue.history (earlier ++ later) =
      catalogue.history earlier ++ (earlier.foldl step catalogue).history later := by
  induction earlier generalizing catalogue with
  | nil => rfl
  | cons operation earlier induction =>
      rw [List.cons_append, history, history, induction, List.foldl_cons, List.append_assoc]

end Catalogue

/-! ## Latest loads -/

/-- Of the loads of a name the latest has this source, and this number among all loads. -/
def IsLatest (loads : List (String × String)) (name source : String) (number : Nat) : Prop :=
  ∃ earlier later, loads = earlier ++ (name, source) :: later ∧ number = earlier.length + 1 ∧
    name ∉ later.map Prod.fst

namespace IsLatest

variable {loads later : List (String × String)} {name source : String} {number : Nat}

theorem concat (loads : List (String × String)) (name source : String) :
    IsLatest (loads ++ [(name, source)]) name source (loads.length + 1) :=
  ⟨loads, [], rfl, rfl, List.not_mem_nil⟩

theorem append (isLatest : IsLatest loads name source number)
    (absent : name ∉ later.map Prod.fst) : IsLatest (loads ++ later) name source number := by
  rcases isLatest with ⟨earlier, between, rfl, isNumber, notBetween⟩
  refine ⟨earlier, between ++ later, by simp, isNumber, ?_⟩
  rw [List.map_append, List.mem_append, not_or]
  exact ⟨notBetween, absent⟩

theorem getElem? (isLatest : IsLatest loads name source number) :
    0 < number ∧ loads[number - 1]? = some (name, source) := by
  rcases isLatest with ⟨earlier, later, rfl, rfl, -⟩
  simp

theorem name_eq {other otherSource : String} (isLatest : IsLatest loads name source number)
    (isOther : IsLatest loads other otherSource number) : name = other := by
  have same := isLatest.getElem?.2.symm.trans isOther.getElem?.2
  rw [Option.some.injEq, Prod.mk.injEq] at same
  exact same.1

theorem length_lt_of_mem (isLatest : IsLatest (loads ++ later) name source number)
    (loaded : name ∈ later.map Prod.fst) : loads.length < number := by
  rcases isLatest with ⟨earlier, rest, parts, rfl, notLater⟩
  rw [Nat.lt_add_one_iff]
  by_contra shorter
  -- Otherwise all later loads would stand after the latest load of the name.
  have isLater : later <:+ rest := by
    have ends : later <:+ earlier ++ (name, source) :: rest :=
      parts ▸ List.suffix_append loads later
    have restEnds : rest <:+ earlier ++ (name, source) :: rest :=
      ⟨earlier ++ [(name, source)], by simp⟩
    apply List.suffix_of_suffix_length_le ends restEnds
    have lengths := congrArg List.length parts
    simp only [List.length_append, List.length_cons] at lengths
    omega
  apply notLater
  exact (isLater.map Prod.fst).subset loaded

end IsLatest

namespace Store

/-! ## One operation -/

section

variable {store : Store} {catalogue : Catalogue}

theorem Refines.contains_of_absence? (refines : store.Refines catalogue) {name : String}
    (present : catalogue.absence? name = none) : store.contains name = true := by
  rw [Catalogue.absence?] at present
  rw [refines.contains]
  split at present
  · assumption
  · contradiction

theorem Refines.update_eq_load (refines : store.Refines catalogue) {name source : String}
    (accepted : catalogue.refusal? (.update name source) = none) :
    store.update name source = store.load name source ∧ Compiler.refusal? name source = none := by
  rcases Option.or_eq_none_iff.mp accepted with ⟨present, isRule⟩
  exact ⟨update_of_contains (refines.contains_of_absence? present) source, isRule⟩

theorem Refines.reportedLoads_perform (refines : store.Refines catalogue) (operation : Operation) :
    operation.reportedLoads (store.perform operation).result =
      (catalogue.acceptedLoads operation).map Prod.fst := by
  cases refusal : catalogue.refusal? operation with
  | some error =>
      rw [← refines.error?_perform] at refusal
      rw [Catalogue.acceptedLoads, ← refines.error?_perform, refusal]
      exact Operation.reportedLoads_of_error? refusal
  | none =>
      simp only [Catalogue.acceptedLoads, refusal]
      cases operation with
      | load name source =>
          have accepted : Compiler.accepts (name, source) = true :=
            Compiler.accepts_iff_refusal?_eq_none.mpr refusal
          rcases load_of_accepts accepted store with ⟨-, loaded, -⟩
          simp [Store.perform, Outcome.answer, loaded, Operation.reportedLoads, Operation.loads,
            accepted]
      | update name source =>
          rcases refines.update_eq_load refusal with ⟨sameOutcome, isRule⟩
          have accepted : Compiler.accepts (name, source) = true :=
            Compiler.accepts_iff_refusal?_eq_none.mpr isRule
          rcases load_of_accepts accepted store with ⟨-, loaded, -⟩
          simp [Store.perform, sameOutcome, Outcome.answer, loaded, Operation.reportedLoads,
            Operation.loads, accepted]
      | loadBatch pairs => exact store.result_loadBatch pairs
      | _ => rfl

/-- An operation takes rules away, or none, and then loads what is accepted. -/
theorem Refines.exists_kept (refines : store.Refines catalogue) (operation : Operation) :
    ∃ kept : Store, kept.compiler = store.compiler ∧
      (∀ name compiled, kept.get? name = some compiled → store.get? name = some compiled) ∧
      (store.perform operation).store =
        (kept.loadBatch (catalogue.acceptedLoads operation)).store := by
  cases refusal : catalogue.refusal? operation with
  | some error =>
      rw [Catalogue.acceptedLoads, refusal]
      exact ⟨store, rfl, fun _ _ found => found, refines.store_perform_of_refusal? refusal⟩
  | none =>
      simp only [Catalogue.acceptedLoads, refusal, store_loadBatch_filter]
      cases operation with
      | load name source =>
          exact ⟨store, rfl, fun _ _ found => found, (store.store_loadBatch [(name, source)]).symm⟩
      | update name source =>
          refine ⟨store, rfl, fun _ _ found => found, ?_⟩
          rw [Store.perform, (refines.update_eq_load refusal).1]
          exact (store.store_loadBatch [(name, source)]).symm
      | delete name =>
          refine ⟨⟨store.rules.erase name, store.compiler⟩, rfl, ?_, ?_⟩
          · intro other compiled found
            rw [get?_erase] at found
            split at found
            · contradiction
            · exact found
          · rw [Store.perform, delete, if_pos (refines.contains_of_absence? refusal)]
            rfl
      | clear => exact ⟨⟨∅, store.compiler⟩, rfl, by simp [get?], rfl⟩
      | _ => exact ⟨store, rfl, fun _ _ found => found, rfl⟩

theorem Refines.contains_perform_of_mem (refines : store.Refines catalogue)
    {operation : Operation} {name : String}
    (loaded : name ∈ (catalogue.acceptedLoads operation).map Prod.fst) :
    (store.perform operation).store.contains name = true := by
  rcases refines.exists_kept operation with ⟨kept, -, -, stored⟩
  rw [stored]
  apply contains_loadBatch fun pair => Catalogue.accepts_of_mem_acceptedLoads
  exact .inl loaded

end

/-! ## Numbered stores -/

/-- The loads are the ones that a store has accepted so far: it has counted them, and each of its
rules comes from the latest load of its name and has that load's number. -/
structure Numbered (store : Store) (loads : List (String × String)) : Prop where
  accepted_eq : store.compiler.accepted = loads.length
  isLatest (name : String) (compiled : CompiledRule) : store.get? name = some compiled →
    IsLatest loads name compiled.source compiled.version

theorem numbered_empty : empty.Numbered [] := by
  refine ⟨rfl, ?_⟩
  intro name compiled found
  simp [empty, get?] at found

namespace Numbered

variable {store kept : Store} {loads : List (String × String)}

theorem of_kept (numbered : store.Numbered loads) (sameCompiler : kept.compiler = store.compiler)
    (isKept : ∀ name compiled, kept.get? name = some compiled → store.get? name = some compiled) :
    kept.Numbered loads where
  accepted_eq := sameCompiler ▸ numbered.accepted_eq
  isLatest name compiled found := numbered.isLatest name compiled (isKept name compiled found)

theorem load (numbered : store.Numbered loads) {pair : String × String}
    (accepted : Compiler.accepts pair = true) :
    (store.load pair.1 pair.2).store.Numbered (loads ++ [pair]) := by
  rcases load_of_accepts accepted store with ⟨compiled, -, stored, version, isFor⟩
  constructor
  case accepted_eq => simp [stored, numbered.accepted_eq]
  case isLatest =>
    intro name other found
    by_cases same : name = pair.1
    · rw [stored, get?_insert, if_pos same.symm] at found
      cases found
      rw [same, version, isFor.source_eq, numbered.accepted_eq]
      exact IsLatest.concat loads pair.1 pair.2
    · rw [get?_load_of_ne fun _ => same] at found
      apply (numbered.isLatest name other found).append
      simpa using same

theorem loadBatch (numbered : store.Numbered loads) {pairs : List (String × String)}
    (accepted : ∀ pair ∈ pairs, Compiler.accepts pair = true) :
    (store.loadBatch pairs).store.Numbered (loads ++ pairs) := by
  rw [store_loadBatch]
  induction pairs generalizing store loads with
  | nil => simpa using numbered
  | cons pair pairs induction =>
      rw [List.forall_mem_cons] at accepted
      simpa using induction (numbered.load accepted.1) accepted.2

theorem perform (numbered : store.Numbered loads) {catalogue : Catalogue}
    (refines : store.Refines catalogue) (operation : Operation) :
    (store.perform operation).store.Numbered (loads ++ catalogue.acceptedLoads operation) := by
  rcases refines.exists_kept operation with ⟨kept, sameCompiler, isKept, stored⟩
  rw [stored]
  apply (numbered.of_kept sameCompiler isKept).loadBatch
  exact fun pair => Catalogue.accepts_of_mem_acceptedLoads

theorem foldl (numbered : store.Numbered loads) {catalogue : Catalogue}
    (refines : store.Refines catalogue) (operations : List Operation) :
    Numbered (operations.foldl (fun store operation => (store.perform operation).store) store)
      (loads ++ catalogue.history operations) := by
  induction operations generalizing store catalogue loads with
  | nil => simpa [Catalogue.history] using numbered
  | cons operation operations induction =>
      rw [Catalogue.history, ← List.append_assoc]
      exact induction (numbered.perform refines operation) (refines.perform operation)

end Numbered

theorem run_numbered (operations : List Operation) :
    (run operations).Numbered (Catalogue.empty.history operations) :=
  numbered_empty.foldl refines_empty operations

/-! ## Later operations -/

theorem Refines.get?_of_foldl {store : Store} {catalogue : Catalogue}
    (refines : store.Refines catalogue) {operations : List Operation} {name : String}
    {compiled : CompiledRule} (notLoaded : name ∉ (catalogue.history operations).map Prod.fst)
    (found : get? (operations.foldl (fun store operation => (store.perform operation).store) store)
      name = some compiled) : store.get? name = some compiled := by
  induction operations generalizing store catalogue with
  | nil => exact found
  | cons operation operations induction =>
      rw [Catalogue.history, List.map_append, List.mem_append, not_or] at notLoaded
      rcases refines.exists_kept operation with ⟨kept, -, isKept, stored⟩
      have foundNext := induction (refines.perform operation) notLoaded.2 found
      rw [stored, get?_loadBatch_of_notMem notLoaded.1] at foundNext
      exact isKept name compiled foundNext

theorem run_append (operations later : List Operation) :
    run (operations ++ later) =
      later.foldl (fun store operation => (store.perform operation).store) (run operations) :=
  List.foldl_append

/-- The accepted loads are numbered in their order. An operation counts as many as its answer
reports, and leaves a rule for each of the names. A rule has the number of the load that it comes
from, the latest of its name. So rules of different names have different numbers, and a name that is
loaded later, over a rule or after its removal, gets a number above all those given before. -/
theorem run_numbers_loads (operations : List Operation) :
    let store := run operations
    let catalogue := Catalogue.run operations
    let loads := Catalogue.empty.history operations
    store.compiler.accepted = loads.length ∧
      (∀ operation,
        let reported := operation.reportedLoads (store.perform operation).result
        reported = (catalogue.acceptedLoads operation).map Prod.fst ∧
          (store.perform operation).store.compiler.accepted =
            store.compiler.accepted + reported.length ∧
          ∀ name ∈ reported, (store.perform operation).store.contains name = true) ∧
      (∀ name compiled, store.get? name = some compiled →
        IsLatest loads name compiled.source compiled.version) ∧
      (∀ name other compiled otherCompiled, store.get? name = some compiled →
        store.get? other = some otherCompiled → name ≠ other →
          compiled.version ≠ otherCompiled.version) ∧
      ∀ later name compiled, (run (operations ++ later)).get? name = some compiled →
        (name ∈ (catalogue.history later).map Prod.fst → loads.length < compiled.version) ∧
          (name ∉ (catalogue.history later).map Prod.fst → store.get? name = some compiled) := by
  intro store catalogue loads
  have refines : store.Refines catalogue := run_refines operations
  have numbered : store.Numbered loads := run_numbered operations
  refine ⟨numbered.accepted_eq, ?_, numbered.isLatest, ?_, ?_⟩
  · intro operation reported
    have isReported : reported = (catalogue.acceptedLoads operation).map Prod.fst :=
      refines.reportedLoads_perform operation
    have counted := (numbered.perform refines operation).accepted_eq
    rw [List.length_append, ← numbered.accepted_eq] at counted
    rw [isReported, List.length_map]
    exact ⟨rfl, counted, fun name => refines.contains_perform_of_mem⟩
  · intro name other compiled otherCompiled found otherFound different sameVersion
    apply different
    apply (numbered.isLatest name compiled found).name_eq
    rw [sameVersion]
    exact numbered.isLatest other otherCompiled otherFound
  · intro later name compiled found
    constructor
    · intro loaded
      have isLatest := (run_numbered (operations ++ later)).isLatest name compiled found
      rw [Catalogue.history_append] at isLatest
      exact isLatest.length_lt_of_mem loaded
    · intro notLoaded
      rw [run_append] at found
      exact refines.get?_of_foldl notLoaded found

theorem run_numbers_loads_again :
    let operations : List Operation :=
      [.load "tall" "height > 180", .load " " "height > 0",
        .loadBatch [("small", "height < 150"), ("tall", "height >"), ("small", "")],
        .delete "tall"]
    let later : List Operation := [.load "tall" "height > 180"]
    Catalogue.empty.history operations =
        [("tall", "height > 180"), ("small", "height < 150"), ("small", "")] ∧
      (run (operations ++ later)).contains "tall" = true ∧
      ∀ compiled, (run (operations ++ later)).get? "tall" = some compiled →
        3 < compiled.version := by
  intro operations later
  have counted : Catalogue.empty.history operations =
      [("tall", "height > 180"), ("small", "height < 150"), ("small", "")] := by decide +kernel
  have loaded : "tall" ∈ ((Catalogue.run operations).history later).map Prod.fst := by
    decide +kernel
  rcases run_numbers_loads operations with ⟨-, -, -, -, above⟩
  rw [counted] at above
  refine ⟨counted, by decide +kernel, ?_⟩
  intro compiled found
  exact (above later "tall" compiled found).1 loaded

end Store

end Rulebook

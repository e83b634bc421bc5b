import Rulebook.Proofs.Store.Catalogue

/-!
Batches of loads. A batch answers with the names of the accepted pairs and leaves the store that
these pairs alone lead to; names that none of them has keep what they had.
-/

namespace Rulebook

namespace Store

theorem load_of_accepts {pair : String × String} (accepted : Compiler.accepts pair = true)
    (store : Store) :
    ∃ compiled, (store.load pair.1 pair.2).result = .ok () ∧
      (store.load pair.1 pair.2).store =
        ⟨store.rules.insert pair.1 compiled, ⟨store.compiler.accepted + 1⟩⟩ ∧
      compiled.version = store.compiler.accepted + 1 ∧ compiled.IsFor pair.1 pair.2 :=
  load_of_refusal?_eq_none (Compiler.accepts_iff_refusal?_eq_none.mp accepted) store

theorem store_load_of_accepts_eq_false {pair : String × String}
    (refused : Compiler.accepts pair = false) (store : Store) :
    (store.load pair.1 pair.2).store = store := by
  rcases Compiler.exists_refusal?_of_accepts_eq_false refused with ⟨error, refusal⟩
  rw [load_of_refusal? refusal]

theorem contains_load {pair : String × String} (accepted : Compiler.accepts pair = true)
    {store : Store} {name : String} (present : name = pair.1 ∨ store.contains name = true) :
    (store.load pair.1 pair.2).store.contains name = true := by
  rcases load_of_accepts accepted store with ⟨compiled, -, stored, -, -⟩
  rw [stored, contains, Std.TreeMap.contains_insert, Bool.or_eq_true]
  apply present.imp_left
  rintro rfl
  simp

theorem get?_load_of_ne {pair : String × String} {name : String}
    (other : Compiler.accepts pair = true → name ≠ pair.1) (store : Store) :
    (store.load pair.1 pair.2).store.get? name = store.get? name := by
  cases accepted : Compiler.accepts pair with
  | false => rw [store_load_of_accepts_eq_false accepted]
  | true =>
      rcases load_of_accepts accepted store with ⟨compiled, -, stored, -, -⟩
      rw [stored, get?_insert, if_neg (other accepted).symm]

/-! ## Whole batches -/

theorem Batch.loaded_add (batch : Batch) (pair : String × String) :
    (batch.add pair.1 pair.2).loaded =
      batch.loaded ++ if Compiler.accepts pair then [pair.1] else [] := by
  cases accepted : Compiler.accepts pair with
  | false =>
      rcases Compiler.exists_refusal?_of_accepts_eq_false accepted with ⟨error, refusal⟩
      simp [add, load_of_refusal? refusal]
  | true =>
      rcases load_of_accepts accepted batch.store with ⟨compiled, loaded, -, -, -⟩
      simp [add, loaded]

theorem Batch.loaded_addAll (batch : Batch) (pairs : List (String × String)) :
    (batch.addAll pairs).loaded =
      batch.loaded ++ (pairs.filter Compiler.accepts).map Prod.fst := by
  induction pairs generalizing batch with
  | nil => simp [addAll]
  | cons pair pairs induction =>
      have later := induction (batch.add pair.1 pair.2)
      rw [batch.loaded_add] at later
      rw [addAll, List.foldl_cons]
      rw [addAll] at later
      rw [later, List.filter_cons]
      split <;> simp_all

theorem result_loadBatch (store : Store) (pairs : List (String × String)) :
    (store.loadBatch pairs).result = (pairs.filter Compiler.accepts).map Prod.fst :=
  Batch.loaded_addAll ⟨store, [], [], []⟩ pairs

theorem store_loadBatch_filter (store : Store) (pairs : List (String × String)) :
    (store.loadBatch (pairs.filter Compiler.accepts)).store = (store.loadBatch pairs).store := by
  rw [store_loadBatch, store_loadBatch]
  induction pairs generalizing store with
  | nil => rfl
  | cons pair pairs induction =>
      cases accepted : Compiler.accepts pair with
      | false =>
          rw [List.filter_cons_of_neg (by simp [accepted]), List.foldl_cons,
            store_load_of_accepts_eq_false accepted, induction]
      | true => rw [List.filter_cons_of_pos accepted, List.foldl_cons, List.foldl_cons, induction]

theorem get?_loadBatch_of_notMem {pairs : List (String × String)} {name : String}
    (absent : name ∉ pairs.map Prod.fst) (store : Store) :
    (store.loadBatch pairs).store.get? name = store.get? name := by
  rw [store_loadBatch]
  induction pairs generalizing store with
  | nil => rfl
  | cons pair pairs induction =>
      rw [List.map_cons, List.mem_cons, not_or] at absent
      rw [List.foldl_cons, induction absent.2, get?_load_of_ne fun _ => absent.1]

theorem contains_loadBatch {pairs : List (String × String)}
    (accepted : ∀ pair ∈ pairs, Compiler.accepts pair = true) {store : Store} {name : String}
    (present : name ∈ pairs.map Prod.fst ∨ store.contains name = true) :
    (store.loadBatch pairs).store.contains name = true := by
  rw [store_loadBatch]
  induction pairs generalizing store with
  | nil => exact present.resolve_left List.not_mem_nil
  | cons pair pairs induction =>
      rw [List.forall_mem_cons] at accepted
      rw [List.map_cons, List.mem_cons, or_right_comm, or_comm] at present
      exact induction accepted.2 (present.imp_right (contains_load accepted.1))

end Store

/-! ## Catalogues after batches -/

namespace Catalogue

theorem load_of_ne {pair : String × String} {name : String}
    (other : Compiler.accepts pair = true → name ≠ pair.1) (catalogue : Catalogue) :
    catalogue.load pair.1 pair.2 name = catalogue name := by
  rw [load]
  cases refusal : Compiler.refusal? pair.1 pair.2 with
  | some error => rfl
  | none =>
      have accepted := Compiler.accepts_iff_refusal?_eq_none.mpr refusal
      exact Function.update_of_ne (other accepted) _ _

theorem load_of_accepts {pair : String × String} (accepted : Compiler.accepts pair = true)
    (catalogue : Catalogue) : catalogue.load pair.1 pair.2 pair.1 = some pair.2 := by
  rw [load, Compiler.accepts_iff_refusal?_eq_none.mp accepted]
  exact Function.update_self ..

theorem foldl_load_of_notMem {pairs : List (String × String)} {name : String}
    (absent : name ∉ (pairs.filter Compiler.accepts).map Prod.fst) (catalogue : Catalogue) :
    pairs.foldl (fun catalogue pair => catalogue.load pair.1 pair.2) catalogue name =
      catalogue name := by
  induction pairs generalizing catalogue with
  | nil => rfl
  | cons pair pairs induction =>
      have later : name ∉ (pairs.filter Compiler.accepts).map Prod.fst := by
        intro member
        apply absent
        exact ((List.sublist_cons_self pair pairs).filter _).map _ |>.subset member
      have other : Compiler.accepts pair = true → name ≠ pair.1 := by
        rintro accepted rfl
        apply absent
        rw [List.filter_cons_of_pos accepted]
        exact List.mem_cons_self
      rw [List.foldl_cons, induction later, load_of_ne other]

theorem foldl_load_of_mem {pairs : List (String × String)}
    (distinct : (pairs.map Prod.fst).Nodup) {pair : String × String} (member : pair ∈ pairs)
    (accepted : Compiler.accepts pair = true) (catalogue : Catalogue) :
    pairs.foldl (fun catalogue pair => catalogue.load pair.1 pair.2) catalogue pair.1 =
      some pair.2 := by
  rcases List.append_of_mem member with ⟨earlier, later, rfl⟩
  rw [List.map_append, List.map_cons, List.nodup_append, List.nodup_cons] at distinct
  rcases distinct with ⟨-, ⟨notLater, -⟩, -⟩
  have notAcceptedLater : pair.1 ∉ (later.filter Compiler.accepts).map Prod.fst := by
    intro isLater
    exact notLater ((List.filter_sublist.map _).subset isLater)
  rw [List.foldl_append, List.foldl_cons, foldl_load_of_notMem notAcceptedLater,
    load_of_accepts accepted]

theorem foldl_load_eq_some_iff {pairs : List (String × String)}
    (distinct : (pairs.map Prod.fst).Nodup) {name source : String} :
    pairs.foldl (fun catalogue pair => catalogue.load pair.1 pair.2) empty name = some source ↔
      (name, source) ∈ pairs ∧ Compiler.accepts (name, source) = true := by
  constructor
  · intro listed
    have loaded : name ∈ (pairs.filter Compiler.accepts).map Prod.fst := by
      by_contra notLoaded
      rw [foldl_load_of_notMem notLoaded] at listed
      contradiction
    rcases List.mem_map.mp loaded with ⟨pair, isAccepted, rfl⟩
    rcases List.mem_filter.mp isAccepted with ⟨member, accepted⟩
    rw [foldl_load_of_mem distinct member accepted, Option.some.injEq] at listed
    subst listed
    exact ⟨member, accepted⟩
  · rintro ⟨member, accepted⟩
    exact foldl_load_of_mem distinct member accepted empty

end Catalogue

end Rulebook

/-!
Computations that can fail, opened one step at a time.
-/

namespace Rulebook

theorem ok_bind {α β ε : Type} (value : α) (next : α → Except ε β) :
    Except.ok value >>= next = next value := rfl

theorem error_bind {α β ε : Type} (error : ε) (next : α → Except ε β) :
    Except.error error >>= next = .error error := rfl

theorem bind_eq_ok_iff {α β ε : Type} {first : Except ε α} {next : α → Except ε β} {result : β} :
    first >>= next = .ok result ↔ ∃ value, first = .ok value ∧ next value = .ok result := by
  cases first <;> simp [bind, Except.bind]

theorem bind_eq_error_iff {α β ε : Type} {first : Except ε α} {next : α → Except ε β} {error : ε} :
    first >>= next = .error error ↔
      first = .error error ∨ ∃ value, first = .ok value ∧ next value = .error error := by
  cases first <;> simp [bind, Except.bind]

theorem mapM_eq_ok_map {α β ε : Type} {compute : α → Except ε β} {result : α → β}
    {items : List α} (computes : ∀ item ∈ items, compute item = .ok (result item)) :
    items.mapM compute = .ok (items.map result) := by
  induction items with
  | nil => rfl
  | cons item items induction =>
      rw [List.forall_mem_cons] at computes
      rw [List.mapM_cons, computes.1, ok_bind, induction computes.2]
      rfl

theorem map_eq_map_some_iff {α β ε : Type} {first : Except ε α} {translate : α → Option β}
    {second : Except ε β} :
    first.map translate = second.map some ↔
      (∃ value other, first = .ok value ∧ translate value = some other ∧ second = .ok other) ∨
        ∃ error, first = .error error ∧ second = .error error := by
  cases first <;> cases second <;> simp [Except.map, eq_comm]

/-- Where each item agrees up to the translation, the lists of results do so. -/
theorem mapM_map_eq_map_some {α β ε ι : Type} {first : ι → Except ε α} {translate : α → Option β}
    {second : ι → Except ε β} {items : List ι}
    (agree : ∀ item ∈ items, (first item).map translate = (second item).map some) :
    (items.mapM first).map (·.mapM translate) = (items.mapM second).map some := by
  induction items with
  | nil => rfl
  | cons item items induction =>
      rw [List.forall_mem_cons] at agree
      rw [List.mapM_cons, List.mapM_cons]
      rcases map_eq_map_some_iff.mp agree.1 with
        ⟨value, other, isValue, isOther, isSecond⟩ | ⟨error, failed, sameError⟩
      · rw [isValue, isSecond, ok_bind, ok_bind]
        rcases map_eq_map_some_iff.mp (induction agree.2) with
          ⟨values, others, areValues, areOthers, areSecond⟩ | ⟨error, failed, sameError⟩
        · rw [areValues, areSecond]
          simp [ok_bind, Except.map, isOther, areOthers, pure, Except.pure]
        · rw [failed, sameError]
          rfl
      · rw [failed, sameError]
        rfl

theorem exists_eq_ok {α ε : Type} {result : Except ε α} (isOk : result.isOk) :
    ∃ value, result = .ok value := by
  cases result with
  | ok value => exact ⟨value, rfl⟩
  | error => contradiction

end Rulebook

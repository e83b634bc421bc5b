import Rulebook.Proofs.Token.Unmatched

/-!
The partner of an opening parenthesis in a longer list of tokens. Its group stays as it is if tokens
are added after it, and balanced tokens in the group may be exchanged for others.
-/

namespace Rulebook.Token

theorem closingIndex?_append_of_eq_none {depth : Nat} {front : List Token}
    (missing : closingIndex? depth front = none) (rest : List Token) :
    closingIndex? depth (front ++ rest) =
      (closingIndex? (depth + front.count opening - front.count closing) rest).map
        (· + front.length) := by
  induction front generalizing depth with
  | nil => simp
  | cons token front induction =>
      rw [List.cons_append]
      cases token using parenthesisCases with
      | opening =>
          have missingLater : closingIndex? (depth + 1) front = none := by
            simpa [closingIndex?] using missing
          rw [closingIndex?, induction missingLater, Option.map_map]
          simp [Function.comp_def, Nat.add_assoc, Nat.add_comm 1]
      | closing =>
          cases depth with
          | zero => simp [closingIndex?] at missing
          | succ depth =>
              have missingLater : closingIndex? depth front = none := by
                simpa [closingIndex?] using missing
              rw [closingIndex?, induction missingLater, Option.map_map,
                ← Nat.add_sub_add_right _ 1]
              simp [Function.comp_def, Nat.add_assoc, Nat.add_comm 1]
      | plain token plain =>
          rw [closingIndex?_cons_of_isPlain plain] at missing ⊢
          have missingLater : closingIndex? depth front = none := by simpa using missing
          rw [induction missingLater, Option.map_map]
          simp [Function.comp_def, Nat.add_assoc, plain.1, plain.2]

theorem count_closing_of_completedFrom {inner : Nat} {front : List Token}
    (closed : completedFrom inner front = front) :
    front.count closing = inner + front.count opening := by
  induction front generalizing inner with
  | nil =>
      have noGroup : inner = 0 := by simpa using closed
      simp [noGroup]
  | cons token front induction =>
      cases token using parenthesisCases with
      | opening =>
          rw [completedFrom_opening, List.cons.injEq] at closed
          simp [induction closed.2, Nat.add_assoc, Nat.add_comm 1]
      | closing =>
          cases inner with
          | zero => simp at closed
          | succ inner =>
              rw [completedFrom_succ_closing, List.cons.injEq] at closed
              simp [induction closed.2, Nat.add_right_comm]
      | plain token plain =>
          rw [completedFrom_cons_of_isPlain plain, List.cons.injEq] at closed
          simp [induction closed.2, plain.1, plain.2]

theorem Balanced.count_closing {tokens : List Token} (balanced : Balanced tokens) :
    tokens.count closing = tokens.count opening := by
  simpa using count_closing_of_completedFrom (balanced_iff.mp balanced)

theorem Balanced.closingIndex?_append {group : List Token} (balanced : Balanced group)
    (depth : Nat) (rest : List Token) :
    closingIndex? depth (group ++ rest) = (closingIndex? depth rest).map (· + group.length) := by
  have noneClosed : closingIndex? depth group = none := by
    have count : unmatchedClosings group = 0 := by
      simpa [unmatchedClosings] using balanced.unmatchedClosings_append []
    rw [closingIndex?_eq_none_iff, count]
    exact Nat.zero_le depth
  rw [closingIndex?_append_of_eq_none noneClosed, balanced.count_closing, Nat.add_sub_cancel]

/-- A group that is not closed before two balanced lists ends at the same place after them. -/
theorem exists_cut {front left right : List Token} (missing : closingIndex? 0 front = none)
    (leftBalanced : Balanced left) (rightBalanced : Balanced right) (rest : List Token) :
    ∃ cut, cut <+: rest ∧
      inside (front ++ left ++ rest) = front ++ left ++ cut ∧
      inside (front ++ right ++ rest) = front ++ right ++ cut ∧
      afterGroup (front ++ left ++ rest) = afterGroup (front ++ right ++ rest) := by
  have index (middle : List Token) (balanced : Balanced middle) :
      closingIndex? 0 (front ++ middle ++ rest) =
        (closingIndex? (0 + front.count opening - front.count closing) rest).map
          (· + (front ++ middle).length) := by
    rw [List.append_assoc, closingIndex?_append_of_eq_none missing, balanced.closingIndex?_append,
      Option.map_map]
    simp [Function.comp_def, Nat.add_assoc, Nat.add_comm front.length]
  simp only [inside, afterGroup, index left leftBalanced, index right rightBalanced]
  cases closingIndex? (0 + front.count opening - front.count closing) rest with
  | none => exact ⟨rest, List.prefix_refl rest, rfl, rfl, rfl⟩
  | some place =>
      have parts (middle : List Token) :
          (front ++ middle ++ rest).take (place + (front ++ middle).length) =
              front ++ middle ++ rest.take place ∧
            (front ++ middle ++ rest).drop (place + (front ++ middle).length + 1) =
              rest.drop (place + 1) := by
        rw [Nat.add_right_comm, Nat.add_comm, Nat.add_comm (place + 1),
          List.take_length_add_append, List.drop_length_add_append]
        exact ⟨rfl, rfl⟩
      exact ⟨rest.take place, List.take_prefix place rest, (parts left).1, (parts right).1,
        (parts left).2.trans (parts right).2.symm⟩

theorem inside_append_of_eq_some {index : Nat} {front : List Token}
    (found : closingIndex? 0 front = some index) (rest : List Token) :
    inside (front ++ rest) = inside front ∧
      afterGroup (front ++ rest) = afterGroup front ++ rest := by
  obtain ⟨closed, parts⟩ := completedFrom_take_of_closingIndex? found
  have balanced := balanced_iff.mpr closed
  have short := inside_append balanced (front.drop (index + 1))
  have long := inside_append balanced (front.drop (index + 1) ++ rest)
  rw [← List.cons_append, ← List.append_assoc, ← parts] at long
  rw [← parts] at short
  rw [long.1, long.2, short.1, short.2]
  exact ⟨rfl, rfl⟩

end Rulebook.Token

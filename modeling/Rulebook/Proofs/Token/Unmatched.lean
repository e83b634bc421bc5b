import Rulebook.Proofs.Token.Balance

/-!
Parentheses without a partner, and what they leave of a list of tokens: the tokens up to the first
closing one that ends no group, or else all tokens, with every group left open closed at the end.
-/

namespace Rulebook.Token

/-! ## Partners -/

/-- The tokens after an opening parenthesis hold its partner: a closing one, such that every
parenthesis between the two has a partner there. -/
def HasPartner (rest : List Token) : Prop :=
  ∃ group after, rest = group ++ closing :: after ∧ Balanced group

def unmatchedClosings : List Token → Nat
  | [] => 0
  | opening :: rest => unmatchedClosings rest - 1
  | closing :: rest => unmatchedClosings rest + 1
  | _ :: rest => unmatchedClosings rest

@[simp] theorem unmatchedClosings_cons_of_isPlain {token : Token} (plain : token.IsPlain)
    (rest : List Token) : unmatchedClosings (token :: rest) = unmatchedClosings rest := by
  rcases plain with ⟨notOpening, notClosing⟩
  rw [unmatchedClosings] <;> simp_all

theorem isSome_closingIndex?_iff {depth : Nat} {tokens : List Token} :
    (closingIndex? depth tokens).isSome = true ↔ depth < unmatchedClosings tokens := by
  induction tokens generalizing depth with
  | nil => simp [closingIndex?, unmatchedClosings]
  | cons token rest induction =>
      cases token using parenthesisCases with
      | opening =>
          rw [closingIndex?, Option.isSome_map, induction, unmatchedClosings]
          omega
      | closing =>
          cases depth with
          | zero => simp [closingIndex?, unmatchedClosings]
          | succ depth =>
              rw [closingIndex?, Option.isSome_map, induction, unmatchedClosings]
              omega
      | plain token plain =>
          rw [closingIndex?_cons_of_isPlain plain, Option.isSome_map, induction,
            unmatchedClosings_cons_of_isPlain plain]

theorem closingIndex?_eq_none_iff {depth : Nat} {tokens : List Token} :
    closingIndex? depth tokens = none ↔ unmatchedClosings tokens ≤ depth := by
  rw [← Option.not_isSome_iff_eq_none, isSome_closingIndex?_iff, Nat.not_lt]

theorem unmatchedClosings_append {inner : Nat} {front : List Token}
    (closed : completedFrom inner front = front) (rest : List Token) :
    unmatchedClosings (front ++ rest) = inner + unmatchedClosings rest := by
  induction front generalizing inner with
  | nil =>
      have noGroup : inner = 0 := by simpa using closed
      simp [noGroup]
  | cons token front induction =>
      rw [List.cons_append]
      cases token using parenthesisCases with
      | opening =>
          rw [completedFrom_opening, List.cons.injEq] at closed
          rw [unmatchedClosings, induction closed.2]
          omega
      | closing =>
          cases inner with
          | zero => simp at closed
          | succ inner =>
              rw [completedFrom_succ_closing, List.cons.injEq] at closed
              rw [unmatchedClosings, induction closed.2]
              omega
      | plain token plain =>
          rw [completedFrom_cons_of_isPlain plain, List.cons.injEq] at closed
          rw [unmatchedClosings_cons_of_isPlain plain, induction closed.2]

theorem Balanced.unmatchedClosings_append {front : List Token} (balanced : Balanced front)
    (rest : List Token) : unmatchedClosings (front ++ rest) = unmatchedClosings rest := by
  simpa using Token.unmatchedClosings_append (balanced_iff.mp balanced) rest

theorem hasPartner_iff {rest : List Token} : HasPartner rest ↔ 0 < unmatchedClosings rest := by
  constructor
  · rintro ⟨group, after, rfl, balanced⟩
    rw [balanced.unmatchedClosings_append, unmatchedClosings]
    exact Nat.succ_pos _
  · intro positive
    rcases Option.isSome_iff_exists.mp (isSome_closingIndex?_iff.mpr positive) with ⟨index, found⟩
    rcases completedFrom_take_of_closingIndex? found with ⟨closed, parts⟩
    exact ⟨_, _, parts, balanced_iff.mpr closed⟩

instance (rest : List Token) : Decidable (HasPartner rest) := decidable_of_iff _ hasPartner_iff.symm

def unmatchedOpenings : List Token → Nat
  | [] => 0
  | opening :: rest =>
      if HasPartner rest then unmatchedOpenings rest else unmatchedOpenings rest + 1
  | _ :: rest => unmatchedOpenings rest

example : unmatchedOpenings [opening, opening, closing, closing, closing, opening] = 1 := by decide

theorem unmatchedOpenings_cons_of_ne {token : Token} (notOpening : token ≠ opening)
    (rest : List Token) : unmatchedOpenings (token :: rest) = unmatchedOpenings rest := by
  rw [unmatchedOpenings]
  exact notOpening

theorem inside_append {group : List Token} (balanced : Balanced group) (rest : List Token) :
    inside (group ++ closing :: rest) = group ∧ afterGroup (group ++ closing :: rest) = rest := by
  have partner : HasPartner (group ++ closing :: rest) := ⟨group, rest, rfl, balanced⟩
  rw [hasPartner_iff, ← isSome_closingIndex?_iff] at partner
  rcases Option.isSome_iff_exists.mp partner with ⟨index, found⟩
  rcases completedFrom_take_of_closingIndex? found with ⟨closed, parts⟩
  rcases balanced.append_closing_inj (balanced_iff.mpr closed) parts with ⟨sameGroup, sameRest⟩
  rw [inside, afterGroup, found]
  exact ⟨sameGroup.symm, sameRest.symm⟩

/-! ## Settled tokens -/

/-- What matters of the tokens after `depth` open groups: all up to the first closing parenthesis
that ends no group, this one included. Without such a parenthesis these are all tokens, with one
closing parenthesis more for every group left open. -/
def settledFrom : Nat → List Token → List Token
  | depth, [] => List.replicate depth closing
  | 0, closing :: _ => [closing]
  | depth + 1, closing :: rest => closing :: settledFrom depth rest
  | depth, opening :: rest => opening :: settledFrom (depth + 1) rest
  | depth, token :: rest => token :: settledFrom depth rest

def settled (tokens : List Token) : List Token := settledFrom 0 tokens

example : settled [opening, closing, closing, opening] = [opening, closing, closing] := rfl

example : settled [opening, opening, closing] = [opening, opening, closing, closing] := rfl

theorem settledFrom_cons_of_isPlain {token : Token} (plain : token.IsPlain) (depth : Nat)
    (rest : List Token) : settledFrom depth (token :: rest) = token :: settledFrom depth rest := by
  rcases plain with ⟨notOpening, notClosing⟩
  rw [settledFrom] <;> simp_all

theorem settledFrom_replicate_closing (depth : Nat) :
    settledFrom depth (List.replicate depth closing) = List.replicate depth closing := by
  induction depth with
  | zero => rfl
  | succ depth induction => rw [List.replicate_succ, settledFrom, induction]

theorem settledFrom_eq (depth : Nat) (tokens : List Token) :
    settledFrom depth tokens =
      completedFrom depth tokens ++
        if depth < unmatchedClosings tokens then [closing] else [] := by
  induction tokens generalizing depth with
  | nil => simp [settledFrom, unmatchedClosings]
  | cons token rest induction =>
      cases token using parenthesisCases with
      | opening =>
          simp [settledFrom, unmatchedClosings, induction, Nat.lt_sub_iff_add_lt]
      | closing => cases depth <;> simp [settledFrom, unmatchedClosings, induction]
      | plain token plain =>
          simp [settledFrom_cons_of_isPlain plain, completedFrom_cons_of_isPlain plain, plain,
            induction]

theorem settled_eq (tokens : List Token) :
    settled tokens =
      completed tokens ++ if 0 < unmatchedClosings tokens then [closing] else [] := by
  rw [settled, settledFrom_eq, completedFrom_zero]

@[simp] theorem settled_nil : settled [] = [] := rfl

@[simp] theorem settled_closing (rest : List Token) : settled (closing :: rest) = [closing] := rfl

theorem settled_cons_of_isPlain {token : Token} (plain : token.IsPlain) (rest : List Token) :
    settled (token :: rest) = token :: settled rest :=
  settledFrom_cons_of_isPlain plain 0 rest

theorem unmatchedClosings_afterGroup (rest : List Token) :
    unmatchedClosings (afterGroup rest) = unmatchedClosings rest - 1 := by
  cases partner : closingIndex? 0 rest with
  | none =>
      have noPartner := closingIndex?_eq_none_iff.mp partner
      rw [afterGroup, partner, unmatchedClosings]
      omega
  | some index =>
      rcases completedFrom_take_of_closingIndex? partner with ⟨closed, parts⟩
      have count := (balanced_iff.mpr closed).unmatchedClosings_append
        (closing :: rest.drop (index + 1))
      rw [← parts, unmatchedClosings] at count
      rw [afterGroup, partner, count, Nat.add_sub_cancel]

theorem unmatchedClosings_inside (rest : List Token) : unmatchedClosings (inside rest) = 0 := by
  cases partner : closingIndex? 0 rest with
  | none =>
      rw [inside, partner]
      exact Nat.le_zero.mp (closingIndex?_eq_none_iff.mp partner)
  | some index =>
      have balanced := balanced_iff.mpr (completedFrom_take_of_closingIndex? partner).1
      rw [inside, partner]
      simpa [unmatchedClosings] using balanced.unmatchedClosings_append []

theorem settled_inside (rest : List Token) : settled (inside rest) = completed (inside rest) := by
  simp [settled_eq, unmatchedClosings_inside]

theorem settled_opening (rest : List Token) :
    settled (opening :: rest) =
      opening :: (completed (inside rest) ++ closing :: settled (afterGroup rest)) := by
  rw [settled_eq, settled_eq, unmatchedClosings_afterGroup, completed_opening, unmatchedClosings]
  simp

theorem head?_settled (tokens : List Token) : (settled tokens).head? = tokens.head? := by
  cases tokens with
  | nil => rfl
  | cons token rest =>
      cases token using parenthesisCases with
      | opening => rfl
      | closing => rfl
      | plain token plain => rw [settled_cons_of_isPlain plain]; rfl

/-! ## Tokens that settle alike -/

theorem settledFrom_append_replicate (depth : Nat) (tokens : List Token) :
    settledFrom depth (tokens ++
        List.replicate (unmatchedOpenings tokens + (depth - unmatchedClosings tokens)) closing) =
      settledFrom depth tokens := by
  induction tokens generalizing depth with
  | nil => simpa [unmatchedOpenings, unmatchedClosings, settledFrom] using
      settledFrom_replicate_closing depth
  | cons token rest induction =>
      rw [List.cons_append]
      cases token using parenthesisCases with
      | opening =>
          have sameCount :
              unmatchedOpenings (opening :: rest) +
                  (depth - unmatchedClosings (opening :: rest)) =
                unmatchedOpenings rest + (depth + 1 - unmatchedClosings rest) := by
            simp only [unmatchedOpenings, unmatchedClosings, hasPartner_iff]
            split <;> omega
          rw [sameCount, settledFrom, settledFrom, induction]
      | closing =>
          cases depth with
          | zero => rfl
          | succ depth =>
              rw [unmatchedOpenings_cons_of_ne (by decide), unmatchedClosings,
                Nat.add_sub_add_right, settledFrom, settledFrom, induction]
      | plain token plain =>
          rw [unmatchedOpenings_cons_of_ne plain.1, unmatchedClosings_cons_of_isPlain plain,
            settledFrom_cons_of_isPlain plain, settledFrom_cons_of_isPlain plain, induction]

theorem settled_append_replicate (tokens : List Token) :
    settled (tokens ++ List.replicate (unmatchedOpenings tokens) closing) = settled tokens := by
  simpa [settled] using settledFrom_append_replicate 0 tokens

theorem settledFrom_take (depth : Nat) (tokens : List Token) :
    settledFrom depth (tokens.take ((readableFrom depth tokens).length + 1)) =
      settledFrom depth tokens := by
  induction tokens generalizing depth with
  | nil => rfl
  | cons token rest induction =>
      cases token using parenthesisCases with
      | opening => simp [readableFrom, settledFrom, induction]
      | closing => cases depth <;> simp [readableFrom, settledFrom, induction]
      | plain token plain =>
          simp [readableFrom_cons_of_isPlain plain, settledFrom_cons_of_isPlain plain, induction]

theorem settled_take (tokens : List Token) :
    settled (tokens.take ((readable tokens).length + 1)) = settled tokens :=
  settledFrom_take 0 tokens

end Rulebook.Token

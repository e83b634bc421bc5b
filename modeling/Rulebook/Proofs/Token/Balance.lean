import Rulebook.Token.Grouping

/-!
Which parentheses of a list of tokens belong together. A closing parenthesis that ends no group ends
the readable part; a group left open at the end of that part is closed there.
-/

namespace Rulebook.Token

/-- The tokens before the first closing parenthesis that ends no group, where `depth` groups are
open before the first token. Without such a parenthesis these are all tokens. -/
def readableFrom : Nat → List Token → List Token
  | _, [] => []
  | 0, closing :: _ => []
  | depth + 1, closing :: rest => closing :: readableFrom depth rest
  | depth, opening :: rest => opening :: readableFrom (depth + 1) rest
  | depth, token :: rest => token :: readableFrom depth rest

def readable (tokens : List Token) : List Token := readableFrom 0 tokens

example : readable [opening, closing, closing, opening] = [opening, closing] := rfl

/-- The number of groups that are left open, among tokens of which each closing parenthesis ends a
group. -/
def unclosed (tokens : List Token) : Nat := tokens.count opening - tokens.count closing

/-- The readable tokens, with a closing parenthesis for every group left open. -/
def completed (tokens : List Token) : List Token :=
  readable tokens ++ List.replicate (unclosed (readable tokens)) closing

/-- Every parenthesis has its partner: there is nothing to cut off and nothing to add. -/
def Balanced (tokens : List Token) : Prop := completed tokens = tokens

instance (tokens : List Token) : Decidable (Balanced tokens) :=
  inferInstanceAs (Decidable (completed tokens = tokens))

/-! ## Plain tokens -/

def IsPlain (token : Token) : Prop := token ≠ opening ∧ token ≠ closing

theorem isPlain_of_operand? {token : Token} {text : String}
    (operand : token.operand? = some text) : token.IsPlain := by
  cases token <;> simp_all [operand?, IsPlain]

theorem isPlain_operator (sign : Operator) : (operator sign).IsPlain := by
  simp [IsPlain]

@[elab_as_elim]
theorem parenthesisCases {motive : Token → Prop} (token : Token) (opening : motive opening)
    (closing : motive closing) (plain : ∀ token, token.IsPlain → motive token) : motive token := by
  cases token with
  | opening => exact opening
  | closing => exact closing
  | word text => exact plain _ (by simp [IsPlain])
  | quoted quote content => exact plain _ (by simp [IsPlain])
  | operator sign => exact plain _ (isPlain_operator sign)

theorem readableFrom_cons_of_isPlain {token : Token} (plain : token.IsPlain) (depth : Nat)
    (rest : List Token) :
    readableFrom depth (token :: rest) = token :: readableFrom depth rest := by
  rcases plain with ⟨notOpening, notClosing⟩
  rw [readableFrom] <;> simp_all

theorem closingIndex?_cons_of_isPlain {token : Token} (plain : token.IsPlain) (depth : Nat)
    (rest : List Token) :
    closingIndex? depth (token :: rest) = (closingIndex? depth rest).map (· + 1) := by
  rcases plain with ⟨notOpening, notClosing⟩
  rw [closingIndex?] <;> simp_all

/-! ## Completion inside open groups -/

def completedFrom (depth : Nat) (tokens : List Token) : List Token :=
  let front := readableFrom depth tokens
  front ++ List.replicate (depth + front.count opening - front.count closing) closing

theorem completedFrom_zero (tokens : List Token) : completedFrom 0 tokens = completed tokens := by
  simp [completedFrom, completed, unclosed, readable]

@[simp] theorem completedFrom_nil (depth : Nat) :
    completedFrom depth [] = List.replicate depth closing := by
  simp [completedFrom, readableFrom]

@[simp] theorem completedFrom_zero_closing (rest : List Token) :
    completedFrom 0 (closing :: rest) = [] := by
  simp [completedFrom, readableFrom]

@[simp] theorem completedFrom_succ_closing (depth : Nat) (rest : List Token) :
    completedFrom (depth + 1) (closing :: rest) = closing :: completedFrom depth rest := by
  simp only [completedFrom, readableFrom, List.count_cons, List.cons_append]
  congr 3
  simp
  omega

@[simp] theorem completedFrom_opening (depth : Nat) (rest : List Token) :
    completedFrom depth (opening :: rest) = opening :: completedFrom (depth + 1) rest := by
  simp only [completedFrom, readableFrom, List.count_cons, List.cons_append]
  congr 3
  simp
  omega

theorem completedFrom_cons_of_isPlain {token : Token} (plain : token.IsPlain) (depth : Nat)
    (rest : List Token) :
    completedFrom depth (token :: rest) = token :: completedFrom depth rest := by
  simp [completedFrom, readableFrom_cons_of_isPlain plain, plain.1, plain.2]

@[simp] theorem completedFrom_replicate_closing (depth : Nat) :
    completedFrom depth (List.replicate depth closing) = List.replicate depth closing := by
  induction depth with
  | zero => rfl
  | succ depth induction => rw [List.replicate_succ, completedFrom_succ_closing, induction]

theorem completedFrom_completedFrom (depth : Nat) (tokens : List Token) :
    completedFrom depth (completedFrom depth tokens) = completedFrom depth tokens := by
  induction tokens generalizing depth with
  | nil => simp
  | cons token rest induction =>
      cases token using parenthesisCases with
      | opening => simp [induction]
      | closing => cases depth <;> simp [induction]
      | plain token plain => simp [completedFrom_cons_of_isPlain plain, induction]

/-- Tokens that end `inner` groups and leave none open are kept, and what follows is completed as if
it stood alone. -/
theorem completedFrom_append {inner : Nat} {front : List Token}
    (closed : completedFrom inner front = front) (depth : Nat) (rest : List Token) :
    completedFrom (inner + depth) (front ++ rest) = front ++ completedFrom depth rest := by
  induction front generalizing inner with
  | nil =>
      have noGroup : inner = 0 := by simpa using closed
      simp [noGroup]
  | cons token front induction =>
      rw [List.cons_append, List.cons_append]
      cases token using parenthesisCases with
      | opening =>
          rw [completedFrom_opening, List.cons.injEq] at closed
          rw [completedFrom_opening, Nat.add_right_comm, induction closed.2]
      | closing =>
          cases inner with
          | zero => simp at closed
          | succ inner =>
              rw [completedFrom_succ_closing, List.cons.injEq] at closed
              rw [Nat.add_right_comm, completedFrom_succ_closing, induction closed.2]
      | plain token plain =>
          rw [completedFrom_cons_of_isPlain plain, List.cons.injEq] at closed
          rw [completedFrom_cons_of_isPlain plain, induction closed.2]

theorem readableFrom_subset (depth : Nat) (tokens : List Token) :
    readableFrom depth tokens ⊆ tokens := by
  induction tokens generalizing depth with
  | nil => simp [readableFrom]
  | cons token rest induction =>
      cases token using parenthesisCases with
      | opening => exact List.cons_subset_cons _ (induction _)
      | closing =>
          cases depth with
          | zero => simp [readableFrom]
          | succ depth => exact List.cons_subset_cons _ (induction _)
      | plain token plain =>
          rw [readableFrom_cons_of_isPlain plain]
          exact List.cons_subset_cons _ (induction _)

theorem mem_or_eq_closing_of_mem_completed {token : Token} {tokens : List Token}
    (member : token ∈ completed tokens) : token ∈ tokens ∨ token = closing := by
  rcases List.mem_append.mp member with inFront | added
  · exact .inl (readableFrom_subset 0 tokens inFront)
  · exact .inr (List.eq_of_mem_replicate added)

/-! ## Balanced lists -/

theorem balanced_iff {tokens : List Token} : Balanced tokens ↔ completedFrom 0 tokens = tokens := by
  rw [Balanced, completedFrom_zero]

theorem balanced_completed (tokens : List Token) : Balanced (completed tokens) := by
  rw [balanced_iff, ← completedFrom_zero, completedFrom_completedFrom]

theorem balanced_nil : Balanced [] := rfl

namespace Balanced

theorem completedFrom_append {front : List Token} (balanced : Balanced front) (depth : Nat)
    (rest : List Token) :
    completedFrom depth (front ++ rest) = front ++ completedFrom depth rest := by
  simpa using Token.completedFrom_append (balanced_iff.mp balanced) depth rest

theorem append {front rest : List Token} (frontBalanced : Balanced front)
    (restBalanced : Balanced rest) : Balanced (front ++ rest) := by
  rw [balanced_iff] at restBalanced ⊢
  rw [frontBalanced.completedFrom_append, restBalanced]

theorem cons_of_isPlain {token : Token} {rest : List Token} (plain : token.IsPlain)
    (balanced : Balanced rest) : Balanced (token :: rest) := by
  rw [balanced_iff] at balanced ⊢
  rw [completedFrom_cons_of_isPlain plain, balanced]

theorem group {tokens : List Token} (balanced : Balanced tokens) :
    Balanced (opening :: tokens ++ [closing]) := by
  rw [balanced_iff, List.cons_append, completedFrom_opening, balanced.completedFrom_append]
  simp

theorem append_closing_inj {left right leftRest rightRest : List Token}
    (leftBalanced : Balanced left) (rightBalanced : Balanced right)
    (equal : left ++ closing :: leftRest = right ++ closing :: rightRest) :
    left = right ∧ leftRest = rightRest := by
  have same : left = right := by
    -- Completion cuts both sides off at the parenthesis that ends no group.
    have cut := congrArg (completedFrom 0) equal
    simpa [leftBalanced.completedFrom_append, rightBalanced.completedFrom_append] using cut
  subst same
  exact ⟨rfl, by simpa using equal⟩

end Balanced

/-! ## The partner of an opening parenthesis -/

/-- The partner of an opening parenthesis, with `inner` more groups open before the tokens: the
tokens before it end these groups and leave none open. -/
theorem completedFrom_take_of_closingIndex? {inner index : Nat} {tokens : List Token}
    (found : closingIndex? inner tokens = some index) :
    completedFrom inner (tokens.take index) = tokens.take index ∧
      tokens = tokens.take index ++ closing :: tokens.drop (index + 1) := by
  induction tokens generalizing inner index with
  | nil => simp [closingIndex?] at found
  | cons token rest induction =>
      cases token using parenthesisCases with
      | opening =>
          have foundLater : ∃ previous, closingIndex? (inner + 1) rest = some previous ∧
              previous + 1 = index := by
            simpa [closingIndex?] using found
          rcases foundLater with ⟨previous, earlier, rfl⟩
          simpa using induction earlier
      | closing =>
          cases inner with
          | zero =>
              have first : 0 = index := by simpa [closingIndex?] using found
              subst first
              simp
          | succ inner =>
              have foundLater : ∃ previous, closingIndex? inner rest = some previous ∧
                  previous + 1 = index := by
                simpa [closingIndex?] using found
              rcases foundLater with ⟨previous, earlier, rfl⟩
              simpa using induction earlier
      | plain token plain =>
          have foundLater : ∃ previous, closingIndex? inner rest = some previous ∧
              previous + 1 = index := by
            simpa [closingIndex?_cons_of_isPlain plain] using found
          rcases foundLater with ⟨previous, earlier, rfl⟩
          simpa [completedFrom_cons_of_isPlain plain] using induction earlier

/-- Without a partner all tokens are inside: the groups around them are closed at the very end. -/
theorem completedFrom_add_of_closingIndex?_eq_none {inner : Nat} {tokens : List Token}
    (missing : closingIndex? inner tokens = none) (depth : Nat) :
    completedFrom (inner + depth) tokens =
      completedFrom inner tokens ++ List.replicate depth closing := by
  induction tokens generalizing inner with
  | nil => simp
  | cons token rest induction =>
      cases token using parenthesisCases with
      | opening =>
          have missingLater : closingIndex? (inner + 1) rest = none := by
            simpa [closingIndex?] using missing
          simp [← induction missingLater, Nat.add_right_comm]
      | closing =>
          cases inner with
          | zero => simp [closingIndex?] at missing
          | succ inner =>
              have missingLater : closingIndex? inner rest = none := by
                simpa [closingIndex?] using missing
              simp [← induction missingLater, Nat.add_right_comm]
      | plain token plain =>
          rw [closingIndex?_cons_of_isPlain plain] at missing
          have missingLater : closingIndex? inner rest = none := by simpa using missing
          simp [completedFrom_cons_of_isPlain plain, ← induction missingLater]

theorem completed_opening (rest : List Token) :
    completed (opening :: rest) =
      opening :: completed (inside rest) ++ closing :: completed (afterGroup rest) := by
  simp only [← completedFrom_zero, completedFrom_opening]
  cases partner : closingIndex? 0 rest with
  | none =>
      have closedLast := completedFrom_add_of_closingIndex?_eq_none partner 1
      simpa [inside, afterGroup, partner] using closedLast
  | some index =>
      rcases completedFrom_take_of_closingIndex? partner with ⟨closed, parts⟩
      have group := completedFrom_append closed 1 (closing :: rest.drop (index + 1))
      rw [← parts] at group
      simpa [inside, afterGroup, partner, closed] using group

theorem completed_cons_of_isPlain {token : Token} (plain : token.IsPlain) (rest : List Token) :
    completed (token :: rest) = token :: completed rest := by
  simp only [← completedFrom_zero, completedFrom_cons_of_isPlain plain]

@[simp] theorem completed_nil : completed [] = [] := rfl

@[simp] theorem completed_closing (rest : List Token) : completed (closing :: rest) = [] := by
  simp [← completedFrom_zero]

theorem completed_eq_cons_iff {token : Token} (plain : token.IsPlain) {tokens after : List Token} :
    completed tokens = token :: after ↔
      ∃ rest, tokens = token :: rest ∧ completed rest = after := by
  constructor
  · intro equal
    cases tokens with
    | nil => simp at equal
    | cons head rest =>
        cases head using parenthesisCases with
        | opening =>
            have sameHead : opening = token := by
              simpa [completed_opening] using congrArg List.head? equal
            exact absurd sameHead.symm plain.1
        | closing => simp at equal
        | plain head headPlain =>
            have sameParts : head = token ∧ completed rest = after := by
              simpa [completed_cons_of_isPlain headPlain] using equal
            rcases sameParts with ⟨rfl, rfl⟩
            exact ⟨rest, rfl, rfl⟩
  · intro given
    rcases given with ⟨rest, rfl, rfl⟩
    exact completed_cons_of_isPlain plain rest

end Rulebook.Token

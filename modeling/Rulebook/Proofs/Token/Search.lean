import Rulebook.Proofs.Token.Unmatched
import Rulebook.Tree.Reader

/-!
The search for the parenthesis that ends a group, by places in a list of tokens. It counts the
groups that are open and stops at the first closing parenthesis that finds none open. That is the
only place up to which the tokens of the group are balanced.
-/

namespace Rulebook

namespace Token

/-! ## Beginnings that close too much -/

/-- No beginning of the tokens closes more than `depth` groups that it has not opened. -/
def EndsAtMost (depth : Nat) (tokens : List Token) : Prop :=
  ∀ front, front <+: tokens → front.count closing ≤ depth + front.count opening

namespace EndsAtMost

variable {depth : Nat} {rest : List Token}

theorem nil : EndsAtMost depth [] := by
  intro front isFront
  simp [List.prefix_nil.mp isFront]

theorem cons_iff {token : Token} :
    EndsAtMost depth (token :: rest) ↔
      ∀ front, front <+: rest →
        (token :: front).count closing ≤ depth + (token :: front).count opening := by
  constructor
  · intro ends front isFront
    exact ends (token :: front) ((List.prefix_cons_inj token).mpr isFront)
  · intro ends front isFront
    rcases List.prefix_cons_iff.mp isFront with rfl | ⟨inner, rfl, isInner⟩
    · simp
    · exact ends inner isInner

theorem opening_iff : EndsAtMost depth (opening :: rest) ↔ EndsAtMost (depth + 1) rest := by
  rw [cons_iff]
  simp [EndsAtMost, Nat.add_assoc, Nat.add_comm 1]

theorem closing_iff : EndsAtMost (depth + 1) (closing :: rest) ↔ EndsAtMost depth rest := by
  rw [cons_iff]
  simp [EndsAtMost, Nat.add_right_comm depth 1]

theorem not_closing : ¬ EndsAtMost 0 (closing :: rest) := by
  intro ends
  simpa using ends [closing] (by simp)

theorem cons_iff_of_isPlain {token : Token} (plain : token.IsPlain) :
    EndsAtMost depth (token :: rest) ↔ EndsAtMost depth rest := by
  rw [cons_iff]
  simp [EndsAtMost, plain.1, plain.2]

end EndsAtMost

theorem endsAtMost_iff {depth : Nat} {tokens : List Token} :
    EndsAtMost depth tokens ↔ unmatchedClosings tokens ≤ depth := by
  induction tokens generalizing depth with
  | nil => simp [EndsAtMost.nil, unmatchedClosings]
  | cons token rest induction =>
      cases token using parenthesisCases with
      | opening =>
          rw [EndsAtMost.opening_iff, induction, unmatchedClosings, Nat.sub_le_iff_le_add]
      | closing =>
          cases depth with
          | zero => simp [EndsAtMost.not_closing, unmatchedClosings]
          | succ depth =>
              rw [EndsAtMost.closing_iff, induction, unmatchedClosings, Nat.add_le_add_iff_right]
      | plain token plain =>
          rw [EndsAtMost.cons_iff_of_isPlain plain, induction,
            unmatchedClosings_cons_of_isPlain plain]

/-! ## The place of the partner -/

/-- With `depth` more groups open, the group ends at the closing parenthesis before which these and
no others have been ended. -/
theorem closingIndex?_eq_some_iff {depth index : Nat} {tokens : List Token} :
    closingIndex? depth tokens = some index ↔
      tokens[index]? = some closing ∧ EndsAtMost depth (tokens.take index) ∧
        (tokens.take index).count closing = depth + (tokens.take index).count opening := by
  induction tokens generalizing depth index with
  | nil => simp [closingIndex?]
  | cons token rest induction =>
      cases token using parenthesisCases with
      | opening =>
          cases index with
          | zero => simp [closingIndex?]
          | succ index =>
              simp [closingIndex?, induction, EndsAtMost.opening_iff, Nat.add_assoc,
                Nat.add_comm 1]
      | closing =>
          cases depth with
          | zero => cases index <;> simp [closingIndex?, EndsAtMost.nil, EndsAtMost.not_closing]
          | succ depth =>
              cases index with
              | zero => simp [closingIndex?]
              | succ index =>
                  simp [closingIndex?, induction, EndsAtMost.closing_iff,
                    Nat.add_right_comm depth 1]
      | plain token plain =>
          rw [closingIndex?_cons_of_isPlain plain]
          cases index with
          | zero => simp [plain.2]
          | succ index =>
              simp [induction, EndsAtMost.cons_iff_of_isPlain plain, plain.1, plain.2]

def partnerIndex? (tokens : List Token) (start : Nat) : Option Nat :=
  (closingIndex? 0 (tokens.drop start)).map (start + ·)

/-- At the second place a closing parenthesis stands, and the tokens from the first one up to it are
balanced: as many groups are closed as opened, and never more of them. -/
structure IsPartner (tokens : List Token) (start index : Nat) : Prop where
  start_le : start ≤ index
  isClosing : tokens[index]? = some closing
  evenly : (tokens.extract start index).count opening = (tokens.extract start index).count closing
  endsAtMost : EndsAtMost 0 (tokens.extract start index)

theorem partnerIndex?_eq_some_iff {tokens : List Token} {start index : Nat} :
    partnerIndex? tokens start = some index ↔ IsPartner tokens start index := by
  rw [partnerIndex?, Option.map_eq_some_iff]
  constructor
  · rintro ⟨offset, found, rfl⟩
    rw [closingIndex?_eq_some_iff, Nat.zero_add, List.getElem?_drop] at found
    rcases found with ⟨isClosing, ends, evenly⟩
    have sameStretch : tokens.extract start (start + offset) = (tokens.drop start).take offset := by
      rw [List.extract_eq_take_drop, Nat.add_sub_cancel_left]
    exact ⟨Nat.le_add_right start offset, isClosing, by rw [sameStretch, evenly],
      by rwa [sameStretch]⟩
  · rintro ⟨startLe, isClosing, evenly, ends⟩
    rcases Nat.exists_eq_add_of_le startLe with ⟨offset, rfl⟩
    rw [List.extract_eq_take_drop, Nat.add_sub_cancel_left] at evenly ends
    refine ⟨offset, closingIndex?_eq_some_iff.mpr ⟨?_, ends, ?_⟩, rfl⟩
    · rwa [List.getElem?_drop]
    · rw [Nat.zero_add, evenly]

/-! ## The search as a loop -/

def opened : Token → Int
  | opening => 1
  | closing => -1
  | _ => 0

theorem opened_of_isPlain {token : Token} (plain : token.IsPlain) : token.opened = 0 := by
  rcases plain with ⟨notOpening, notClosing⟩
  rw [opened] <;> assumption

/-- The search as a loop over places with a plain counter, which nothing keeps from falling below
zero: the values of the counter before each token that is looked at, and the place where the loop
stops early. -/
def search (counter : Int) (place : Nat) : List Token → List Int × Option Nat
  | [] => ([], none)
  | token :: rest =>
    if token = closing ∧ counter = 0 then ([counter], some place)
    else
      let (counters, found) := search (counter + token.opened) (place + 1) rest
      (counter :: counters, found)

theorem counter_eq {counter value : Int} {place index : Nat} {tokens : List Token}
    (reached : (search counter place tokens).1[index]? = some value) :
    value = counter + (tokens.take index).count opening - (tokens.take index).count closing := by
  induction tokens generalizing counter place index with
  | nil => simp [search] at reached
  | cons token rest induction =>
      rw [search] at reached
      cases index with
      | zero =>
          have first : counter = value := by
            split at reached <;> simpa using reached
          simp [first]
      | succ index =>
          split at reached
          · simp at reached
          · have later := induction (by simpa using reached)
            rw [later]
            cases token using parenthesisCases with
            | opening => simp [opened]; omega
            | closing => simp [opened]; omega
            | plain token plain => simp [opened_of_isPlain plain, plain.1, plain.2]

/-- The loop finds the partner, and its counter stays a number of open groups. -/
theorem search_eq (depth place : Nat) (tokens : List Token) :
    (search depth place tokens).2 = (closingIndex? depth tokens).map (place + ·) ∧
      ∀ counter ∈ (search depth place tokens).1, 0 ≤ counter := by
  induction tokens generalizing depth place with
  | nil => simp [search, closingIndex?]
  | cons token rest induction =>
      cases token using parenthesisCases with
      | opening =>
          have later := induction (depth + 1) (place + 1)
          simpa [search, opened, closingIndex?, Function.comp_def, Nat.add_assoc,
            Nat.add_comm 1] using later
      | closing =>
          cases depth with
          | zero => simp [search, closingIndex?]
          | succ depth =>
              have later := induction depth (place + 1)
              have goesOn : ¬ (closing = closing ∧ ((depth + 1 : Nat) : Int) = 0) := by omega
              have lowered : ((depth + 1 : Nat) : Int) + closing.opened = depth := by
                rw [opened]
                omega
              have notNegative : (0 : Int) ≤ depth + 1 := by omega
              rw [search, if_neg goesOn, lowered, closingIndex?, Option.map_map]
              simpa [notNegative, Function.comp_def, Nat.add_assoc, Nat.add_comm 1] using later
      | plain token plain =>
          have later := induction depth (place + 1)
          simpa [search, plain.2, opened_of_isPlain plain, closingIndex?_cons_of_isPlain plain,
            Function.comp_def, Nat.add_assoc, Nat.add_comm 1] using later

/-! ## Groups in the reader -/

def groupEnd (tokens : List Token) (start : Nat) : Nat :=
  (partnerIndex? tokens start).getD tokens.length

theorem groupEnd_le {tokens : List Token} {start : Nat} (inRange : start ≤ tokens.length) :
    start ≤ groupEnd tokens start ∧ groupEnd tokens start ≤ tokens.length := by
  rw [groupEnd]
  cases found : partnerIndex? tokens start with
  | none => exact ⟨inRange, Nat.le_refl _⟩
  | some index =>
      have partner := partnerIndex?_eq_some_iff.mp found
      have inside := (List.getElem?_eq_some_iff.mp partner.isClosing).1
      exact ⟨partner.start_le, Nat.le_of_lt inside⟩

theorem inside_drop (tokens : List Token) (start : Nat) :
    inside (tokens.drop start) = tokens.extract start (groupEnd tokens start) ∧
      afterGroup (tokens.drop start) =
        tokens.drop (min (groupEnd tokens start + 1) tokens.length) := by
  rw [inside, afterGroup, groupEnd, partnerIndex?, List.extract_eq_take_drop]
  cases closingIndex? 0 (tokens.drop start) with
  | none => simp [← List.length_drop]
  | some offset => simp [List.drop_drop, Nat.add_assoc]

theorem endsAtMost_group (tokens : List Token) (start : Nat) :
    EndsAtMost 0 (tokens.extract start (groupEnd tokens start)) := by
  rw [← (inside_drop tokens start).1, endsAtMost_iff]
  exact Nat.le_of_eq (unmatchedClosings_inside _)

/-- The reader reads the tokens up to the end of a group as a level of its own and goes on after
it. -/
theorem readLevel_drop_of_opening {tokens : List Token} {place : Nat}
    (isOpening : tokens[place]? = some opening) (chain : Chain) :
    let stop := groupEnd tokens (place + 1)
    Tree.readLevel chain (tokens.drop place) = (do
      match ← Tree.readLevel .empty (tokens.extract (place + 1) stop) with
      | none => .error .emptyGroup
      | some term =>
        Tree.readLevel (← chain.push term) (tokens.drop (min (stop + 1) tokens.length))) := by
  intro stop
  rcases List.getElem?_eq_some_iff.mp isOpening with ⟨inside, isHead⟩
  rcases inside_drop tokens (place + 1) with ⟨group, after⟩
  have step := Tree.readLevel.eq_def chain (opening :: tokens.drop (place + 1))
  simp only [group, after] at step
  rw [List.drop_eq_getElem_cons inside, isHead]
  exact step

/-- The place that is found is the only one with a closing parenthesis up to which the tokens are
balanced, and without such a place none is found. The loop that looks for it counts the open groups
and never comes below zero. So the group that the reader turns to lies within the tokens of its
level, is shorter than these, and closes no group that it has not opened. -/
theorem search_finds_partner (tokens : List Token) (start : Nat) :
    (∀ index, partnerIndex? tokens start = some index ↔ IsPartner tokens start index) ∧
    (partnerIndex? tokens start = none ↔ ∀ index, ¬ IsPartner tokens start index) ∧
    (∀ first second,
      IsPartner tokens start first → IsPartner tokens start second → first = second) ∧
    (search 0 start (tokens.drop start)).2 = partnerIndex? tokens start ∧
    (∀ (step : Nat) (counter : Int),
      (search 0 start (tokens.drop start)).1[step]? = some counter →
        let passed := (tokens.drop start).take step
        0 ≤ counter ∧ counter = (passed.count opening : Int) - passed.count closing) ∧
    ∀ place, start = place + 1 → tokens[place]? = some opening →
      let stop := groupEnd tokens start
      let group := tokens.extract start stop
      start ≤ stop ∧ stop ≤ tokens.length ∧ group.length < tokens.length ∧
        EndsAtMost 0 group ∧
        ∀ chain, Tree.readLevel chain (tokens.drop place) = (do
          match ← Tree.readLevel .empty group with
          | none => .error .emptyGroup
          | some term =>
            Tree.readLevel (← chain.push term) (tokens.drop (min (stop + 1) tokens.length))) := by
  have loop := search_eq 0 start (tokens.drop start)
  refine ⟨?_, ?_, ?_, loop.1, ?_, ?_⟩
  · intro index
    exact partnerIndex?_eq_some_iff
  · simp only [Option.eq_none_iff_forall_ne_some, ne_eq, partnerIndex?_eq_some_iff]
  · intro first second isFirst isSecond
    have found := partnerIndex?_eq_some_iff.mpr isFirst
    rw [partnerIndex?_eq_some_iff.mpr isSecond] at found
    exact (Option.some.inj found).symm
  · intro step counter reached
    have isCount := counter_eq reached
    rw [Int.zero_add] at isCount
    exact ⟨loop.2 counter (List.mem_of_getElem? reached), isCount⟩
  · rintro place rfl isOpening stop group
    have inRange := (List.getElem?_eq_some_iff.mp isOpening).1
    have bounds := groupEnd_le (Nat.succ_le_of_lt inRange)
    have shorter : group.length < tokens.length := by
      simp only [group, List.extract_eq_take_drop, List.length_take, List.length_drop]
      omega
    exact ⟨bounds.1, bounds.2, shorter, endsAtMost_group tokens (place + 1),
      readLevel_drop_of_opening isOpening⟩

theorem search_finds_partner_nested :
    let tokens := [opening, word "a", opening, closing, closing, closing]
    tokens[0]? = some opening ∧ partnerIndex? tokens 1 = some 4 ∧
      (∀ index, IsPartner tokens 1 index → index = 4) ∧
      (search 0 1 (tokens.drop 1)).1 = [0, 0, 1, 0] ∧
      (∀ (step : Nat) (counter : Int), (search 0 1 (tokens.drop 1)).1[step]? = some counter →
        0 ≤ counter) ∧
      tokens.extract 1 (groupEnd tokens 1) = [word "a", opening, closing] ∧
      EndsAtMost 0 (tokens.extract 1 (groupEnd tokens 1)) := by
  intro tokens
  have found : partnerIndex? tokens 1 = some 4 := by decide
  rcases search_finds_partner tokens 1 with ⟨isPlace, -, unique, -, counts, inReader⟩
  have isPartner : IsPartner tokens 1 4 := (isPlace 4).mp found
  refine ⟨rfl, found, ?_, rfl, ?_, by decide, (inReader 0 rfl rfl).2.2.2.1⟩
  · intro index isOther
    exact unique index 4 isOther isPartner
  · intro step counter reached
    exact (counts step counter reached).1

end Token

end Rulebook

import Rulebook.Token.Basic

/-!
Groups in parentheses: finding the partner of an opening parenthesis.
-/

namespace Rulebook.Token

/-- The index of the closing parenthesis that ends a group, counted from the tokens after the
opening one; `depth` more groups have been opened since. -/
def closingIndex? : Nat → List Token → Option Nat
  | _, [] => none
  | 0, closing :: _ => some 0
  | depth + 1, closing :: rest => (closingIndex? depth rest).map (· + 1)
  | depth, opening :: rest => (closingIndex? (depth + 1) rest).map (· + 1)
  | depth, _ :: rest => (closingIndex? depth rest).map (· + 1)

/-- The tokens inside a group, given those after its opening parenthesis. A group that is not closed
goes on to the end. -/
def inside (tokens : List Token) : List Token :=
  match closingIndex? 0 tokens with
  | some index => tokens.take index
  | none => tokens

def afterGroup (tokens : List Token) : List Token :=
  match closingIndex? 0 tokens with
  | some index => tokens.drop (index + 1)
  | none => []

theorem length_inside_le (tokens : List Token) : (inside tokens).length ≤ tokens.length := by
  unfold inside
  split
  · exact List.length_take_le' _ _
  · exact Nat.le_refl _

theorem length_afterGroup_le (tokens : List Token) :
    (afterGroup tokens).length ≤ tokens.length := by
  unfold afterGroup
  split
  · simp [List.length_drop]
  · exact Nat.zero_le _

example : inside [opening, closing, closing, opening] = [opening, closing] := by decide

example : afterGroup [opening, closing, closing, opening] = [opening] := by decide

end Rulebook.Token

import Rulebook.Proofs.Token.Partner
import Rulebook.Proofs.Tree.Grammar

/-!
Parentheses that change nothing: around a comparison, and around all that follows a logical
operator. The reader does not tell the tokens with them from those without, whatever stands around
them, a refusal and its reason included.
-/

namespace Rulebook

namespace Token

/-- A logical operator or an opening parenthesis: a term is due after it. -/
def opensTerm : Token → Bool
  | opening => true
  | operator sign => sign.isLogical
  | _ => false

def IsComparison (tokens : List Token) : Prop :=
  ∃ left sign right, tokens = [left, operator sign, right] ∧ left.operand?.isSome = true ∧
    sign.isComparison = true ∧ right.operand?.isSome = true

theorem IsComparison.balanced {tokens : List Token} (comparison : IsComparison tokens) :
    Balanced tokens := by
  obtain ⟨left, sign, right, rfl, leftOperand, -, rightOperand⟩ := comparison
  obtain ⟨leftText, leftOperand⟩ := Option.isSome_iff_exists.mp leftOperand
  obtain ⟨rightText, rightOperand⟩ := Option.isSome_iff_exists.mp rightOperand
  apply Balanced.cons_of_isPlain (isPlain_of_operand? leftOperand)
  apply Balanced.cons_of_isPlain (isPlain_operator sign)
  exact Balanced.cons_of_isPlain (isPlain_of_operand? rightOperand) balanced_nil

theorem operand?_of_opensTerm {token : Token} (opens : token.opensTerm = true) :
    token.operand? = none := by
  cases token <;> first | rfl | contradiction

theorem isComparison_eq_false_of_opensTerm {sign : Operator}
    (opens : (operator sign).opensTerm = true) : sign.isComparison = false := by
  simpa [opensTerm, Operator.isComparison] using opens

theorem closingIndex?_concat_of_opensTerm {joint : Token} (opens : joint.opensTerm = true)
    {front : List Token} (missing : closingIndex? 0 front = none) :
    closingIndex? 0 (front ++ [joint]) = none := by
  have noPartner (depth : Nat) : closingIndex? depth [joint] = none := by
    cases joint <;> first | contradiction | simp [closingIndex?]
  rw [closingIndex?_append_of_eq_none missing, noPartner, Option.map_none]

end Token

namespace Tree

open Token (inside afterGroup)

/-! ## Tokens that may stand for each other -/

/-- Where a term is due, two lists of tokens are read alike if the same follows them: all of `rest`
or a beginning of it. -/
def ReadAlike (left right rest : List Token) : Prop :=
  ∀ cut, cut <+: rest → ∀ links,
    readLevel ⟨links, none⟩ (left ++ cut) = readLevel ⟨links, none⟩ (right ++ cut)

theorem ReadAlike.of_isPrefix {left right rest cut : List Token}
    (alike : ReadAlike left right rest) (isPrefix : cut <+: rest) : ReadAlike left right cut :=
  fun shorter isShorter => alike shorter (isShorter.trans isPrefix)

theorem readComparison_append {joint : Token} (opens : joint.opensTerm = true) (text : String)
    (front left right : List Token) :
    readComparison text (front ++ joint :: left) = readComparison text (front ++ joint :: right) ∧
      ∀ tree, readComparison text (front ++ joint :: left) = .ok tree → 2 ≤ front.length := by
  have noOperand := Token.operand?_of_opensTerm opens
  cases front with
  | nil =>
      cases joint with
      | operator sign => simp [readComparison, Token.isComparison_eq_false_of_opensTerm opens]
      | opening => simp [readComparison]
      | _ => contradiction
  | cons token front =>
      cases token with
      | operator sign =>
          cases front with
          | nil =>
              cases comparison : sign.isComparison <;>
                simp [readComparison, noOperand, comparison]
          | cons next front => simp [readComparison]
      | _ => simp [readComparison]

private theorem read_operand_append {chain : Chain} {joint : Token} {text : String}
    {front left right : List Token} (opens : joint.opensTerm = true)
    (induction : ∀ next : Chain, readLevel next (front.drop 2 ++ joint :: left) =
      readLevel next (front.drop 2 ++ joint :: right)) :
    (do
        let term ← readComparison text (front ++ joint :: left)
        readLevel (← chain.push term) ((front ++ joint :: left).drop 2)) =
      (do
        let term ← readComparison text (front ++ joint :: right)
        readLevel (← chain.push term) ((front ++ joint :: right).drop 2)) := by
  rcases readComparison_append opens text front left right with ⟨same, isLong⟩
  rw [← same]
  cases read : readComparison text (front ++ joint :: left) with
  | error error => rfl
  | ok comparison =>
      have long := isLong comparison read
      simp only [ok_bind, List.drop_append_of_le_length long, induction]

theorem readLevel_opening_congr {left right : List Token} (chain : Chain)
    (sameGroup : readLevel .empty (inside left) = readLevel .empty (inside right))
    (sameAfter : ∀ next : Chain,
      readLevel next (afterGroup left) = readLevel next (afterGroup right)) :
    readLevel chain (.opening :: left) = readLevel chain (.opening :: right) := by
  simp only [readLevel, sameGroup, sameAfter]

/-- What is read alike where a term is due may be exchanged after any beginning that ends where one
is due. -/
theorem readLevel_append_congr {joint : Token} {left right rest : List Token}
    (opens : joint.opensTerm = true) (leftBalanced : Token.Balanced left)
    (rightBalanced : Token.Balanced right) (alike : ReadAlike left right rest) (chain : Chain)
    (front : List Token) :
    readLevel chain (front ++ joint :: (left ++ rest)) =
      readLevel chain (front ++ joint :: (right ++ rest)) := by
  induction chain, front using readLevel.induct generalizing rest with
  | case1 chain =>
      rw [List.nil_append, List.nil_append]
      cases joint with
      | operator sign =>
          have logical : sign.isLogical = true := opens
          rw [readLevel, readLevel, if_pos logical, if_pos logical]
          rcases chain with ⟨links, last⟩
          cases last with
          | none => rfl
          | some term => exact alike rest (List.prefix_refl rest) _
      | opening =>
          -- The exchanged tokens begin a group, which may end within `rest`.
          have noPartner : Token.closingIndex? 0 [] = none := rfl
          obtain ⟨cut, isCut, leftInside, rightInside, sameAfter⟩ :=
            Token.exists_cut noPartner leftBalanced rightBalanced rest
          rw [List.nil_append] at leftInside rightInside sameAfter
          apply readLevel_opening_congr
          · rw [leftInside, rightInside]
            exact alike cut isCut []
          · intro next
            rw [sameAfter, List.nil_append]
      | _ => contradiction
  | case2 chain front => simp only [List.cons_append, readLevel]
  | case3 chain sign front logical induction =>
      simp only [List.cons_append, readLevel, if_pos logical]
      cases chain.combine sign with
      | error error => rfl
      | ok next => exact induction next alike
  | case4 chain sign front comparison =>
      simp only [List.cons_append, readLevel, if_neg comparison]
  | case5 chain front inner outer =>
      rw [List.cons_append, List.cons_append]
      cases partner : Token.closingIndex? 0 front with
      | some index =>
          -- The group ends before the exchanged tokens, which are read with what follows it.
          have append := Token.inside_append_of_eq_some partner
          apply readLevel_opening_congr
          · rw [(append _).1, (append _).1]
          · intro next
            rw [(append _).2, (append _).2]
            exact outer next alike
      | none =>
          -- The group is still open there, so the exchanged tokens are read inside it.
          obtain ⟨cut, isCut, leftInside, rightInside, sameAfter⟩ :=
            Token.exists_cut (Token.closingIndex?_concat_of_opensTerm opens partner) leftBalanced
              rightBalanced rest
          have isInside : inside front = front := by rw [inside, partner]
          rw [isInside] at inner
          simp only [List.append_assoc, List.cons_append, List.nil_append] at leftInside rightInside
          simp only [List.append_assoc, List.cons_append, List.nil_append] at sameAfter
          apply readLevel_opening_congr
          · rw [leftInside, rightInside]
            exact inner (alike.of_isPrefix isCut)
          · intro next
            rw [sameAfter]
  | case6 chain text front induction =>
      simp only [List.cons_append, readLevel]
      exact read_operand_append opens fun next => induction next alike
  | case7 chain quote content front induction =>
      simp only [List.cons_append, readLevel]
      exact read_operand_append opens fun next => induction next alike

end Tree

/-! ## Levels that end a longer one -/

namespace Chain

/-- The chain as the end of a longer one, which began with other links. -/
def extend (chain : Chain) (links : List (Tree × Operator)) : Chain :=
  ⟨chain.links ++ links, chain.last⟩

theorem push_extend (chain : Chain) (links : List (Tree × Operator)) (term : Tree) :
    (chain.extend links).push term = (chain.push term).map (·.extend links) := by
  rcases chain with ⟨inner, last⟩
  cases last <;> rfl

theorem combine_extend (chain : Chain) (links : List (Tree × Operator)) (sign : Operator) :
    (chain.extend links).combine sign = (chain.combine sign).map (·.extend links) := by
  rcases chain with ⟨inner, last⟩
  cases last <;> rfl

theorem finish_extend (chain : Chain) (links : List (Tree × Operator)) :
    (chain.extend links).finish = (do finish ⟨links, ← chain.finish⟩) := by
  rcases chain with ⟨inner, last⟩
  cases last with
  | some term => simp [extend, finish, ok_bind]
  | none => cases inner <;> rfl

end Chain

namespace Tree

open Token (inside)

private theorem push_bind_extend {links : List (Tree × Operator)} {chain : Chain} {term : Tree}
    {rest : List Token}
    (induction : ∀ next : Chain, readLevel (next.extend links) rest =
      do Chain.finish ⟨links, ← readLevel next rest⟩) :
    (do readLevel (← (chain.extend links).push term) rest) =
      (do
        let last ← (do readLevel (← chain.push term) rest)
        Chain.finish ⟨links, last⟩) := by
  rw [Chain.push_extend]
  cases chain.push term with
  | error error => rfl
  | ok next => exact induction next

/-- A level is read at the end of a longer one as it is read alone, and the chain then goes on from
its tree. -/
theorem readLevel_extend (chain : Chain) (links : List (Tree × Operator)) (tokens : List Token) :
    readLevel (chain.extend links) tokens =
      (do Chain.finish ⟨links, ← readLevel chain tokens⟩) := by
  induction chain, tokens using readLevel.induct with
  | case1 chain => simp only [readLevel, Chain.finish_extend]
  | case2 chain rest => simp only [readLevel, Chain.finish_extend]
  | case3 chain sign rest logical induction =>
      rw [readLevel, readLevel, if_pos logical, if_pos logical, Chain.combine_extend]
      cases chain.combine sign with
      | error error => rfl
      | ok next => exact induction next
  | case4 chain sign rest comparison =>
      rw [readLevel, readLevel, if_neg comparison, if_neg comparison]
      rfl
  | case5 chain rest inner outer =>
      rw [readLevel, readLevel, bind_assoc]
      cases readLevel .empty (inside rest) with
      | error error => rfl
      | ok group? =>
          cases group? with
          | none => rfl
          | some group => exact push_bind_extend outer
  | case6 chain text rest induction =>
      rw [readLevel, readLevel, bind_assoc]
      cases readComparison text rest with
      | error error => rfl
      | ok comparison => exact push_bind_extend induction
  | case7 chain quote content rest induction =>
      rw [readLevel, readLevel, bind_assoc]
      cases readComparison _ rest with
      | error error => rfl
      | ok comparison => exact push_bind_extend induction

/-! ## Redundant parentheses -/

theorem readLevel_operand {token : Token} {text : String} (operand : token.operand? = some text)
    (chain : Chain) (rest : List Token) :
    readLevel chain (token :: rest) =
      (do readLevel (← chain.push (← readComparison text rest)) (rest.drop 2)) := by
  cases token with
  | word text =>
      cases operand
      rw [readLevel]
  | quoted quote content =>
      cases operand
      rw [readLevel]
  | _ => contradiction

theorem readLevel_group {group : List Token} (balanced : Token.Balanced group) (chain : Chain)
    (rest : List Token) :
    readLevel chain (.opening :: group ++ .closing :: rest) =
      (do
        match ← readLevel .empty group with
        | none => .error .emptyGroup
        | some term => readLevel (← chain.push term) rest) := by
  have parts := Token.inside_append balanced rest
  rewrite [List.cons_append, readLevel, parts.1, parts.2]
  rfl

theorem readLevel_comparison {tokens : List Token} (comparison : Token.IsComparison tokens)
    (chain : Chain) (rest : List Token) :
    readLevel chain (tokens ++ rest) =
      readLevel chain (.opening :: tokens ++ .closing :: rest) := by
  rw [readLevel_group comparison.balanced]
  obtain ⟨left, sign, right, rfl, leftOperand, isComparison, rightOperand⟩ := comparison
  obtain ⟨leftText, leftOperand⟩ := Option.isSome_iff_exists.mp leftOperand
  obtain ⟨rightText, rightOperand⟩ := Option.isSome_iff_exists.mp rightOperand
  have read (after : List Token) :
      readComparison leftText (.operator sign :: right :: after) =
        .ok (.expression sign (Operand.classify leftText) (Operand.classify rightText)) := by
    simp [readComparison, isComparison, rightOperand]
  simp only [List.cons_append, List.nil_append, readLevel_operand leftOperand, read, ok_bind]
  simp [Chain.push, Chain.empty, readLevel, Chain.finish, ok_bind]

theorem readLevel_level {group : List Token} (balanced : Token.Balanced group)
    (notEmpty : group ≠ []) (links : List (Tree × Operator)) :
    readLevel ⟨links, none⟩ group =
      readLevel ⟨links, none⟩ (.opening :: group ++ [.closing]) := by
  rw [readLevel_group balanced]
  have extended : readLevel ⟨links, none⟩ group = _ := readLevel_extend .empty links group
  rw [extended]
  cases read : readLevel .empty group with
  | error error => rfl
  | ok group? =>
      cases group? with
      | none =>
          have nothingToRead := (Grammar.readLevel_eq_none_iff.mp read).2
          rw [Token.Balanced, Token.completed, nothingToRead] at balanced
          exact absurd balanced.symm notEmpty
      | some term => simp only [ok_bind, Chain.push, readLevel]

/-- Parentheses around a comparison change nothing where a term is due, and neither do parentheses
around all that follows a logical operator. The tree is the same, or the error is. -/
theorem ofTokens_redundant_parentheses :
    (∀ front comparison rest : List Token,
      (∀ last ∈ front.getLast?, last.opensTerm = true) → Token.IsComparison comparison →
        ofTokens (front ++ comparison ++ rest) =
          ofTokens (front ++ Token.opening :: comparison ++ Token.closing :: rest)) ∧
      ∀ (front : List Token) (sign : Operator) (group : List Token),
        sign.isLogical = true → Token.Balanced group → group ≠ [] →
          ofTokens (front ++ Token.operator sign :: group) =
            ofTokens (front ++ Token.operator sign :: Token.opening :: group ++ [.closing]) := by
  constructor
  · intro front comparison rest opens isComparison
    have balanced := isComparison.balanced
    have alike : ReadAlike comparison (.opening :: comparison ++ [.closing]) rest := by
      intro cut _ links
      rw [List.append_assoc]
      exact readLevel_comparison isComparison _ cut
    obtain rfl | ⟨front, joint, rfl⟩ := List.eq_nil_or_concat front
    · exact readLevel_comparison isComparison .empty rest
    · have opensTerm : joint.opensTerm = true := by simpa using opens
      have same := readLevel_append_congr opensTerm balanced balanced.group alike .empty front
      simpa [ofTokens] using same
  · intro front sign group logical balanced notEmpty
    have opensTerm : (Token.operator sign).opensTerm = true := logical
    have alike : ReadAlike group (.opening :: group ++ [.closing]) [] := by
      intro cut isCut links
      rw [List.prefix_nil.mp isCut, List.append_nil, List.append_nil]
      exact readLevel_level balanced notEmpty links
    have same := readLevel_append_congr opensTerm balanced balanced.group alike .empty front
    simpa [ofTokens] using same

theorem ofTokens_redundant_parentheses_unclosed :
    let comparison : List Token := [.word "a", .operator .equal, .quoted .single "b"]
    let front : List Token := comparison ++ [.operator .logicalOr, .opening]
    let rest : List Token := [.closing, .closing, .word "c"]
    let group : List Token := [.word "c"]
    ofTokens (front ++ comparison ++ rest) =
        ofTokens (front ++ Token.opening :: comparison ++ Token.closing :: rest) ∧
      ofTokens (front ++ comparison ++ Token.operator .logicalAnd :: group) =
        ofTokens (front ++ comparison ++
          Token.operator .logicalAnd :: Token.opening :: group ++ [Token.closing]) := by
  intro comparison front rest group
  have isComparison : Token.IsComparison comparison := ⟨_, _, _, rfl, rfl, rfl, rfl⟩
  have opens : ∀ last ∈ front.getLast?, last.opensTerm = true := by
    intro last isLast
    cases isLast
    rfl
  obtain ⟨aroundComparison, aroundLevel⟩ := ofTokens_redundant_parentheses
  constructor
  · exact aroundComparison front comparison rest opens isComparison
  · exact aroundLevel (front ++ comparison) .logicalAnd group rfl rfl (by simp [group])

end Tree

end Rulebook

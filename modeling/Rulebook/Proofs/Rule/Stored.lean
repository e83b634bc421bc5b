import Rulebook.Proofs.Number.Exact
import Rulebook.Proofs.Tree.Reprinting
import Rulebook.Proofs.Tree.Stored
import Rulebook.Rule.Stored

/-!
Rules in JSON: which trees are read back from their JSON text, and when an equal tree comes back.
-/

namespace Rulebook

def Number.ReadsBack (number : Number) : Prop :=
  ∃ text other, number.json? = some text ∧
    Json.readRuleValue text = .ok (.number other) ∧ other.equals number = true

namespace Number

theorem readsBack_iff {number : Number} :
    number.ReadsBack ↔
      ∃ other, Value.rereadJson (.number number) = .ok (.number other) ∧
        other.equals number = true := by
  rw [ReadsBack, Value.rereadJson]
  cases isText : number.json? with
  | none =>
      have isNull : Json.readRuleValue (Json.writeNumber number) = .ok .null := by
        rw [Json.writeNumber_of_eq_none isText]
        rfl
      simp [isNull]
  | some text => simp [Json.writeNumber_of_eq_some isText]

theorem rereadJson_infinity : Value.rereadJson (.number (infinity false)) = .ok .null := rfl

theorem exists_json? {number : Number} (natural : number.IsNatural)
    (finite : number ≠ infinity false) : ∃ text, number.json? = some text := by
  cases number with
  | nan => contradiction
  | signed negative magnitude =>
      rcases natural with ⟨rfl, -⟩
      exact ⟨_, json?_of_isFinite ((eq_infinity_or_isFinite magnitude).resolve_left finite)⟩

theorem exists_number_of_rereadJson {number : Number} {text : String} {value : Value}
    (isText : number.json? = some text)
    (reread : Value.rereadJson (.number number) = .ok value) :
    ∃ other, value = .number other := by
  rcases exists_spelling_json? isText with ⟨spelling, valid, isSpelled⟩
  rw [Value.rereadJson, Json.writeNumber_of_eq_some isText,
    Json.readRuleValue_spelling isText isSpelled valid] at reread
  cases isJson : spelling.number.toJson? with
  | none =>
      rw [isJson] at reread
      contradiction
  | some json =>
      rcases Json.WrittenNumber.exists_number_of_toJson? isJson with ⟨other, isOther⟩
      rw [isJson, Option.bind_some, isOther] at reread
      cases reread
      exact ⟨other, rfl⟩

theorem readsBack_of_length_le {number : Number} (natural : number.IsNatural)
    (finite : number ≠ infinity false) (short : number.text.length ≤ 15) : number.ReadsBack := by
  rcases text_of_isNatural natural finite with ⟨isDigits, -, isNumber⟩
  have below : Numeral.digitsValue number.text.toList < 10 ^ 15 :=
    (Numeral.digitsValue_lt isDigits.2).trans_le (Nat.pow_le_pow_right (by decide) short)
  rcases readRuleValue_json? below with ⟨text, isText, isRead⟩
  rw [← isNumber] at isText isRead
  exact ⟨text, number, isText, isRead, equals_self_of_isNatural natural⟩

end Number

namespace Tree

theorem rereadJson_equals_iff {tree other : Tree} (reread : tree.rereadJson = .ok other) :
    other.equals tree = true ↔ ∀ number ∈ tree.numbers, number.ReadsBack := by
  induction tree generalizing other with
  | identifier name =>
      cases reread
      simp [equals, numbers]
  | literal value =>
      cases value with
      | number number =>
          simp only [numbers, List.mem_singleton, forall_eq, Number.readsBack_iff]
          rw [rereadJson] at reread
          cases isReread : Value.rereadJson (.number number) with
          | error fault => simp [isReread, Except.map] at reread
          | ok value =>
              rw [isReread] at reread
              cases reread
              cases value <;> simp [equals, Value.strictlyEquals]
      | _ =>
          cases reread
          simp [equals, Value.strictlyEquals, numbers]
  | expression operator left right leftInduction rightInduction =>
      rcases bind_eq_ok_iff.mp reread with ⟨newLeft, isLeft, reread⟩
      rcases bind_eq_ok_iff.mp reread with ⟨newRight, isRight, isOther⟩
      cases isOther
      simp [equals, numbers, leftInduction isLeft, rightInduction isRight, or_imp, forall_and]

theorem exists_rereadJson_of_readsBack {tree : Tree}
    (readsBack : ∀ number ∈ tree.numbers, number.ReadsBack) :
    ∃ other, tree.rereadJson = .ok other := by
  induction tree with
  | identifier name => exact ⟨_, rfl⟩
  | literal value =>
      cases value with
      | number number =>
          rcases Number.readsBack_iff.mp (readsBack number (by simp [numbers])) with
              ⟨other, isReread, -⟩
          exact ⟨.literal (.number other), by rw [rereadJson, isReread]; rfl⟩
      | _ => exact ⟨_, rfl⟩
  | expression operator left right leftInduction rightInduction =>
      rcases leftInduction fun number member =>
        readsBack number (List.mem_append_left _ member) with ⟨newLeft, isLeft⟩
      rcases rightInduction fun number member =>
        readsBack number (List.mem_append_right _ member) with ⟨newRight, isRight⟩
      exact ⟨.expression operator newLeft newRight, by rw [rereadJson, isLeft, isRight]; rfl⟩

end Tree

namespace Rule

/-- A tree is read back from its JSON text as what its numbers are read as, up to the reader's limit
of nesting, and refused beyond it. -/
theorem readTreeJson_toJson (tree : Tree) :
    readTreeJson tree.toJson.compact =
      if tree.depth ≤ 127 then tree.rereadJson.map fun other => ⟨some other⟩
      else .error .malformed := by
  have isRead := Tree.readNode_toJson 126 tree
  rw [readTreeJson, Json.readAll, Tree.readOptional_toJson, Json.depthLimit, isRead]
  split
  · cases tree.rereadJson <;> rfl
  · rfl

theorem readTreeJson_of_rereadJson {tree other : Tree} (atMost : tree.depth ≤ 127)
    (reread : tree.rereadJson = .ok other) :
    readTreeJson tree.toJson.compact = .ok ⟨some other⟩ := by
  rw [readTreeJson_toJson, if_pos atMost, reread]
  rfl

/-- A tree whose numbers are read back from their JSON text is read back from its own, as an equal
tree, if it is at most 127 levels deep, and refused if it is deeper. -/
theorem readTreeJson_of_readsBack {tree : Tree}
    (readsBack : ∀ number ∈ tree.numbers, number.ReadsBack) :
    (tree.depth ≤ 127 →
      ∃ other, readTreeJson tree.toJson.compact = .ok ⟨some other⟩ ∧
        other.equals tree = true) ∧
      (128 ≤ tree.depth → readTreeJson tree.toJson.compact = .error .malformed) := by
  constructor
  · intro atMost
    rcases Tree.exists_rereadJson_of_readsBack readsBack with ⟨other, reread⟩
    exact ⟨other, readTreeJson_of_rereadJson atMost reread,
      (Tree.rereadJson_equals_iff reread).mpr readsBack⟩
  · intro tooDeep
    rw [readTreeJson_toJson, if_neg (by omega)]

theorem readTreeJson_of_readsBack_chain :
    let half : Number := .ofDecimal true ⟨5, -1⟩
    let tree : Tree :=
      .expression .logicalAnd
        (.expression .lowerThan (.identifier "a") (.literal (.number half)))
        (.expression .equal (.literal (.text "\"\n\\é")) (.literal (.boolean false)))
    let chain : Tree :=
      Nat.iterate (.expression .logicalOr (.literal .null)) 127 (.identifier "b")
    half.ReadsBack ∧ tree.depth ≤ 127 ∧
      (∃ other, readTreeJson tree.toJson.compact = .ok ⟨some other⟩ ∧ other.equals tree = true) ∧
      128 ≤ chain.depth ∧ readTreeJson chain.toJson.compact = .error .malformed := by
  intro half tree chain
  have half_readsBack : half.ReadsBack :=
    ⟨"-0.5", half, by decide +kernel, by decide +kernel, by decide +kernel⟩
  have treeReadsBack : ∀ number ∈ tree.numbers, number.ReadsBack := by
    intro number member
    have isHalf : number = half := by simpa [tree, Tree.numbers] using member
    exact isHalf ▸ half_readsBack
  have shallow : tree.depth ≤ 127 := by decide
  have noNumbers : chain.numbers = [] := by decide +kernel
  have chainReadsBack : ∀ number ∈ chain.numbers, number.ReadsBack := by simp [noNumbers]
  have deep : 128 ≤ chain.depth := by decide +kernel
  exact ⟨half_readsBack, shallow, (readTreeJson_of_readsBack treeReadsBack).1 shallow, deep,
    (readTreeJson_of_readsBack chainReadsBack).2 deep⟩

/-- What becomes of a tree that was read from a rule text, if its JSON text is accepted: shape,
operators, names, texts and truth values stay, and an equal tree comes back exactly if every number
is read back from its JSON text. Infinity becomes null. All other numbers stay numbers, and stay the
same if they have at most fifteen digits; longer ones may be rounded. -/
theorem readTreeJson_of_read {source : String} {tree : Tree}
    (read : Tree.read source = .ok (some tree)) :
    (∀ rule, readTreeJson tree.toJson.compact = .ok rule →
      ∃ other, rule = ⟨some other⟩ ∧ tree.rereadJson = .ok other ∧
        (other.equals tree = true ↔ ∀ number ∈ tree.numbers, number.ReadsBack)) ∧
      ∀ number ∈ tree.numbers,
        (number = .infinity false →
          Value.rereadJson (.number number) = .ok .null ∧ ¬number.ReadsBack) ∧
        (number ≠ .infinity false →
          (∀ value, Value.rereadJson (.number number) = .ok value →
            ∃ other, value = .number other) ∧
            (number.text.length ≤ 15 → number.ReadsBack)) := by
  constructor
  · intro rule accepted
    rw [readTreeJson_toJson] at accepted
    split at accepted
    · cases reread : tree.rereadJson with
      | error fault => simp [reread, Except.map] at accepted
      | ok other =>
          rw [reread] at accepted
          cases accepted
          exact ⟨other, rfl, rfl, Tree.rereadJson_equals_iff reread⟩
    · contradiction
  · intro number member
    have natural := (Tree.fromText_of_read read).2 number member
    constructor
    · rintro rfl
      exact ⟨Number.rereadJson_infinity, by simp [Number.readsBack_iff, Number.rereadJson_infinity]⟩
    · intro finite
      rcases Number.exists_json? natural finite with ⟨text, isText⟩
      exact ⟨fun value => Number.exists_number_of_rereadJson isText,
        Number.readsBack_of_length_le natural finite⟩

theorem readTreeJson_of_read_short :
    let tree : Tree :=
      .expression .logicalOr
        (.expression .lowerThan (.identifier "a") (.literal (.number (.ofNat 20))))
        (.expression .equal (.literal (.text "b")) (.literal (.boolean true)))
    Tree.read "a < 2e1 || 'b' = true" = .ok (some tree) ∧
      ∃ other, readTreeJson tree.toJson.compact = .ok ⟨some other⟩ ∧
        other.equals tree = true := by
  intro tree
  have read : Tree.read "a < 2e1 || 'b' = true" = .ok (some tree) := by decide +kernel
  have reread : tree.rereadJson = .ok tree := by decide +kernel
  have accepted := readTreeJson_of_rereadJson (by decide) reread
  rcases readTreeJson_of_read read with ⟨comesBack, numbersComeBack⟩
  rcases comesBack _ accepted with ⟨other, isOther, -, equals_iff⟩
  refine ⟨read, other, isOther ▸ accepted, equals_iff.mpr ?_⟩
  intro number member
  have isNumber : number = .ofNat 20 := by simpa [tree, Tree.numbers] using member
  subst isNumber
  exact ((numbersComeBack _ member).2 (by decide +kernel)).2 (by decide +kernel)

/-- A whole number of sixteen digits comes back with a fraction, and infinity as null. Neither is
refused. -/
theorem readTreeJson_changes_number :
    let comparison (value : Value) : Tree := .expression .equal (.identifier "a") (.literal value)
    let long : Tree := comparison (.number (.ofNat 2000000000000001))
    let infinite : Tree := comparison (.number (.infinity false))
    (Tree.read "a = 2000000000000001" = .ok (some long) ∧
      ∃ other, readTreeJson long.toJson.compact =
          .ok ⟨some (comparison (.number other))⟩ ∧
        (comparison (.number other)).equals long = false) ∧
    Tree.read "a = 1e400" = .ok (some infinite) ∧
      readTreeJson infinite.toJson.compact = .ok ⟨some (comparison .null)⟩ ∧
      (comparison .null).equals infinite = false := by
  intro comparison long infinite
  have readLong : Tree.read "a = 2000000000000001" = .ok (some long) := by decide +kernel
  have longReread : long.rereadJson =
      .ok (comparison (.number (.ofDecimal false ⟨200000000000000075, -2⟩))) := by
    decide +kernel
  have longChanged : (comparison (.number (.ofDecimal false ⟨200000000000000075, -2⟩))).equals
      long = false := by decide +kernel
  have readInfinite : Tree.read "a = 1e400" = .ok (some infinite) := by decide +kernel
  have infiniteReread : infinite.rereadJson = .ok (comparison .null) := by decide +kernel
  exact ⟨⟨readLong, _, readTreeJson_of_rereadJson (by decide) longReread, longChanged⟩,
    readInfinite, readTreeJson_of_rereadJson (by decide) infiniteReread, rfl⟩

end Rule

end Rulebook

import Rulebook.Proofs.Json.Rereading
import Rulebook.Tree.Stored

/-!
Trees in JSON. A tree is read back up to the reader's limit of nesting, with every number replaced
by what its JSON text is read as; beyond the limit it is refused.
-/

namespace Rulebook

namespace Tree

open Json (Fault Parsed RereadsAs rereadAt addReread)

def depth : Tree → Nat
  | expression _ left right => 1 + max left.depth right.depth
  | _ => 1

theorem depth_pos (tree : Tree) : 0 < tree.depth := by
  cases tree <;> simp [depth]

def rereadJson : Tree → Except Fault Tree
  | literal value => value.rereadJson.map literal
  | expression operator left right => do
      .ok (.expression operator (← left.rereadJson) (← right.rereadJson))
  | leaf => .ok leaf

/-! ## The parts of a tree -/

def kind : Tree → Kind
  | identifier _ => .identifier
  | literal _ => .raw
  | expression .. => .expression

def parts : Tree → List (String × Json)
  | identifier name => [("value", .string name)]
  | literal value => [("value", .ofValue value)]
  | expression operator left right =>
      [("operator", .string operator.tag), ("left", left.toJson), ("right", right.toJson)]

theorem toJson_eq (tree : Tree) :
    tree.toJson = .object (("kind", .string tree.kind.name) :: tree.parts) := by
  cases tree <;> rfl

theorem rereads_ofValue (depth : Nat) (value : Value) :
    RereadsAs depth (.ofValue value) (rereadAt depth (.ofValue value)) := by
  rcases value.rereads_ofValue with ⟨json, other, rereads, -⟩ | ⟨rereads, -⟩
  · exact (rereads depth).self
  · exact (rereads depth).self

theorem rereads_toJson_of_parts {tree : Tree}
    (partsReread : ∀ depth, ∀ part ∈ tree.parts, RereadsAs depth part.2 (rereadAt depth part.2))
    (depth : Nat) : RereadsAs depth tree.toJson (rereadAt depth tree.toJson) := by
  rw [toJson_eq]
  cases depth with
  | zero => exact (RereadsAs.object_zero _).self
  | succ depth =>
      apply (RereadsAs.object _).self
      exact List.forall_mem_cons.mpr ⟨(RereadsAs.string _).self, partsReread depth⟩

theorem rereads_parts (tree : Tree) (depth : Nat) :
    ∀ part ∈ tree.parts, RereadsAs depth part.2 (rereadAt depth part.2) := by
  induction tree generalizing depth with
  | identifier name => simpa [parts] using (RereadsAs.string name).self
  | literal value => simpa [parts] using rereads_ofValue depth value
  | expression operator left right leftInduction rightInduction =>
      have leftRereads := rereads_toJson_of_parts leftInduction depth
      have rightRereads := rereads_toJson_of_parts rightInduction depth
      simpa [parts] using ⟨(RereadsAs.string operator.tag).self, leftRereads, rightRereads⟩

def rereadParts (depth : Nat) (tree : Tree) : Except Fault (List (String × Json)) :=
  tree.parts.foldlM (addReread depth) []

theorem rereadParts_identifier (depth : Nat) (name : String) :
    rereadParts depth (identifier name) = .ok [("value", .string name)] := by
  simp [rereadParts, parts, addReread, (RereadsAs.string name).rereadAt_eq, Except.map]

theorem rereadParts_literal (depth : Nat) (value : Value) :
    rereadParts depth (literal value) =
      (rereadAt depth (.ofValue value)).map fun json => [("value", json)] := by
  simp [rereadParts, parts, addReread]

theorem rereadParts_expression (depth : Nat) (operator : Operator) (left right : Tree) :
    rereadParts depth (expression operator left right) = (do
      let newLeft ← rereadAt depth left.toJson
      let newRight ← rereadAt depth right.toJson
      .ok [("right", newRight), ("left", newLeft), ("operator", .string operator.tag)]) := by
  simp only [rereadParts, parts, List.foldlM_cons, List.foldlM_nil, addReread,
    (RereadsAs.string operator.tag).rereadAt_eq]
  cases rereadAt depth left.toJson with
  | error fault => rfl
  | ok newLeft => cases rereadAt depth right.toJson <;> rfl

theorem foldlM_addReread (depth : Nat) (members front back : List (String × Json)) :
    members.foldlM (addReread depth) (front ++ back) =
      (members.foldlM (addReread depth) front).map (· ++ back) := by
  induction members generalizing front with
  | nil => rfl
  | cons member members induction =>
      rw [List.foldlM_cons, List.foldlM_cons, addReread, addReread]
      cases rereadAt depth member.2 with
      | error fault => rfl
      | ok value => exact induction ((member.1, value) :: front)

theorem rereadAt_zero (tree : Tree) : rereadAt 0 tree.toJson = .error .malformed := by
  rw [toJson_eq]
  exact (RereadsAs.object_zero _).rereadAt_eq

theorem rereadAt_succ (depth : Nat) (tree : Tree) :
    rereadAt (depth + 1) tree.toJson =
      (rereadParts depth tree).map fun found =>
        .object (("kind", .string tree.kind.name) :: found.reverse) := by
  have kindRereads : RereadsAs depth (.string tree.kind.name) (.ok (.string tree.kind.name)) :=
    .string _
  have rereads : ∀ member ∈ ("kind", .string tree.kind.name) :: tree.parts,
      RereadsAs depth member.2 (rereadAt depth member.2) :=
    List.forall_mem_cons.mpr ⟨kindRereads.self, rereads_parts tree depth⟩
  rw [toJson_eq, (RereadsAs.object rereads).rereadAt_eq, List.foldlM_cons, addReread,
    kindRereads.rereadAt_eq]
  have shifted := foldlM_addReread depth tree.parts [] [("kind", .string tree.kind.name)]
  simp only [Except.map, ok_bind] at shifted ⊢
  rw [List.nil_append] at shifted
  rw [shifted, rereadParts]
  cases tree.parts.foldlM (addReread depth) [] <;> simp

/-! ## Nodes and their parts -/

theorem ofName?_name (kind : Kind) : Kind.ofName? kind.name = some kind := by
  cases kind <;> decide

theorem ofJson?_object {kind : Kind} {found : List (String × Json)}
    (names : found.map Prod.fst = (partNames kind).reverse) :
    ofJson? (.object (("kind", .string kind.name) :: found.reverse)) =
      ofMembers? kind (memberParts found) := by
  cases kind with
  | identifier =>
      rcases List.map_eq_singleton_iff.mp names with ⟨⟨_, value⟩, rfl, rfl⟩
      simp [ofJson?, memberParts, part?, ofMembers?, partNames, Kind.ofJson?, ofName?_name]
  | raw =>
      rcases List.map_eq_singleton_iff.mp names with ⟨⟨_, value⟩, rfl, rfl⟩
      simp [ofJson?, memberParts, part?, ofMembers?, partNames, Kind.ofJson?, ofName?_name]
  | expression =>
      rcases List.map_eq_cons_iff.mp names with ⟨⟨_, right⟩, others, rfl, rfl, otherNames⟩
      rcases List.map_eq_cons_iff.mp otherNames with ⟨⟨_, left⟩, last, rfl, rfl, lastName⟩
      rcases List.map_eq_singleton_iff.mp lastName with ⟨⟨_, operator⟩, rfl, rfl⟩
      simp [ofJson?, memberParts, part?, ofMembers?, partNames, Kind.ofJson?, ofName?_name]

theorem names_of_rereadParts {depth : Nat} {tree : Tree} {found : List (String × Json)}
    (read : rereadParts depth tree = .ok found) :
    found.map Prod.fst = (partNames tree.kind).reverse := by
  cases tree with
  | identifier name =>
      rw [rereadParts_identifier] at read
      cases read
      rfl
  | literal value =>
      rw [rereadParts_literal] at read
      cases json : rereadAt depth (.ofValue value) with
      | error fault => simp [json, Except.map] at read
      | ok value =>
          rw [json] at read
          cases read
          rfl
  | expression operator left right =>
      rw [rereadParts_expression] at read
      rcases bind_eq_ok_iff.mp read with ⟨newLeft, -, read⟩
      rcases bind_eq_ok_iff.mp read with ⟨newRight, -, isFound⟩
      cases isFound
      rfl

theorem fault_of_rereadJson {tree : Tree} {fault : Fault}
    (failed : tree.rereadJson = .error fault) : fault = .malformed := by
  induction tree generalizing fault with
  | identifier name => contradiction
  | literal value =>
      rcases value.rereads_ofValue with ⟨json, other, -, -, isOther⟩ | ⟨-, isMalformed⟩
      · simp [rereadJson, isOther, Except.map] at failed
      · simpa [rereadJson, isMalformed, Except.map, eq_comm] using failed
  | expression operator left right leftInduction rightInduction =>
      rw [rereadJson] at failed
      rcases bind_eq_error_iff.mp failed with leftFailed | ⟨newLeft, -, failed⟩
      · exact leftInduction leftFailed
      · rcases bind_eq_error_iff.mp failed with rightFailed | ⟨newRight, -, failed⟩
        · exact rightInduction rightFailed
        · contradiction

theorem ofMembers?_identifier (name : String) :
    ofMembers? .identifier (memberParts [("value", .string name)]) = some (.identifier name) := by
  simp [ofMembers?, partNames, memberParts, part?, ofParts?]

theorem ofMembers?_raw (json : Json) :
    ofMembers? .raw (memberParts [("value", json)]) = json.toValue?.map literal := by
  simp [ofMembers?, partNames, memberParts, part?, ofParts?]

theorem ofMembers?_expression (operator : Operator) {leftJson rightJson : Json} {left right : Tree}
    (isLeft : ofJson? leftJson = some left) (isRight : ofJson? rightJson = some right) :
    ofMembers? .expression (memberParts
        [("right", rightJson), ("left", leftJson), ("operator", .string operator.tag)]) =
      some (.expression operator left right) := by
  simp [ofMembers?, partNames, memberParts, part?, ofParts?, isLeft, isRight, operatorOfJson?]

/-- Within the limit of nesting the parts are read as those of the tree that the written one
becomes; beyond the limit they are refused. -/
def PartsReread (depth : Nat) (tree : Tree) : Prop :=
  (tree.depth ≤ depth + 1 →
    (rereadParts depth tree).map (fun found => ofMembers? tree.kind (memberParts found)) =
      tree.rereadJson.map some) ∧
  (depth + 1 < tree.depth → rereadParts depth tree = .error .malformed)

theorem rereadAt_toJson {tree : Tree} (partsReread : ∀ depth, PartsReread depth tree)
    (depth : Nat) :
    (tree.depth ≤ depth → (rereadAt depth tree.toJson).map ofJson? = tree.rereadJson.map some) ∧
      (depth < tree.depth → rereadAt depth tree.toJson = .error .malformed) := by
  cases depth with
  | zero => exact ⟨fun atMost => absurd tree.depth_pos (Nat.not_lt.mpr atMost),
      fun _ => rereadAt_zero tree⟩
  | succ depth =>
      rcases partsReread depth with ⟨within, beyond⟩
      rw [rereadAt_succ]
      constructor
      · intro atMost
        rw [← within atMost]
        cases read : rereadParts depth tree with
        | error fault => rfl
        | ok found =>
            have same := ofJson?_object (names_of_rereadParts read)
            simp only [Except.map, same]
      · intro tooDeep
        rw [beyond tooDeep]
        rfl

theorem partsReread (tree : Tree) (depth : Nat) : PartsReread depth tree := by
  rw [PartsReread]
  induction tree generalizing depth with
  | identifier name =>
      refine ⟨fun _ => ?_, fun tooDeep => absurd tooDeep (by simp [Tree.depth])⟩
      simp [rereadParts_identifier, rereadJson, kind, Except.map, ofMembers?_identifier]
  | literal value =>
      refine ⟨fun _ => ?_, fun tooDeep => absurd tooDeep (by simp [Tree.depth])⟩
      rw [rereadParts_literal, rereadJson]
      rcases value.rereads_ofValue with ⟨json, other, rereads, isValue, isOther⟩ |
          ⟨rereads, isMalformed⟩
      · rw [(rereads depth).rereadAt_eq, isOther]
        simp [Except.map, kind, ofMembers?_raw, isValue]
      · rw [(rereads depth).rereadAt_eq, isMalformed]
        rfl
  | expression operator left right leftInduction rightInduction =>
      rcases rereadAt_toJson leftInduction depth with ⟨leftWithin, leftBeyond⟩
      rcases rereadAt_toJson rightInduction depth with ⟨rightWithin, rightBeyond⟩
      rw [rereadParts_expression, rereadJson, Tree.depth]
      -- The left side is read first: only if it is accepted does the right one matter.
      rcases Nat.lt_or_ge depth left.depth with leftTooDeep | leftAtMost
      · rw [leftBeyond leftTooDeep]
        exact ⟨fun atMost => absurd atMost (by omega), fun _ => rfl⟩
      rcases map_eq_map_some_iff.mp (leftWithin leftAtMost) with
          ⟨leftJson, newLeft, isLeftJson, isLeft, isNewLeft⟩ | ⟨fault, leftFailed, sameFault⟩
      · rw [isLeftJson, isNewLeft]
        rcases Nat.lt_or_ge depth right.depth with rightTooDeep | rightAtMost
        · rw [rightBeyond rightTooDeep]
          exact ⟨fun atMost => absurd atMost (by omega), fun _ => rfl⟩
        refine ⟨fun _ => ?_, fun tooDeep => absurd tooDeep (by omega)⟩
        rcases map_eq_map_some_iff.mp (rightWithin rightAtMost) with
            ⟨rightJson, newRight, isRightJson, isRight, isNewRight⟩ |
            ⟨fault, rightFailed, sameFault⟩
        · rw [isRightJson, isNewRight]
          simp [ok_bind, Except.map, kind, ofMembers?_expression operator isLeft isRight]
        · rw [rightFailed, sameFault]
          rfl
      · rw [leftFailed, sameFault, fault_of_rereadJson sameFault]
        exact ⟨fun _ => rfl, fun _ => rfl⟩

/-! ## The outermost node -/

theorem readNode_brace (depth : Nat) (text : List Char) :
    readNode (depth + 1) ('\x7b' :: text) = (do
      let (outline, rest) ←
        Json.foldMembers Json.readText (readMember depth) (text.length + 1) true ⟨none, []⟩ text
      match outline.kind.bind fun kind => ofMembers? kind (memberParts outline.members) with
      | some tree => .ok (tree, rest)
      | none => .error .mismatched) := rfl

def addToOutline (depth : Nat) (kind : Kind) (outline : Outline) (member : String × Json) :
    Except Fault Outline :=
  if member.1 = "kind" then
    if outline.kind.isSome then .error .mismatched else .ok { outline with kind := some kind }
  else (addReread depth outline.members member).map fun members => { outline with members }

theorem readString_mark (text : List Char) :
    Json.readString ('"' :: text) = Json.readText text := rfl

theorem readsMember_kind (depth : Nat) (kind : Kind) :
    Json.ReadsMember (readMember depth) (addToOutline depth kind)
      ("kind", .string kind.name) (Json.compact (.string kind.name)).toList := by
  intro outline rest _
  have isText : (Json.compact (.string kind.name)).toList ++ rest =
      '"' :: (kind.name.toList.flatMap Json.writeCharacter ++ '"' :: rest) := by
    simp [Json.compact, Json.toList_writeText]
  have kindRead : readKind ('"' :: (kind.name.toList.flatMap Json.writeCharacter ++ '"' :: rest)) =
      .ok (kind, rest) := by
    rw [readKind, readString_mark, Json.readText_append, ok_bind]
    simp [ofName?_name]
  rw [readMember, if_pos rfl, addToOutline, if_pos rfl, isText, Json.readColon_cons]
  cases outline.kind.isSome with
  | true => rfl
  | false => simp [ok_bind, kindRead, Except.map]

theorem readsMember_of_ne {depth : Nat} {kind : Kind} {part : String × Json}
    (rereads : RereadsAs depth part.2 (rereadAt depth part.2)) (notKind : part.1 ≠ "kind") :
    Json.ReadsMember (readMember depth) (addToOutline depth kind) part
      part.2.compact.toList := by
  intro outline rest ends
  rw [readMember, if_neg notKind, addToOutline, if_neg notKind, Json.readColon_cons, ok_bind,
    rereads rest ends, addReread]
  cases rereadAt depth part.2 <;> rfl

theorem foldlM_addToOutline {depth : Nat} {kind : Kind} {members : List (String × Json)}
    (notKind : ∀ member ∈ members, member.1 ≠ "kind") (kind? : Option Kind)
    (found : List (String × Json)) :
    members.foldlM (addToOutline depth kind) ⟨kind?, found⟩ =
      (members.foldlM (addReread depth) found).map fun found => ⟨kind?, found⟩ := by
  induction members generalizing found with
  | nil => rfl
  | cons member members induction =>
      rcases List.forall_mem_cons.mp notKind with ⟨firstNotKind, othersNotKind⟩
      rw [List.foldlM_cons, List.foldlM_cons, addToOutline, if_neg firstNotKind]
      cases addReread depth found member with
      | error fault => rfl
      | ok found => exact induction othersNotKind found

theorem parts_ne_kind (tree : Tree) : ∀ part ∈ tree.parts, part.1 ≠ "kind" := by
  cases tree <;> simp [parts]

theorem readNode_toJson (depth : Nat) (tree : Tree) :
    readNode (depth + 1) tree.toJson.compact.toList =
      if tree.depth ≤ depth + 1 then tree.rereadJson.map fun other => (other, [])
      else .error .malformed := by
  have reads : ∀ member ∈ ("kind", .string tree.kind.name) :: tree.parts,
      Json.ReadsMember (readMember depth) (addToOutline depth tree.kind) member
        member.2.compact.toList :=
    List.forall_mem_cons.mpr ⟨readsMember_kind depth tree.kind, fun part isPart =>
      readsMember_of_ne (rereads_parts tree depth part isPart) (parts_ne_kind tree part isPart)⟩
  have outline : (("kind", .string tree.kind.name) :: tree.parts).foldlM
      (addToOutline depth tree.kind) ⟨none, []⟩ =
        (rereadParts depth tree).map fun found => ⟨some tree.kind, found⟩ :=
    foldlM_addToOutline (parts_ne_kind tree) (some tree.kind) []
  rcases partsReread tree depth with ⟨within, beyond⟩
  rw [toJson_eq, Json.toList_compact_object, readNode_brace, Json.foldMembers_compact reads,
    outline]
  split
  · next atMost =>
      rcases map_eq_map_some_iff.mp (within atMost) with
          ⟨found, other, isFound, isOther, reread⟩ | ⟨fault, failed, sameFault⟩
      · rw [isFound, reread]
        simp [Except.map, ok_bind, isOther]
      · rw [failed, sameFault]
        rfl
  · next tooDeep =>
      rw [beyond (Nat.lt_of_not_le tooDeep)]
      rfl

theorem readOptional_toJson (depth : Nat) (tree : Tree) :
    readOptional depth tree.toJson.compact.toList =
      (readNode depth tree.toJson.compact.toList).map fun (other, rest) => (some other, rest) := by
  rw [toJson_eq, Json.toList_compact_object]
  generalize Json.blockText _ _ _ ++ _ = text
  change (do
      let (other, rest) ← readNode depth ('\x7b' :: text)
      .ok (some other, rest)) = _
  cases readNode depth ('\x7b' :: text) <;> rfl

end Tree

end Rulebook

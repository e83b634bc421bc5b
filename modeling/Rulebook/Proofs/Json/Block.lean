import Rulebook.Json.Writer
import Rulebook.Proofs.Json.Scalar
import Rulebook.Proofs.Json.Text

/-!
What stands between the signs of a list or an object: items or members with commas and maybe blanks
between them. Reading them back is going over them with what a reader does with one of them.
-/

namespace Rulebook.Json

/-! ## Blanks -/

def Blanks (blanks : List Char) : Prop := ∀ character ∈ blanks, isBlank character = true

theorem blanks_nil : Blanks [] := by simp [Blanks]

theorem skipBlanks_append {blanks : List Char} (areBlanks : Blanks blanks) (text : List Char) :
    skipBlanks (blanks ++ text) = skipBlanks text :=
  List.dropWhile_append_of_pos areBlanks

theorem endsNumber_of_isBlank {character : Char} (blank : isBlank character = true)
    (rest : List Char) : EndsNumber (character :: rest) := by
  simp only [isBlank, Bool.or_eq_true, beq_iff_eq] at blank
  rcases blank with ((rfl | rfl) | rfl) | rfl
  all_goals exact endsNumber_cons (by decide) (by decide) (by decide) _

theorem endsNumber_append {blanks rest : List Char} (areBlanks : Blanks blanks)
    (ends : EndsNumber rest) : EndsNumber (blanks ++ rest) := by
  cases blanks with
  | nil => exact ends
  | cons blank blanks => exact endsNumber_of_isBlank (areBlanks blank List.mem_cons_self) _

/-! ## Lines with commas between them -/

def laterText (gap : List Char) (lines : List (List Char)) : List Char :=
  lines.flatMap fun line => ',' :: (gap ++ line)

def blockText (gap last : List Char) : List (List Char) → List Char
  | [] => []
  | line :: lines => gap ++ (line ++ (laterText gap lines ++ last))

theorem intercalate_cons (gap line : List Char) (lines : List (List Char)) :
    (',' :: gap).intercalate (line :: lines) = line ++ laterText gap lines := by
  induction lines generalizing line with
  | nil => simp [laterText]
  | cons next lines induction =>
      rw [List.intercalate_cons_cons, induction]
      simp [laterText]

theorem length_le_laterText (gap : List Char) (lines : List (List Char)) :
    lines.length ≤ (laterText gap lines).length := by
  induction lines with
  | nil => exact Nat.le_refl 0
  | cons line lines induction =>
      simp only [laterText, List.flatMap_cons, List.length_append, List.length_cons] at induction ⊢
      omega

theorem length_le_blockText_append (gap last : List Char) (lines : List (List Char))
    (closing : Char) (rest : List Char) :
    lines.length ≤ (blockText gap last lines ++ closing :: rest).length := by
  cases lines with
  | nil => exact Nat.zero_le _
  | cons line lines =>
      have later := length_le_laterText gap lines
      simp only [blockText, List.length_append, List.length_cons]
      omega

theorem endsNumber_laterText {gap last : List Char} (lastBlank : Blanks last)
    (lines : List (List Char)) {text : List Char} (ends : EndsNumber text) :
    EndsNumber (laterText gap lines ++ (last ++ text)) := by
  cases lines with
  | nil =>
      rw [laterText, List.flatMap_nil, List.nil_append]
      exact endsNumber_append lastBlank ends
  | cons line lines => exact endsNumber_cons (by decide) (by decide) (by decide) _

/-- The reader takes the text for the result, whatever follows that ends a number. -/
def ReadsAs {α : Type} (read : List Char → Except Fault (Parsed α)) (text : List Char)
    (result : Except Fault α) : Prop :=
  ∀ rest, EndsNumber rest → read (text ++ rest) = result.map fun value => (value, rest)

/-! ## Items of a list -/

section Items

variable {α ι : Type} {readItem : List Char → Except Fault (Parsed α)} {line : ι → List Char}
  {result : ι → Except Fault α} {items : List ι} {gap last : List Char}

def StartsItem (text : List Char) : Prop :=
  ∃ first others, text = first :: others ∧ isBlank first = false ∧ first ≠ ',' ∧ first ≠ ']'

theorem StartsItem.skipBlanks_eq {text : List Char} (starts : StartsItem text)
    (rest : List Char) : skipBlanks (text ++ rest) = text ++ rest := by
  rcases starts with ⟨first, others, rfl, notBlank, -⟩
  exact skipBlanks_of_head? (by simpa using notBlank)

theorem nextItem?_first {text : List Char} (starts : StartsItem text) (gapBlank : Blanks gap)
    (rest : List Char) : nextItem? true (gap ++ (text ++ rest)) = .ok (some (text ++ rest)) := by
  rw [nextItem?, skipBlanks_append gapBlank, starts.skipBlanks_eq]
  rcases starts with ⟨first, others, rfl, -, noComma, noBracket⟩
  simp [noComma, noBracket]

theorem nextItem?_later {text : List Char} (starts : StartsItem text) (gapBlank : Blanks gap)
    (rest : List Char) :
    nextItem? false (',' :: (gap ++ (text ++ rest))) = .ok (some (text ++ rest)) := by
  have noBlank : skipBlanks (',' :: (gap ++ (text ++ rest))) = ',' :: (gap ++ (text ++ rest)) := rfl
  rw [nextItem?, noBlank]
  simp only [Bool.false_eq_true, if_false]
  rw [skipBlanks_append gapBlank, starts.skipBlanks_eq]
  rcases starts with ⟨first, others, rfl, -, -, noBracket⟩
  simp [noBracket]

theorem skipBlanks_bracket (lastBlank : Blanks last) (rest : List Char) :
    skipBlanks (last ++ ']' :: rest) = ']' :: rest := by
  rw [skipBlanks_append lastBlank]
  rfl

theorem endsNumber_later (lastBlank : Blanks last) (lines : List (List Char)) (rest : List Char) :
    EndsNumber (laterText gap lines ++ (last ++ ']' :: rest)) :=
  endsNumber_laterText lastBlank lines (endsNumber_cons (by decide) (by decide) (by decide) rest)

theorem readItems_cons {item : ι} (reads : ReadsAs readItem (line item) (result item))
    {isFirst : Bool} {text more rest : List Char} (ends : EndsNumber more)
    (opens : nextItem? isFirst text = .ok (some (line item ++ more))) {bound : Nat}
    (later : readItems readItem bound false more =
      (items.mapM result).map fun values => (values, rest)) :
    readItems readItem (bound + 1) isFirst text =
      ((item :: items).mapM result).map fun values => (values, rest) := by
  rw [readItems, opens, ok_bind, List.mapM_cons]
  simp only
  rw [reads more ends]
  cases result item with
  | error fault => rfl
  | ok value =>
      simp only [Except.map, ok_bind]
      rw [later]
      cases items.mapM result <;> rfl

theorem readItems_later (gapBlank : Blanks gap) (lastBlank : Blanks last)
    (reads : ∀ item ∈ items, ReadsAs readItem (line item) (result item))
    (starts : ∀ item ∈ items, StartsItem (line item)) (rest : List Char) {bound : Nat}
    (enough : items.length ≤ bound) :
    readItems readItem (bound + 1) false
        (laterText gap (items.map line) ++ (last ++ ']' :: rest)) =
      (items.mapM result).map fun values => (values, rest) := by
  induction items generalizing bound with
  | nil =>
      have closes : nextItem? false (last ++ ']' :: rest) = .ok none := by
        simp [nextItem?, skipBlanks_bracket lastBlank]
      have isRest : skipClosing (last ++ ']' :: rest) = rest := by
        rw [skipClosing, skipBlanks_bracket lastBlank]
        rfl
      rw [List.map_nil, laterText, List.flatMap_nil, List.nil_append, readItems, closes, ok_bind]
      simp only
      rw [isRest]
      rfl
  | cons item items induction =>
      rcases List.forall_mem_cons.mp reads with ⟨readsFirst, readsLater⟩
      rcases List.forall_mem_cons.mp starts with ⟨startsFirst, startsLater⟩
      rcases Nat.exists_eq_add_of_le' enough with ⟨extra, rfl⟩
      have isText : laterText gap ((item :: items).map line) ++ (last ++ ']' :: rest) =
          ',' :: (gap ++ (line item ++
            (laterText gap (items.map line) ++ (last ++ ']' :: rest)))) := by
        simp [laterText]
      rw [isText]
      exact readItems_cons readsFirst (endsNumber_later lastBlank _ rest)
        (nextItem?_later startsFirst gapBlank _)
        (induction readsLater startsLater (Nat.le_add_left items.length extra))

/-- Reading the items of a list is reading each of them. -/
theorem readItems_block (gapBlank : Blanks gap) (lastBlank : Blanks last)
    (reads : ∀ item ∈ items, ReadsAs readItem (line item) (result item))
    (starts : ∀ item ∈ items, StartsItem (line item)) (rest : List Char) {bound : Nat}
    (enough : items.length ≤ bound) :
    readItems readItem (bound + 1) true (blockText gap last (items.map line) ++ ']' :: rest) =
      (items.mapM result).map fun values => (values, rest) := by
  cases items with
  | nil => rfl
  | cons item items =>
      rcases List.forall_mem_cons.mp reads with ⟨readsFirst, readsLater⟩
      rcases List.forall_mem_cons.mp starts with ⟨startsFirst, startsLater⟩
      rcases Nat.exists_eq_add_of_le' enough with ⟨extra, rfl⟩
      have isText : blockText gap last ((item :: items).map line) ++ ']' :: rest =
          gap ++ (line item ++ (laterText gap (items.map line) ++ (last ++ ']' :: rest))) := by
        simp [blockText]
      rw [isText]
      exact readItems_cons readsFirst (endsNumber_later lastBlank _ rest)
        (nextItem?_first startsFirst gapBlank _)
        (readItems_later gapBlank lastBlank readsLater startsLater rest
          (Nat.le_add_left items.length extra))

end Items

/-! ## Members of an object -/

def memberText (valueText : Json → List Char) (member : String × Json) : List Char :=
  (writeText member.1).toList ++ ':' :: valueText member.2

theorem memberText_append (valueText : Json → List Char) (member : String × Json)
    (rest : List Char) :
    memberText valueText member ++ rest =
      '"' :: (member.1.toList.flatMap writeCharacter ++
        '"' :: ':' :: (valueText member.2 ++ rest)) := by
  simp [memberText, toList_writeText]

section Members

variable {σ : Type} {onMember : σ → String → List Char → Except Fault (Parsed σ)}
  {step : σ → String × Json → Except Fault σ} {valueText : Json → List Char}
  {members : List (String × Json)} {gap last : List Char}

def ReadsMember (onMember : σ → String → List Char → Except Fault (Parsed σ))
    (step : σ → String × Json → Except Fault σ) (member : String × Json) (text : List Char) :
    Prop :=
  ∀ state rest, EndsNumber rest →
    onMember state member.1 (':' :: (text ++ rest)) =
      (step state member).map fun state => (state, rest)

theorem nextMember?_first (gapBlank : Blanks gap) (rest : List Char) :
    nextMember? true (gap ++ '"' :: rest) = .ok (some rest) := by
  rw [nextMember?, skipBlanks_append gapBlank]
  rfl

theorem nextMember?_later (gapBlank : Blanks gap) (rest : List Char) :
    nextMember? false (',' :: (gap ++ '"' :: rest)) = .ok (some rest) := by
  have opened : skipBlanks (gap ++ '"' :: rest) = '"' :: rest := by
    rw [skipBlanks_append gapBlank]
    rfl
  have noBlank : skipBlanks (',' :: (gap ++ '"' :: rest)) = ',' :: (gap ++ '"' :: rest) := rfl
  simp [nextMember?, noBlank, opened]

theorem endsNumber_laterMembers (lastBlank : Blanks last) (lines : List (List Char))
    (rest : List Char) : EndsNumber (laterText gap lines ++ (last ++ '\x7d' :: rest)) :=
  endsNumber_laterText lastBlank lines (endsNumber_cons (by decide) (by decide) (by decide) rest)

theorem foldMembers_cons {member : String × Json}
    (reads : ReadsMember onMember step member (valueText member.2)) {isFirst : Bool}
    {text more rest : List Char} (ends : EndsNumber more)
    (opens : nextMember? isFirst text = .ok (some (member.1.toList.flatMap writeCharacter ++
      '"' :: ':' :: (valueText member.2 ++ more)))) {bound : Nat}
    (later : ∀ state, foldMembers readText onMember bound false state more =
      (members.foldlM step state).map fun state => (state, rest)) (state : σ) :
    foldMembers readText onMember (bound + 1) isFirst state text =
      ((member :: members).foldlM step state).map fun state => (state, rest) := by
  rw [foldMembers, opens, ok_bind, List.foldlM_cons]
  simp only [readText_append, ok_bind, reads state more ends]
  cases step state member with
  | error fault => rfl
  | ok next => exact later next

theorem foldMembers_later (gapBlank : Blanks gap) (lastBlank : Blanks last)
    (reads : ∀ member ∈ members, ReadsMember onMember step member (valueText member.2))
    (rest : List Char) {bound : Nat} (enough : members.length ≤ bound) (state : σ) :
    foldMembers readText onMember (bound + 1) false state
        (laterText gap (members.map (memberText valueText)) ++ (last ++ '\x7d' :: rest)) =
      (members.foldlM step state).map fun state => (state, rest) := by
  induction members generalizing bound state with
  | nil =>
      have closing : skipBlanks (last ++ '\x7d' :: rest) = '\x7d' :: rest := by
        rw [skipBlanks_append lastBlank]
        rfl
      have closes : nextMember? false (last ++ '\x7d' :: rest) = .ok none := by
        simp [nextMember?, closing]
      have isRest : skipClosing (last ++ '\x7d' :: rest) = rest := by
        rw [skipClosing, closing]
        rfl
      rw [List.map_nil, laterText, List.flatMap_nil, List.nil_append, foldMembers, closes, ok_bind]
      simp only
      rw [isRest]
      rfl
  | cons member members induction =>
      rcases List.forall_mem_cons.mp reads with ⟨readsFirst, readsLater⟩
      rcases Nat.exists_eq_add_of_le' enough with ⟨extra, rfl⟩
      have isText : laterText gap ((member :: members).map (memberText valueText)) ++
          (last ++ '\x7d' :: rest) = ',' :: (gap ++ (memberText valueText member ++
            (laterText gap (members.map (memberText valueText)) ++ (last ++ '\x7d' :: rest)))) := by
        simp [laterText]
      rw [isText, memberText_append]
      exact foldMembers_cons readsFirst (endsNumber_laterMembers lastBlank _ rest)
        (nextMember?_later gapBlank _)
        (induction readsLater (Nat.le_add_left members.length extra)) state

/-- Reading the members of an object is folding over them. -/
theorem foldMembers_block (gapBlank : Blanks gap) (lastBlank : Blanks last)
    (reads : ∀ member ∈ members, ReadsMember onMember step member (valueText member.2))
    (rest : List Char) {bound : Nat} (enough : members.length ≤ bound) (state : σ) :
    foldMembers readText onMember (bound + 1) true state
        (blockText gap last (members.map (memberText valueText)) ++ '\x7d' :: rest) =
      (members.foldlM step state).map fun state => (state, rest) := by
  cases members with
  | nil => rfl
  | cons member members =>
      rcases List.forall_mem_cons.mp reads with ⟨readsFirst, readsLater⟩
      rcases Nat.exists_eq_add_of_le' enough with ⟨extra, rfl⟩
      have isText : blockText gap last ((member :: members).map (memberText valueText)) ++
          '\x7d' :: rest = gap ++ (memberText valueText member ++
            (laterText gap (members.map (memberText valueText)) ++ (last ++ '\x7d' :: rest))) := by
        simp [blockText]
      rw [isText, memberText_append]
      exact foldMembers_cons readsFirst (endsNumber_laterMembers lastBlank _ rest)
        (nextMember?_first gapBlank _)
        (foldMembers_later gapBlank lastBlank readsLater rest
          (Nat.le_add_left members.length extra)) state

end Members

end Rulebook.Json

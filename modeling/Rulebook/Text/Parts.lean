/-!
Parts of texts: what is left without the white space at both ends or without a byte order mark in
front, and what stands between the places of a mark.
-/

namespace Rulebook.Text

/-! ## White space -/

/-- The code points with Unicode's `White_Space` property, as inclusive ranges. The zero-width
characters, the byte order mark among them, do not have it. -/
def blankRanges : List (Nat × Nat) :=
  [(0x9, 0xD), (0x20, 0x20), (0x85, 0x85), (0xA0, 0xA0), (0x1680, 0x1680), (0x2000, 0x200A),
    (0x2028, 0x2029), (0x202F, 0x202F), (0x205F, 0x205F), (0x3000, 0x3000)]

def isBlank (character : Char) : Bool :=
  blankRanges.any fun (first, last) => first ≤ character.toNat && character.toNat ≤ last

def trim (text : List Char) : List Char :=
  ((text.dropWhile isBlank).reverse.dropWhile isBlank).reverse

def isBlankText (text : String) : Bool := text.toList.all isBlank

example : trim [' ', '\t', 'a', ' ', 'b', '\n'] = ['a', ' ', 'b'] := by decide

private theorem dropWhile_eq_nil_iff (text : List Char) :
    text.dropWhile isBlank = [] ↔ ∀ character ∈ text, isBlank character = true := by
  induction text with
  | nil => simp
  | cons head tail induction => by_cases blank : isBlank head = true <;> simp_all

theorem trim_eq_nil_iff (text : List Char) : trim text = [] ↔ text.all isBlank = true := by
  rw [trim, List.reverse_eq_nil_iff, dropWhile_eq_nil_iff, List.all_eq_true]
  constructor
  · intro rest character member
    rw [← List.takeWhile_append_dropWhile (p := isBlank) (l := text), List.mem_append] at member
    rcases member with member | member
    · exact List.all_eq_true.mp (List.all_takeWhile (p := isBlank)) character member
    · exact rest character (List.mem_reverse.mpr member)
  · intro all character member
    exact all character ((List.dropWhile_sublist _).subset (List.mem_reverse.mp member))

/-! ## Byte order marks -/

def orderMark : Char := '\uFEFF'

def dropOrderMark (text : List Char) : List Char :=
  if text.head? = some orderMark then text.tail else text

example : dropOrderMark [orderMark, orderMark, 'a'] = [orderMark, 'a'] := by decide

/-! ## Cutting at a mark -/

def parts (mark : Char) : List Char → List (List Char)
  | [] => [[]]
  | character :: rest =>
    if character = mark then [] :: parts mark rest
    else
      match parts mark rest with
      | [] => [[character]]
      | part :: others => (character :: part) :: others

example : parts '.' ['a', '.', '.', 'b'] = [['a'], [], ['b']] := by decide

end Rulebook.Text

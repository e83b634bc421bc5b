/-!
Characters as numbers: digits of any base up to thirty-six, and UTF-16 code units, by which texts
are ordered.
-/

namespace Rulebook.Text

def digitValue? (radix : Nat) (character : Char) : Option Nat :=
  let point := character.toNat
  let value? :=
    if '0'.toNat ≤ point ∧ point ≤ '9'.toNat then some (point - '0'.toNat)
    else if 'a'.toNat ≤ point ∧ point ≤ 'z'.toNat then some (point - 'a'.toNat + 10)
    else if 'A'.toNat ≤ point ∧ point ≤ 'Z'.toNat then some (point - 'A'.toNat + 10)
    else none
  value?.filter (· < radix)

def digitsValue? (radix : Nat) (digits : List Char) : Option Nat :=
  digits.foldlM (fun value digit => (digitValue? radix digit).map (radix * value + ·)) 0

example : digitsValue? 16 ['f', 'F'] = some 255 := by decide

example : digitsValue? 8 ['7', '8'] = none := by decide

def units (character : Char) : List Nat :=
  let point := character.toNat
  if point < 0x10000 then [point]
  else [0xD800 + (point - 0x10000) / 0x400, 0xDC00 + (point - 0x10000) % 0x400]

/-- Orders two texts by their first differing code unit; a proper beginning comes first. -/
def order (left right : String) : Ordering :=
  compare (left.toList.flatMap units) (right.toList.flatMap units)

example : units '😀' = [0xD83D, 0xDE00] := by decide

example : order "10" "9" = .lt := by decide

example : order "😀" "\uff5e" = .lt := by decide

end Rulebook.Text

import Rulebook.Number.Numeral
import Rulebook.Text.Characters
import Rulebook.Text.Parts

/-!
Texts as numbers: which texts a loose comparison takes for a number, and for which one.
-/

namespace Rulebook.NumericText

def takeRadix? : List Char → Option (Nat × List Char)
  | '0' :: mark :: digits =>
    if mark = 'x' ∨ mark = 'X' then some (16, digits)
    else if mark = 'o' ∨ mark = 'O' then some (8, digits)
    else if mark = 'b' ∨ mark = 'B' then some (2, digits)
    else none
  | _ => none

/-- Reads the digits after a base: at least one, after an optional plus sign, and a value that fits
in 64 bits. -/
def ofRadix? (radix : Nat) (text : List Char) : Option Nat :=
  let digits := match text with
    | '+' :: rest => rest
    | text => text
  if digits = [] then none else (Text.digitsValue? radix digits).filter Word.fits

def ofTrimmed? (text : List Char) : Option Number :=
  if text = [] then some .zero
  else if text = "Infinity".toList ∨ text = "+Infinity".toList then some (.infinity false)
  else if text = "-Infinity".toList then some (.infinity true)
  else
    match takeRadix? text with
    | some (radix, digits) => (ofRadix? radix digits).map .ofNat
    | none => (Numeral.read? text).map Numeral.number

/-- The number that a text stands for. Blanks around it do not count, a blank text is zero, and a
text that spells no number is not a number. -/
def number (text : String) : Number := (ofTrimmed? (Text.trim text.toList)).getD .nan

example : number " 42 " = .ofNat 42 := by decide +kernel

example : number "0x1F" = .ofNat 31 := by decide +kernel

example : number "1e3" = .ofNat 1000 := by decide +kernel

example : number "inf" = .nan := by decide +kernel

end Rulebook.NumericText

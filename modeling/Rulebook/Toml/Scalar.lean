import Rulebook.Number.Numeral
import Rulebook.Settings.Setting
import Rulebook.Toml.Text

/-!
TOML's bare values: truth values, whole and decimal numbers, dates and times.
-/

namespace Rulebook.Toml

def plainDigits? (text : List Char) : Option (List Char) :=
  let rec go : Bool → List Char → Option (List Char)
    | afterDigit, [] => if afterDigit then some [] else none
    | afterDigit, '_' :: rest => if afterDigit then go false rest else none
    | _, digit :: rest => (go true rest).map (digit :: ·)
  go false text

def decimalDigits? (text : List Char) : Option (List Char) := do
  let digits ← plainDigits? text
  if digits.all Char.isDigit then some digits else none

def wholeDigits? (text : List Char) : Option (List Char) := do
  let digits ← decimalDigits? text
  if digits.head? = some '0' ∧ digits ≠ ['0'] then none else some digits

def inRange? (value : Int) : Option Setting :=
  if Word.fitsSigned value then some (.integer value) else none

def integer? (text : List Char) : Option Setting :=
  match text with
  | '0' :: 'x' :: rest => do inRange? (← Text.digitsValue? 16 (← plainDigits? rest))
  | '0' :: 'o' :: rest => do inRange? (← Text.digitsValue? 8 (← plainDigits? rest))
  | '0' :: 'b' :: rest => do inRange? (← Text.digitsValue? 2 (← plainDigits? rest))
  | _ => do
    let (negative, unsigned) := Numeral.takeSign text
    let value : Int := Numeral.digitsValue (← wholeDigits? unsigned)
    inRange? (if negative then -value else value)

def decimal? (text : List Char) : Option Setting := do
  let (negative, unsigned) := Numeral.takeSign text
  let isMark (character : Char) : Bool := character == 'e' || character == 'E'
  let mantissa := unsigned.takeWhile (!isMark ·)
  let exponentText := unsigned.dropWhile (!isMark ·)
  let fractionText := mantissa.dropWhile (· != '.')
  if exponentText = [] ∧ fractionText = [] then none
  else
    let whole ← wholeDigits? (mantissa.takeWhile (· != '.'))
    let fraction ← if fractionText = [] then some [] else decimalDigits? fractionText.tail
    let exponent ← match exponentText with
      | [] => some (0 : Int)
      | _ :: rest => do
        let (negative, unsigned) := Numeral.takeSign rest
        let value : Int := Numeral.digitsValue (← decimalDigits? unsigned)
        some (if negative then -value else value)
    let number := Numeral.number ⟨negative, whole, fraction, exponent⟩
    if number = .infinity false ∨ number = .infinity true then none else some (.decimal number)

def namedNumber? (text : List Char) : Option Setting :=
  let (negative, unsigned) := Numeral.takeSign text
  if unsigned = ['i', 'n', 'f'] then some (.decimal (.infinity negative))
  else if unsigned = ['n', 'a', 'n'] then some (.decimal .nan)
  else none

def readField? (width least greatest : Nat) (text : List Char) : Option (Parsed Nat) :=
  let digits := text.take width
  let value := Numeral.digitsValue digits
  if digits.length = width ∧ digits.all Char.isDigit ∧ least ≤ value ∧ value ≤ greatest then
    some (value, text.drop width)
  else none

def readMark? (mark : Char) : List Char → Option (List Char)
  | character :: rest => if character = mark then some rest else none
  | [] => none

def isLeapYear (year : Nat) : Bool :=
  year % 4 == 0 && (year % 100 != 0 || year % 400 == 0)

def daysIn (year month : Nat) : Nat :=
  if month = 2 then if isLeapYear year then 29 else 28
  else if month = 4 ∨ month = 6 ∨ month = 9 ∨ month = 11 then 30
  else 31

def readDate? (text : List Char) : Option (List Char) := do
  let (year, rest) ← readField? 4 0 9999 text
  let (month, rest) ← readField? 2 1 12 (← readMark? '-' rest)
  let (_, rest) ← readField? 2 1 (daysIn year month) (← readMark? '-' rest)
  some rest

/-- Reads a time and returns its text: seconds may be missing, of their fraction nine digits count,
and zeros at its end do not, as long as a digit is left. -/
def readTime? (text : List Char) : Option (Parsed (List Char)) := do
  let (_, rest) ← readField? 2 0 23 text
  let (_, rest) ← readField? 2 0 59 (← readMark? ':' rest)
  match rest with
  | ':' :: seconds => do
    let (_, rest) ← readField? 2 0 60 seconds
    match rest with
    | '.' :: rest =>
      let digits := rest.takeWhile Char.isDigit
      if digits = [] then none
      else
        let kept := ((digits.take 9).reverse.dropWhile (· == '0')).reverse
        let fraction := if kept = [] then ['0'] else kept
        some (text.take 8 ++ '.' :: fraction, rest.dropWhile Char.isDigit)
    | rest => some (text.take 8, rest)
  | rest => some (text.take 5, rest)

def readOffset? : List Char → Option (List Char)
  | [] => some []
  | ['Z'] | ['z'] => some ['Z']
  | sign :: rest => do
    if sign = '+' ∨ sign = '-' then
      let (hours, after) ← readField? 2 0 23 rest
      let (minutes, after) ← readField? 2 0 59 (← readMark? ':' after)
      let sign := if hours = 0 ∧ minutes = 0 then '+' else sign
      if after = [] then some (sign :: rest) else none
    else none

def dateOrTime? (text : List Char) : Option (List Char) :=
  match readDate? text with
  | some [] => some text
  | some (mark :: rest) => do
    if mark = 'T' ∨ mark = 't' ∨ mark = ' ' then
      let (time, rest) ← readTime? rest
      some (text.take 10 ++ 'T' :: time ++ (← readOffset? rest))
    else none
  | none => do
    let (time, rest) ← readTime? text
    if rest = [] then some time else none

/-- The setting that a bare text spells. Dates and times are kept as texts. -/
def scalar? (text : List Char) : Option Setting :=
  if text = "true".toList then some (.boolean true)
  else if text = "false".toList then some (.boolean false)
  else
    (namedNumber? text).or <| (integer? text).or <| (decimal? text).or <|
      (dateOrTime? text).map fun date => .text (String.ofList date)

def isScalarCharacter (character : Char) : Bool :=
  character.isAlphanum || "_+-.:".toList.contains character

/-- Cuts a bare value off the beginning of a text. A space between a date and a time is part of
it. -/
def takeScalar (text : List Char) : Parsed (List Char) :=
  let first := text.takeWhile isScalarCharacter
  let rest := text.dropWhile isScalarCharacter
  match rest with
  | ' ' :: next =>
    if readDate? first = some [] ∧ (next.head?.any Char.isDigit) then
      (first ++ ' ' :: next.takeWhile isScalarCharacter, next.dropWhile isScalarCharacter)
    else (first, rest)
  | _ => (first, rest)

def readScalar? (text : List Char) : Option (Parsed Setting) := do
  let (scalar, rest) := takeScalar text
  some (← scalar? scalar, rest)

end Rulebook.Toml

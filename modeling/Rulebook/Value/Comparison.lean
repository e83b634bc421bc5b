import Rulebook.Text.Characters
import Rulebook.Value.Basic
import Rulebook.Value.NumericText

/-!
Equality and order of values, in two modes. The loose mode converts between truth values, numbers
and texts; the strict mode compares values of one kind only.
-/

namespace Rulebook

namespace Value

def toNumber : Value → Number
  | null => .zero
  | boolean value => .ofNat value.toNat
  | number value => value
  | text value => NumericText.number value

def strictlyEquals : Value → Value → Bool
  | null, null => true
  | boolean left, boolean right => left == right
  | number left, number right => left.equals right
  | text left, text right => left == right
  | _, _ => false

/-- Equality after conversion. Null equals only itself, values of one kind are compared as they are,
and in every other case both sides are converted to numbers. -/
def looselyEquals : Value → Value → Bool
  | null, null => true
  | null, _ | _, null => false
  | boolean left, boolean right => left == right
  | text left, text right => left == right
  | left, right => left.toNumber.equals right.toNumber

def strictOrder? : Value → Value → Option Ordering
  | number left, number right => left.compare? right
  | text left, text right => some (Text.order left right)
  | _, _ => none

def looseOrder? : Value → Value → Option Ordering
  | text left, text right => some (Text.order left right)
  | left, right => left.toNumber.compare? right.toNumber

end Value

inductive ComparisonMode where
  | loose
  | strict
  deriving DecidableEq, Repr

namespace ComparisonMode

def standard : ComparisonMode := loose

def name : ComparisonMode → String
  | loose => "loose"
  | strict => "strict"

def ofName? (text : String) : Option ComparisonMode := [loose, strict].find? (·.name = text)

def equals : ComparisonMode → Value → Value → Bool
  | loose => Value.looselyEquals
  | strict => Value.strictlyEquals

def order? : ComparisonMode → Value → Value → Option Ordering
  | loose => Value.looseOrder?
  | strict => Value.strictOrder?

end ComparisonMode

end Rulebook

import ChainCalculator.Number.Binary64
import ChainCalculator.Number.Digits

namespace ChainCalculator.Shortest

/-!
# The shortest decimal of a magnitude

Every binary64 magnitude is a natural multiple of `10 ^ -1074`.  Among the decimals that are rounded
back to the magnitude, `decimal` picks one with the fewest digits, and among those the nearest one;
a tie goes to the even decimal.

Up to seventeen digits are tried.  Each candidate is read back before it is taken, and the exact
value stands behind them all, so that what `decimal` answers always denotes the magnitude.
-/

/-- A positive decimal `coefficient * 10 ^ place * 10 ^ -1074`. -/
structure Decimal where
  coefficient : Nat
  place : Nat
  deriving Repr, DecidableEq

namespace Decimal

/-- The number of the magnitude that a decimal is rounded to. -/
def index
    (decimal : Decimal) :
    Nat :=
  Binary64.nearestIndex (decimal.coefficient * Nat.pow 10 decimal.place) (Nat.pow 10 1074)

/-- The digits of a decimal without the zeros at the end. -/
def digits
    (decimal : Decimal) :
    List Char :=
  Digits.dropTrailing '0' (Nat.toDigits 10 decimal.coefficient)

/-- The power of ten that the first digit counts. -/
def exponent
    (decimal : Decimal) :
    Int :=
  (decimal.place + (Nat.toDigits 10 decimal.coefficient).length : Int) - 1075

end Decimal

/-- A magnitude as a whole number of `10 ^ -1074`. -/
def exactCoefficient
    (index : Nat) :
    Nat :=
  Binary64.units index * Nat.pow 5 1074

/-- The two neighbours of `coefficient` among the multiples of `10 ^ place`, the nearer one first. -/
def neighbours
    (coefficient place : Nat) :
    List Decimal :=
  let gap := Nat.pow 10 place
  let below := coefficient / gap
  let rest := coefficient % gap
  if 2 * rest < gap ∨ 2 * rest = gap ∧ below % 2 = 0 then
    [⟨below, place⟩, ⟨below + 1, place⟩]
  else
    [⟨below + 1, place⟩, ⟨below, place⟩]

/-- The neighbours of a magnitude among the decimals of one digit, two digits, up to seventeen. -/
def candidates
    (index : Nat) :
    List Decimal :=
  let coefficient := exactCoefficient index
  let length := (Nat.toDigits 10 coefficient).length
  (List.range 17).flatMap fun short => neighbours coefficient (length - (short + 1))

/-- The shortest decimal that is rounded back to a magnitude. -/
def decimal
    (index : Nat) :
    Decimal :=
  ((candidates index).find? fun candidate => candidate.index = index).getD
    ⟨exactCoefficient index, 0⟩

end ChainCalculator.Shortest

import ChainCalculator.Number.Rounding

namespace ChainCalculator.Binary64

/-!
# The binary64 scale

The magnitudes that binary64 can hold are numbered in increasing order from zero.  Magnitude number
`index` is `units index` times `2 ^ -1074`, the smallest positive magnitude.  The number of a
magnitude is also its bit pattern without the sign, so a float is read through its sign and its
number, and written from them.

A real between two neighbours is rounded to the nearer one, and to the one with the even number in
case of a tie.
-/

/-- The number of the first magnitude beyond the finite ones; it stands for infinity. -/
def infinityIndex : Nat :=
  2047 * Nat.pow 2 52

/-- How many units of `2 ^ -1074` make one. -/
def unitsPerOne : Nat :=
  Nat.pow 2 1074

/-- One is a positive number of units, so it can be divided by. -/
theorem unitsPerOne_pos :
    0 < unitsPerOne := by
  decide +kernel

/-- The binary exponent of a magnitude's last place, counted from `2 ^ -1074`. -/
def shift
    (index : Nat) :
    Nat :=
  index / Nat.pow 2 52 - 1

/-- How many last places a magnitude holds. -/
def significand
    (index : Nat) :
    Nat :=
  index - shift index * Nat.pow 2 52

/-- A magnitude in whole units of `2 ^ -1074`. -/
def units
    (index : Nat) :
    Nat :=
  significand index * Nat.pow 2 (shift index)

/-- The number of the magnitude nearest to `numerator / denominator`. -/
def nearestIndex
    (numerator denominator : Nat) :
    Nat :=
  let scaled := numerator * unitsPerOne
  let places := (scaled / denominator).log2 - 52
  min infinityIndex (places * Nat.pow 2 52 + roundHalfEven scaled (denominator * Nat.pow 2 places))

/-- The float with the given sign and magnitude number. -/
def ofIndex
    (negative : Bool)
    (index : Nat) :
    Float :=
  Float.ofBits (UInt64.ofNat (if negative then Nat.pow 2 63 + index else index))

/-- The number of a float's magnitude. -/
def index
    (value : Float) :
    Nat :=
  value.toBits.toNat % Nat.pow 2 63

/-- Whether a float carries the minus sign, which zero may carry too. -/
def isNegative
    (value : Float) :
    Bool :=
  Nat.pow 2 63 ≤ value.toBits.toNat

end ChainCalculator.Binary64

import ChainCalculator.Number.Binary64
import ChainCalculator.Number.Digits

namespace ChainCalculator.Figure

/-!
# Figures on the screen

A computed number is shown rounded to ten decimal places, a half to the even neighbour, without
zeros at the end of the fraction and without a sign on zero.  Whole numbers below `10 ^ 15` are
written directly; both ways give the same figure where they meet.
-/

/-- How many decimal places a figure can show. -/
def decimalPlaces : Nat :=
  10

/-- How many multiples of `10 ^ -10` make one. -/
def countsPerOne : Nat :=
  Nat.pow 10 decimalPlaces

/-- One is a positive number of counts, so it can be divided by. -/
theorem countsPerOne_pos :
    0 < countsPerOne := by
  decide

/-- Whole numbers below this bound are written directly. -/
def wholeBound : Nat :=
  Nat.pow 10 15

/-- How many multiples of `10 ^ -10` a magnitude is rounded to. -/
def roundedCount
    (index : Nat) :
    Nat :=
  roundHalfEven (Binary64.units index * countsPerOne) Binary64.unitsPerOne

/-- A finite float with exactly ten decimal places. -/
def fixed
    (negative : Bool)
    (index : Nat) :
    List Char :=
  let count := roundedCount index
  (if negative then ['-'] else []) ++ Nat.toDigits 10 (count / countsPerOne) ++
    '.' :: Digits.padded decimalPlaces (count % countsPerOne)

/-- A number text without zeros at its end, without a bare point and without a signed zero. -/
def trim
    (text : List Char) :
    List Char :=
  let trimmed := Digits.dropTrailing '.' (Digits.dropTrailing '0' text)
  if trimmed = ['-', '0'] ∨ trimmed = [] then
    ['0']
  else
    trimmed

/-- Whether a magnitude is a whole number below the bound for writing it directly. -/
def IsPlainWhole
    (index : Nat) :
    Prop :=
  Binary64.units index % Binary64.unitsPerOne = 0 ∧
    Binary64.units index < wholeBound * Binary64.unitsPerOne

instance (index : Nat) : Decidable (IsPlainWhole index) :=
  inferInstanceAs (Decidable (_ ∧ _))

/-- A whole number written directly; zero has no sign. -/
def whole
    (negative : Bool)
    (index : Nat) :
    List Char :=
  let count := Binary64.units index / Binary64.unitsPerOne
  (if negative ∧ count ≠ 0 then ['-'] else []) ++ Nat.toDigits 10 count

/-- A finite float as a figure. -/
def finite
    (negative : Bool)
    (index : Nat) :
    List Char :=
  if IsPlainWhole index then
    whole negative index
  else
    trim (fixed negative index)

/-- The figure of a float; the infinities and the undefined number have names. -/
def write
    (value : Float) :
    String :=
  if value.isFinite then
    String.ofList (finite (Binary64.isNegative value) (Binary64.index value))
  else if value.isNaN then
    "NaN"
  else if Binary64.isNegative value then
    "-inf"
  else
    "inf"

end ChainCalculator.Figure

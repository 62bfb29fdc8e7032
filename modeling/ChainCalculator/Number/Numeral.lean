import ChainCalculator.Number.Binary64
import ChainCalculator.Number.Digits

namespace ChainCalculator

/-!
# Decimal numerals

A numeral is an optional sign followed by digits with at most one point and an optional decimal
exponent, or by the name of infinity or of the undefined number in any mixture of cases.  Only the
digits `0` to `9` count.  A point needs a digit on one side, an exponent needs a digit of its own.

`Numeral.read?` gives the exact number that a text denotes, and `Numeral.toFloat` the nearest float.
-/

/-- What a numeral denotes, before any rounding. -/
inductive Numeral where
  /-- The number `coefficient * 10 ^ exponent`, with a sign that zero may carry too. -/
  | decimal (negative : Bool) (coefficient : Nat) (exponent : Int)
  /-- One of the two infinities. -/
  | infinity (negative : Bool)
  /-- The undefined number. -/
  | undefined
  deriving Repr, DecidableEq

namespace Numeral

/-- A sign, if the text starts with one: whether it is a minus, and what follows. -/
def readSign :
    List Char → Bool × List Char
  | '-' :: rest => (true, rest)
  | '+' :: rest => (false, rest)
  | rest => (false, rest)

/-- The exponent that ends a numeral: nothing at all, or a mark, an optional sign and digits. -/
def readExponent? :
    List Char → Option Int
  | [] => some 0
  | mark :: rest =>
      if mark = 'e' ∨ mark = 'E' then
        let (negative, digits) := readSign rest
        if digits ≠ [] ∧ digits.all Char.isDigit then
          let size : Int := Digits.value digits
          some (if negative then -size else size)
        else
          none
      else
        none

/-- The point and the digits behind it, if the text starts with a point. -/
def spanFraction :
    List Char → List Char × List Char
  | '.' :: rest => Digits.split rest
  | rest => ([], rest)

/-- The coefficient and the exponent of an unsigned decimal numeral. -/
def readDecimal?
    (text : List Char) :
    Option (Nat × Int) :=
  let (whole, afterWhole) := Digits.split text
  let (fraction, afterFraction) := spanFraction afterWhole
  if whole = [] ∧ fraction = [] then
    none
  else
    (readExponent? afterFraction).map fun exponent =>
      (Digits.value (whole ++ fraction), exponent - fraction.length)

/-- What a text denotes, if all of it is one numeral. -/
def read?
    (text : List Char) :
    Option Numeral :=
  let (negative, unsigned) := readSign text
  let name := unsigned.map Char.toLower
  if name = "inf".toList ∨ name = "infinity".toList then
    some (.infinity negative)
  else if name = "nan".toList then
    some .undefined
  else
    (readDecimal? unsigned).map fun (coefficient, exponent) =>
      .decimal negative coefficient exponent

/--
The number of the magnitude nearest to `coefficient * 10 ^ exponent`.

A positive coefficient with an exponent of 400 or more lies beyond every finite magnitude.  With a
negative exponent that exceeds the coefficient's binary length by 400 or more it lies below half of
the smallest one.  Both are answered without computing the power.
-/
def decimalIndex
    (coefficient : Nat) :
    Int → Nat
  | .ofNat exponent =>
      if coefficient = 0 then
        0
      else if 400 ≤ exponent then
        Binary64.infinityIndex
      else
        Binary64.nearestIndex (coefficient * Nat.pow 10 exponent) 1
  | .negSucc exponent =>
      if coefficient.log2 + 400 ≤ exponent then
        0
      else
        Binary64.nearestIndex coefficient (Nat.pow 10 (exponent + 1))

/-- The float nearest to what a numeral denotes. -/
def toFloat :
    Numeral → Float
  | .decimal negative coefficient exponent =>
      Binary64.ofIndex negative (decimalIndex coefficient exponent)
  | .infinity negative =>
      Binary64.ofIndex negative Binary64.infinityIndex
  | .undefined =>
      Float.ofBits 0x7ff8000000000000

end Numeral

/-- The float that a text denotes, if all of it is one numeral. -/
def readFloat?
    (text : String) :
    Option Float :=
  (Numeral.read? text.toList).map Numeral.toFloat

end ChainCalculator

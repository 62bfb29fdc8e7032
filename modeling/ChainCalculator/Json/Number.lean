import ChainCalculator.Number.Shortest

namespace ChainCalculator.Json

/-!
# Numbers in a JSON text

A float is written with the fewest digits that read back as the same float.  Whether they are
written out around the point or with an exponent depends on the power of ten that the first digit
counts.  JSON has no word for infinities and the undefined number, which become `null`.
-/

/-- The powers of ten of a first digit for which a number is written without an exponent. -/
structure PlainRange where
  least : Int
  greatest : Int
  deriving Repr, DecidableEq

/-- Numbers from `0.00001` up to sixteen digits before the point are written without an exponent. -/
def plainRange : PlainRange :=
  ⟨-5, 15⟩

/-- Digits around a point, with at least one digit on both sides. -/
def plainDigits
    (digits : List Char)
    (exponent : Int) :
    List Char :=
  match exponent with
  | .ofNat places =>
      let whole := places + 1
      let fraction := digits.drop whole
      digits.take whole ++ List.replicate (whole - digits.length) '0' ++
        '.' :: (if fraction = [] then ['0'] else fraction)
  | .negSucc zeros =>
      '0' :: '.' :: (List.replicate zeros '0' ++ digits)

/-- The first digit, a point with the other digits if there are any, and a signed exponent. -/
def exponentDigits
    (digits : List Char)
    (exponent : Int) :
    List Char :=
  let fraction := digits.drop 1
  digits.take 1 ++ (if fraction = [] then [] else '.' :: fraction) ++
    'e' :: (if exponent < 0 then '-' else '+') :: Nat.toDigits 10 exponent.natAbs

/-- A positive finite magnitude as JSON writes it. -/
def magnitudeDigits
    (index : Nat) :
    List Char :=
  let decimal := Shortest.decimal index
  if plainRange.least ≤ decimal.exponent ∧ decimal.exponent ≤ plainRange.greatest then
    plainDigits decimal.digits decimal.exponent
  else
    exponentDigits decimal.digits decimal.exponent

/-- A float as JSON writes it. -/
def number
    (value : Float) :
    String :=
  if value.isFinite then
    let index := Binary64.index value
    String.ofList
      ((if Binary64.isNegative value then ['-'] else []) ++
        (if index = 0 then ['0', '.', '0'] else magnitudeDigits index))
  else
    "null"

end ChainCalculator.Json

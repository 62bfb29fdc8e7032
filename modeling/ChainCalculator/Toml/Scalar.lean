import ChainCalculator.Number.Numeral
import ChainCalculator.Toml.Value

namespace ChainCalculator.Toml

/-!
# Numbers, truth values and moments in a TOML text

These values are written without quotes and end before a space, a line end or a mark of the
document.  Digits may be grouped by single underscores.  Decimal numbers do not start with a
needless zero, and a point has digits on both sides.

Integers have up to 128 bits, and a number written in digits must lie within the range of binary64.
-/

namespace Scalar

/-- Whether a character can belong to a value without quotes. -/
def isPart
    (character : Char) :
    Bool :=
  !(" \t\r\n=,[]\x7b\x7d#'\"".toList.contains character)

/-- The digits of a group without its underscores, each of which must stand between two digits. -/
def ungroup?
    (isDigit : Char → Bool) :
    List Char → Option (List Char)
  | [] => none
  | [last] => if isDigit last then some [last] else none
  | first :: '_' :: rest =>
      if isDigit first then (ungroup? isDigit rest).map (first :: ·) else none
  | first :: rest =>
      if isDigit first then (ungroup? isDigit rest).map (first :: ·) else none

/-- The value of digits in a base of up to sixteen. -/
def baseValue
    (base : Nat)
    (digits : List Char) :
    Nat :=
  digits.foldl
    (fun value digit =>
      base * value +
        (if digit.isDigit then digit.toNat - '0'.toNat
        else digit.toLower.toNat - 'a'.toNat + 10)) 0

/-- Whether a character is a hexadecimal digit. -/
def isHexDigit
    (character : Char) :
    Bool :=
  character.isDigit || ('a' ≤ character.toLower && character.toLower ≤ 'f')

/-- Whether digits start with a needless zero. -/
def hasLeadingZero :
    List Char → Bool
  | '0' :: _ :: _ => true
  | _ => false

/-- An integer, if it has at most 128 bits. -/
def integer?
    (value : Int) :
    Option Value :=
  if -(Int.pow 2 127) ≤ value ∧ value < Int.pow 2 128 then some (.integer value) else none

/-- Digits in a base, if they form a number. -/
def baseInteger?
    (base : Nat)
    (isDigit : Char → Bool)
    (digits : List Char) :
    Option Value :=
  match ungroup? isDigit digits with
  | some digits => integer? (baseValue base digits)
  | none => none

/-- A number within the range of binary64, from the parts of its decimal. -/
def real?
    (negative : Bool)
    (coefficient : Nat)
    (exponent : Int) :
    Option Value :=
  let value := (Numeral.decimal negative coefficient exponent).toFloat
  if value.isFinite then some (.real value) else none

/-- An exponent behind its mark, if all of the text is one. -/
def exponent?
    (text : List Char) :
    Option Int :=
  let (negative, digits) := Numeral.readSign text
  (ungroup? Char.isDigit digits).map fun digits =>
    let size : Int := Digits.value digits
    if negative then -size else size

/-- Whether a character marks an exponent. -/
def isExponentMark
    (character : Char) :
    Bool :=
  character == 'e' || character == 'E'

/-- A decimal number without its sign. -/
def decimal?
    (negative : Bool)
    (text : List Char) :
    Option Value := do
  let mantissa := text.takeWhile (!isExponentMark ·)
  let exponentText := text.dropWhile (!isExponentMark ·)
  let wholeText := mantissa.takeWhile (· != '.')
  let whole ← ungroup? Char.isDigit wholeText
  if hasLeadingZero whole then
    none
  else
    match mantissa.dropWhile (· != '.'), exponentText with
    | [], [] =>
        let size : Int := Digits.value whole
        integer? (if negative then -size else size)
    | [], _ :: exponentText => do
        let exponent ← exponent? exponentText
        real? negative (Digits.value whole) exponent
    | _ :: fractionText, [] => do
        let fraction ← ungroup? Char.isDigit fractionText
        real? negative (Digits.value (whole ++ fraction)) (-fraction.length)
    | _ :: fractionText, _ :: exponentText => do
        let fraction ← ungroup? Char.isDigit fractionText
        let exponent ← exponent? exponentText
        real? negative (Digits.value (whole ++ fraction)) (exponent - fraction.length)

/-- A number that may have a sign. -/
def signed?
    (text : List Char) :
    Option Value :=
  let (negative, unsigned) := Numeral.readSign text
  if unsigned = "inf".toList then
    some (.real (Numeral.infinity negative).toFloat)
  else if unsigned = "nan".toList then
    some (.real Numeral.undefined.toFloat)
  else
    decimal? negative unsigned

/-- The value that a text without quotes denotes. -/
def read?
    (text : List Char) :
    Option Value :=
  match text with
  | '0' :: 'x' :: digits => baseInteger? 16 isHexDigit digits
  | '0' :: 'o' :: digits => baseInteger? 8 (fun digit => '0' ≤ digit && digit ≤ '7') digits
  | '0' :: 'b' :: digits => baseInteger? 2 (fun digit => digit == '0' || digit == '1') digits
  | _ =>
      if text = "true".toList then
        some (.boolean true)
      else if text = "false".toList then
        some (.boolean false)
      else
        match Moment.read? text with
        | some moment => some (.moment moment)
        | none => signed? text

/-- Whether a text is shaped like a date, so that a time may follow after a space. -/
def isDate
    (text : List Char) :
    Bool :=
  match readDate text with
  | some (_, []) => true
  | _ => false

/-- Split the text of a value without quotes from what follows it. -/
def split
    (text : List Char) :
    List Char × List Char :=
  let first := text.takeWhile isPart
  match text.dropWhile isPart with
  | ' ' :: rest =>
      if isDate first ∧ (rest.head?.map Char.isDigit).getD false then
        (first ++ ' ' :: rest.takeWhile isPart, rest.dropWhile isPart)
      else
        (first, ' ' :: rest)
  | rest => (first, rest)

end Scalar

end ChainCalculator.Toml

import ChainCalculator.Text.DecimalDigit

namespace ChainCalculator.PlainNumber

/-!
# Plain numbers

A plain number is a text that could have been typed: an optional minus, digits and at most one
point, with a digit on at least one side of it.  The digits may be those of any script.

Its canonical form has no needless zeros in front and no sign on a bare zero.  The point and what
follows it stay as they are.
-/

/-- Whether a text without a sign is a plain number. -/
def isUnsigned
    (text : List Char) :
    Bool :=
  let whole := text.takeWhile Text.isDecimalDigit
  match text.dropWhile Text.isDecimalDigit with
  | [] => whole ≠ []
  | '.' :: fraction => (whole ≠ [] || fraction ≠ []) && fraction.all Text.isDecimalDigit
  | _ => false

/-- A text without its leading minus, and whether it had one. -/
def splitMinus :
    List Char → Bool × List Char
  | '-' :: rest => (true, rest)
  | rest => (false, rest)

/-- Whether a text is a plain number. -/
def accepts
    (text : String) :
    Bool :=
  isUnsigned (splitMinus text.toList).2

/-- A whole part without needless zeros in front. -/
def wholePart
    (whole : List Char) :
    List Char :=
  match whole.dropWhile (· == '0') with
  | [] => ['0']
  | digits => digits

/-- The canonical form on characters. -/
def canonicalList
    (text : List Char) :
    List Char :=
  let (negative, unsigned) := splitMinus text
  let whole := wholePart (unsigned.takeWhile (· != '.'))
  let fraction := unsigned.dropWhile (· != '.')
  if negative ∧ (whole ≠ ['0'] ∨ fraction ≠ []) then
    '-' :: (whole ++ fraction)
  else
    whole ++ fraction

/-- The canonical form of a plain number. -/
def canonical
    (text : String) :
    String :=
  String.ofList (canonicalList text.toList)

end ChainCalculator.PlainNumber

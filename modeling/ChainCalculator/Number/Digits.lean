namespace ChainCalculator.Digits

/-!
# Decimal digits

Naturals are written and read in the decimal system with the digits `0` to `9`.
-/

/-- The number that one digit stands for. -/
def digitValue
    (digit : Char) :
    Nat :=
  digit.toNat - '0'.toNat

/-- The natural that a list of digits denotes; the empty list denotes zero. -/
def value
    (digits : List Char) :
    Nat :=
  digits.foldl (fun value digit => 10 * value + digitValue digit) 0

/-- The leading digits of a text, and what follows them. -/
def split
    (text : List Char) :
    List Char × List Char :=
  (text.takeWhile Char.isDigit, text.dropWhile Char.isDigit)

/-- The digits of a natural, led by zeros up to the given length. -/
def padded
    (length value : Nat) :
    List Char :=
  let digits := Nat.toDigits 10 value
  List.replicate (length - digits.length) '0' ++ digits

/-- A text without any of one character at its end. -/
def dropTrailing
    (unwanted : Char)
    (text : List Char) :
    List Char :=
  (text.reverse.dropWhile (· == unwanted)).reverse

/-- Reading digits on top of a number read so far. -/
private theorem foldl_digitValue
    (start : Nat)
    (digits : List Char) :
    digits.foldl (fun value digit => 10 * value + digitValue digit) start =
      start * Nat.pow 10 digits.length + value digits := by
  induction digits generalizing start with
  | nil =>
      simp [value]
  | cons digit rest inductionHypothesis =>
      simp only [value, List.foldl_cons, List.length_cons, inductionHypothesis (_ + _)]
      have grown : Nat.pow 10 (rest.length + 1) = Nat.pow 10 rest.length * 10 :=
        rfl
      rw [grown]
      grind

/-- Digits that stand before others count for more by the length of the others. -/
theorem value_append
    (earlier later : List Char) :
    value (earlier ++ later) = value earlier * Nat.pow 10 later.length + value later := by
  rw [value, List.foldl_append, foldl_digitValue]
  rfl

/-- Splitting a text loses nothing. -/
theorem split_append
    (text : List Char) :
    (split text).1 ++ (split text).2 = text :=
  List.takeWhile_append_dropWhile

end ChainCalculator.Digits

import ChainCalculator.Text.Ranges

namespace ChainCalculator.Text

/-!
# Blank space

The characters with the Unicode property White_Space separate words and are cut from both ends of
a line.
-/

/-- The ranges of the White_Space property. -/
def blankRanges : List (Nat × Nat) :=
  [(0x0009, 0x000D), (0x0020, 0x0020), (0x0085, 0x0085), (0x00A0, 0x00A0), (0x1680, 0x1680),
   (0x2000, 0x200A), (0x2028, 0x2029), (0x202F, 0x202F), (0x205F, 0x205F), (0x3000, 0x3000)]

/-- Whether a character is blank. -/
def isBlank
    (character : Char) :
    Bool :=
  inRanges blankRanges character

/-- A text without the blanks at both ends. -/
def trim
    (text : List Char) :
    List Char :=
  ((text.dropWhile isBlank).reverse.dropWhile isBlank).reverse

/-- The words of a text: its longest pieces without a blank. -/
def words :
    List Char → List (List Char)
  | [] => []
  | character :: rest =>
      if isBlank character then
        words rest
      else if (rest.head?.map isBlank).getD true then
        [character] :: words rest
      else
        match words rest with
        | [] => [[character]]
        | word :: others => (character :: word) :: others

end ChainCalculator.Text

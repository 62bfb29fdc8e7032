namespace ChainCalculator.Text

/-!
# Ranges of characters

A property of characters is given by ranges of code points, each with its first and its last one.
-/

/-- Whether a character lies in one of the ranges. -/
def inRanges
    (ranges : List (Nat × Nat))
    (character : Char) :
    Bool :=
  ranges.any fun (first, last) => first ≤ character.toNat && character.toNat ≤ last

end ChainCalculator.Text

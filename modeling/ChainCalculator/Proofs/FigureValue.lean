import ChainCalculator.Proofs.ExactValue
import ChainCalculator.Proofs.ReenteredFigure

namespace ChainCalculator

/-!
# What a figure stands for

A figure stands for its float's exact number rounded to ten decimal places.  The sign, the digits in
front of the point and those behind it all come from one natural, the rounded count, so that the form
of a figure and its number are both facts about that count.

A whole number is its own rounded count, with ten zeros behind it.  So the text that is written
directly for it is the text that is left when the zeros are trimmed.
-/

/-! ## The numbers of texts -/

namespace PlainNumber.Parts

/-- The number that the digits of a text stand for. -/
def decimal
    (parts : Parts) :
    ℚ :=
  signed parts.negative
    (Digits.value (parts.whole ++ parts.fraction.tail) / 10 ^ parts.fraction.tail.length)

/--
The form of a figure: a bare zero or digits that begin with another one, then nothing or a point and
at most ten digits that end with another one than zero.  A bare zero has no sign.
-/
structure Trimmed
    (parts : Parts) :
    Prop where
  wholeShape :
    parts.whole = ['0'] ∨
      ∃ first rest,
        parts.whole = first :: rest ∧
          first ≠ '0' ∧
          ∀ character ∈ first :: rest, character.isDigit
  fractionShape :
    parts.fraction = [] ∨
      ∃ front last,
        parts.fraction = '.' :: (front ++ [last]) ∧
          front.length ≤ 9 ∧
          last ≠ '0' ∧
          ∀ character ∈ front ++ [last], character.isDigit
  signShape : parts.negative → parts.whole ≠ ['0'] ∨ parts.fraction ≠ []

/-- A trimmed text is no zero with a sign only. -/
theorem Trimmed.text_ne
    {parts : Parts}
    (trimmed : parts.Trimmed) :
    parts.text ≠ ['-', '0'] := by
  intro shape
  cases signShown : parts.negative with
  | false =>
      rw [text, signShown] at shape
      rcases trimmed.wholeShape with zero | ⟨first, rest, wholeShape, -, digits⟩
      · simp [zero] at shape
      · rw [wholeShape] at shape
        have minus : first = '-' := (List.cons.inj shape).1
        have digit := digits first List.mem_cons_self
        rw [minus] at digit
        exact absurd digit (by decide)
  | true =>
      rw [text, signShown] at shape
      have bare : parts.whole ++ parts.fraction = ['0'] := (List.cons.inj shape).2
      rcases List.append_eq_singleton_iff.mp bare with ⟨noDigit, -⟩ | ⟨zero, noFraction⟩
      · rcases trimmed.wholeShape with zero | ⟨first, rest, wholeShape, -⟩
        · simp [noDigit] at zero
        · simp [noDigit] at wholeShape
      · exact (trimmed.signShape signShown).elim (· zero) (· noFraction)

end PlainNumber.Parts

namespace Figure

/-- The counts as a power of ten in the rationals. -/
theorem cast_countsPerOne :
    (countsPerOne : ℚ) = 10 ^ 10 := by
  rw [countsPerOne, Nat.pow_eq, Nat.cast_pow]
  rfl

/-- A figure has no zero at the end of its places. -/
theorem trimmed_parts
    (negative : Bool)
    (count : Nat) :
    (parts negative count).Trimmed where
  wholeShape := by
    have digits := @Digits.isDigit_of_mem_toDigits (count / countsPerOne)
    have shape := PlainNumber.wholePart_shape (Nat.toDigits 10 (count / countsPerOne))
    rw [Digits.wholePart_toDigits] at shape
    rcases shape with zero | ⟨first, rest, counts, wholeShape⟩
    · exact Or.inl zero
    · exact Or.inr ⟨first, rest, wholeShape, counts, wholeShape ▸ fun _ => digits⟩
  fractionShape := by
    rcases Digits.dropTrailing_shape '0' (Digits.padded decimalPlaces (count % countsPerOne)) with
      none | ⟨front, last, placesShape, counts⟩
    · exact Or.inl (by simp [parts, partsOf, places, none])
    · rw [← places] at placesShape
      obtain ⟨zeros, placesLength, -⟩ := value_whole_append_places count
      have atMost : front.length ≤ 9 := by
        rw [placesShape, List.length_append, List.length_singleton, decimalPlaces] at placesLength
        omega
      exact Or.inr
        ⟨front, last, by simp [parts, partsOf, placesShape], atMost, counts,
          placesShape ▸ fun _ => isDigit_of_mem_places⟩
  signShape := (canonical_parts negative count).signShape

/-- The sign is shown unless nothing is counted. -/
theorem negative_parts
    (negative : Bool)
    {count : Nat}
    (nonzero : count ≠ 0) :
    (parts negative count).negative = negative := by
  have shown : Nat.toDigits 10 (count / countsPerOne) ≠ ['0'] ∨ places count ≠ [] := by
    by_contra hidden
    obtain ⟨bare, none⟩ := not_or.mp hidden
    obtain ⟨zeros, -, countShape⟩ := value_whole_append_places count
    rw [not_not.mp bare, not_not.mp none] at countShape
    exact nonzero (countShape.symm.trans (Nat.zero_mul _))
  rcases shown with whole | place
  · simp [parts, partsOf, whole]
  · simp [parts, partsOf, place]

/-- The parts of a count stand for that many multiples of `10 ^ -10`. -/
theorem decimal_parts
    (negative : Bool)
    (count : Nat) :
    (parts negative count).decimal = signed negative (count / countsPerOne) := by
  obtain ⟨zeros, placesLength, countShape⟩ := value_whole_append_places count
  have magnitude :
      (Digits.value (Nat.toDigits 10 (count / countsPerOne) ++ places count) : ℚ) /
          10 ^ (places count).length =
        count / countsPerOne := by
    have allPlaces : (10 : ℚ) ^ 10 = 10 ^ (places count).length * 10 ^ zeros := by
      rw [← pow_add, placesLength]
      rfl
    have castShape :
        (Digits.value (Nat.toDigits 10 (count / countsPerOne) ++ places count) : ℚ) * 10 ^ zeros =
          count := by
      exact_mod_cast countShape
    rw [cast_countsPerOne, allPlaces, ← castShape,
      mul_div_mul_right _ _ (pow_ne_zero _ (by norm_num))]
  rw [PlainNumber.Parts.decimal, tail_fraction_parts]
  refine (congrArg (signed _) magnitude).trans ?_
  -- Only zero can lose its sign, and there the sign does not count.
  by_cases zero : count = 0
  · simp [signed, zero]
  · rw [negative_parts negative zero]

/-- The parts of a figure denote the number rounded to ten places. -/
theorem decimal_parts_roundedCount
    {value : Float}
    (finiteValue : value.isFinite) :
    (parts (Binary64.isNegative value) (roundedCount (Binary64.index value))).decimal =
      nearestWhole (Binary64.exact value * 10 ^ 10) / 10 ^ 10 := by
  have scaled :
      Binary64.exact value * 10 ^ 10 =
        signed (Binary64.isNegative value)
          ((Binary64.units (Binary64.index value) * countsPerOne : Nat) / Binary64.unitsPerOne) := by
    rw [Binary64.exact_eq finiteValue, ← signed_mul, Nat.cast_mul, ← cast_countsPerOne,
      div_mul_eq_mul_div]
  rw [decimal_parts, scaled, nearestWhole_signed, nearestWhole_div _ Binary64.unitsPerOne_pos,
    div_eq_mul_inv, signed_mul, cast_countsPerOne, div_eq_mul_inv]
  rfl

/-- The units of a whole number below the bound are those of a number that is written directly. -/
theorem isPlainWhole_of_exact
    {value : Float}
    (finiteValue : value.isFinite)
    {number : ℤ}
    (same : Binary64.exact value = number)
    (bounded : |number| < 10 ^ 15) :
    IsPlainWhole (Binary64.index value) ∧
      whole (Binary64.isNegative value) (Binary64.index value) = (toString number).toList := by
  rw [Binary64.exact_eq finiteValue] at same
  have scale : (Binary64.unitsPerOne : ℚ) ≠ 0 :=
    Nat.cast_ne_zero.mpr Binary64.unitsPerOne_pos.ne'
  have nonnegative :
      (0 : ℚ) ≤ Binary64.units (Binary64.index value) / Binary64.unitsPerOne :=
    div_nonneg (Nat.cast_nonneg _) (Nat.cast_nonneg _)
  have quotient :
      (Binary64.units (Binary64.index value) / Binary64.unitsPerOne : ℚ) = number.natAbs := by
    rw [← abs_signed (Binary64.isNegative value) nonnegative, same, Nat.cast_natAbs, Int.cast_abs]
  have unitsShape :
      Binary64.units (Binary64.index value) = number.natAbs * Binary64.unitsPerOne := by
    exact_mod_cast (div_eq_iff scale).mp quotient
  have magnitude : number.natAbs < wholeBound := by
    rw [Int.abs_eq_natAbs] at bounded
    rw [wholeBound, Nat.pow_eq]
    omega
  constructor
  · rw [IsPlainWhole, unitsShape]
    exact
      ⟨Nat.mul_mod_left _ _, Nat.mul_lt_mul_of_pos_right magnitude Binary64.unitsPerOne_pos⟩
  · rw [quotient] at same
    rw [toList_toString_of_signed same, whole, unitsShape,
      Nat.mul_div_cancel _ Binary64.unitsPerOne_pos]

/--
The figure of a finite number is its decimal number rounded to ten places, written without anything
needless.  A whole number below the bound is written directly, and trimming the zeros of its ten
places gives the same text.
-/
theorem write_rounds_exactly
    {value : Float}
    (finiteValue : value.isFinite) :
    (∃ parts : PlainNumber.Parts,
      (write value).toList = parts.text ∧
        parts.Trimmed ∧
        parts.decimal = nearestWhole (Binary64.exact value * 10 ^ 10) / 10 ^ 10) ∧
      write value ≠ "-0" ∧
      ∀ number : ℤ,
        Binary64.exact value = number →
        |number| < 10 ^ 15 →
          IsPlainWhole (Binary64.index value) ∧
            whole (Binary64.isNegative value) (Binary64.index value) = (toString number).toList ∧
            trim (fixed (Binary64.isNegative value) (Binary64.index value)) =
              (toString number).toList := by
  have textShape := toList_write finiteValue
  have trimmed :=
    trimmed_parts (Binary64.isNegative value) (roundedCount (Binary64.index value))
  refine ⟨⟨_, textShape, trimmed, decimal_parts_roundedCount finiteValue⟩, ?_, ?_⟩
  · intro bare
    rw [bare] at textShape
    exact trimmed.text_ne textShape.symm
  · intro number same bounded
    obtain ⟨plain, direct⟩ := isPlainWhole_of_exact finiteValue same bounded
    exact ⟨plain, direct, by rw [trim_fixed, ← whole_eq_parts_text _ plain, direct]⟩

/-- A tie is rounded to the even neighbour, and a whole number has no places. -/
theorem write_rounds_exactly_of_tie :
    Binary64.exact (-0.00048828125) = -1 / 2048 ∧
      nearestWhole (-1 / 2048 * 10 ^ 10) = -4882812 ∧
      (∃ parts : PlainNumber.Parts,
        parts.text = "-0.0004882812".toList ∧
          parts.Trimmed ∧
          parts.decimal = -4882812 / 10 ^ 10) ∧
      Binary64.exact (-42) = -42 ∧
      trim (fixed (Binary64.isNegative (-42)) (Binary64.index (-42))) = "-42".toList := by
  have tie : Binary64.exact (-0.00048828125) = -1 / 2048 := by
    decide +kernel
  have rounded : nearestWhole (-1 / 2048 * 10 ^ 10) = -4882812 := by
    decide +kernel
  have figure : write (-0.00048828125) = "-0.0004882812" := by
    decide +kernel
  have whole : Binary64.exact (-42) = -42 := by
    decide +kernel
  obtain ⟨⟨parts, textShape, trimmed, decimal⟩, -⟩ :=
    write_rounds_exactly (show (-0.00048828125 : Float).isFinite by decide +kernel)
  rw [figure] at textShape
  rw [tie, rounded] at decimal
  obtain ⟨-, -, direct⟩ := write_rounds_exactly (show (-42 : Float).isFinite by decide +kernel)
  obtain ⟨-, -, sameText⟩ := direct (-42) (by exact_mod_cast whole) (by decide)
  exact
    ⟨tie, rounded, ⟨parts, textShape.symm, trimmed, by exact_mod_cast decimal⟩, whole, sameText⟩

end Figure

end ChainCalculator

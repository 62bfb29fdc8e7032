import ChainCalculator.Proofs.ExactValue
import ChainCalculator.Proofs.NumberParts

namespace ChainCalculator.PlainNumber

/-!
# What a plain number denotes

A plain number denotes a rational.  Its digits may belong to any script and each of them counts by
its value there, the point says how many of them are decimal places, and the minus makes the number
negative.

The canonical form denotes the same number.  It drops zeros in front, but only those of ASCII, and
the sign of a bare zero.  Whatever begins with the point is kept.
-/

/-- The natural that decimal digits of any script denote. -/
def digitsValue
    (digits : List Char) :
    Nat :=
  digits.foldl (fun value digit => 10 * value + (Text.digitValue? digit).getD 0) 0

/-- A zero in front does not count. -/
@[simp]
theorem digitsValue_zero_cons
    (digits : List Char) :
    digitsValue ('0' :: digits) = digitsValue digits := by
  have zero : Text.digitValue? '0' = some 0 := by
    decide
  simp [digitsValue, zero]

/-- Zeros that the canonical form drops do not count, whatever follows them. -/
theorem digitsValue_wholePart_append
    (whole rest : List Char) :
    digitsValue (wholePart whole ++ rest) = digitsValue (whole ++ rest) := by
  induction whole with
  | nil =>
      exact digitsValue_zero_cons rest
  | cons digit others inductionHypothesis =>
      by_cases zero : digit = '0'
      · subst zero
        have dropped : wholePart ('0' :: others) = wholePart others := by
          simp [wholePart]
        rw [dropped, inductionHypothesis, List.cons_append, digitsValue_zero_cons]
      · rw [wholePart_cons_of_ne zero]

namespace Parts

/-- A text taken apart at its sign and its point. -/
def ofText
    (text : List Char) :
    Parts :=
  let (negative, unsigned) := splitMinus text
  ⟨negative, unsigned.takeWhile (· != '.'), unsigned.dropWhile (· != '.')⟩

/-- The number that parts with digits of any script denote. -/
def denoted
    (parts : Parts) :
    ℚ :=
  signed parts.negative
    (digitsValue (parts.whole ++ parts.fraction.tail) / 10 ^ parts.fraction.tail.length)

variable {parts : Parts}

/-- Dropping needless zeros, and the sign of a bare zero, does not change the number. -/
theorem denoted_canonical
    (parts : Parts) :
    parts.canonical.denoted = parts.denoted := by
  have sameDigits := digitsValue_wholePart_append parts.whole parts.fraction.tail
  by_cases bare : wholePart parts.whole = ['0'] ∧ parts.fraction = []
  · -- The sign gets lost only here, where the number is zero.
    have zero : digitsValue (parts.whole ++ parts.fraction.tail) = 0 := by
      rw [← sameDigits, bare.1, bare.2]
      exact digitsValue_zero_cons []
    simp [denoted, canonical, sameDigits, zero, signed]
  · have sameSign : parts.canonical.negative = parts.negative := by
      rw [canonical]
      grind
    rw [denoted, denoted, sameSign]
    exact congrArg (fun value : Nat => signed _ (value / _)) sameDigits

namespace Digital

variable (digital : parts.Digital)

include digital

/-- Parts are found again in their text. -/
theorem ofText_text :
    ofText parts.text = parts := by
  obtain ⟨wholeTaken, fractionLeft⟩ := digital.split_at_point
  rw [ofText, digital.splitMinus_text]
  simp only [wholeTaken, fractionLeft]

/-- In front of the fraction there is no point. -/
theorem point_not_mem_front :
    '.' ∉ (if parts.negative then ['-'] else []) ++ parts.whole := by
  intro member
  rcases List.mem_append.mp member with isSign | inWhole
  · cases negative : parts.negative <;> simp [negative] at isSign
  · exact absurd (digital.wholeDigits '.' inWhole) (by decide)

/-- What begins with the point is the fraction. -/
theorem dropWhile_text :
    parts.text.dropWhile (· != '.') = parts.fraction := by
  have front :
      ∀ character ∈ (if parts.negative then ['-'] else []) ++ parts.whole, character != '.' := by
    intro character member
    rw [bne_iff_ne]
    rintro rfl
    exact digital.point_not_mem_front member
  rw [text, List.dropWhile_append_of_pos front]
  rcases digital.fractionShape with none | ⟨places, fractionShape, -⟩
  · rw [none, List.dropWhile_nil]
  · rw [fractionShape, List.dropWhile_cons_of_neg (by decide)]

end Digital

/-- A canonical text is no zero with a sign only. -/
theorem Canonical.text_ne
    (canonicalParts : parts.Canonical) :
    parts.text ≠ ['-', '0'] := by
  intro bare
  have shape : parts = ⟨true, ['0'], []⟩ := by
    rw [← canonicalParts.ofText_text, bare]
    rfl
  rw [shape] at canonicalParts
  exact (canonicalParts.signShape rfl).elim (· rfl) (· rfl)

end Parts

/-- The exact number of a text, taken apart at its sign and its point. -/
def denoted
    (text : String) :
    ℚ :=
  (Parts.ofText text.toList).denoted

/--
The canonical form of a plain number is one itself and its own canonical form.  It denotes the same
number, ends with the point and the places of the text, and is no zero with a sign only.  Its whole
part is a bare zero or begins with another character.
-/
theorem canonical_denotes_same
    {text : String}
    (accepted : accepts text) :
    accepts (canonical text) ∧
      canonical (canonical text) = canonical text ∧
      denoted (canonical text) = denoted text ∧
      (∃ front,
        '.' ∉ front ∧
          (canonical text).toList = front ++ text.toList.dropWhile (· != '.')) ∧
      canonical text ≠ "-0" ∧
      ((Parts.ofText (canonical text).toList).whole = ['0'] ∨
        ∃ first rest,
          first ≠ '0' ∧ (Parts.ofText (canonical text).toList).whole = first :: rest) := by
  obtain ⟨parts, wellFormed, textShape⟩ := Parts.exists_of_accepts accepted
  have canonicalParts := wellFormed.canonical_canonical
  have canonicalShape := wellFormed.toList_canonical textShape
  obtain ⟨acceptedAgain, fixed⟩ := isCanonical_canonical accepted
  refine ⟨acceptedAgain, fixed, ?_, ?_, ?_, ?_⟩
  · rw [denoted, denoted, canonicalShape, textShape, canonicalParts.ofText_text,
      wellFormed.ofText_text, Parts.denoted_canonical]
  · rw [textShape, wellFormed.dropWhile_text]
    exact ⟨_, canonicalParts.point_not_mem_front, canonicalShape⟩
  · intro bare
    rw [bare] at canonicalShape
    exact canonicalParts.text_ne canonicalShape.symm
  · rw [canonicalShape, canonicalParts.ofText_text]
    exact wholePart_shape parts.whole

/-- Behind two zeros of ASCII stands the zero of another script, which is kept. -/
theorem canonical_denotes_same_in_another_script :
    accepts "-00\u0660\u0663.\u06650" ∧
      canonical "-00\u0660\u0663.\u06650" = "-\u0660\u0663.\u06650" ∧
      denoted "-00\u0660\u0663.\u06650" = -7 / 2 ∧
      denoted "-\u0660\u0663.\u06650" = -7 / 2 := by
  have accepted : accepts "-00\u0660\u0663.\u06650" := by
    decide +kernel
  have shape : canonical "-00\u0660\u0663.\u06650" = "-\u0660\u0663.\u06650" := by
    decide +kernel
  have number : denoted "-00\u0660\u0663.\u06650" = -7 / 2 := by
    decide +kernel
  obtain ⟨-, -, same, -⟩ := canonical_denotes_same accepted
  rw [shape] at same
  exact ⟨accepted, shape, number, same.trans number⟩

end ChainCalculator.PlainNumber

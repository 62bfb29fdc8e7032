import ChainCalculator.Proofs.DecimalMagnitude
import ChainCalculator.Proofs.FloatParts
import ChainCalculator.Proofs.Handling

namespace ChainCalculator

/-!
# Figures entered again

A figure shows a number rounded to ten decimal places, and reading the figure rounds once more, to
the nearest magnitude.  The second rounding does not undo the first.  The magnitude that is read is
at most as far from the figure as the magnitude that was shown, so it is rounded to the same ten
places.  This needs no case distinction between magnitudes that lie closer together than the decimal
places and those that lie further apart.
-/

/-- The distance of two quotients can be measured from either of them. -/
theorem distance_swap
    (first second firstDenominator secondDenominator : Nat) :
    distance (first * firstDenominator) secondDenominator second =
      distance (second * secondDenominator) firstDenominator first := by
  rw [distance, distance, Nat.add_comm]

namespace Figure

/-- The number of the magnitude that a figure is read as. -/
def readIndex
    (count : Nat) :
    Nat :=
  Binary64.nearestIndex count countsPerOne

/-- The count of a finite magnitude is read as a finite magnitude with the same count. -/
theorem roundedCount_readIndex
    {index : Nat}
    (finite : index < Binary64.infinityIndex) :
    readIndex (roundedCount index) < Binary64.infinityIndex ∧
      roundedCount (readIndex (roundedCount index)) = roundedCount index := by
  generalize countShape : roundedCount index = count
  have near :=
    distance_roundHalfEven (Binary64.units index * countsPerOne) Binary64.unitsPerOne_pos
  rw [← roundedCount, countShape, ← distance_swap] at near
  have close :
      2 * distance (count * Binary64.unitsPerOne) countsPerOne (Binary64.units index) <
        Binary64.unitsPerOne * countsPerOne := by
    have wide : Binary64.unitsPerOne * 1 < Binary64.unitsPerOne * countsPerOne :=
      Nat.mul_lt_mul_of_pos_left (by decide) Binary64.unitsPerOne_pos
    omega
  obtain ⟨free, bounded⟩ :=
    Binary64.nearestIndex_eq_freeIndex count countsPerOne_pos finite close
  have nearest := Binary64.distance_units_freeIndex_le count countsPerOne_pos index
  rw [readIndex, free]
  refine ⟨bounded, ?_⟩
  rw [roundedCount, roundHalfEven_eq_iff Binary64.unitsPerOne_pos, ← distance_swap]
  omega

/-- Whole part and places of a count, up to the zeros that are not shown. -/
theorem value_whole_append_places
    (count : Nat) :
    ∃ zeros,
      (places count).length + zeros = decimalPlaces ∧
        Digits.value (Nat.toDigits 10 (count / countsPerOne) ++ places count) * 10 ^ zeros =
          count := by
  obtain ⟨zeros, paddedShape⟩ :=
    Digits.exists_eq_dropTrailing_append '0'
      (Digits.padded decimalPlaces (count % countsPerOne))
  rw [← places] at paddedShape
  have rest : count % countsPerOne < 10 ^ decimalPlaces :=
    Nat.mod_lt count countsPerOne_pos
  have paddedLength : (Digits.padded decimalPlaces (count % countsPerOne)).length = decimalPlaces :=
    Digits.length_padded (by decide) rest
  have placesLength : (places count).length + zeros = decimalPlaces := by
    rw [← paddedLength, paddedShape, List.length_append, List.length_replicate]
  refine ⟨zeros, placesLength, ?_⟩
  calc
    Digits.value (Nat.toDigits 10 (count / countsPerOne) ++ places count) * 10 ^ zeros =
        Digits.value
          ((Nat.toDigits 10 (count / countsPerOne) ++ places count) ++
            List.replicate zeros '0') := by
      rw [Digits.value_append _ (List.replicate zeros '0'), Digits.value_replicate_zero,
        List.length_replicate, Nat.pow_eq, Nat.add_zero]
    _ = Digits.value
          (Nat.toDigits 10 (count / countsPerOne) ++
            Digits.padded decimalPlaces (count % countsPerOne)) := by
      rw [List.append_assoc, ← paddedShape]
    _ = count / countsPerOne * countsPerOne + count % countsPerOne := by
      rw [Digits.value_append, Digits.value_toDigits, Digits.value_padded, paddedLength,
        countsPerOne]
    _ = count := Nat.div_add_mod' count countsPerOne

/-- Behind the point stand the decimal places. -/
theorem tail_fraction_parts
    (negative : Bool)
    (count : Nat) :
    (parts negative count).fraction.tail = places count := by
  rw [parts, partsOf]
  by_cases none : places count = [] <;> simp [none]

/-- The figure of a count is read as the magnitude nearest to that count, with the shown sign. -/
theorem read?_text_parts
    (negative : Bool)
    (count : Nat) :
    (Numeral.read? (parts negative count).text).map Numeral.toFloat =
      some (Binary64.ofIndex (parts negative count).negative (readIndex count)) := by
  have fractionShape :
      (parts negative count).fraction = [] ∨
        ∃ shown,
          (parts negative count).fraction = '.' :: shown ∧
            ∀ character ∈ shown, character.isDigit := by
    by_cases none : places count = []
    · exact Or.inl (by simp [parts, partsOf, none])
    · exact Or.inr
        ⟨places count, by simp [parts, partsOf, none], fun _ => isDigit_of_mem_places⟩
  have read :=
    Numeral.read?_append (parts negative count).negative
      (fun _ member => Digits.isDigit_of_mem_toDigits member)
      (Nat.toDigits_ne_nil (n := count / countsPerOne) (b := 10)) fractionShape
  -- The zeros that were dropped are put back, so that there are ten places again.
  obtain ⟨zeros, placesLength, countShape⟩ := value_whole_append_places count
  have magnitude :
      Numeral.decimalIndex
          (Digits.value (Nat.toDigits 10 (count / countsPerOne) ++ places count))
          (-((places count).length : Int)) =
        readIndex count := by
    have exponent :
        -((places count).length : Int) - (zeros : Int) = -(decimalPlaces : Int) := by
      omega
    rw [← Numeral.decimalIndex_mul_pow _ zeros, countShape, exponent,
      Numeral.decimalIndex_eq_nearestIndex, Int.neg_neg, Int.toNat_natCast,
      Int.toNat_neg_natCast, Nat.pow_zero, Nat.mul_one]
    rfl
  rw [tail_fraction_parts] at read
  rw [PlainNumber.Parts.text, List.append_assoc]
  exact (congrArg (Option.map Numeral.toFloat) read).trans
    (congrArg (fun index => some (Binary64.ofIndex _ index)) magnitude)

/-- A sign that is not shown is not missed. -/
theorem parts_negative_parts
    (negative : Bool)
    (count : Nat) :
    parts (parts negative count).negative count = parts negative count := by
  rw [parts, parts, partsOf, partsOf]
  cases negative <;> simp

/-- A figure is the text of the parts that its rounded count makes up. -/
theorem toList_write
    {value : Float}
    (finiteValue : value.isFinite) :
    (write value).toList =
      (parts (Binary64.isNegative value) (roundedCount (Binary64.index value))).text := by
  rw [write, if_pos finiteValue, String.toList_ofList, finite_eq_parts_text]

/-- The figure of a finite number is read as a finite number with the same figure. -/
theorem exists_readFloat?_write
    {value : Float}
    (finiteValue : value.isFinite) :
    ∃ again,
      readFloat? (write value) = some again ∧ again.isFinite ∧ write again = write value := by
  have textShape := toList_write finiteValue
  generalize Binary64.isNegative value = negative at textShape
  generalize indexShape : Binary64.index value = index at textShape
  have inRange : index < Binary64.infinityIndex := by
    rw [← indexShape]
    exact Binary64.isFinite_iff_index_lt.mp finiteValue
  obtain ⟨bounded, sameCount⟩ := roundedCount_readIndex inRange
  generalize roundedCount index = count at textShape bounded sameCount
  have finiteAgain :=
    Binary64.isFinite_ofIndex (parts negative count).negative bounded
  refine ⟨Binary64.ofIndex (parts negative count).negative (readIndex count), ?_,
    finiteAgain, ?_⟩
  · rw [readFloat?, textShape]
    exact read?_text_parts negative count
  · rw [← String.toList_inj, toList_write finiteAgain, Binary64.isNegative_ofIndex _ bounded,
      Binary64.index_ofIndex _ bounded, sameCount, parts_negative_parts, textShape]

end Figure

/-! ## Pasting a figure -/

namespace Calculator

/-- A canonical number that can be read is pasted as it is, and equals shows the figure of it. -/
theorem screen_paste_equals
    {text : String}
    (canonicalText : PlainNumber.IsCanonical text)
    {value : Float}
    (read : readFloat? text = some value) :
    (fresh.paste text).screen = .number text ∧
      ((fresh.paste text).push .equals).screen = Screen.ofValue value := by
  obtain ⟨accepted, fixed⟩ := canonicalText
  have nonempty : text ≠ "" := by
    rw [← fixed]
    exact PlainNumber.canonical_ne_empty accepted
  have whole : pasted text = text := pasted_of_accepts accepted
  have held : fresh.paste text = ⟨.single (.typed text), none, none, none⟩ := by
    rw [paste_operand (Chain.single_eq_push (.computed 0)) (whole.symm ▸ accepted), whole, fixed]
    rfl
  have valueShape : (Operand.typed text).value = .ok value := by
    simp [Operand.value, nonempty, read]
  have latestShape :
      (⟨.single (.typed text), none, none, none⟩ : Calculator).latestValue = .ok value :=
    valueShape
  constructor
  · rw [held]
    exact if_neg nonempty
  · rw [held, push, attempt]
    simp only [handle, equals_of_pendingOperator?_eq_none, latestShape, whenRead_ok]
    rfl

/--
The figure of a finite number is a plain number in canonical form.  It is read as a finite number
with the same figure.  Pasted into a calculator that was just switched on it is shown as it is, also
after equals.
-/
theorem screen_figure_entered_again
    {value : Float}
    (finiteValue : value.isFinite) :
    let text := Figure.write value
    Screen.ofValue value = .number text ∧
      (∃ again,
        readFloat? text = some again ∧ again.isFinite ∧ Figure.write again = text) ∧
      PlainNumber.accepts text ∧
      PlainNumber.canonical text = text ∧
      (fresh.paste text).screen = .number text ∧
      ((fresh.paste text).push .equals).screen = .number text := by
  intro text
  have canonicalText : PlainNumber.IsCanonical text := Figure.isCanonical_write finiteValue
  obtain ⟨again, read, finiteAgain, sameFigure⟩ := Figure.exists_readFloat?_write finiteValue
  obtain ⟨pastedScreen, equalsScreen⟩ := screen_paste_equals canonicalText read
  have againScreen : Screen.ofValue again = .number text := by
    rw [Screen.ofValue, if_pos finiteAgain, sameFigure]
  exact
    ⟨if_pos finiteValue, ⟨again, read, finiteAgain, sameFigure⟩, canonicalText.1,
      canonicalText.2, pastedScreen, equalsScreen.trans againScreen⟩

/-- The sum of `0.1` and `0.2` is not `0.3`, but its figure is, and stays so. -/
theorem screen_figure_entered_again_of_sum :
    (0.1 + 0.2 : Float).isFinite ∧
      (0.1 + 0.2 : Float) ≠ 0.3 ∧
      Figure.write (0.1 + 0.2) = "0.3" ∧
      ((fresh.paste "0.3").push .equals).screen = .number "0.3" := by
  have finiteSum : (0.1 + 0.2 : Float).isFinite := by
    decide +kernel
  have figure : Figure.write (0.1 + 0.2) = "0.3" := by
    decide +kernel
  obtain ⟨-, -, -, -, -, equalsScreen⟩ := screen_figure_entered_again finiteSum
  rw [figure] at equalsScreen
  exact ⟨finiteSum, by decide +kernel, figure, equalsScreen⟩

end Calculator

end ChainCalculator

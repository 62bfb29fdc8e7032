import ChainCalculator.Json.Number
import ChainCalculator.Proofs.DecimalMagnitude
import ChainCalculator.Proofs.FloatParts

namespace ChainCalculator

/-!
# Numbers in JSON are read back

However the digits of a number are laid out around the point, with an exponent or without, they
denote the same decimal.  That decimal is one of those that are rounded back to the magnitude it was
found for.  So the text of a finite float is read as that float, with its sign, and two finite
floats with the same text are the same.
-/

namespace Shortest

/-- Ten to the 1074 is a multiple of two to the 1074. -/
private theorem ten_pow_eq :
    Nat.pow 10 1074 = Nat.pow 5 1074 * Binary64.unitsPerOne := by
  decide +kernel

private theorem ten_pow_pos :
    0 < Nat.pow 10 1074 := by
  decide +kernel

/-- A magnitude has an exact decimal, with as many places as the unit has. -/
private theorem exactCoefficient_mul
    (index : Nat) :
    Binary64.units index * Nat.pow 10 1074 =
      exactCoefficient index * Binary64.unitsPerOne := by
  rw [exactCoefficient, ten_pow_eq, Nat.mul_assoc]

/-- The decimal that is found for a magnitude is rounded back to it. -/
theorem index_decimal
    {index : Nat}
    (bounded : index ≤ Binary64.infinityIndex) :
    (decimal index).index = index := by
  rw [decimal]
  cases found : (candidates index).find? fun candidate => candidate.index = index with
  | some candidate =>
      simpa using List.find?_some found
  | none =>
      apply Binary64.nearestIndex_of_units_eq _ ten_pow_pos bounded
      rw [exactCoefficient_mul]
      exact congrArg (· * Binary64.unitsPerOne) (Nat.mul_one (exactCoefficient index)).symm

namespace Decimal

/-- A place below the least one belongs to the denominator. -/
private theorem nearestIndex_mul_pow
    (coefficient place last : Nat) :
    Binary64.nearestIndex (coefficient * Nat.pow 10 place) (Nat.pow 10 last) =
      Numeral.decimalIndex coefficient ((place : Int) - last) := by
  have exponents :
      place + (-((place : Int) - last)).toNat = ((place : Int) - last).toNat + last := by
    omega
  rw [Numeral.decimalIndex_eq_nearestIndex]
  apply Binary64.nearestIndex_eq_of_mul_eq (Nat.pow_pos (by decide)) (Nat.pow_pos (by decide))
  rw [Nat.pow_eq, Nat.mul_assoc, ← Nat.pow_add, exponents, Nat.pow_add, Nat.mul_assoc]

/-- A decimal is rounded as the number that its coefficient and its place denote. -/
theorem index_eq_decimalIndex
    (decimal : Decimal) :
    decimal.index = Numeral.decimalIndex decimal.coefficient (decimal.place - 1074) := by
  have least : (1074 : Int) = (1074 : Nat) := rfl
  rw [index, least]
  -- With a variable for it, nobody tries to compute the power.
  generalize 1074 = last
  exact nearestIndex_mul_pow decimal.coefficient decimal.place last

/-- The digits that are written make up for the zeros that are left out. -/
theorem decimalIndex_digits
    (decimal : Decimal) :
    Numeral.decimalIndex (Digits.value decimal.digits)
        (decimal.exponent + 1 - decimal.digits.length) =
      decimal.index := by
  obtain ⟨zeros, coefficientShape⟩ :=
    Digits.exists_eq_dropTrailing_append '0' (Nat.toDigits 10 decimal.coefficient)
  rw [← digits] at coefficientShape
  have valueShape :
      Digits.value decimal.digits * 10 ^ zeros = decimal.coefficient := by
    rw [← Digits.value_toDigits decimal.coefficient, coefficientShape, Digits.value_append,
      Digits.value_replicate_zero, List.length_replicate, Nat.pow_eq, Nat.add_zero]
  have exponentShape :
      decimal.exponent + 1 - (decimal.digits.length : Int) - (zeros : Int) =
        (decimal.place : Int) - 1074 := by
    rw [exponent, coefficientShape, List.length_append, List.length_replicate]
    omega
  rw [← Numeral.decimalIndex_mul_pow _ zeros, valueShape, exponentShape, index_eq_decimalIndex]

/-- The digits of a decimal are digits. -/
theorem isDigit_of_mem_digits
    {decimal : Decimal}
    {character : Char}
    (member : character ∈ decimal.digits) :
    character.isDigit :=
  Digits.isDigit_of_mem_toDigits (Digits.mem_of_mem_dropTrailing member)

/-- A decimal that is not rounded to zero has a digit. -/
theorem digits_ne_nil
    {decimal : Decimal}
    (positive : decimal.index ≠ 0) :
    decimal.digits ≠ [] := by
  intro none
  apply positive
  have valueShape : Digits.value [] = 0 :=
    rfl
  rw [← decimalIndex_digits, none, valueShape, Numeral.decimalIndex_eq_nearestIndex,
    Nat.zero_mul]
  apply Binary64.nearestIndex_eq_zero _ (Nat.pow_pos (by decide))
  rw [Nat.zero_mul, Nat.mul_zero]
  exact Nat.pow_pos (by decide)

end Decimal

end Shortest

namespace Json

/-- A text denotes a number as digits do whose first one counts the given power of ten. -/
def Denotes
    (text digits : List Char)
    (exponent : Int) :
    Prop :=
  ∀ negative : Bool,
    (Numeral.read? ((if negative then ['-'] else []) ++ text)).map Numeral.toFloat =
      some
        (Binary64.ofIndex negative
          (Numeral.decimalIndex (Digits.value digits) (exponent + 1 - digits.length)))

/-- The parts of a number denote it if they have the right digits, up to zeros at the end. -/
private theorem denotes_of_parts
    {whole fraction suffix digits : List Char}
    {written exponent : Int}
    (wholeDigits : ∀ character ∈ whole, character.isDigit)
    (wholeNonempty : whole ≠ [])
    (fractionShape :
      fraction = [] ∨
        ∃ places, fraction = '.' :: places ∧ ∀ character ∈ places, character.isDigit)
    (read : Numeral.readExponent? suffix = some written)
    (zeros : Nat)
    (valueShape :
      Digits.value (whole ++ fraction.tail) = Digits.value digits * 10 ^ zeros)
    (exponentShape :
      written - fraction.tail.length = exponent + 1 - digits.length - zeros) :
    Denotes (whole ++ (fraction ++ suffix)) digits exponent := by
  intro negative
  rw [Numeral.read?_append_exponent negative wholeDigits wholeNonempty fractionShape read,
    valueShape, exponentShape, Option.map_some, Numeral.toFloat, Numeral.decimalIndex_mul_pow]

theorem isDigit_of_mem_replicate
    {count : Nat}
    {character : Char}
    (member : character ∈ List.replicate count '0') :
    character.isDigit := by
  rw [List.eq_of_mem_replicate member]
  rfl

section

variable
  {digits : List Char}
  (allDigits : ∀ character ∈ digits, character.isDigit)
  (nonempty : digits ≠ [])
  (exponent : Int)

include allDigits nonempty

/-- All digits stand in front of the point, with zeros for the places that they leave. -/
private theorem denotes_plainDigits_of_whole
    {places : Nat}
    (short : digits.length ≤ places + 1) :
    Denotes (plainDigits digits (.ofNat places)) digits (.ofNat places) := by
  have wholeOnly : digits.drop (places + 1) = [] := List.drop_eq_nil_of_le short
  have shape :
      plainDigits digits (.ofNat places) =
        (digits ++ List.replicate (places + 1 - digits.length) '0') ++ (['.', '0'] ++ []) := by
    simp [plainDigits, wholeOnly, List.take_of_length_le short]
  rw [shape]
  refine
    denotes_of_parts ?_ (by simp [nonempty])
      (Or.inr ⟨['0'], rfl, fun _ => @isDigit_of_mem_replicate 1 _⟩) rfl
      (places + 1 - digits.length + 1) ?_ ?_
  · intro character member
    rcases List.mem_append.mp member with inDigits | inZeros
    · exact allDigits character inDigits
    · exact isDigit_of_mem_replicate inZeros
  · have zerosShape :
        List.replicate (places + 1 - digits.length) '0' ++ ['0'] =
          List.replicate (places + 1 - digits.length + 1) '0' :=
      List.replicate_succ'.symm
    rw [List.tail_cons, List.append_assoc, zerosShape, Digits.value_append,
      Digits.value_replicate_zero, List.length_replicate, Nat.pow_eq, Nat.add_zero]
  · simp only [List.tail_cons, List.length_singleton, Int.ofNat_eq_natCast]
    omega

/-- The point stands among the digits. -/
private theorem denotes_plainDigits_of_point
    {places : Nat}
    (long : places + 1 < digits.length) :
    Denotes (plainDigits digits (.ofNat places)) digits (.ofNat places) := by
  have shape :
      plainDigits digits (.ofNat places) =
        digits.take (places + 1) ++ ('.' :: digits.drop (places + 1) ++ []) := by
    have someFraction : digits.drop (places + 1) ≠ [] := by
      rw [Ne, List.drop_eq_nil_iff]
      exact Nat.not_le_of_lt long
    have noZeros : places + 1 - digits.length = 0 := Nat.sub_eq_zero_of_le (Nat.le_of_lt long)
    simp [plainDigits, someFraction, noZeros]
  rw [shape]
  refine
    denotes_of_parts (fun _ member => allDigits _ (List.mem_of_mem_take member))
      (by simp [nonempty])
      (Or.inr ⟨_, rfl, fun _ member => allDigits _ (List.mem_of_mem_drop member)⟩) rfl 0 ?_ ?_
  · rw [List.tail_cons, List.take_append_drop, Nat.pow_zero, Nat.mul_one]
  · simp only [List.tail_cons, List.length_drop, Int.ofNat_eq_natCast]
    omega

omit nonempty in
/-- All digits stand behind the point and some zeros. -/
private theorem denotes_plainDigits_of_zeros
    (zeros : Nat) :
    Denotes (plainDigits digits (.negSucc zeros)) digits (.negSucc zeros) := by
  have shape :
      plainDigits digits (.negSucc zeros) =
        ['0'] ++ ('.' :: (List.replicate zeros '0' ++ digits) ++ []) := by
    simp [plainDigits]
  rw [shape]
  refine
    denotes_of_parts (fun _ => @isDigit_of_mem_replicate 1 _) (by simp) (Or.inr ⟨_, rfl, ?_⟩)
      rfl 0 ?_ ?_
  · intro character member
    rcases List.mem_append.mp member with inZeros | inDigits
    · exact isDigit_of_mem_replicate inZeros
    · exact allDigits character inDigits
  · have zerosShape : ['0'] ++ List.replicate zeros '0' = List.replicate (zeros + 1) '0' :=
      rfl
    rw [List.tail_cons, ← List.append_assoc, zerosShape, Digits.value_append,
      Digits.value_replicate_zero, Nat.zero_mul, Nat.zero_add, Nat.pow_zero, Nat.mul_one]
  · simp only [List.tail_cons, List.length_append, List.length_replicate]
    omega

/-- The plain notation denotes the decimal. -/
theorem denotes_plainDigits :
    Denotes (plainDigits digits exponent) digits exponent := by
  cases exponent with
  | ofNat places =>
      by_cases short : digits.length ≤ places + 1
      · exact denotes_plainDigits_of_whole allDigits nonempty short
      · exact denotes_plainDigits_of_point allDigits nonempty (Nat.lt_of_not_le short)
  | negSucc zeros =>
      exact denotes_plainDigits_of_zeros allDigits zeros

omit allDigits nonempty in
/-- A written exponent can be read again. -/
theorem readExponent?_signed :
    Numeral.readExponent?
        ('e' :: (if exponent < 0 then '-' else '+') :: Nat.toDigits 10 exponent.natAbs) =
      some exponent := by
  have someDigit : Nat.toDigits 10 exponent.natAbs ≠ [] := Nat.toDigits_ne_nil
  have allDigits : (Nat.toDigits 10 exponent.natAbs).all Char.isDigit :=
    List.all_eq_true.mpr fun _ member => Digits.isDigit_of_mem_toDigits member
  by_cases negative : exponent < 0
  · have size : -(exponent.natAbs : Int) = exponent := by omega
    simpa [Numeral.readExponent?, negative, Numeral.readSign, someDigit, allDigits] using size
  · have size : (exponent.natAbs : Int) = exponent := by omega
    simpa [Numeral.readExponent?, negative, Numeral.readSign, someDigit, allDigits] using size

/-- The notation with an exponent denotes the decimal. -/
theorem denotes_exponentDigits :
    Denotes (exponentDigits digits exponent) digits exponent := by
  have lengthPositive : 0 < digits.length := List.length_pos_iff.mpr nonempty
  have wholeDigits : ∀ character ∈ digits.take 1, character.isDigit :=
    fun _ member => allDigits _ (List.mem_of_mem_take member)
  have placesDigits : ∀ character ∈ digits.drop 1, character.isDigit :=
    fun _ member => allDigits _ (List.mem_of_mem_drop member)
  have tailShape (places : List Char) :
      (if places = [] then [] else '.' :: places).tail = places := by
    by_cases none : places = [] <;> simp [none]
  rw [exponentDigits, List.append_assoc]
  refine
    denotes_of_parts wholeDigits (by simp [nonempty]) ?_ (readExponent?_signed exponent) 0 ?_ ?_
  · by_cases none : digits.drop 1 = []
    · exact Or.inl (if_pos none)
    · exact Or.inr ⟨digits.drop 1, if_neg none, placesDigits⟩
  · rw [tailShape, List.take_append_drop, Nat.pow_zero, Nat.mul_one]
  · rw [tailShape, List.length_drop]
    omega

end

/-- The text of a positive finite magnitude is read as that magnitude, with either sign. -/
theorem read?_magnitudeDigits
    (negative : Bool)
    {index : Nat}
    (positive : index ≠ 0)
    (bounded : index ≤ Binary64.infinityIndex) :
    (Numeral.read? ((if negative then ['-'] else []) ++ magnitudeDigits index)).map
        Numeral.toFloat =
      some (Binary64.ofIndex negative index) := by
  have kept := Shortest.index_decimal bounded
  generalize decimalShape : Shortest.decimal index = decimal at kept
  have nonempty : decimal.digits ≠ [] := by
    apply Shortest.Decimal.digits_ne_nil
    rwa [kept]
  have allDigits : ∀ character ∈ decimal.digits, character.isDigit :=
    fun _ => Shortest.Decimal.isDigit_of_mem_digits
  have denoted : Denotes (magnitudeDigits index) decimal.digits decimal.exponent := by
    rw [magnitudeDigits, decimalShape]
    split
    · exact denotes_plainDigits allDigits nonempty _
    · exact denotes_exponentDigits allDigits nonempty _
  rw [denoted, Shortest.Decimal.decimalIndex_digits, kept]

/-- A zero is read again with its sign. -/
theorem read?_zeroDigits
    (negative : Bool) :
    (Numeral.read? ((if negative then ['-'] else []) ++ ['0', '.', '0'])).map Numeral.toFloat =
      some (Binary64.ofIndex negative 0) := by
  cases negative <;> decide +kernel

/-- The text of a finite float is read as that float. -/
theorem readFloat?_number
    {value : Float}
    (finite : value.isFinite) :
    readFloat? (number value) = some value := by
  rw [readFloat?, number, if_pos finite, String.toList_ofList]
  by_cases zero : Binary64.index value = 0
  · rw [if_pos zero, read?_zeroDigits, ← zero, Binary64.ofIndex_index finite]
  · have bounded := Nat.le_of_lt (Binary64.isFinite_iff_index_lt.mp finite)
    rw [if_neg zero, read?_magnitudeDigits _ zero bounded, Binary64.ofIndex_index finite]

/-- Finite floats with the same text are the same. -/
theorem number_inj
    {first second : Float}
    (firstFinite : first.isFinite)
    (secondFinite : second.isFinite)
    (same : number first = number second) :
    first = second := by
  have read := readFloat?_number firstFinite
  rw [same, readFloat?_number secondFinite] at read
  exact (Option.some.inj read).symm

end Json

end ChainCalculator

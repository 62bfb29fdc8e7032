import ChainCalculator.Proofs.FigureParts
import ChainCalculator.Proofs.NearestMagnitude

namespace ChainCalculator

/-!
# The magnitude of a decimal

A decimal is read as the magnitude nearest to it, whatever the size of its exponent: the shortcuts
for very large and very small decimals answer what the rounding of the exact number would.  So
zeros at the end of a decimal change nothing, as long as its exponent makes up for them.
-/

namespace Digits

/-- A number is the value of its own digits. -/
@[simp]
theorem value_toDigits
    (number : Nat) :
    value (Nat.toDigits 10 number) = number :=
  Nat.ofDigitChars_ten_toDigits

/-- Zeros denote nothing, however many there are. -/
@[simp]
theorem value_replicate_zero
    (count : Nat) :
    value (List.replicate count '0') = 0 :=
  Nat.ofDigitChars_replicate_zero.trans (Nat.mul_zero _)

/-- Zeros in front of a number do not count. -/
@[simp]
theorem value_padded
    (length number : Nat) :
    value (padded length number) = number := by
  rw [padded, value_append, value_replicate_zero, value_toDigits, Nat.zero_mul, Nat.zero_add]

/-- A number that fits is padded to just the length that is asked for. -/
theorem length_padded
    {length number : Nat}
    (positive : 0 < length)
    (short : number < 10 ^ length) :
    (padded length number).length = length := by
  have digits : (Nat.toDigits 10 number).length ≤ length :=
    (Nat.length_toDigits_le_iff (by decide) positive).mpr short
  rw [padded, List.length_append, List.length_replicate]
  omega

/-- What is dropped from the end of a text is the same character all over. -/
theorem exists_eq_dropTrailing_append
    (unwanted : Char)
    (text : List Char) :
    ∃ count, text = dropTrailing unwanted text ++ List.replicate count unwanted := by
  have dropped :
      text.reverse.takeWhile (· == unwanted) =
        List.replicate (text.reverse.takeWhile (· == unwanted)).length unwanted := by
    apply List.eq_replicate_of_mem
    intro character member
    simpa using List.all_eq_true.mp List.all_takeWhile character member
  refine ⟨(text.reverse.takeWhile (· == unwanted)).length, ?_⟩
  rw [← List.reverse_inj, dropTrailing, List.reverse_append, List.reverse_reverse,
    List.reverse_replicate, ← dropped, List.takeWhile_append_dropWhile]

end Digits

namespace Numeral

/-- Ten is more than eight, so a decimal place is worth more than three binary ones. -/
theorem two_pow_le_ten_pow
    (exponent : Nat) :
    2 ^ (3 * exponent) ≤ 10 ^ exponent := by
  rw [Nat.pow_mul]
  exact Nat.pow_le_pow_left (by decide) exponent

/-- One is this many units, since the unit is the least positive magnitude. -/
theorem unitsPerOne_eq :
    Binary64.unitsPerOne = 2 ^ 1074 := by
  decide +kernel

/-- A whole number with at least four hundred zeros is beyond all finite magnitudes. -/
private theorem nearestIndex_of_large_exponent
    {coefficient exponent : Nat}
    (nonzero : coefficient ≠ 0)
    (large : 400 ≤ exponent) :
    Binary64.nearestIndex (coefficient * 10 ^ exponent) 1 = Binary64.infinityIndex := by
  have beyondAll : 2099 ≤ 3 * exponent + 1074 := by omega
  have units : 2 ^ (3 * exponent) * Binary64.unitsPerOne = 2 ^ (3 * exponent + 1074) := by
    rw [unitsPerOne_eq, Nat.pow_add]
  apply Binary64.nearestIndex_eq_infinityIndex _ Nat.one_pos beyondAll
  calc
    2 ^ (3 * exponent + 1074) * 1 = 2 ^ (3 * exponent + 1074) := Nat.mul_one _
    _ = 2 ^ (3 * exponent) * Binary64.unitsPerOne := units.symm
    _ ≤ coefficient * 10 ^ exponent * Binary64.unitsPerOne := by
      apply Nat.mul_le_mul_right
      exact
        Nat.le_trans (two_pow_le_ten_pow exponent)
          (Nat.le_mul_of_pos_left _ (Nat.pos_of_ne_zero nonzero))

/-- A coefficient far below the power of ten that divides it is nearest to zero. -/
private theorem nearestIndex_of_small_exponent
    {coefficient exponent : Nat}
    (small : coefficient.log2 + 400 ≤ exponent) :
    Binary64.nearestIndex coefficient (10 ^ (exponent + 1)) = 0 := by
  apply Binary64.nearestIndex_eq_zero _ (Nat.pow_pos (by decide))
  have short : coefficient * 2 < 2 ^ (coefficient.log2 + 2) :=
    Nat.mul_lt_mul_of_pos_right Nat.lt_log2_self Nat.two_pos
  calc
    2 * (coefficient * Binary64.unitsPerOne) = coefficient * 2 * 2 ^ 1074 := by
      rw [unitsPerOne_eq, Nat.mul_comm, Nat.mul_right_comm]
    _ < 2 ^ (coefficient.log2 + 2) * 2 ^ 1074 :=
      Nat.mul_lt_mul_of_pos_right short (Nat.two_pow_pos _)
    _ = 2 ^ (coefficient.log2 + 2 + 1074) :=
      (Nat.pow_add 2 (coefficient.log2 + 2) 1074).symm
    _ ≤ 2 ^ (3 * (exponent + 1)) := Nat.pow_le_pow_right Nat.two_pos (by omega)
    _ ≤ 10 ^ (exponent + 1) := two_pow_le_ten_pow _

/-- A decimal is read as the magnitude nearest to it. -/
theorem decimalIndex_eq_nearestIndex
    (coefficient : Nat)
    (exponent : Int) :
    decimalIndex coefficient exponent =
      Binary64.nearestIndex (coefficient * 10 ^ exponent.toNat) (10 ^ (-exponent).toNat) := by
  cases exponent with
  | ofNat exponent =>
      simp only [decimalIndex, Int.ofNat_eq_natCast, Int.toNat_natCast, Int.toNat_neg_natCast,
        Nat.pow_zero, Nat.pow_eq]
      by_cases zero : coefficient = 0
      · rw [if_pos zero, zero, Nat.zero_mul]
        exact (Binary64.nearestIndex_eq_zero 0 Nat.one_pos (by simp)).symm
      · by_cases large : 400 ≤ exponent
        · rw [if_neg zero, if_pos large, nearestIndex_of_large_exponent zero large]
        · rw [if_neg zero, if_neg large]
  | negSucc exponent =>
      simp only [decimalIndex, Int.toNat_negSucc, Int.neg_negSucc, Nat.pow_zero, Nat.mul_one,
        Nat.pow_eq]
      by_cases small : coefficient.log2 + 400 ≤ exponent
      · rw [if_pos small]
        exact (nearestIndex_of_small_exponent small).symm
      · rw [if_neg small]
        rfl

/-- Zeros at the end of a coefficient do not count if the exponent makes up for them. -/
theorem decimalIndex_mul_pow
    (coefficient zeros : Nat)
    (exponent : Int) :
    decimalIndex (coefficient * 10 ^ zeros) (exponent - zeros) =
      decimalIndex coefficient exponent := by
  rw [decimalIndex_eq_nearestIndex, decimalIndex_eq_nearestIndex]
  apply Binary64.nearestIndex_eq_of_mul_eq (Nat.pow_pos (by decide)) (Nat.pow_pos (by decide))
  simp only [Nat.mul_assoc, ← Nat.pow_add]
  congr 2
  omega

end Numeral

end ChainCalculator

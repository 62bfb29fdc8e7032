import ChainCalculator.Proofs.DecimalMagnitude
import ChainCalculator.Proofs.FloatParts

namespace ChainCalculator

/-!
# Exact numbers

A finite float stands for a rational: its units, counted from the least place that a float can have,
with its sign.  Rationals are rounded to whole numbers as quotients of naturals are, a half to the
even neighbour, and the sign makes no difference.
-/

/-! ## Signs -/

/-- A magnitude with its sign. -/
def signed
    (negative : Bool)
    (magnitude : ℚ) :
    ℚ :=
  if negative then -magnitude else magnitude

/-- A factor may be taken out of a signed number. -/
theorem signed_mul
    (negative : Bool)
    (magnitude factor : ℚ) :
    signed negative (magnitude * factor) = signed negative magnitude * factor := by
  cases negative <;> simp [signed]

/-- The sign does not change the absolute value. -/
theorem abs_signed
    (negative : Bool)
    {magnitude : ℚ}
    (nonnegative : 0 ≤ magnitude) :
    |signed negative magnitude| = magnitude := by
  cases negative with
  | false =>
      exact abs_of_nonneg nonnegative
  | true =>
      exact (abs_neg magnitude).trans (abs_of_nonneg nonnegative)

/-- A whole number is written with its sign, and zero without one. -/
theorem toList_toString_of_signed
    {negative : Bool}
    {magnitude : Nat}
    {number : ℤ}
    (same : signed negative magnitude = number) :
    (toString number).toList =
      (if negative ∧ magnitude ≠ 0 then ['-'] else []) ++ Nat.toDigits 10 magnitude := by
  cases negative with
  | false =>
      have shape : number = Int.ofNat magnitude := (Int.cast_inj.mp same).symm
      simp [shape, Int.repr]
  | true =>
      have shape : number = -(magnitude : ℤ) := by
        rw [signed, if_pos rfl] at same
        exact_mod_cast same.symm
      cases magnitude with
      | zero =>
          subst shape
          rfl
      | succ smaller =>
          have negativeShape : number = Int.negSucc smaller := shape
          simp [negativeShape, Int.repr]

/-! ## The numbers of floats -/

namespace Binary64

open Float.Model (UnpackedFloat)
open Float.Model.UnpackedFloat

/-- The number that an unpacked float stands for; what is not finite stands for none. -/
def exactUnpacked :
    UnpackedFloat → ℚ
  | .finite sign mantissa exponent _ => sign.apply mantissa * 2 ^ exponent
  | _ => 0

/-- The number that a finite float stands for. -/
def exact
    (value : Float) :
    ℚ :=
  exactUnpacked value.toModel.unpack

/-- The sign bit is the highest of the bits. -/
theorem apply_ofBitVec
    (bits : Bits)
    (magnitude : Nat) :
    ((Sign.ofBitVec (unpackSign bits)).apply magnitude : ℚ) =
      signed (Nat.pow 2 63 ≤ bits.toNat) magnitude := by
  have signShape : (unpackSign bits).toNat = bits.toNat / 2 ^ 63 % 2 := by
    rw [unpackSign, BitVec.toNat_cast, BitVec.extractLsb_toNat, Nat.shiftRight_eq_div_pow]
    rfl
  have bounded : bits.toNat < 2 ^ 64 := bits.isLt
  rw [signed, Nat.pow_eq]
  by_cases minus : 2 ^ 63 ≤ bits.toNat
  · have one : unpackSign bits ≠ 0#1 := by
      rw [Ne, ← BitVec.toNat_inj, signShape, BitVec.toNat_ofNat]
      omega
    rw [Sign.ofBitVec, if_neg one, decide_eq_true minus, if_pos rfl]
    exact Int.cast_neg _
  · have zero : unpackSign bits = 0#1 := by
      apply BitVec.eq_of_toNat_eq
      rw [signShape, BitVec.toNat_ofNat]
      omega
    rw [Sign.ofBitVec, if_pos zero, decide_eq_false minus, if_neg Bool.false_ne_true]
    rfl

/-- Below the sign stand the exponent and the mantissa. -/
theorem toNat_mod_eq
    (bits : Bits) :
    bits.toNat % Nat.pow 2 63 =
      (unpackExponent bits).toNat * 2 ^ 52 + (unpackMantissa bits).toNat := by
  have mantissaShape : (unpackMantissa bits).toNat = bits.toNat % 2 ^ 52 := by
    rw [unpackMantissa, BitVec.toNat_cast, BitVec.extractLsb_toNat, Nat.shiftRight_zero]
    rfl
  rw [toNat_unpackExponent, mantissaShape, Nat.pow_eq]
  omega

/-- The unit as a power of two in the rationals. -/
theorem cast_unitsPerOne :
    (unitsPerOne : ℚ) = 2 ^ (1074 : ℤ) := by
  rw [Numeral.unitsPerOne_eq, Nat.cast_pow, Nat.cast_two, zpow_ofNat]

section

variable (bits : Bits)

/-- A magnitude at a place is counted in units. -/
theorem apply_mul_zpow
    (magnitude places : Nat) :
    ((Sign.ofBitVec (unpackSign bits)).apply magnitude : ℚ) * 2 ^ ((places : ℤ) - 1074) =
      signed (Nat.pow 2 63 ≤ bits.toNat) ((magnitude * 2 ^ places : Nat) / unitsPerOne) := by
  rw [apply_ofBitVec, zpow_sub₀ two_ne_zero, zpow_natCast, ← cast_unitsPerOne, signed, signed,
    Nat.cast_mul, Nat.cast_pow, Nat.cast_two]
  split <;> ring

/-- With the least exponent, the mantissa counts single units. -/
theorem units_of_exponent_eq_zero
    (least : unpackExponent bits = 0#11) :
    units (bits.toNat % Nat.pow 2 63) = (unpackMantissa bits).toNat * 2 ^ 0 := by
  have mantissaShort : (unpackMantissa bits).toNat < 2 ^ 52 := (unpackMantissa bits).isLt
  rw [toNat_mod_eq, least]
  exact units_eq (by omega) (Or.inl rfl)

/-- The leading digit that is not stored is taken from the exponent. -/
theorem units_of_exponent_ne_zero
    (nonzero : (unpackExponent bits).toNat ≠ 0) :
    units (bits.toNat % Nat.pow 2 63) =
      (1#1 ++ unpackMantissa bits).toNat * 2 ^ ((unpackExponent bits).toNat - 1) := by
  have mantissaShort : (unpackMantissa bits).toNat < 2 ^ 52 := (unpackMantissa bits).isLt
  have mantissaShape := toNat_one_append (unpackMantissa bits)
  have indexShape :
      (unpackExponent bits).toNat * 2 ^ 52 + (unpackMantissa bits).toNat =
        ((unpackExponent bits).toNat - 1) * 2 ^ 52 + (1#1 ++ unpackMantissa bits).toNat := by
    omega
  rw [toNat_mod_eq, indexShape]
  exact units_eq (by omega) (Or.inr (by omega))

/-- The numbers of bit patterns are their units, with their signs. -/
theorem exactUnpacked_unpack
    (ordinary : unpackExponent bits ≠ -1#11) :
    exactUnpacked (unpack .binary64 bits) =
      signed (Nat.pow 2 63 ≤ bits.toNat)
        (units (bits.toNat % Nat.pow 2 63) / unitsPerOne) := by
  rw [unpack, if_neg ordinary]
  by_cases least : unpackExponent bits = 0#11
  · rw [if_pos least, units_of_exponent_eq_zero bits least, ← apply_mul_zpow]
    by_cases zeroMantissa : unpackMantissa bits = 0#52
    · have noMagnitude (sign : Sign) : sign.apply 0 = 0 := by
        cases sign <;> rfl
      rw [dif_pos zeroMantissa, zeroMantissa]
      simp [exactUnpacked, noMagnitude]
    · -- The least exponent counts as the next one, but without a leading digit.
      rw [dif_neg zeroMantissa, least]
      rfl
  · have nonzero : (unpackExponent bits).toNat ≠ 0 :=
      fun zero => least (BitVec.eq_of_toNat_eq zero)
    have exponentShape :
        (((unpackExponent bits).toNat - 1 : Nat) : ℤ) - 1074 =
          (unpackExponent bits).toNat - 1075 := by
      omega
    rw [if_neg least, units_of_exponent_ne_zero bits nonzero, ← apply_mul_zpow, exponentShape]
    rfl

end

/-- The exact number of a finite float is its units, with its sign. -/
theorem exact_eq
    {value : Float}
    (finite : value.isFinite) :
    exact value = signed (isNegative value) (units (index value) / unitsPerOne) :=
  exactUnpacked_unpack value.toBits.toBitVec ((isFinite_unpack_iff _).mp finite)

end Binary64

/-! ## Rounding of rationals -/

/-- The whole number nearest to a number, and the even one of two. -/
def nearestWhole
    (number : ℚ) :
    ℤ :=
  if Int.fract number < 1 / 2 then
    ⌊number⌋
  else if 1 / 2 < Int.fract number then
    ⌊number⌋ + 1
  else if Even ⌊number⌋ then
    ⌊number⌋
  else
    ⌊number⌋ + 1

/-- Whether a whole number is what a number is rounded to. -/
def IsNearest
    (number : ℚ)
    (whole : ℤ) :
    Prop :=
  2 * |number - whole| < 1 ∨ 2 * |number - whole| = 1 ∧ Even whole

/-- Rounding gives a nearest whole number. -/
theorem isNearest_nearestWhole
    (number : ℚ) :
    IsNearest number (nearestWhole number) := by
  have nonnegative := Int.fract_nonneg number
  have small := Int.fract_lt_one number
  have below : |number - ⌊number⌋| = Int.fract number :=
    abs_of_nonneg nonnegative
  have above : |number - (⌊number⌋ + 1 : ℤ)| = 1 - Int.fract number := by
    rw [Int.cast_add, Int.cast_one, ← sub_sub, Int.self_sub_floor, abs_sub_comm]
    exact abs_of_nonneg (by linarith)
  have half
      (notLess : ¬Int.fract number < 1 / 2)
      (notMore : ¬1 / 2 < Int.fract number) :
      2 * Int.fract number = 1 ∧ 2 * (1 - Int.fract number) = 1 := by
    constructor <;> linarith
  rw [nearestWhole]
  -- Below the half, above it, and the half itself with an even or an odd floor.
  split_ifs with less more even
  · left
    rw [below]
    linarith
  · left
    rw [above]
    linarith
  · right
    rw [below]
    exact ⟨(half less more).1, even⟩
  · right
    rw [above]
    exact ⟨(half less more).2, Int.even_add_one.mpr even⟩

/-- Two whole numbers are not both nearest to a number: neighbours are not both even. -/
theorem IsNearest.unique
    {number : ℚ}
    {first second : ℤ}
    (firstNearest : IsNearest number first)
    (secondNearest : IsNearest number second) :
    first = second := by
  have within : |(first : ℚ) - second| ≤ |number - first| + |number - second| := by
    rw [abs_sub_comm number first]
    exact abs_sub_le _ _ _
  by_contra different
  have apart : 1 ≤ |first - second| := Int.one_le_abs (sub_ne_zero.mpr different)
  have castApart : (1 : ℚ) ≤ |(first : ℚ) - second| := by
    exact_mod_cast apart
  rcases firstNearest with firstNear | ⟨firstHalf, firstEven⟩
  · rcases secondNearest with secondNear | ⟨secondHalf, -⟩ <;> linarith
  · rcases secondNearest with secondNear | ⟨secondHalf, secondEven⟩
    · linarith
    · -- Both are half a step away, so they are neighbours and one of them is odd.
      have castClose : |(first : ℚ) - second| ≤ 1 := by
        linarith
      have close : |first - second| ≤ 1 := by
        exact_mod_cast castClose
      have even := even_abs.mpr (firstEven.sub secondEven)
      rw [le_antisymm close apart] at even
      exact absurd even (by decide)

/-- There is only one nearest whole number, since ties go to the even one. -/
theorem nearestWhole_eq_iff
    {number : ℚ}
    {whole : ℤ} :
    nearestWhole number = whole ↔ IsNearest number whole := by
  constructor
  · rintro rfl
    exact isNearest_nearestWhole number
  · exact (isNearest_nearestWhole number).unique

example : nearestWhole (5 / 2) = 2 ∧ nearestWhole (7 / 2) = 4 := by
  decide +kernel

/-- Rounding treats both signs alike. -/
theorem nearestWhole_signed
    (negative : Bool)
    (magnitude : ℚ) :
    (nearestWhole (signed negative magnitude) : ℚ) = signed negative (nearestWhole magnitude) := by
  cases negative with
  | false =>
      rfl
  | true =>
      have turned : nearestWhole (-magnitude) = -nearestWhole magnitude := by
        rw [nearestWhole_eq_iff, IsNearest, Int.cast_neg, neg_sub_neg, abs_sub_comm, even_neg]
        exact isNearest_nearestWhole magnitude
      rw [signed, if_pos rfl, turned, Int.cast_neg, signed, if_pos rfl]

/-- The distance to a candidate, scaled by the denominator, is a natural. -/
theorem cast_distance
    (numerator candidate : Nat)
    {denominator : Nat}
    (positive : 0 < denominator) :
    |(numerator / denominator : ℚ) - candidate| =
      distance numerator denominator candidate / denominator := by
  have scale : (0 : ℚ) < denominator := Nat.cast_pos.mpr positive
  have distanceShape :
      (distance numerator denominator candidate : ℚ) =
        |(numerator : ℚ) - candidate * denominator| := by
    rw [distance, ← Nat.cast_mul]
    rcases Nat.le_total numerator (candidate * denominator) with below | above
    · rw [Nat.sub_eq_zero_of_le below, Nat.add_zero, Nat.cast_sub below, abs_sub_comm]
      exact (abs_of_nonneg (sub_nonneg.mpr (Nat.cast_le.mpr below))).symm
    · rw [Nat.sub_eq_zero_of_le above, Nat.zero_add, Nat.cast_sub above]
      exact (abs_of_nonneg (sub_nonneg.mpr (Nat.cast_le.mpr above))).symm
  rw [distanceShape, div_sub' scale.ne', abs_div, abs_of_pos scale, mul_comm]

/-- Naturals are rounded as the quotients they make up. -/
theorem nearestWhole_div
    (numerator : Nat)
    {denominator : Nat}
    (positive : 0 < denominator) :
    nearestWhole (numerator / denominator) = roundHalfEven numerator denominator := by
  have scale : (0 : ℚ) < denominator := Nat.cast_pos.mpr positive
  rw [nearestWhole_eq_iff, IsNearest, Int.cast_natCast, cast_distance _ _ positive, ← mul_div_assoc,
    div_lt_one scale, div_eq_one_iff_eq scale.ne', Int.even_coe_nat, Nat.even_iff]
  exact_mod_cast distance_roundHalfEven numerator positive

end ChainCalculator

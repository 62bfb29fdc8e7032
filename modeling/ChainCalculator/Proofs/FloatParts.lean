import Mathlib
import ChainCalculator.Number.Binary64

namespace ChainCalculator.Binary64

/-!
# The parts of a float

A finite float is determined by its sign and the number of its magnitude, and every number below
that of infinity belongs to a finite float of either sign.  Packing and unpacking lose nothing there.
-/

open Float.Model (UnpackedFloat Format)
open Float.Model.UnpackedFloat

/-- The bits of a float. -/
abbrev Bits : Type :=
  BitVec Format.binary64.numBits

/-- The exponent stands in eleven bits above the mantissa. -/
theorem toNat_unpackExponent
    (bits : Bits) :
    (unpackExponent bits).toNat = bits.toNat / 2 ^ 52 % 2 ^ 11 := by
  rw [unpackExponent, BitVec.toNat_cast, BitVec.extractLsb_toNat, Nat.shiftRight_eq_div_pow]
  rfl

/-- The sign is found again in its bit. -/
theorem toBitVec_ofBitVec
    (sign : BitVec 1) :
    (Sign.ofBitVec sign).toBitVec = sign := by
  revert sign
  decide

/-- Sign, exponent and mantissa make up all the bits. -/
theorem packComponents_unpack
    (bits : Bits) :
    packComponents .binary64 (Sign.ofBitVec (unpackSign bits)) (unpackExponent bits)
        (unpackMantissa bits) =
      bits := by
  simp only [packComponents, toBitVec_ofBitVec, unpackSign, unpackExponent, unpackMantissa,
    BitVec.extractLsb]
  ext place inside
  grind

/-- A mantissa of at most 52 digits is packed with the exponent zero. -/
theorem pack_finite_of_short
    (sign : Sign)
    {mantissa : Nat}
    (positive : 0 < mantissa)
    (short : mantissa < 2 ^ 52) :
    UnpackedFloat.pack .binary64 (.finite sign mantissa (-1074) positive) =
      packComponents .binary64 sign 0 (BitVec.ofNat 52 mantissa) := by
  have digits : mantissa.log2 < 52 := (Nat.log2_lt (Nat.ne_of_gt positive)).mpr short
  have notLong : ¬mantissa.log2 + 1 = Format.binary64.mantissaBits := by
    change ¬mantissa.log2 + 1 = 53
    omega
  simp only [UnpackedFloat.pack, if_neg notLong]
  rfl

/-- A mantissa of 53 digits is packed without the first of them. -/
theorem pack_finite_of_long
    (sign : Sign)
    {mantissa exponent : Nat}
    (positive : 0 < mantissa)
    (atLeast : 2 ^ 52 ≤ mantissa)
    (atMost : mantissa < 2 ^ 53)
    (ordinary : exponent < 2047) :
    UnpackedFloat.pack .binary64 (.finite sign mantissa (exponent - 1075) positive) =
      packComponents .binary64 sign (BitVec.ofNat 11 exponent) (BitVec.ofNat 52 mantissa) := by
  have long : mantissa.log2 + 1 = Format.binary64.mantissaBits := by
    have digits := (Nat.log2_eq_iff (Nat.ne_of_gt positive)).mpr ⟨atLeast, atMost⟩
    rw [digits]
    rfl
  have biased :
      ((exponent : Int) - 1075 + Format.binary64.exponentBias +
          Format.binary64.mantissaBitsWithoutImplicit).toNat =
        exponent := by
    change ((exponent : Int) - 1075 + (1023 : Nat) + (52 : Nat)).toNat = exponent
    omega
  have inRange : ¬2 ^ Format.binary64.exponentBits ≤ exponent + 1 := by
    change ¬2 ^ 11 ≤ exponent + 1
    omega
  simp only [UnpackedFloat.pack, biased, if_neg inRange, if_pos long]

/-- The leading digit that is not stored counts `2 ^ 52`. -/
theorem toNat_one_append
    (mantissa : BitVec 52) :
    (1#1 ++ mantissa).toNat = 2 ^ 52 + mantissa.toNat := by
  rw [BitVec.toNat_append, ← Nat.shiftLeft_add_eq_or_of_lt mantissa.isLt, Nat.shiftLeft_eq]
  rfl

/-- The leading one is cut off the mantissa again. -/
theorem ofNat_one_append
    (mantissa : BitVec 52) :
    BitVec.ofNat 52 (1#1 ++ mantissa).toNat = mantissa := by
  apply BitVec.eq_of_toNat_eq
  rw [toNat_one_append, BitVec.toNat_ofNat, Nat.add_mod_left, Nat.mod_eq_of_lt mantissa.isLt]

/-- Unpacking and packing again keeps every bit of a pattern whose exponent is not all ones. -/
theorem pack_unpack
    (bits : Bits)
    (ordinary : unpackExponent bits ≠ -1#11) :
    UnpackedFloat.pack .binary64 (unpack .binary64 bits) = bits := by
  -- Unpacking scales the mantissa, and packing has to find the exponent again: the least exponent
  -- has no leading one, all others have.
  have kept := packComponents_unpack bits
  have mantissaShort : (unpackMantissa bits).toNat < 2 ^ 52 := (unpackMantissa bits).isLt
  rw [unpack, if_neg ordinary]
  by_cases zeroExponent : unpackExponent bits = 0#11
  · rw [if_pos zeroExponent]
    rw [zeroExponent] at kept
    by_cases zeroMantissa : unpackMantissa bits = 0#52
    · rw [dif_pos zeroMantissa]
      rw [zeroMantissa] at kept
      exact kept
    · rw [dif_neg zeroMantissa]
      have exponentShape :
          ((unpackExponent bits).toNat : Int) -
              (Format.binary64.exponentBias + Format.binary64.mantissaBitsWithoutImplicit) + 1 =
            -1074 := by
        rw [zeroExponent]
        rfl
      simp only [exponentShape]
      rw [pack_finite_of_short _ _ mantissaShort, BitVec.ofNat_toNat, BitVec.setWidth_eq]
      exact kept
  · rw [if_neg zeroExponent]
    have exponentSmall : (unpackExponent bits).toNat < 2047 := by
      have bounded : (unpackExponent bits).toNat < 2 ^ 11 := (unpackExponent bits).isLt
      have notOnes : (unpackExponent bits).toNat ≠ 2047 :=
        fun ones => ordinary (BitVec.eq_of_toNat_eq ones)
      omega
    have exponentShape :
        ((unpackExponent bits).toNat : Int) -
            (Format.binary64.exponentBias + Format.binary64.mantissaBitsWithoutImplicit) =
          (unpackExponent bits).toNat - 1075 :=
      rfl
    have mantissaShape := toNat_one_append (unpackMantissa bits)
    simp only [exponentShape]
    rw [pack_finite_of_long _ _ (by omega) (by omega) exponentSmall, BitVec.ofNat_toNat,
      BitVec.setWidth_eq, ofNat_one_append]
    exact kept

/-! ## Signs and numbers of magnitudes -/

/-- The greatest exponent is kept for what is not finite. -/
theorem isFinite_unpack_iff
    (bits : Bits) :
    (unpack .binary64 bits).isFinite ↔ unpackExponent bits ≠ -1#11 := by
  rw [unpack]
  by_cases ones : unpackExponent bits = -1#11
  · rw [if_pos ones]
    by_cases zeroMantissa : unpackMantissa bits = 0#52
    · rw [if_pos zeroMantissa]
      exact iff_of_false nofun (not_not_intro ones)
    · rw [if_neg zeroMantissa]
      exact iff_of_false nofun (not_not_intro ones)
  · refine iff_of_true ?_ ones
    rw [if_neg ones]
    by_cases zeroExponent : unpackExponent bits = 0#11
    · rw [if_pos zeroExponent]
      split <;> rfl
    · rw [if_neg zeroExponent]
      rfl

/-- All magnitudes below infinity have smaller exponents. -/
private theorem unpackExponent_ne_iff
    (bits : Bits) :
    unpackExponent bits ≠ -1#11 ↔ bits.toNat % 2 ^ 63 < infinityIndex := by
  have exponentShape := toNat_unpackExponent bits
  have ones : (-1#11).toNat = 2047 := rfl
  rw [Ne, ← BitVec.toNat_inj, exponentShape, infinityIndex, Nat.pow_eq]
  change ¬_ = 2047 ↔ _
  omega

/-- The finite floats are those with a magnitude below that of infinity. -/
theorem isFinite_iff_index_lt
    {value : Float} :
    value.isFinite ↔ index value < infinityIndex :=
  (isFinite_unpack_iff _).trans (unpackExponent_ne_iff _)

/-- A float is determined by its bits. -/
theorem eq_of_toBits_eq
    {first second : Float}
    (same : first.toBits = second.toBits) :
    first = second := by
  rcases first with ⟨⟨firstBits, _⟩⟩
  rcases second with ⟨⟨secondBits, _⟩⟩
  cases same
  rfl

section

variable (negative : Bool) {magnitude : Nat} (finite : magnitude < infinityIndex)

include finite

/-- The bits of a finite float are the number of its magnitude, and one more bit for its sign. -/
theorem toNat_toBits_ofIndex :
    (ofIndex negative magnitude).toBits.toNat =
      (if negative then 2 ^ 63 else 0) + magnitude := by
  have small : magnitude < 2 ^ 63 := Nat.lt_trans finite (by decide)
  generalize patternShape :
    UInt64.ofNat (if negative then Nat.pow 2 63 + magnitude else magnitude) = pattern
  have patternBits :
      pattern.toBitVec.toNat = (if negative then 2 ^ 63 else 0) + magnitude := by
    rw [← patternShape, UInt64.toNat_toBitVec, UInt64.toNat_ofNat', Nat.pow_eq]
    cases negative with
    | true =>
        simp only [if_true]
        omega
    | false =>
        simp only [Bool.false_eq_true, if_false]
        omega
  have ordinary : pattern.toBitVec.toNat % 2 ^ 63 < infinityIndex := by
    rw [patternBits]
    cases negative with
    | true =>
        rwa [if_pos rfl, Nat.add_mod_left, Nat.mod_eq_of_lt small]
    | false =>
        rwa [if_neg Bool.false_ne_true, Nat.zero_add, Nat.mod_eq_of_lt small]
  have kept :=
    pack_unpack pattern.toBitVec ((unpackExponent_ne_iff pattern.toBitVec).mpr ordinary)
  rw [ofIndex, patternShape]
  change (pack .binary64 (unpack .binary64 pattern.toBitVec)).toNat = _
  rw [kept]
  exact patternBits

/-- A magnitude is found again in the number that it makes up. -/
@[simp]
theorem index_ofIndex :
    index (ofIndex negative magnitude) = magnitude := by
  have small : magnitude < 2 ^ 63 := Nat.lt_trans finite (by decide)
  rw [index, toNat_toBits_ofIndex negative finite, Nat.pow_eq]
  cases negative with
  | true =>
      rw [if_pos rfl, Nat.add_mod_left, Nat.mod_eq_of_lt small]
  | false =>
      rw [if_neg Bool.false_ne_true, Nat.zero_add, Nat.mod_eq_of_lt small]

/-- The sign is found again in the number that it makes up. -/
theorem isNegative_ofIndex :
    isNegative (ofIndex negative magnitude) = negative := by
  have small : magnitude < 2 ^ 63 := Nat.lt_trans finite (by decide)
  rw [isNegative, toNat_toBits_ofIndex negative finite, Nat.pow_eq]
  cases negative with
  | true =>
      simp
  | false =>
      simpa using small

/-- A magnitude below infinity makes up a finite number. -/
theorem isFinite_ofIndex :
    (ofIndex negative magnitude).isFinite := by
  rwa [isFinite_iff_index_lt, index_ofIndex negative finite]

end

/-- A finite float is made of its sign and the number of its magnitude. -/
theorem ofIndex_index
    {value : Float}
    (finite : value.isFinite) :
    ofIndex (isNegative value) (index value) = value := by
  apply eq_of_toBits_eq
  apply UInt64.toNat.inj
  rw [toNat_toBits_ofIndex _ (isFinite_iff_index_lt.mp finite)]
  have bounded : value.toBits.toNat < 2 ^ 64 := value.toBits.toNat_lt
  simp only [index, isNegative, Nat.pow_eq, decide_eq_true_eq]
  split <;> omega

end ChainCalculator.Binary64

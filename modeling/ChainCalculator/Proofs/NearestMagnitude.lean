import Mathlib
import ChainCalculator.Number.Binary64

namespace ChainCalculator

/-!
# Rounding finds what is nearest

No natural lies nearer to a quotient than the one that the quotient is rounded to, and in the same
way no binary64 magnitude lies nearer to a number than the one that the number is read as.  Both
facts compare distances exactly, as naturals.

A magnitude is told apart from all others by its units.  So a number that is a magnitude is read as
that magnitude.
-/

/-- How far a candidate is from `numerator / denominator`, in parts of the denominator. -/
def distance
    (numerator denominator candidate : Nat) :
    Nat :=
  (candidate * denominator - numerator) + (numerator - candidate * denominator)

/-- Only the quotient itself is at no distance. -/
theorem distance_eq_zero_iff
    {numerator denominator candidate : Nat} :
    distance numerator denominator candidate = 0 ↔ candidate * denominator = numerator := by
  rw [distance]
  omega

/-- Candidates are as far apart as the denominators between them. -/
private theorem mul_le_distance_add_distance
    (numerator denominator : Nat)
    {first second steps : Nat}
    (apart : first + steps ≤ second) :
    steps * denominator ≤
      distance numerator denominator first + distance numerator denominator second := by
  have scaled : (first + steps) * denominator ≤ second * denominator :=
    Nat.mul_le_mul_right denominator apart
  rw [Nat.add_mul] at scaled
  simp only [distance]
  omega

/-- A rounded quotient is at most half a denominator away, and even at just that distance. -/
theorem distance_roundHalfEven
    (numerator : Nat)
    {denominator : Nat}
    (positive : 0 < denominator) :
    2 * distance numerator denominator (roundHalfEven numerator denominator) < denominator ∨
      2 * distance numerator denominator (roundHalfEven numerator denominator) = denominator ∧
        roundHalfEven numerator denominator % 2 = 0 := by
  have split := Nat.div_add_mod' numerator denominator
  have small := Nat.mod_lt numerator positive
  have above : (numerator / denominator + 1) * denominator =
      numerator / denominator * denominator + denominator :=
    Nat.succ_mul _ _
  simp only [distance, roundHalfEven]
  generalize numerator / denominator = below at *
  generalize numerator % denominator = rest at *
  split
  · omega
  · split
    · omega
    · rcases Nat.mod_two_eq_zero_or_one below with even | odd
      · rw [even, Nat.add_zero]
        omega
      · rw [odd]
        omega

/-- Two naturals within half a denominator of a quotient are equal, unless they are neighbours. -/
private theorem eq_of_distance_le
    {numerator denominator first second : Nat}
    (positive : 0 < denominator)
    (firstNear :
      2 * distance numerator denominator first < denominator ∨
        2 * distance numerator denominator first = denominator ∧ first % 2 = 0)
    (secondNear :
      2 * distance numerator denominator second < denominator ∨
        2 * distance numerator denominator second = denominator ∧ second % 2 = 0)
    (ordered : first ≤ second) :
    first = second := by
  by_cases neighbours : second ≤ first + 1
  · by_cases same : first = second
    · exact same
    · have apart :=
        @mul_le_distance_add_distance numerator denominator first second 1 (by omega)
      omega
  · have apart :=
      @mul_le_distance_add_distance numerator denominator first second 2 (by omega)
    omega

/-- Rounding gives the one natural within half a denominator, or the even one of two. -/
theorem roundHalfEven_eq_iff
    {numerator denominator rounded : Nat}
    (positive : 0 < denominator) :
    roundHalfEven numerator denominator = rounded ↔
      2 * distance numerator denominator rounded < denominator ∨
        2 * distance numerator denominator rounded = denominator ∧ rounded % 2 = 0 := by
  have near := distance_roundHalfEven numerator positive
  constructor
  · rintro rfl
    exact near
  · intro alsoNear
    rcases Nat.le_total (roundHalfEven numerator denominator) rounded with below | above
    · exact eq_of_distance_le positive near alsoNear below
    · exact (eq_of_distance_le positive alsoNear near above).symm

/-- No natural is nearer to a quotient than the rounded one. -/
theorem distance_roundHalfEven_le
    (numerator : Nat)
    {denominator : Nat}
    (positive : 0 < denominator)
    (candidate : Nat) :
    distance numerator denominator (roundHalfEven numerator denominator) ≤
      distance numerator denominator candidate := by
  have near := distance_roundHalfEven numerator positive
  rcases Nat.lt_trichotomy (roundHalfEven numerator denominator) candidate with
    below | same | above
  · have apart := @mul_le_distance_add_distance numerator denominator _ _ 1 below
    omega
  · exact Nat.le_of_eq (congrArg _ same)
  · have apart := @mul_le_distance_add_distance numerator denominator _ _ 1 above
    omega

/-- Rounding stays above every natural below the quotient. -/
theorem le_roundHalfEven
    {numerator denominator bound : Nat}
    (positive : 0 < denominator)
    (above : bound * denominator ≤ numerator) :
    bound ≤ roundHalfEven numerator denominator := by
  have whole : bound ≤ numerator / denominator := (Nat.le_div_iff_mul_le positive).mpr above
  simp only [roundHalfEven]
  split
  · exact whole
  · split <;> omega

/-- Rounding stays below every natural above the quotient. -/
theorem roundHalfEven_le
    {numerator denominator bound : Nat}
    (positive : 0 < denominator)
    (below : numerator ≤ bound * denominator) :
    roundHalfEven numerator denominator ≤ bound := by
  have near := distance_roundHalfEven numerator positive
  apply Nat.le_of_not_lt
  intro beyond
  have apart :=
    @mul_le_distance_add_distance numerator denominator _ _ 1 beyond
  have scaled : (bound + 1) * denominator ≤ roundHalfEven numerator denominator * denominator :=
    Nat.mul_le_mul_right denominator beyond
  rw [Nat.succ_mul] at scaled
  simp only [distance] at near
  omega

/-- A common factor of both sides of a quotient does not count. -/
theorem roundHalfEven_mul_mul
    (numerator denominator : Nat)
    {factor : Nat}
    (positive : 0 < factor) :
    roundHalfEven (numerator * factor) (denominator * factor) =
      roundHalfEven numerator denominator := by
  have doubled :
      2 * (numerator % denominator * factor) = 2 * (numerator % denominator) * factor :=
    (Nat.mul_assoc _ _ _).symm
  simp only [roundHalfEven, Nat.mul_div_mul_right _ _ positive, Nat.mul_mod_mul_right, doubled,
    Nat.mul_lt_mul_right positive]

namespace Binary64

/-! ## The order of magnitudes -/

/-- A magnitude in places and shift: it has 53 binary digits unless it has no shift. -/
theorem index_eq
    (index : Nat) :
    index = shift index * 2 ^ 52 + significand index ∧
      significand index < 2 ^ 53 ∧
      (shift index = 0 ∨ 2 ^ 52 ≤ significand index) := by
  have split := Nat.div_add_mod' index (2 ^ 52)
  have small := Nat.mod_lt index (Nat.two_pow_pos 52)
  simp only [significand, shift, Nat.pow_eq] at *
  omega

/-- The units of a magnitude that is given by its shift and its places; one carry is allowed. -/
theorem units_eq
    {places digits : Nat}
    (carried : digits ≤ 2 ^ 53)
    (normal : places = 0 ∨ 2 ^ 52 ≤ digits) :
    units (places * 2 ^ 52 + digits) = digits * 2 ^ places := by
  by_cases carries : digits = 2 ^ 53
  · have shiftShape : shift (places * 2 ^ 52 + digits) = places + 1 := by
      simp only [shift, Nat.pow_eq]
      omega
    have digitShape : significand (places * 2 ^ 52 + digits) = 2 ^ 52 := by
      rw [significand, shiftShape, Nat.pow_eq]
      omega
    rw [units, shiftShape, digitShape, carries, Nat.pow_eq, Nat.pow_succ]
    omega
  · have shiftShape : shift (places * 2 ^ 52 + digits) = places := by
      simp only [shift, Nat.pow_eq]
      omega
    have digitShape : significand (places * 2 ^ 52 + digits) = digits := by
      rw [significand, shiftShape, Nat.pow_eq]
      omega
    rw [units, shiftShape, digitShape, Nat.pow_eq]

/-- The next magnitude has one more last place. -/
theorem units_succ
    (index : Nat) :
    units (index + 1) = units index + 2 ^ shift index := by
  obtain ⟨shape, small, normal⟩ := index_eq index
  have next : index + 1 = shift index * 2 ^ 52 + (significand index + 1) := by omega
  rw [next, units_eq (by omega) (by omega), units, Nat.pow_eq, Nat.succ_mul]

theorem infinityIndex_pos :
    0 < infinityIndex := by
  decide

/-- A greater index is a greater magnitude. -/
theorem strictMono_units :
    StrictMono units :=
  strictMono_nat_of_lt_succ fun index => by
    rw [units_succ]
    exact Nat.lt_add_of_pos_right (Nat.two_pow_pos _)

/-! ## The nearest magnitude -/

/-- How many binary places are lost when a quotient is cut down to 53 binary digits. -/
def lostPlaces
    (numerator denominator : Nat) :
    Nat :=
  (numerator * unitsPerOne / denominator).log2 - 52

/-- The number of the magnitude nearest to a quotient, if there were no largest magnitude. -/
def freeIndex
    (numerator denominator : Nat) :
    Nat :=
  lostPlaces numerator denominator * 2 ^ 52 +
    roundHalfEven (numerator * unitsPerOne)
      (denominator * 2 ^ lostPlaces numerator denominator)

/-- Rounding to a magnitude stops at infinity. -/
theorem nearestIndex_eq_min
    (numerator denominator : Nat) :
    nearestIndex numerator denominator =
      min infinityIndex (freeIndex numerator denominator) :=
  rfl

section

variable (numerator : Nat) {denominator : Nat} (positive : 0 < denominator)

include positive

/-- What remains of a quotient has at most 53 binary digits, and 53 of them if places are lost. -/
private theorem lostPlaces_spec :
    numerator * unitsPerOne ≤ 2 ^ 53 * (denominator * 2 ^ lostPlaces numerator denominator) ∧
      (lostPlaces numerator denominator = 0 ∨
        2 ^ 52 * (denominator * 2 ^ lostPlaces numerator denominator) ≤
          numerator * unitsPerOne) := by
  have regrouped (digits : Nat) :
      2 ^ digits * (denominator * 2 ^ lostPlaces numerator denominator) =
        2 ^ (digits + lostPlaces numerator denominator) * denominator := by
    rw [Nat.pow_add, Nat.mul_comm denominator, Nat.mul_assoc]
  rw [regrouped, regrouped]
  generalize wholeShape : numerator * unitsPerOne / denominator = whole
  have lostShape : lostPlaces numerator denominator = whole.log2 - 52 := by
    rw [lostPlaces, wholeShape]
  -- As many places get lost as the whole quotient has bits beyond the fifty-three of a mantissa.
  constructor
  · have short : whole < 2 ^ (53 + lostPlaces numerator denominator) :=
      Nat.lt_of_lt_of_le Nat.lt_log2_self (Nat.pow_le_pow_right Nat.two_pos (by omega))
    rw [← wholeShape, Nat.div_lt_iff_lt_mul positive] at short
    exact Nat.le_of_lt short
  · by_cases none : lostPlaces numerator denominator = 0
    · exact Or.inl none
    · right
      have nonzero : whole ≠ 0 := by
        rintro rfl
        exact none (lostShape.trans rfl)
      have long : 2 ^ (52 + lostPlaces numerator denominator) ≤ whole :=
        Nat.le_trans (Nat.pow_le_pow_right Nat.two_pos (by omega)) (Nat.log2_self_le nonzero)
      rwa [← wholeShape, Nat.le_div_iff_mul_le positive] at long

/-- Without a bound on the exponent, rounding drops the places that do not fit the mantissa. -/
theorem units_freeIndex :
    units (freeIndex numerator denominator) =
      roundHalfEven (numerator * unitsPerOne)
          (denominator * 2 ^ lostPlaces numerator denominator) *
        2 ^ lostPlaces numerator denominator := by
  obtain ⟨atMost, atLeast⟩ := lostPlaces_spec numerator positive
  have gapPositive : 0 < denominator * 2 ^ lostPlaces numerator denominator :=
    Nat.mul_pos positive (Nat.two_pow_pos _)
  exact
    units_eq (roundHalfEven_le gapPositive atMost)
      (atLeast.imp_right (le_roundHalfEven gapPositive))

/-- No magnitude is nearer to a quotient than the one whose number is found. -/
theorem distance_units_freeIndex_le
    (index : Nat) :
    distance (numerator * unitsPerOne) denominator (units (freeIndex numerator denominator)) ≤
      distance (numerator * unitsPerOne) denominator (units index) := by
  obtain ⟨-, atLeast⟩ := lostPlaces_spec numerator positive
  rw [units_freeIndex numerator positive]
  generalize lostPlaces numerator denominator = lost at *
  generalize numerator * unitsPerOne = scaled at *
  have gapPositive : 0 < denominator * 2 ^ lost := Nat.mul_pos positive (Nat.two_pow_pos lost)
  have nearest (digits : Nat) :
      distance scaled denominator (roundHalfEven scaled (denominator * 2 ^ lost) * 2 ^ lost) ≤
        distance scaled denominator (digits * 2 ^ lost) := by
    have regrouped (candidate : Nat) :
        distance scaled denominator (candidate * 2 ^ lost) =
          distance scaled (denominator * 2 ^ lost) candidate := by
      rw [distance, distance, Nat.mul_comm denominator, Nat.mul_assoc]
    rw [regrouped, regrouped]
    exact distance_roundHalfEven_le scaled gapPositive digits
  by_cases fine : lost ≤ shift index
  · -- The magnitude is one of the multiples that were rounded to.
    have multiple :
        units index = significand index * 2 ^ (shift index - lost) * 2 ^ lost := by
      rw [units, Nat.pow_eq, Nat.mul_assoc, ← Nat.pow_add, Nat.sub_add_cancel fine]
    rw [multiple]
    exact nearest _
  · -- The magnitude has more places, so it lies below the least multiple with 53 digits.
    have below : units index ≤ 2 ^ 52 * 2 ^ lost := by
      obtain ⟨-, small, -⟩ := index_eq index
      rw [units, Nat.pow_eq, ← Nat.pow_add]
      calc
        significand index * 2 ^ shift index ≤ 2 ^ 53 * 2 ^ shift index :=
          Nat.mul_le_mul_right _ (Nat.le_of_lt small)
        _ = 2 ^ (53 + shift index) := (Nat.pow_add 2 53 (shift index)).symm
        _ ≤ 2 ^ (52 + lost) := Nat.pow_le_pow_right Nat.two_pos (by omega)
    have reached : 2 ^ 52 * 2 ^ lost * denominator ≤ scaled := by
      rcases atLeast with none | atLeast
      · omega
      · rwa [Nat.mul_assoc, Nat.mul_comm (2 ^ lost)]
    have scaledBelow := Nat.mul_le_mul_right denominator below
    refine Nat.le_trans (nearest (2 ^ 52)) ?_
    simp only [distance]
    omega

/-- A number that is a magnitude is read as that magnitude. -/
theorem nearestIndex_of_units_eq
    {index : Nat}
    (bounded : index ≤ infinityIndex)
    (exact : units index * denominator = numerator * unitsPerOne) :
    nearestIndex numerator denominator = index := by
  have nearest := distance_units_freeIndex_le numerator positive index
  rw [distance_eq_zero_iff.mpr exact, Nat.le_zero, distance_eq_zero_iff, ← exact] at nearest
  have same : freeIndex numerator denominator = index :=
    strictMono_units.injective (Nat.eq_of_mul_eq_mul_right positive nearest)
  rw [nearestIndex_eq_min, same, Nat.min_eq_right bounded]

/-- A number that is close to a finite magnitude is read as a finite one, and as the nearest. -/
theorem nearestIndex_eq_freeIndex
    {index : Nat}
    (finite : index < infinityIndex)
    (close :
      2 * distance (numerator * unitsPerOne) denominator (units index) <
        unitsPerOne * denominator) :
    nearestIndex numerator denominator = freeIndex numerator denominator ∧
      freeIndex numerator denominator < infinityIndex := by
  have nearest := distance_units_freeIndex_le numerator positive index
  have bounded : freeIndex numerator denominator < infinityIndex := by
    apply Nat.lt_of_not_le
    intro beyond
    -- The gap below infinity is too wide for the nearest magnitude to lie on its far side.
    have gap := units_succ (infinityIndex - 1)
    rw [Nat.sub_add_cancel infinityIndex_pos] at gap
    have wide : unitsPerOne ≤ 2 ^ shift (infinityIndex - 1) := by
      decide +kernel
    have unitsBelow : units index ≤ units (infinityIndex - 1) :=
      strictMono_units.monotone (Nat.le_sub_one_of_lt finite)
    have unitsBeyond : units infinityIndex ≤ units (freeIndex numerator denominator) :=
      strictMono_units.monotone beyond
    have apart :=
      @mul_le_distance_add_distance (numerator * unitsPerOne) denominator (units index)
        (units (freeIndex numerator denominator)) unitsPerOne (by omega)
    omega
  rw [nearestIndex_eq_min, Nat.min_eq_right (Nat.le_of_lt bounded)]
  exact ⟨rfl, bounded⟩

/-- A quotient below half of the smallest magnitude is read as zero. -/
theorem nearestIndex_eq_zero
    (small : 2 * (numerator * unitsPerOne) < denominator) :
    nearestIndex numerator denominator = 0 := by
  have noWhole : numerator * unitsPerOne / denominator = 0 :=
    Nat.div_eq_of_lt (by omega)
  have noneLost : lostPlaces numerator denominator = 0 := by
    rw [lostPlaces, noWhole]
    rfl
  have rounded : roundHalfEven (numerator * unitsPerOne) denominator = 0 := by
    rw [roundHalfEven_eq_iff positive, distance]
    omega
  rw [nearestIndex_eq_min, freeIndex, noneLost, Nat.pow_zero, Nat.mul_one, rounded]
  rfl

/-- A quotient far beyond the greatest magnitude is read as infinity. -/
theorem nearestIndex_eq_infinityIndex
    {places : Nat}
    (beyondAll : 2099 ≤ places)
    (large : 2 ^ places * denominator ≤ numerator * unitsPerOne) :
    nearestIndex numerator denominator = infinityIndex := by
  have whole : 2 ^ places ≤ numerator * unitsPerOne / denominator :=
    (Nat.le_div_iff_mul_le positive).mpr large
  have nonzero : numerator * unitsPerOne / denominator ≠ 0 :=
    Nat.ne_of_gt (Nat.lt_of_lt_of_le (Nat.two_pow_pos places) whole)
  have lost : 2047 ≤ lostPlaces numerator denominator := by
    have length := (Nat.le_log2 nonzero).mpr whole
    rw [lostPlaces]
    omega
  have beyond : infinityIndex ≤ freeIndex numerator denominator := by
    simp only [infinityIndex, freeIndex, Nat.pow_eq]
    omega
  rw [nearestIndex_eq_min, Nat.min_eq_left beyond]

end

/-- A common factor of both sides of a quotient does not count. -/
theorem nearestIndex_mul_mul
    (numerator denominator : Nat)
    {factor : Nat}
    (positive : 0 < factor) :
    nearestIndex (numerator * factor) (denominator * factor) =
      nearestIndex numerator denominator := by
  have sameLost :
      lostPlaces (numerator * factor) (denominator * factor) =
        lostPlaces numerator denominator := by
    rw [lostPlaces, Nat.mul_right_comm, Nat.mul_div_mul_right _ _ positive, lostPlaces]
  rw [nearestIndex_eq_min, freeIndex, sameLost, Nat.mul_right_comm numerator,
    Nat.mul_right_comm denominator, roundHalfEven_mul_mul _ _ positive, ← freeIndex,
    ← nearestIndex_eq_min]

/-- Equal quotients are read as the same magnitude. -/
theorem nearestIndex_eq_of_mul_eq
    {numerator denominator otherNumerator otherDenominator : Nat}
    (positive : 0 < denominator)
    (otherPositive : 0 < otherDenominator)
    (equal : numerator * otherDenominator = otherNumerator * denominator) :
    nearestIndex numerator denominator = nearestIndex otherNumerator otherDenominator := by
  calc
    nearestIndex numerator denominator =
        nearestIndex (numerator * otherDenominator) (denominator * otherDenominator) :=
      (nearestIndex_mul_mul numerator denominator otherPositive).symm
    _ = nearestIndex (otherNumerator * denominator) (otherDenominator * denominator) := by
      rw [equal, Nat.mul_comm denominator]
    _ = nearestIndex otherNumerator otherDenominator :=
      nearestIndex_mul_mul otherNumerator otherDenominator positive

end Binary64

end ChainCalculator

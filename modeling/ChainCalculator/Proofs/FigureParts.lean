import ChainCalculator.Number.Figure
import ChainCalculator.Proofs.NumberParts

namespace ChainCalculator

/-!
# The parts of a figure

Both ways to write a finite number give the same text: the number of rounded multiples of `10 ^ -10`
decides it alone.  Its parts are canonical, so that every figure of a finite number is a number that
could have been typed.
-/

namespace Digits

/-- The end of a text is looked at before its front. -/
theorem dropTrailing_append
    (unwanted : Char)
    (front back : List Char) :
    dropTrailing unwanted (front ++ back) =
      if dropTrailing unwanted back = [] then dropTrailing unwanted front
      else front ++ dropTrailing unwanted back := by
  simp only [dropTrailing, List.reverse_append, List.dropWhile_append, List.isEmpty_iff,
    List.reverse_eq_nil_iff]
  split <;> simp

/-- Without the unwanted character nothing is dropped. -/
theorem dropTrailing_of_not_mem
    {unwanted : Char}
    {text : List Char}
    (absent : unwanted ∉ text) :
    dropTrailing unwanted text = text := by
  have kept : text.reverse.dropWhile (· == unwanted) = text.reverse := by
    cases backwards : text.reverse with
    | nil =>
        rfl
    | cons last rest =>
        have member : last ∈ text := by
          rw [← List.mem_reverse, backwards]
          exact List.mem_cons_self
        have different : last ≠ unwanted := fun same => absent (same ▸ member)
        simp [different]
  rw [dropTrailing, kept, List.reverse_reverse]

/-- What is left is nothing, or ends with another character. -/
theorem dropTrailing_shape
    (unwanted : Char)
    (text : List Char) :
    dropTrailing unwanted text = [] ∨
      ∃ front last, dropTrailing unwanted text = front ++ [last] ∧ last ≠ unwanted := by
  cases remaining : text.reverse.dropWhile (· == unwanted) with
  | nil =>
      exact Or.inl (by rw [dropTrailing, remaining, List.reverse_nil])
  | cons last backwards =>
      have counts : last ≠ unwanted := by
        have headFails := List.head?_dropWhile_not (· == unwanted) text.reverse
        simpa [remaining] using headFails
      exact Or.inr
        ⟨backwards.reverse, last, by rw [dropTrailing, remaining, List.reverse_cons], counts⟩

/-- Nothing is added when characters are dropped. -/
theorem mem_of_mem_dropTrailing
    {unwanted character : Char}
    {text : List Char}
    (member : character ∈ dropTrailing unwanted text) :
    character ∈ text := by
  rw [dropTrailing, List.mem_reverse] at member
  exact List.mem_reverse.mp ((List.dropWhile_sublist _).subset member)

/-- A natural is written with digits. -/
theorem isDigit_of_mem_toDigits
    {number : Nat}
    {character : Char}
    (member : character ∈ Nat.toDigits 10 number) :
    character.isDigit :=
  Nat.isDigit_of_mem_toDigits (by decide) (by decide) member

/-- Padding adds digits only. -/
theorem isDigit_of_mem_padded
    {length number : Nat}
    {character : Char}
    (member : character ∈ padded length number) :
    character.isDigit := by
  rcases List.mem_append.mp member with inZeros | inDigits
  · rw [List.eq_of_mem_replicate inZeros]
    rfl
  · exact isDigit_of_mem_toDigits inDigits

/-- Only zero is written as a bare zero. -/
theorem toDigits_eq_zero_iff
    {number : Nat} :
    Nat.toDigits 10 number = ['0'] ↔ number = 0 := by
  constructor
  · intro shape
    have small : number < 10 := by
      apply Nat.lt_of_not_le
      intro large
      rw [Nat.toDigits_of_base_le (by decide) large] at shape
      have split := List.append_eq_singleton_iff.mp shape
      simp at split
    simpa [Nat.toDigits_of_lt_base small] using shape
  · rintro rfl
    rfl

/-- The digits of a natural are a whole part without needless zeros. -/
theorem wholePart_toDigits
    (number : Nat) :
    PlainNumber.wholePart (Nat.toDigits 10 number) = Nat.toDigits 10 number := by
  induction number using Nat.strongRecOn with
  | ind number inductionHypothesis =>
      by_cases small : number < 10
      · rw [Nat.toDigits_of_lt_base small]
        by_cases zero : number = 0
        · subst zero
          rfl
        · exact PlainNumber.wholePart_cons_of_ne (by simpa using zero) []
      · have large : 10 ≤ number := Nat.le_of_not_lt small
        have frontPositive : number / 10 ≠ 0 := by omega
        rw [Nat.toDigits_of_base_le (by decide) large, PlainNumber.wholePart_concat,
          inductionHypothesis (number / 10) (by omega), if_neg]
        exact fun zero => frontPositive (toDigits_eq_zero_iff.mp zero)

end Digits

namespace Figure

/-- The decimal places that count: those behind the point without the zeros at the end. -/
def places
    (count : Nat) :
    List Char :=
  Digits.dropTrailing '0' (Digits.padded decimalPlaces (count % countsPerOne))

/-- A number written with the given digits: no bare point and no sign on a bare zero. -/
def partsOf
    (negative : Bool)
    (whole places : List Char) :
    PlainNumber.Parts where
  negative := negative && (whole ≠ ['0'] || places ≠ [])
  whole := whole
  fraction := if places = [] then [] else '.' :: places

/-- The parts of `count` multiples of `10 ^ -10`. -/
def parts
    (negative : Bool)
    (count : Nat) :
    PlainNumber.Parts :=
  partsOf negative (Nat.toDigits 10 (count / countsPerOne)) (places count)

/-- The decimal places are digits. -/
theorem isDigit_of_mem_places
    {count : Nat}
    {character : Char}
    (member : character ∈ places count) :
    character.isDigit :=
  Digits.isDigit_of_mem_padded (Digits.mem_of_mem_dropTrailing member)

/-- The parts of a figure are canonical: no needless zero in front, and no negative zero. -/
theorem canonical_parts
    (negative : Bool)
    (count : Nat) :
    (parts negative count).Canonical where
  wholeDigits := fun _ member =>
    PlainNumber.isDecimalDigit_of_isDigit (Digits.isDigit_of_mem_toDigits member)
  fractionShape := by
    by_cases none : places count = []
    · exact Or.inl (by simp [parts, partsOf, none])
    · exact Or.inr
        ⟨places count, by simp [parts, partsOf, none],
          fun _ member => PlainNumber.isDecimalDigit_of_isDigit (isDigit_of_mem_places member)⟩
  someDigit := Or.inl (by simp [parts, partsOf])
  wholeShape := Digits.wholePart_toDigits _
  signShape := by
    intro signed
    have counts := (Bool.and_eq_true_iff.mp signed).2
    by_cases none : places count = []
    · left
      simpa [parts, partsOf, none] using counts
    · right
      simp [parts, partsOf, none]

/-- Trimming drops the zeros at the end of a fraction, and a point with nothing behind it. -/
private theorem trim_point
    {front behind : List Char}
    (frontFree : '.' ∉ front)
    (behindDigits : ∀ character ∈ behind, character.isDigit) :
    Digits.dropTrailing '.' (Digits.dropTrailing '0' (front ++ '.' :: behind)) =
      if Digits.dropTrailing '0' behind = [] then front
      else front ++ '.' :: Digits.dropTrailing '0' behind := by
  have pointKept : Digits.dropTrailing '0' ['.'] = ['.'] := by
    decide
  have pointDropped : Digits.dropTrailing '.' ['.'] = [] := by
    decide
  have zerosDropped :
      Digits.dropTrailing '0' (front ++ '.' :: behind) =
        front ++ '.' :: Digits.dropTrailing '0' behind := by
    have pointShape : '.' :: behind = ['.'] ++ behind := rfl
    rw [Digits.dropTrailing_append, pointShape, Digits.dropTrailing_append, pointKept]
    by_cases none : Digits.dropTrailing '0' behind = [] <;> simp [none]
  rw [zerosDropped]
  by_cases none : Digits.dropTrailing '0' behind = []
  · rw [none, if_pos rfl, Digits.dropTrailing_append, pointDropped, if_pos rfl,
      Digits.dropTrailing_of_not_mem frontFree]
  · have placesFree : '.' ∉ Digits.dropTrailing '0' behind :=
      fun member =>
        Digits.not_mem_of_isDigit_eq_false behindDigits rfl
          (Digits.mem_of_mem_dropTrailing member)
    have pointShape :
        front ++ '.' :: Digits.dropTrailing '0' behind =
          (front ++ ['.']) ++ Digits.dropTrailing '0' behind := by
      simp
    rw [if_neg none, pointShape, Digits.dropTrailing_append,
      Digits.dropTrailing_of_not_mem placesFree, if_neg none]

/-- The zeros at the end of the places are cut off, and with the last of them the point. -/
private theorem trim_signed
    (negative : Bool)
    {whole behind : List Char}
    (wholeNonempty : whole ≠ [])
    (wholeDigits : ∀ character ∈ whole, character.isDigit)
    (behindDigits : ∀ character ∈ behind, character.isDigit) :
    trim ((if negative then ['-'] else []) ++ whole ++ '.' :: behind) =
      (partsOf negative whole (Digits.dropTrailing '0' behind)).text := by
  have frontFree : '.' ∉ (if negative then ['-'] else []) ++ whole := by
    cases negative <;> simpa using Digits.not_mem_of_isDigit_eq_false wholeDigits rfl
  rw [trim, trim_point frontFree behindDigits]
  generalize Digits.dropTrailing '0' behind = places
  have minusAbsent : whole ≠ ['-', '0'] := by
    rintro rfl
    exact Digits.not_mem_of_isDigit_eq_false wholeDigits rfl List.mem_cons_self
  by_cases none : places = []
  · by_cases zero : whole = ['0']
    · cases negative <;> simp [partsOf, PlainNumber.Parts.text, none, zero]
    · cases negative <;> simp [partsOf, PlainNumber.Parts.text, none, zero, wholeNonempty,
        minusAbsent]
  · have notBare : (if negative then ['-'] else []) ++ whole ++ '.' :: places ≠ ['-', '0'] := by
      intro shape
      have pointMember : '.' ∈ ['-', '0'] := by
        rw [← shape]
        simp
      revert pointMember
      decide
    have notTrimmed :
        ¬((if negative then ['-'] else []) ++ whole ++ '.' :: places = ['-', '0'] ∨
          (if negative then ['-'] else []) ++ whole ++ '.' :: places = []) := by
      rintro (bare | empty)
      · exact notBare bare
      · simp at empty
    rw [if_neg none, if_neg notTrimmed]
    simp [partsOf, PlainNumber.Parts.text, none]

/-- Trimming a number with all its places leaves the text of its parts. -/
theorem trim_fixed
    (negative : Bool)
    (index : Nat) :
    trim (fixed negative index) = (parts negative (roundedCount index)).text :=
  trim_signed negative Nat.toDigits_ne_nil
    (fun _ member => Digits.isDigit_of_mem_toDigits member)
    (fun _ member => Digits.isDigit_of_mem_padded member)

/-- A whole number below the bound is written as its rounded count would be. -/
theorem whole_eq_parts_text
    (negative : Bool)
    {index : Nat}
    (plain : IsPlainWhole index) :
    whole negative index = (parts negative (roundedCount index)).text := by
  generalize countShape : Binary64.units index / Binary64.unitsPerOne = count
  have unitsShape : Binary64.units index = count * Binary64.unitsPerOne := by
    rw [← countShape]
    exact (Nat.div_mul_cancel (Nat.dvd_of_mod_eq_zero plain.1)).symm
  have roundedShape : roundedCount index = count * countsPerOne := by
    have exact :
        Binary64.units index * countsPerOne =
          count * countsPerOne * Binary64.unitsPerOne := by
      rw [unitsShape, Nat.mul_right_comm]
    rw [roundedCount, exact, roundHalfEven_mul _ Binary64.unitsPerOne_pos]
  have wholeShape : count * countsPerOne / countsPerOne = count :=
    Nat.mul_div_cancel count countsPerOne_pos
  have placesShape : places (count * countsPerOne) = [] := by
    have noRest : count * countsPerOne % countsPerOne = 0 :=
      Nat.mul_mod_left count _
    rw [places, noRest]
    decide
  simp [whole, countShape, roundedShape, parts, partsOf, PlainNumber.Parts.text, wholeShape,
    placesShape, Digits.toDigits_eq_zero_iff]

/-- Both ways to write a finite number give the text of the parts of its rounded count. -/
theorem finite_eq_parts_text
    (negative : Bool)
    (index : Nat) :
    finite negative index = (parts negative (roundedCount index)).text := by
  rw [finite]
  split
  · rename_i plain
    exact whole_eq_parts_text negative plain
  · exact trim_fixed negative index

/-- The figure of a finite number is a canonical number. -/
theorem isCanonical_write
    {value : Float}
    (finiteValue : value.isFinite) :
    PlainNumber.IsCanonical (write value) := by
  refine PlainNumber.isCanonical_iff.mpr
    ⟨parts (Binary64.isNegative value) (roundedCount (Binary64.index value)),
      canonical_parts _ _, ?_⟩
  rw [write, if_pos finiteValue, String.toList_ofList, finite_eq_parts_text]

end Figure

end ChainCalculator

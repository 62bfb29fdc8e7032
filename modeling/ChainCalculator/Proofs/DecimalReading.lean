import ChainCalculator.Number.Numeral

namespace ChainCalculator

/-!
# Reading plain decimal texts

Digits with an optional minus in front and an optional point among them are always read, and what is
read is the number that the digits denote, scaled by the places behind the point.  Needless zeros in
front change nothing.  A text with a character beyond ASCII is never read.
-/

namespace Digits

/-- Zeros in front of other digits do not count. -/
theorem value_dropWhile_zero
    (digits : List Char) :
    value (digits.dropWhile (· == '0')) = value digits := by
  induction digits with
  | nil =>
      rfl
  | cons digit rest inductionHypothesis =>
      by_cases zero : digit = '0'
      · subst zero
        have dropped : ('0' :: rest).dropWhile (· == '0') = rest.dropWhile (· == '0') := by
          simp
        have noCount : value ('0' :: rest) = value rest :=
          (value_append ['0'] rest).trans (by simp [value, digitValue])
        rw [dropped, inductionHypothesis, noCount]
      · have kept : (digit :: rest).dropWhile (· == '0') = digit :: rest := by
          simp [zero]
        rw [kept]

/-- A text of digits has no other character. -/
theorem not_mem_of_isDigit_eq_false
    {text : List Char}
    (allDigits : ∀ character ∈ text, character.isDigit)
    {other : Char}
    (noDigit : other.isDigit = false) :
    other ∉ text := by
  intro member
  have isDigit : other.isDigit := allDigits other member
  exact Bool.false_ne_true (noDigit.symm.trans isDigit)

/-- Digits are split off up to the first character that is none. -/
theorem split_append_of_digits
    {digits : List Char}
    (allDigits : ∀ character ∈ digits, character.isDigit)
    {rest : List Char}
    (ends : rest.head?.all (!Char.isDigit ·)) :
    split (digits ++ rest) = (digits, rest) := by
  rw [split, List.takeWhile_append_of_pos allDigits, List.dropWhile_append_of_pos allDigits]
  cases rest with
  | nil =>
      simp
  | cons first later =>
      have noDigit : first.isDigit = false := by
        simpa using ends
      simp [noDigit]

end Digits

namespace Numeral

/-- Digits have no letter case. -/
private theorem toLower_eq_self_of_isDigit
    {digit : Char}
    (isDigit : digit.isDigit) :
    digit.toLower = digit := by
  have bounds : digit.val ≤ '9'.val := by
    simp only [Char.isDigit, Bool.and_eq_true, decide_eq_true_eq] at isDigit
    exact isDigit.2
  apply dif_neg
  rintro ⟨atLeast, -⟩
  have impossible : 'A'.val ≤ '9'.val := UInt32.le_trans atLeast bounds
  revert impossible
  decide

/-- A number that begins with a digit has no sign. -/
theorem readSign_of_isDigit
    {digit : Char}
    (isDigit : digit.isDigit)
    (rest : List Char) :
    readSign (digit :: rest) = (false, digit :: rest) := by
  apply readSign.eq_3
  · rintro later ⟨⟩
    exact absurd isDigit (by decide)
  · rintro later ⟨⟩
    exact absurd isDigit (by decide)

/-- An exponent begins with its mark, which is neither a digit nor the point. -/
private theorem head?_of_readExponent?
    {suffix : List Char}
    {exponent : Int}
    (read : readExponent? suffix = some exponent) :
    suffix.head?.all (fun mark => !mark.isDigit && mark ≠ '.') := by
  cases suffix with
  | nil =>
      rfl
  | cons mark rest =>
      simp only [readExponent?, Option.ite_none_right_eq_some] at read
      rcases read.1 with rfl | rfl <;> rfl

/-- Without a point there is no fraction. -/
private theorem spanFraction_of_head?
    {suffix : List Char}
    (ends : suffix.head?.all (fun mark => !mark.isDigit && mark ≠ '.')) :
    spanFraction suffix = ([], suffix) := by
  rw [spanFraction.eq_2]
  rintro rest rfl
  exact Bool.false_ne_true ends

/-- Digits in front, behind a point further digits, and an exponent: all of it is one decimal. -/
theorem readDecimal?_append_exponent
    {whole fraction suffix : List Char}
    {exponent : Int}
    (wholeDigits : ∀ character ∈ whole, character.isDigit)
    (wholeNonempty : whole ≠ [])
    (fractionShape :
      fraction = [] ∨
        ∃ places, fraction = '.' :: places ∧ ∀ character ∈ places, character.isDigit)
    (read : readExponent? suffix = some exponent) :
    readDecimal? (whole ++ (fraction ++ suffix)) =
      some (Digits.value (whole ++ fraction.tail), exponent - fraction.tail.length) := by
  have ends := head?_of_readExponent? read
  have digitEnds : suffix.head?.all (!Char.isDigit ·) := by
    cases suffix with
    | nil =>
        rfl
    | cons mark rest =>
        exact (Bool.and_eq_true_iff.mp ends).1
  rcases fractionShape with none | ⟨places, fractionShape, placesDigits⟩
  · subst none
    have splitWhole : Digits.split (whole ++ suffix) = (whole, suffix) :=
      Digits.split_append_of_digits wholeDigits digitEnds
    simp [readDecimal?, splitWhole, spanFraction_of_head? ends, wholeNonempty, read]
  · subst fractionShape
    have splitWhole :
        Digits.split (whole ++ '.' :: (places ++ suffix)) = (whole, '.' :: (places ++ suffix)) :=
      Digits.split_append_of_digits wholeDigits rfl
    have splitPlaces : Digits.split (places ++ suffix) = (places, suffix) :=
      Digits.split_append_of_digits placesDigits digitEnds
    simp [readDecimal?, splitWhole, spanFraction, splitPlaces, wholeNonempty, read]

/-- A decimal that begins with a digit is a numeral with either sign. -/
theorem read?_of_readDecimal?
    (negative : Bool)
    {first : Char}
    {rest : List Char}
    (firstDigit : first.isDigit)
    {coefficient : Nat}
    {exponent : Int}
    (read : readDecimal? (first :: rest) = some (coefficient, exponent)) :
    read? ((if negative then ['-'] else []) ++ first :: rest) =
      some (.decimal negative coefficient exponent) := by
  have unsigned :
      readSign ((if negative then ['-'] else []) ++ first :: rest) = (negative, first :: rest) := by
    cases negative with
    | true => rfl
    | false => exact readSign_of_isDigit firstDigit _
  have noName :
      ∀ letter name,
        letter.isDigit = false → (first :: rest).map Char.toLower ≠ letter :: name := by
    intro letter name noDigit nameShape
    have lowered : first.toLower = letter := (List.cons.inj nameShape).1
    rw [toLower_eq_self_of_isDigit firstDigit] at lowered
    subst lowered
    exact Bool.false_ne_true (noDigit.symm.trans firstDigit)
  rw [read?, unsigned]
  simp only [read, Option.map_some]
  rw [if_neg, if_neg]
  · exact noName 'n' "an".toList rfl
  · rintro (short | long)
    · exact noName 'i' "nf".toList rfl short
    · exact noName 'i' "nfinity".toList rfl long

/-- A plain decimal text is a numeral, whatever its digits are, and so is one with an exponent. -/
theorem read?_append_exponent
    (negative : Bool)
    {whole fraction suffix : List Char}
    {exponent : Int}
    (wholeDigits : ∀ character ∈ whole, character.isDigit)
    (wholeNonempty : whole ≠ [])
    (fractionShape :
      fraction = [] ∨
        ∃ places, fraction = '.' :: places ∧ ∀ character ∈ places, character.isDigit)
    (read : readExponent? suffix = some exponent) :
    read? ((if negative then ['-'] else []) ++ (whole ++ (fraction ++ suffix))) =
      some
        (.decimal negative (Digits.value (whole ++ fraction.tail))
          (exponent - fraction.tail.length)) := by
  have decimal := readDecimal?_append_exponent wholeDigits wholeNonempty fractionShape read
  obtain ⟨first, others, rfl⟩ := List.exists_cons_of_ne_nil wholeNonempty
  exact read?_of_readDecimal? negative (wholeDigits first List.mem_cons_self) decimal

/-- A plain decimal text is a numeral, whatever its digits are. -/
theorem read?_append
    (negative : Bool)
    {whole fraction : List Char}
    (wholeDigits : ∀ character ∈ whole, character.isDigit)
    (wholeNonempty : whole ≠ [])
    (fractionShape :
      fraction = [] ∨
        ∃ places, fraction = '.' :: places ∧ ∀ character ∈ places, character.isDigit) :
    read? ((if negative then ['-'] else []) ++ (whole ++ fraction)) =
      some
        (.decimal negative (Digits.value (whole ++ fraction.tail))
          (-(fraction.tail.length : Int))) := by
  have noExponent : readExponent? [] = some 0 :=
    rfl
  have read := read?_append_exponent negative wholeDigits wholeNonempty fractionShape noExponent
  rwa [List.append_nil, Int.zero_sub] at read

/-! ## Numerals are written in ASCII -/

/-- A text with none but the 128 characters of ASCII. -/
def IsAscii
    (text : List Char) :
    Prop :=
  ∀ character ∈ text, character.toNat < 128

instance (text : List Char) : Decidable (IsAscii text) :=
  List.decidableBAll (fun character : Char => character.toNat < 128) text

theorem isAscii_cons
    {first : Char}
    {rest : List Char} :
    IsAscii (first :: rest) ↔ first.toNat < 128 ∧ IsAscii rest :=
  List.forall_mem_cons

theorem isAscii_append
    {earlier later : List Char} :
    IsAscii (earlier ++ later) ↔ IsAscii earlier ∧ IsAscii later :=
  List.forall_mem_append

/-- The digits that are read are those of ASCII. -/
theorem isAscii_of_isDigit
    {digits : List Char}
    (allDigits : ∀ character ∈ digits, character.isDigit) :
    IsAscii digits := by
  intro character member
  have isDigit := allDigits character member
  simp only [Char.isDigit, ge_iff_le, Bool.and_eq_true, decide_eq_true_eq,
    UInt32.le_iff_toNat_le] at isDigit
  exact Nat.lt_of_le_of_lt isDigit.2 (by decide)

/-- Lowering a letter of ASCII never leads to a smaller code point. -/
theorem toNat_le_toNat_toLower
    (character : Char) :
    character.toNat ≤ character.toLower.toNat := by
  by_cases upper : character.val ≥ 'A'.val ∧ character.val ≤ 'Z'.val
  · have atMost : character.val.toNat ≤ 90 :=
      UInt32.le_iff_toNat_le.mp upper.2
    have lowered : character.toLower.val = character.val + 32 :=
      congrArg Char.val (dif_pos upper)
    have shifted : (character.val + 32).toNat = character.val.toNat + 32 := by
      rw [UInt32.toNat_add]
      change (character.val.toNat + 32) % 4294967296 = character.val.toNat + 32
      omega
    change character.val.toNat ≤ character.toLower.val.toNat
    rw [lowered, shifted]
    exact Nat.le_add_right _ _
  · have unchanged : character.toLower = character :=
      dif_neg upper
    exact Nat.le_of_eq (congrArg Char.toNat unchanged.symm)

/-- Only a text of ASCII is lowered to one. -/
theorem isAscii_of_map_toLower
    {text : List Char}
    (lowered : IsAscii (text.map Char.toLower)) :
    IsAscii text := by
  intro character member
  exact
    Nat.lt_of_le_of_lt (toNat_le_toNat_toLower character)
      (lowered _ (List.mem_map_of_mem member))

/-- If all behind the digits is ASCII, so is the whole text. -/
theorem isAscii_of_split
    {text : List Char}
    (behind : IsAscii (Digits.split text).2) :
    IsAscii text := by
  have digits : IsAscii (Digits.split text).1 :=
    isAscii_of_isDigit (List.all_eq_true.mp List.all_takeWhile)
  rw [← Digits.split_append text]
  exact isAscii_append.mpr ⟨digits, behind⟩

/-- If all behind the fraction is ASCII, so is the whole text. -/
theorem isAscii_of_spanFraction
    {text : List Char}
    (behind : IsAscii (spanFraction text).2) :
    IsAscii text := by
  rw [spanFraction.eq_def] at behind
  split at behind
  · exact isAscii_cons.mpr ⟨by decide, isAscii_of_split behind⟩
  · exact behind

/-- If all behind the sign is ASCII, so is the whole text. -/
theorem isAscii_of_readSign
    {text : List Char}
    (unsigned : IsAscii (readSign text).2) :
    IsAscii text := by
  rw [readSign.eq_def] at unsigned
  split at unsigned
  · exact isAscii_cons.mpr ⟨by decide, unsigned⟩
  · exact isAscii_cons.mpr ⟨by decide, unsigned⟩
  · exact unsigned

/-- An exponent that can be read is ASCII. -/
theorem isAscii_of_readExponent?
    {text : List Char}
    {exponent : Int}
    (read : readExponent? text = some exponent) :
    IsAscii text := by
  cases text with
  | nil =>
      exact fun character member => nomatch member
  | cons mark rest =>
      simp only [readExponent?, Option.ite_none_right_eq_some] at read
      obtain ⟨isMark, ⟨-, allDigits⟩, -⟩ := read
      refine isAscii_cons.mpr ⟨?_, isAscii_of_readSign (isAscii_of_isDigit ?_)⟩
      · rcases isMark with rfl | rfl <;> decide
      · exact List.all_eq_true.mp allDigits

/-- A decimal that can be read is ASCII. -/
theorem isAscii_of_readDecimal?
    {text : List Char}
    {decimal : Nat × Int}
    (read : readDecimal? text = some decimal) :
    IsAscii text := by
  simp only [readDecimal?, Option.ite_none_left_eq_some, Option.map_eq_some_iff] at read
  obtain ⟨-, exponent, exponentRead, -⟩ := read
  exact isAscii_of_split (isAscii_of_spanFraction (isAscii_of_readExponent? exponentRead))

/-- A numeral is written in ASCII. -/
theorem isAscii_of_read?
    {text : List Char}
    {numeral : Numeral}
    (read : read? text = some numeral) :
    IsAscii text := by
  apply isAscii_of_readSign
  simp only [read?] at read
  split at read
  · rename_i name
    apply isAscii_of_map_toLower
    rcases name with short | long
    · rw [short]
      decide
    · rw [long]
      decide
  · split at read
    · rename_i name
      apply isAscii_of_map_toLower
      rw [name]
      decide
    · obtain ⟨decimal, decimalRead, -⟩ := Option.map_eq_some_iff.mp read
      exact isAscii_of_readDecimal? decimalRead

end Numeral

end ChainCalculator

import ChainCalculator.PlainNumber
import ChainCalculator.Proofs.DecimalReading
import ChainCalculator.Text.Blank

namespace ChainCalculator.PlainNumber

/-!
# The parts of a plain number

A plain number consists of an optional minus, a whole part and a fraction that begins with the
point.  Acceptance and the canonical form are described on these parts, so that a text can be shown
to be a canonical number by naming its parts.
-/

/-- A decimal digit is neither the point nor the minus. -/
private theorem ne_of_isDecimalDigit
    {character : Char}
    (digit : Text.isDecimalDigit character) :
    character ≠ '.' ∧ character ≠ '-' := by
  constructor
  · rintro rfl
    revert digit
    decide
  · rintro rfl
    revert digit
    decide

/-- The digits of ASCII are decimal digits. -/
theorem isDecimalDigit_of_isDigit
    {character : Char}
    (digit : character.isDigit) :
    Text.isDecimalDigit character := by
  have bounds : 48 ≤ character.toNat ∧ character.toNat < 58 := by
    simp only [Char.isDigit, ge_iff_le, Bool.and_eq_true, decide_eq_true_eq,
      UInt32.le_iff_toNat_le] at digit
    exact ⟨digit.1, Nat.lt_succ_of_le digit.2⟩
  simp [Text.isDecimalDigit, Text.digitValue?, Text.digitZeros, bounds]

/-- The digits `0` to `9` are the only decimal digits in ASCII. -/
theorem isDigit_of_isDecimalDigit
    {character : Char}
    (decimal : Text.isDecimalDigit character)
    (ascii : character.toNat < 128) :
    character.isDigit := by
  rw [Text.isDecimalDigit, Text.digitValue?, Option.isSome_map, List.find?_isSome] at decimal
  obtain ⟨first, startsBlock, inBlock⟩ := decimal
  have blocks : ∀ first ∈ Text.digitZeros, first = 48 ∨ 128 ≤ first := by
    decide
  simp only [Bool.and_eq_true, decide_eq_true_eq] at inBlock
  have usual : first = 48 := by
    rcases blocks first startsBlock with usual | beyond
    · exact usual
    · omega
  simp only [Char.isDigit, ge_iff_le, Bool.and_eq_true, decide_eq_true_eq,
    UInt32.le_iff_toNat_le]
  change 48 ≤ character.toNat ∧ character.toNat ≤ 57
  omega

/-! ## Whole parts -/

/-- A whole part of zeros is a bare zero. -/
theorem wholePart_of_dropWhile_eq_nil
    {whole : List Char}
    (zeros : whole.dropWhile (· == '0') = []) :
    wholePart whole = ['0'] := by
  simp [wholePart, zeros]

/-- If a digit counts, the zeros in front of it are dropped. -/
theorem wholePart_of_dropWhile_ne_nil
    {whole : List Char}
    (counts : whole.dropWhile (· == '0') ≠ []) :
    wholePart whole = whole.dropWhile (· == '0') := by
  rw [wholePart]
  split
  · contradiction
  · rfl

/-- A whole part that begins with another character is kept. -/
theorem wholePart_cons_of_ne
    {first : Char}
    (counts : first ≠ '0')
    (rest : List Char) :
    wholePart (first :: rest) = first :: rest := by
  have kept : (first :: rest).dropWhile (· == '0') = first :: rest := by
    simp [counts]
  rw [wholePart_of_dropWhile_ne_nil (by simp [kept]), kept]

/-- A whole part is a bare zero or begins with another digit. -/
theorem wholePart_shape
    (whole : List Char) :
    wholePart whole = ['0'] ∨
      ∃ first rest, first ≠ '0' ∧ wholePart whole = first :: rest := by
  cases remaining : whole.dropWhile (· == '0') with
  | nil =>
      exact Or.inl (wholePart_of_dropWhile_eq_nil remaining)
  | cons first rest =>
      have counts : first ≠ '0' := by
        have headFails := List.head?_dropWhile_not (· == '0') whole
        simpa [remaining] using headFails
      refine Or.inr ⟨first, rest, counts, ?_⟩
      rw [wholePart_of_dropWhile_ne_nil (by simp [remaining]), remaining]

/-- A whole part is never left out. -/
theorem wholePart_ne_nil
    (whole : List Char) :
    wholePart whole ≠ [] := by
  rcases wholePart_shape whole with zero | ⟨first, rest, _, counts⟩
  · simp [zero]
  · simp [counts]

/-- Needless zeros are dropped all at once. -/
@[simp]
theorem wholePart_wholePart
    (whole : List Char) :
    wholePart (wholePart whole) = wholePart whole := by
  rcases wholePart_shape whole with zero | ⟨first, rest, counts, shape⟩
  · rw [zero]
    rfl
  · rw [shape, wholePart_cons_of_ne counts]

/-- A whole part has characters of the text, or is a bare zero. -/
theorem mem_wholePart
    {whole : List Char}
    {character : Char}
    (member : character ∈ wholePart whole) :
    character = '0' ∨ character ∈ whole := by
  by_cases zeros : whole.dropWhile (· == '0') = []
  · rw [wholePart_of_dropWhile_eq_nil zeros] at member
    exact Or.inl (List.mem_singleton.mp member)
  · rw [wholePart_of_dropWhile_ne_nil zeros] at member
    exact Or.inr ((List.dropWhile_sublist _).subset member)

/-- Only zeros are left out of a whole part. -/
theorem mem_wholePart_of_ne
    {whole : List Char}
    {character : Char}
    (member : character ∈ whole)
    (counts : character ≠ '0') :
    character ∈ wholePart whole := by
  have kept : character ∈ whole.dropWhile (· == '0') := by
    rw [← @List.takeWhile_append_dropWhile _ (· == '0') whole] at member
    rcases List.mem_append.mp member with zero | kept
    · have isZero := List.all_eq_true.mp List.all_takeWhile character zero
      exact absurd (by simpa using isZero) counts
    · exact kept
  rwa [wholePart_of_dropWhile_ne_nil (List.ne_nil_of_mem kept)]

/-- A whole part denotes the number of all its digits. -/
theorem value_wholePart
    (whole : List Char) :
    Digits.value (wholePart whole) = Digits.value whole := by
  rw [← Digits.value_dropWhile_zero whole]
  cases remaining : whole.dropWhile (· == '0') with
  | nil =>
      rw [wholePart_of_dropWhile_eq_nil remaining]
      rfl
  | cons first rest =>
      rw [wholePart_of_dropWhile_ne_nil (by simp [remaining]), remaining]

/-- A further digit takes the place of a bare zero and stands behind any other whole part. -/
theorem wholePart_concat
    (whole : List Char)
    (digit : Char) :
    wholePart (whole ++ [digit]) =
      if wholePart whole = ['0'] then [digit] else wholePart whole ++ [digit] := by
  cases remaining : whole.dropWhile (· == '0') with
  | nil =>
      have zero : wholePart whole = ['0'] := wholePart_of_dropWhile_eq_nil remaining
      have dropped :
          (whole ++ [digit]).dropWhile (· == '0') = [digit].dropWhile (· == '0') := by
        simp [List.dropWhile_append, remaining]
      rw [if_pos zero, wholePart, dropped, ← wholePart]
      by_cases digitZero : digit = '0'
      · subst digitZero
        rfl
      · exact wholePart_cons_of_ne digitZero []
  | cons first rest =>
      have counts : first ≠ '0' := by
        have headFails := List.head?_dropWhile_not (· == '0') whole
        simpa [remaining] using headFails
      have dropped :
          (whole ++ [digit]).dropWhile (· == '0') = first :: rest ++ [digit] := by
        simp [List.dropWhile_append, remaining]
      have kept : wholePart whole = first :: rest := by
        rw [wholePart_of_dropWhile_ne_nil (by simp [remaining]), remaining]
      rw [wholePart_of_dropWhile_ne_nil (by simp [dropped]), dropped, kept, if_neg]
      simp [counts]

/-! ## Numbers in parts -/

/-- A number text taken apart; the fraction begins with the point if there is one. -/
structure Parts where
  negative : Bool
  whole : List Char
  fraction : List Char
  deriving Repr, DecidableEq

namespace Parts

def text
    (parts : Parts) :
    List Char :=
  (if parts.negative then ['-'] else []) ++ parts.whole ++ parts.fraction

/-- Parts with nothing but digits on both sides of the point. -/
structure Digital
    (parts : Parts) :
    Prop where
  wholeDigits : ∀ character ∈ parts.whole, Text.isDecimalDigit character
  fractionShape :
    parts.fraction = [] ∨
      ∃ places,
        parts.fraction = '.' :: places ∧
          ∀ character ∈ places, Text.isDecimalDigit character

/-- The parts of a plain number: at least one digit in all. -/
structure WellFormed
    (parts : Parts) :
    Prop
    extends parts.Digital where
  someDigit : parts.whole ≠ [] ∨ parts.fraction.tail ≠ []

/-- The parts of a number in canonical form. -/
structure Canonical
    (parts : Parts) :
    Prop
    extends parts.WellFormed where
  wholeShape : wholePart parts.whole = parts.whole
  signShape : parts.negative → parts.whole ≠ ['0'] ∨ parts.fraction ≠ []

/-- The canonical parts of a number: no needless zeros in front and no sign on a bare zero. -/
def canonical
    (parts : Parts) :
    Parts where
  negative :=
    parts.negative && (wholePart parts.whole ≠ ['0'] || parts.fraction ≠ [])
  whole := wholePart parts.whole
  fraction := parts.fraction

/-- Only the sign and needless zeros get lost on the way to the canonical parts. -/
theorem mem_text_canonical
    {parts : Parts}
    {character : Char}
    (decimal : Text.isDecimalDigit character)
    (counts : character ≠ '0')
    (member : character ∈ parts.text) :
    character ∈ parts.canonical.text := by
  have notSign : character ≠ '-' := (ne_of_isDecimalDigit decimal).2
  have inParts : character ∈ parts.whole ∨ character ∈ parts.fraction := by
    cases signed : parts.negative <;> simpa [text, signed, notSign] using member
  rcases inParts with inWhole | inFraction
  · have kept := mem_wholePart_of_ne inWhole counts
    simp [text, canonical, kept]
  · simp [text, canonical, inFraction]

namespace Digital

variable {parts : Parts}

/-- Behind the sign there is no second one. -/
private theorem unsigned_head_ne
    (digital : parts.Digital)
    (rest : List Char) :
    parts.whole ++ parts.fraction ≠ '-' :: rest := by
  intro shape
  have member : '-' ∈ parts.whole ++ parts.fraction := by
    simp [shape]
  rcases List.mem_append.mp member with inWhole | inFraction
  · exact (ne_of_isDecimalDigit (digital.wholeDigits _ inWhole)).2 rfl
  · rcases digital.fractionShape with none | ⟨places, fractionShape, placesDigits⟩
    · simp [none] at inFraction
    · rw [fractionShape] at inFraction
      rcases List.mem_cons.mp inFraction with isPoint | inPlaces
      · revert isPoint
        decide
      · exact (ne_of_isDecimalDigit (placesDigits _ inPlaces)).2 rfl

/-- The leading minus is told from the rest of the text. -/
theorem splitMinus_text
    (digital : parts.Digital) :
    splitMinus parts.text = (parts.negative, parts.whole ++ parts.fraction) := by
  rcases parts with ⟨negative, whole, fraction⟩
  cases negative with
  | true =>
      rfl
  | false =>
      simp only [text, Bool.false_eq_true, ↓reduceIte, List.nil_append]
      rw [splitMinus.eq_2]
      exact digital.unsigned_head_ne

/-- The whole part ends at the point. -/
private theorem takeWhile_whole
    (digital : parts.Digital)
    (belongs : Char → Bool)
    (digitsBelong : ∀ character, Text.isDecimalDigit character → belongs character)
    (pointEnds : belongs '.' = false) :
    (parts.whole ++ parts.fraction).takeWhile belongs = parts.whole ∧
      (parts.whole ++ parts.fraction).dropWhile belongs = parts.fraction := by
  have inside : ∀ character ∈ parts.whole, belongs character :=
    fun character member => digitsBelong character (digital.wholeDigits character member)
  rw [List.takeWhile_append_of_pos inside, List.dropWhile_append_of_pos inside]
  rcases digital.fractionShape with none | ⟨places, fractionShape, _⟩
  · simp [none]
  · simp [fractionShape, pointEnds]

/-- Behind the sign the whole part reaches up to the point, and the fraction begins there. -/
theorem split_at_point
    (digital : parts.Digital) :
    (parts.whole ++ parts.fraction).takeWhile (· != '.') = parts.whole ∧
      (parts.whole ++ parts.fraction).dropWhile (· != '.') = parts.fraction :=
  digital.takeWhile_whole (· != '.')
    (fun _ digit => by simp [(ne_of_isDecimalDigit digit).1]) (by decide)

/-- The canonical form of a text is that of its parts. -/
theorem canonicalList_text
    (digital : parts.Digital) :
    canonicalList parts.text = parts.canonical.text := by
  obtain ⟨wholeTaken, fractionLeft⟩ := digital.split_at_point
  rw [canonicalList, digital.splitMinus_text]
  simp only [wholeTaken, fractionLeft, text, canonical]
  by_cases signed : parts.negative
  · by_cases bare : wholePart parts.whole = ['0'] <;> by_cases none : parts.fraction = [] <;>
      simp [signed, bare, none]
  · simp [signed]

/-- The canonical form of a text is the text of its canonical parts. -/
theorem toList_canonical
    (digital : parts.Digital)
    {written : String}
    (shape : written.toList = parts.text) :
    (PlainNumber.canonical written).toList = parts.canonical.text := by
  rw [PlainNumber.canonical, String.toList_ofList, shape, digital.canonicalList_text]

end Digital

namespace WellFormed

variable {parts : Parts}

/-- A text with well-formed parts is a plain number. -/
theorem accepts_text
    (wellFormed : parts.WellFormed) :
    accepts (String.ofList parts.text) := by
  obtain ⟨wholeTaken, fractionLeft⟩ :=
    wellFormed.toDigital.takeWhile_whole Text.isDecimalDigit (fun _ digit => digit) (by decide)
  rw [accepts, String.toList_ofList, wellFormed.splitMinus_text, isUnsigned, wholeTaken,
    fractionLeft]
  rcases wellFormed.fractionShape with none | ⟨places, fractionShape, placesDigits⟩
  · have wholeNonempty : parts.whole ≠ [] := by
      simpa [none] using wellFormed.someDigit
    simp [none, wholeNonempty]
  · have someDigit : parts.whole ≠ [] ∨ places ≠ [] := by
      simpa [fractionShape] using wellFormed.someDigit
    simp only [fractionShape, Bool.and_eq_true, Bool.or_eq_true, decide_eq_true_eq,
      List.all_eq_true]
    exact ⟨someDigit, placesDigits⟩

/-- The canonical parts of a plain number are in canonical form. -/
theorem canonical_canonical
    (wellFormed : parts.WellFormed) :
    parts.canonical.Canonical where
  wholeDigits := by
    intro character member
    rcases mem_wholePart member with rfl | inWhole
    · decide
    · exact wellFormed.wholeDigits character inWhole
  fractionShape := wellFormed.fractionShape
  someDigit := Or.inl (wholePart_ne_nil parts.whole)
  wholeShape := wholePart_wholePart parts.whole
  signShape := by
    intro signed
    simpa [canonical] using (Bool.and_eq_true_iff.mp signed).2

end WellFormed

/-- A plain number consists of a sign, a whole part and a fraction. -/
theorem exists_of_accepts
    {text : String}
    (accepted : accepts text) :
    ∃ parts : Parts, parts.WellFormed ∧ text.toList = parts.text := by
  generalize splitShape : splitMinus text.toList = split
  obtain ⟨negative, unsigned⟩ := split
  have textShape : text.toList = (if negative then ['-'] else []) ++ unsigned := by
    rw [splitMinus.eq_def] at splitShape
    split at splitShape
    · cases splitShape
      assumption
    · cases splitShape
      rfl
  rw [accepts, splitShape, isUnsigned] at accepted
  refine
    ⟨⟨negative, unsigned.takeWhile Text.isDecimalDigit,
        unsigned.dropWhile Text.isDecimalDigit⟩, ?_, ?_⟩
  · -- Behind the whole part there is nothing, a point with digits, or what is not accepted.
    have wholeDigits :
        ∀ character ∈ unsigned.takeWhile Text.isDecimalDigit,
          Text.isDecimalDigit character :=
      fun character member => List.all_eq_true.mp List.all_takeWhile character member
    split at accepted
    · rename_i rest
      refine ⟨⟨wholeDigits, Or.inl rest⟩, Or.inl ?_⟩
      simpa using accepted
    · rename_i places rest
      simp only [Bool.and_eq_true, Bool.or_eq_true, decide_eq_true_eq, List.all_eq_true]
        at accepted
      refine ⟨⟨wholeDigits, Or.inr ⟨places, rest, accepted.2⟩⟩, ?_⟩
      simpa [rest] using accepted.1
    · cases accepted
  · simp [Parts.text, textShape, List.takeWhile_append_dropWhile]

/-- Plain numbers are written with decimal digits, the minus and the point. -/
theorem Digital.mem_text
    {parts : Parts}
    (digital : parts.Digital)
    {character : Char}
    (member : character ∈ parts.text) :
    Text.isDecimalDigit character ∨ character = '-' ∨ character = '.' := by
  rcases List.mem_append.mp member with inFront | inFraction
  · rcases List.mem_append.mp inFront with isSign | inWhole
    · split at isSign
      · exact Or.inr (Or.inl (List.mem_singleton.mp isSign))
      · cases isSign
    · exact Or.inl (digital.wholeDigits character inWhole)
  · rcases digital.fractionShape with none | ⟨places, fractionShape, placesDigits⟩
    · rw [none] at inFraction
      cases inFraction
    · rw [fractionShape] at inFraction
      rcases List.mem_cons.mp inFraction with isPoint | inPlaces
      · exact Or.inr (Or.inr isPoint)
      · exact Or.inl (placesDigits character inPlaces)

/-- Canonical parts are kept. -/
theorem Canonical.canonical_eq
    {parts : Parts}
    (canonicalParts : parts.Canonical) :
    parts.canonical = parts := by
  rcases parts with ⟨negative, whole, fraction⟩
  have wholeShape : wholePart whole = whole := canonicalParts.wholeShape
  have signShape : negative → whole ≠ ['0'] ∨ fraction ≠ [] := canonicalParts.signShape
  cases negative with
  | false =>
      simp [canonical, wholeShape]
  | true =>
      simpa [canonical, wholeShape] using signShape rfl

end Parts

/-- A plain number has decimal digits, a sign and a point only. -/
theorem mem_of_accepts
    {text : String}
    (accepted : accepts text)
    {character : Char}
    (member : character ∈ text.toList) :
    Text.isDecimalDigit character ∨ character = '-' ∨ character = '.' := by
  obtain ⟨parts, wellFormed, textShape⟩ := Parts.exists_of_accepts accepted
  rw [textShape] at member
  exact wellFormed.mem_text member

/-- A plain number that is its own canonical form. -/
def IsCanonical
    (text : String) :
    Prop :=
  accepts text ∧ canonical text = text

/-- A text is a canonical number if and only if it has canonical parts. -/
theorem isCanonical_iff
    {text : String} :
    IsCanonical text ↔ ∃ parts : Parts, parts.Canonical ∧ text.toList = parts.text := by
  constructor
  · rintro ⟨accepted, fixed⟩
    obtain ⟨parts, wellFormed, textShape⟩ := Parts.exists_of_accepts accepted
    refine ⟨parts.canonical, wellFormed.canonical_canonical, ?_⟩
    rw [← fixed, wellFormed.toList_canonical textShape]
  · rintro ⟨parts, canonicalParts, textShape⟩
    have textOf : text = String.ofList parts.text := by
      rw [← textShape, String.ofList_toList]
    refine ⟨?_, ?_⟩
    · rw [textOf]
      exact canonicalParts.accepts_text
    · rw [canonical, textShape, canonicalParts.canonicalList_text, canonicalParts.canonical_eq,
        ← textOf]

/-- The canonical form of a plain number is canonical. -/
theorem isCanonical_canonical
    {text : String}
    (accepted : accepts text) :
    IsCanonical (canonical text) := by
  obtain ⟨parts, wellFormed, textShape⟩ := Parts.exists_of_accepts accepted
  exact
    isCanonical_iff.mpr
      ⟨parts.canonical, wellFormed.canonical_canonical, wellFormed.toList_canonical textShape⟩

/-- The canonical form of a plain number is not empty. -/
theorem canonical_ne_empty
    {text : String}
    (accepted : accepts text) :
    canonical text ≠ "" := by
  intro empty
  have accepts_empty : accepts "" := by
    rw [← empty]
    exact (isCanonical_canonical accepted).1
  revert accepts_empty
  decide

/-! ## Typing a canonical number -/

/-- A single digit is canonical. -/
theorem isCanonical_singleton
    {digit : Char}
    (isDigit : digit.isDigit) :
    IsCanonical (String.singleton digit) := by
  refine isCanonical_iff.mpr ⟨⟨false, [digit], []⟩, ?_, ?_⟩
  · refine
      { wholeDigits := ?_
        fractionShape := Or.inl rfl
        someDigit := Or.inl (List.cons_ne_nil _ _)
        wholeShape := ?_
        signShape := Bool.noConfusion }
    · intro character member
      rw [List.mem_singleton.mp member]
      exact isDecimalDigit_of_isDigit isDigit
    · by_cases zero : digit = '0'
      · rw [zero]
        rfl
      · exact wholePart_cons_of_ne zero []
  · simp [Parts.text]

namespace Parts.Canonical

variable {parts : Parts}

/-- Without a point a further digit belongs to the whole part, unless that is a bare zero. -/
theorem concat_whole
    (canonicalParts : parts.Canonical)
    (pointFree : parts.fraction = [])
    (counts : parts.whole ≠ ['0'])
    {digit : Char}
    (decimal : Text.isDecimalDigit digit) :
    { parts with whole := parts.whole ++ [digit] }.Canonical where
  wholeDigits := by
    intro character member
    rcases List.mem_append.mp member with inWhole | isLast
    · exact canonicalParts.wholeDigits character inWhole
    · rw [List.mem_singleton.mp isLast]
      exact decimal
  fractionShape := Or.inl pointFree
  someDigit := Or.inl (by simp)
  wholeShape := by
    rw [wholePart_concat, canonicalParts.wholeShape, if_neg counts]
  signShape := by
    intro _
    left
    intro zero
    have wholeNonempty : parts.whole ≠ [] :=
      canonicalParts.wholeShape ▸ wholePart_ne_nil parts.whole
    rcases List.append_eq_singleton_iff.mp zero with ⟨empty, _⟩ | ⟨_, absurd⟩
    · exact wholeNonempty empty
    · cases absurd

/-- Behind a point further digits belong to the fraction. -/
theorem concat_fraction
    (canonicalParts : parts.Canonical)
    {places : List Char}
    (fractionShape : parts.fraction = '.' :: places)
    {digit : Char}
    (decimal : Text.isDecimalDigit digit) :
    { parts with fraction := parts.fraction ++ [digit] }.Canonical where
  wholeDigits := canonicalParts.wholeDigits
  fractionShape := by
    refine Or.inr ⟨places ++ [digit], by simp [fractionShape], ?_⟩
    intro character member
    rcases List.mem_append.mp member with inPlaces | isLast
    · rcases canonicalParts.fractionShape with none | ⟨known, knownShape, knownDigits⟩
      · rw [fractionShape] at none
        cases none
      · rw [fractionShape] at knownShape
        cases knownShape
        exact knownDigits character inPlaces
    · rw [List.mem_singleton.mp isLast]
      exact decimal
  someDigit := Or.inr (by simp [fractionShape])
  wholeShape := canonicalParts.wholeShape
  signShape := fun _ => Or.inr (by simp)

/-- The only canonical parts with a bare zero in front and no point are those of zero itself. -/
theorem text_eq_zero
    (canonicalParts : parts.Canonical)
    (pointFree : parts.fraction = [])
    (zero : parts.whole = ['0']) :
    parts.text = ['0'] := by
  have unsigned : parts.negative = false := by
    cases signed : parts.negative with
    | false =>
        rfl
    | true =>
        rcases canonicalParts.signShape signed with counts | pointed
        · exact absurd zero counts
        · exact absurd pointFree pointed
  simp [text, unsigned, zero, pointFree]

end Parts.Canonical

/-- A digit behind a canonical number other than a bare zero leaves a canonical number. -/
theorem IsCanonical.append_digit
    {text : String}
    (canonicalText : IsCanonical text)
    (notZero : text ≠ "0")
    {digit : Char}
    (isDigit : digit.isDigit) :
    IsCanonical (text ++ String.singleton digit) := by
  obtain ⟨parts, canonicalParts, textShape⟩ := isCanonical_iff.mp canonicalText
  have decimal : Text.isDecimalDigit digit := isDecimalDigit_of_isDigit isDigit
  rcases canonicalParts.fractionShape with pointFree | ⟨places, fractionShape, _⟩
  · have counts : parts.whole ≠ ['0'] := by
      intro zero
      apply notZero
      rw [← String.toList_inj, textShape, canonicalParts.text_eq_zero pointFree zero]
      rfl
    refine isCanonical_iff.mpr ⟨_, canonicalParts.concat_whole pointFree counts decimal, ?_⟩
    simp [Parts.text, textShape, pointFree]
  · refine isCanonical_iff.mpr ⟨_, canonicalParts.concat_fraction fractionShape decimal, ?_⟩
    simp [Parts.text, textShape]

/-- A point behind a canonical number without one leaves a canonical number. -/
theorem IsCanonical.append_point
    {text : String}
    (canonicalText : IsCanonical text)
    (pointFree : '.' ∉ text.toList) :
    IsCanonical (text ++ ".") := by
  obtain ⟨⟨negative, whole, fraction⟩, canonicalParts, textShape⟩ :=
    isCanonical_iff.mp canonicalText
  have none : fraction = [] := by
    rcases canonicalParts.fractionShape with none | ⟨places, fractionShape, _⟩
    · exact none
    · dsimp only at fractionShape
      simp [textShape, Parts.text, fractionShape] at pointFree
  have wholeShape : wholePart whole = whole := canonicalParts.wholeShape
  have wholeNonempty : whole ≠ [] := wholeShape ▸ wholePart_ne_nil whole
  refine isCanonical_iff.mpr ⟨⟨negative, whole, ['.']⟩, ?_, ?_⟩
  · exact
      { wholeDigits := canonicalParts.wholeDigits
        fractionShape := Or.inr ⟨[], rfl, fun _ member => nomatch member⟩
        someDigit := Or.inl wholeNonempty
        wholeShape := wholeShape
        signShape := fun _ => Or.inr (List.cons_ne_nil _ _) }
  · simp [Parts.text, textShape, none]

end ChainCalculator.PlainNumber

/-! ## Blanks around a plain number -/

namespace ChainCalculator

namespace Text

/-- No digit of any script is blank. -/
theorem isBlank_eq_false_of_isDecimalDigit
    {character : Char}
    (decimal : isDecimalDigit character) :
    isBlank character = false := by
  rw [isDecimalDigit, digitValue?, Option.isSome_map, List.find?_isSome] at decimal
  obtain ⟨first, startsBlock, inBlock⟩ := decimal
  have apart :
      ∀ range ∈ blankRanges, ∀ first ∈ digitZeros,
        first + 10 ≤ range.1 ∨ range.2 < first := by
    decide
  simp only [Bool.and_eq_true, decide_eq_true_eq] at inBlock
  rw [isBlank, inRanges, List.any_eq_false]
  intro range member
  have outside := apart range member first startsBlock
  simp only [Bool.and_eq_true, decide_eq_true_eq]
  omega

/-- Only blanks are cut off. -/
theorem trim_of_forall_not_blank
    {text : List Char}
    (noBlank : ∀ character ∈ text, isBlank character = false) :
    trim text = text := by
  have kept (part : List Char) (inText : ∀ character ∈ part, character ∈ text) :
      part.dropWhile isBlank = part := by
    cases part with
    | nil =>
        rfl
    | cons first rest =>
        rw [List.dropWhile_cons_of_neg]
        simp [noBlank first (inText first List.mem_cons_self)]
  rw [trim, kept text (fun _ member => member),
    kept text.reverse (fun _ member => List.mem_reverse.mp member), List.reverse_reverse]

end Text

namespace PlainNumber

/-- There are no blanks around digits. -/
theorem Parts.Digital.trim_text
    {parts : Parts}
    (digital : parts.Digital) :
    Text.trim parts.text = parts.text := by
  apply Text.trim_of_forall_not_blank
  intro character member
  rcases digital.mem_text member with decimal | rfl | rfl
  · exact Text.isBlank_eq_false_of_isDecimalDigit decimal
  · decide
  · decide

/-- There is no blank at the ends of a plain number. -/
theorem trim_of_accepts
    {text : String}
    (accepted : accepts text) :
    Text.trim text.toList = text.toList := by
  obtain ⟨parts, wellFormed, textShape⟩ := Parts.exists_of_accepts accepted
  rw [textShape, wellFormed.trim_text]

end PlainNumber

end ChainCalculator

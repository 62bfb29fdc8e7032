import ChainCalculator.Proofs.DecimalReading
import ChainCalculator.Proofs.NumberParts
import ChainCalculator.Proofs.Runs

namespace ChainCalculator

/-!
# Typing a number

Digits and points that are entered in a row make up one operand.  Only the first point counts.  The
operand is the canonical form of what was entered, and it reads as the number whose digits are those
that were entered, scaled by the digits behind the first point.
-/

/-- What a number is typed with. -/
inductive Mark where
  | digit (value : Fin 10)
  | point
  deriving Repr, DecidableEq

namespace Mark

def button :
    Mark → Button
  | .digit value => .digit value
  | .point => .dot

/-- The digits among several marks, by their values. -/
def values :
    List Mark → List (Fin 10)
  | [] => []
  | .digit value :: rest => value :: values rest
  | .point :: rest => values rest

/-- How many digits follow the first point. -/
def places :
    List Mark → Nat
  | [] => 0
  | .digit _ :: rest => places rest
  | .point :: rest => (values rest).length

/-- The digits among several marks, in writing. -/
def digits
    (marks : List Mark) :
    List Char :=
  (values marks).map fun value : Fin 10 => Nat.digitChar value

/-- The marks in writing, without the points that follow the first one. -/
def keepFirstPoint :
    List Mark → List Char
  | [] => []
  | .digit value :: rest => Nat.digitChar value :: keepFirstPoint rest
  | .point :: rest => '.' :: digits rest

/-- The digits in front of the first point, in writing. -/
def whole :
    List Mark → List Char
  | .digit value :: rest => Nat.digitChar value :: whole rest
  | _ => []

/-- The first point and the digits behind it, or nothing if there is no point. -/
def fraction :
    List Mark → List Char
  | [] => []
  | .digit _ :: rest => fraction rest
  | .point :: rest => '.' :: digits rest

def text
    (marks : List Mark) :
    String :=
  PlainNumber.canonical (String.ofList (keepFirstPoint marks))

/-- The natural that digits denote in the decimal system, the highest place first. -/
def natural
    (values : List (Fin 10)) :
    Nat :=
  values.foldl (fun number (value : Fin 10) => 10 * number + value) 0

/-- The number that several marks type: all their digits, scaled by those behind the first point. -/
def number
    (marks : List Mark) :
    Float :=
  (Numeral.decimal false (natural (values marks)) (-(places marks : Int))).toFloat

/-- A digit in writing has the value that it was entered with. -/
theorem digitValue_digitChar
    (value : Fin 10) :
    Digits.digitValue (Nat.digitChar value) = value := by
  revert value
  decide

/-- The written digits of several marks denote the natural of their values. -/
theorem value_digits
    (marks : List Mark) :
    Digits.value (digits marks) = natural (values marks) := by
  rw [Digits.value, digits, List.foldl_map, natural]
  simp only [digitValue_digitChar]

/-- The digits in writing are all decimal digits. -/
theorem isDigit_of_mem_digits
    {marks : List Mark}
    {character : Char}
    (member : character ∈ digits marks) :
    character.isDigit := by
  obtain ⟨value, -, rfl⟩ := List.mem_map.mp member
  rw [← Button.digitChar_eq]
  exact Button.isDigit_digitChar value

/-- The values of marks in two groups are those of the first, then those of the second. -/
theorem values_append
    (earlier later : List Mark) :
    values (earlier ++ later) = values earlier ++ values later := by
  induction earlier with
  | nil =>
      rfl
  | cons mark rest inductionHypothesis =>
      cases mark <;> simp [values, inductionHypothesis]

/-- The written places are as many as the digits behind the first point. -/
theorem length_tail_fraction
    (marks : List Mark) :
    (fraction marks).tail.length = places marks := by
  induction marks with
  | nil =>
      rfl
  | cons mark rest inductionHypothesis =>
      cases mark with
      | digit value => exact inductionHypothesis
      | point => simp [fraction, places, digits]

/-- The digits stand in front of the first point or behind it. -/
theorem digits_eq_append
    (marks : List Mark) :
    digits marks = whole marks ++ (fraction marks).tail := by
  induction marks with
  | nil =>
      rfl
  | cons mark rest inductionHypothesis =>
      cases mark with
      | digit value =>
          rw [whole, fraction, List.cons_append, ← inductionHypothesis]
          rfl
      | point => rfl

/-- What is kept is the whole part and the fraction. -/
theorem keepFirstPoint_eq_append
    (marks : List Mark) :
    keepFirstPoint marks = whole marks ++ fraction marks := by
  induction marks with
  | nil =>
      rfl
  | cons mark rest inductionHypothesis =>
      cases mark with
      | digit value => simp [keepFirstPoint, whole, fraction, inductionHypothesis]
      | point => rfl

/-- The whole part is made of digits. -/
theorem isDigit_of_mem_whole
    {marks : List Mark}
    {character : Char}
    (member : character ∈ whole marks) :
    character.isDigit := by
  have inDigits : character ∈ digits marks := by
    rw [digits_eq_append]
    exact List.mem_append_left _ member
  exact isDigit_of_mem_digits inDigits

/-- The whole part without needless zeros is made of digits. -/
theorem isDigit_of_mem_wholePart
    {marks : List Mark}
    {character : Char}
    (member : character ∈ PlainNumber.wholePart (whole marks)) :
    character.isDigit := by
  rcases PlainNumber.mem_wholePart member with rfl | inWhole
  · rfl
  · exact isDigit_of_mem_whole inWhole

/-- A fraction is a point with digits behind it. -/
theorem fraction_shape
    (marks : List Mark) :
    fraction marks = [] ∨
      ∃ places, fraction marks = '.' :: places ∧ ∀ character ∈ places, character.isDigit := by
  induction marks with
  | nil =>
      exact Or.inl rfl
  | cons mark rest inductionHypothesis =>
      cases mark with
      | digit value => exact inductionHypothesis
      | point => exact Or.inr ⟨digits rest, rfl, fun _ member => isDigit_of_mem_digits member⟩

/-- A digit belongs to the whole part until there is a point. -/
theorem whole_concat_digit
    (marks : List Mark)
    (value : Fin 10) :
    whole (marks ++ [.digit value]) =
      if fraction marks = [] then whole marks ++ [Nat.digitChar value] else whole marks := by
  induction marks with
  | nil =>
      rfl
  | cons mark rest inductionHypothesis =>
      cases mark with
      | digit first =>
          by_cases pointFree : fraction rest = [] <;>
            simp_all [whole, fraction]
      | point =>
          rfl

/-- Behind a point, a digit belongs to the fraction. -/
theorem fraction_concat_digit
    (marks : List Mark)
    (value : Fin 10) :
    fraction (marks ++ [.digit value]) =
      if fraction marks = [] then [] else fraction marks ++ [Nat.digitChar value] := by
  induction marks with
  | nil =>
      rfl
  | cons mark rest inductionHypothesis =>
      cases mark with
      | digit first => exact inductionHypothesis
      | point => simp [fraction, digits, values_append, values]

/-- A point adds nothing to the whole part. -/
@[simp]
theorem whole_concat_point
    (marks : List Mark) :
    whole (marks ++ [.point]) = whole marks := by
  induction marks with
  | nil =>
      rfl
  | cons mark rest inductionHypothesis =>
      cases mark with
      | digit value => simp [whole, inductionHypothesis]
      | point => rfl

/-- Only the first point counts. -/
theorem fraction_concat_point
    (marks : List Mark) :
    fraction (marks ++ [.point]) = if fraction marks = [] then ['.'] else fraction marks := by
  induction marks with
  | nil =>
      rfl
  | cons mark rest inductionHypothesis =>
      cases mark with
      | digit value => exact inductionHypothesis
      | point => simp [fraction, digits, values_append, values]

/-- The parts of what several marks type, before needless zeros are dropped. -/
def parts
    (marks : List Mark) :
    PlainNumber.Parts :=
  ⟨false, whole marks, fraction marks⟩

/-- What several marks type has the parts of a plain number. -/
theorem digital_parts
    (marks : List Mark) :
    (parts marks).Digital where
  wholeDigits _ member :=
    PlainNumber.isDecimalDigit_of_isDigit (isDigit_of_mem_whole member)
  fractionShape := by
    rcases fraction_shape marks with none | ⟨places, fractionShape, placesDigits⟩
    · exact Or.inl none
    · refine Or.inr ⟨places, fractionShape, ?_⟩
      intro character member
      exact PlainNumber.isDecimalDigit_of_isDigit (placesDigits character member)

/-- The text of the parts is what was entered, with the first point only. -/
theorem text_parts
    (marks : List Mark) :
    (parts marks).text = keepFirstPoint marks := by
  simpa [parts, PlainNumber.Parts.text] using (keepFirstPoint_eq_append marks).symm

/-- The text of several marks has a whole part without needless zeros, and the fraction as it is. -/
theorem toList_text
    (marks : List Mark) :
    (text marks).toList = PlainNumber.wholePart (whole marks) ++ fraction marks := by
  have canonicalText := (digital_parts marks).canonicalList_text
  rw [text, PlainNumber.canonical, String.toList_ofList, String.toList_ofList, ← text_parts,
    canonicalText]
  simp [parts, PlainNumber.Parts.canonical, PlainNumber.Parts.text]

/-- Even without marks there is a zero. -/
theorem text_ne_empty
    (marks : List Mark) :
    text marks ≠ "" := by
  intro empty
  have noCharacters : PlainNumber.wholePart (whole marks) ++ fraction marks = [] := by
    rw [← toList_text, empty]
    rfl
  exact PlainNumber.wholePart_ne_nil _ (List.append_eq_nil_iff.mp noCharacters).1

/-- What several marks type can be read, and it stands for their number. -/
theorem value_typed_text
    (marks : List Mark) :
    (Operand.typed (text marks)).value = .ok (number marks) := by
  have sameValue :
      Digits.value (PlainNumber.wholePart (whole marks) ++ (fraction marks).tail) =
        natural (values marks) := by
    rw [← value_digits, digits_eq_append, Digits.value_append, Digits.value_append,
      PlainNumber.value_wholePart]
  have readText :
      Numeral.read? (text marks).toList =
        some (.decimal false (natural (values marks)) (-(places marks : Int))) := by
    rw [toList_text, ← sameValue, ← length_tail_fraction]
    exact
      Numeral.read?_append false (fun _ member => isDigit_of_mem_wholePart member)
        (PlainNumber.wholePart_ne_nil _) (fraction_shape marks)
  simp [Operand.value, text_ne_empty, readFloat?, readText, number]

example :
    let marks : List Mark := [.digit 0, .digit 7, .point, .digit 5, .point, .digit 2]
    text marks = "7.52" ∧ natural (values marks) = 752 ∧ places marks = 2 := by
  decide +kernel

/-- The text is a bare zero if no other digit and no point was entered. -/
theorem text_eq_zero_iff
    {marks : List Mark} :
    text marks = "0" ↔ PlainNumber.wholePart (whole marks) = ['0'] ∧ fraction marks = [] := by
  rw [← String.toList_inj, toList_text]
  constructor
  · intro shape
    rcases List.append_eq_singleton_iff.mp shape with ⟨noWhole, _⟩ | zero
    · exact absurd noWhole (PlainNumber.wholePart_ne_nil _)
    · exact zero
  · rintro ⟨zero, none⟩
    rw [zero, none]
    rfl

/-- There is a point in the text if one was entered. -/
theorem point_mem_text_iff
    {marks : List Mark} :
    '.' ∈ (text marks).toList ↔ fraction marks ≠ [] := by
  have pointFree : '.' ∉ PlainNumber.wholePart (whole marks) :=
    Digits.not_mem_of_isDigit_eq_false (fun _ member => isDigit_of_mem_wholePart member) rfl
  rw [toList_text, List.mem_append]
  rcases fraction_shape marks with none | ⟨places, fractionShape, _⟩
  · simp [none, pointFree]
  · simp [fractionShape]

end Mark

theorem Figure.write_zero :
    Figure.write 0 = "0" := by
  decide +kernel

namespace Operand

def afterMark
    (number : Operand) :
    Mark → Operand
  | .digit value => number.afterDigit value
  | .point => number.afterPoint

/-- One more mark behind a typed operand types what all the marks together type. -/
theorem afterMark_typed_text
    (marks : List Mark)
    (mark : Mark) :
    (typed (Mark.text marks)).afterMark mark = typed (Mark.text (marks ++ [mark])) := by
  cases mark with
  | digit value =>
      have grown :
          (if Mark.text marks = "0" then String.singleton (Button.digitChar value)
            else Mark.text marks ++ String.singleton (Button.digitChar value)) =
            Mark.text (marks ++ [.digit value]) := by
        rw [Button.digitChar_eq, ← String.toList_inj, Mark.toList_text, Mark.whole_concat_digit,
          Mark.fraction_concat_digit]
        -- Without a point a bare zero is replaced, and any other whole part grows.
        by_cases pointFree : Mark.fraction marks = []
        · by_cases zero : PlainNumber.wholePart (Mark.whole marks) = ['0']
          · simp [Mark.text_eq_zero_iff, zero, pointFree, PlainNumber.wholePart_concat]
          · simp [Mark.text_eq_zero_iff, zero, pointFree, PlainNumber.wholePart_concat,
              Mark.toList_text]
        · simp [Mark.text_eq_zero_iff, pointFree, Mark.toList_text]
      simpa [afterMark, afterDigit] using grown
  | point =>
      by_cases pointFree : Mark.fraction marks = []
      · have noPoint : (typed (Mark.text marks)).hasPoint = false := by
          have absent : '.' ∉ (Mark.text marks).toList :=
            fun member => Mark.point_mem_text_iff.mp member pointFree
          simpa [hasPoint, text] using absent
        have grown : Mark.text marks ++ "." = Mark.text (marks ++ [.point]) := by
          rw [← String.toList_inj]
          simp [Mark.toList_text, Mark.fraction_concat_point, pointFree]
        simp [afterMark, afterPoint, noPoint, text, grown]
      · have pointed : (typed (Mark.text marks)).hasPoint := by
          simpa [hasPoint, text] using Mark.point_mem_text_iff.mpr pointFree
        have unchanged : Mark.text marks = Mark.text (marks ++ [.point]) := by
          rw [← String.toList_inj]
          simp [Mark.toList_text, Mark.fraction_concat_point, pointFree]
        simp [afterMark, afterPoint, pointed, ← unchanged]

/-- Marks behind a lone zero type their own text. -/
theorem foldl_afterMark_zero
    (marks : List Mark) :
    marks.foldl afterMark (typed "0") = typed (Mark.text marks) := by
  -- No mark at all types a lone zero too, so the marks may stand behind any others.
  suffices behind :
      ∀ earlier : List Mark,
        marks.foldl afterMark (typed (Mark.text earlier)) =
          typed (Mark.text (earlier ++ marks)) from
    behind []
  induction marks with
  | nil =>
      simp
  | cons mark rest inductionHypothesis =>
      intro earlier
      rw [List.foldl_cons, afterMark_typed_text, inductionHypothesis, List.append_assoc,
        List.singleton_append]

/-- A computed number that is shown as zero takes a mark as a typed zero does. -/
theorem afterMark_computed_of_write_eq_zero
    {value : Float}
    (shown : Figure.write value = "0")
    (mark : Mark) :
    (computed value).afterMark mark = (typed "0").afterMark mark := by
  cases mark with
  | digit digit =>
      simp [afterMark, afterDigit]
  | point =>
      simp [afterMark, afterPoint, hasPoint, text, shown]

/-- Marks in the place of a computed number that is shown as zero type their own text. -/
theorem foldl_afterMark_computed_of_write_eq_zero
    {value : Float}
    (shown : Figure.write value = "0")
    {marks : List Mark}
    (nonempty : marks ≠ []) :
    marks.foldl afterMark (computed value) = typed (Mark.text marks) := by
  obtain ⟨mark, rest, rfl⟩ := List.exists_cons_of_ne_nil nonempty
  rw [List.foldl_cons, afterMark_computed_of_write_eq_zero shown, ← List.foldl_cons,
    foldl_afterMark_zero]

end Operand

namespace Calculator

variable {calculator : Calculator} {front : Chain}

/-- A mark is added to the latest operand. -/
theorem attempt_mark_operand
    {number : Operand}
    (shape : calculator.chain = front.push (.operand number))
    (mark : Mark) :
    calculator.attempt mark.button =
      done
        { calculator with
          chain := front.push (.operand (number.afterMark mark))
          fault? := none } := by
  cases mark with
  | digit value => exact @enterDigit_operand { calculator with fault? := none } front _ shape value
  | point => exact @enterDot_operand { calculator with fault? := none } front _ shape

/-- The first mark behind an operator begins an operand as it would in place of a zero. -/
theorem attempt_mark_operator
    {operator : Operator}
    (shape : calculator.chain = front.push (.operator operator))
    (short : front.size ≤ 1)
    (mark : Mark) :
    calculator.attempt mark.button =
      done
        { calculator with
          chain := calculator.chain.push (.operand ((Operand.computed 0).afterMark mark))
          fault? := none } := by
  cases mark with
  | digit value =>
      exact @enterDigit_operator { calculator with fault? := none } front _ shape short value
  | point =>
      have seeded : (Operand.computed 0).afterMark .point = .typed "0." := by
        decide +kernel
      rw [seeded]
      exact @enterDot_operator { calculator with fault? := none } front _ shape

/-- Marks in a row are added to the latest operand one by one, and none of them fails. -/
theorem passes_marks
    (front : Chain)
    (number : Operand)
    (operator? : Option Operator)
    (number? : Option Float)
    (marks : List Mark) :
    Passes ⟨front.push (.operand number), operator?, number?, none⟩ (marks.map Mark.button)
      ⟨front.push (.operand (marks.foldl Operand.afterMark number)), operator?, number?, none⟩ := by
  induction marks generalizing number with
  | nil =>
      exact .refl _
  | cons mark rest inductionHypothesis =>
      exact .push (attempt_mark_operand rfl mark) (inductionHypothesis (number.afterMark mark))

/-- Marks in the place of a computed number that is shown as zero make up an operand. -/
theorem passes_marks_zero
    {value : Float}
    (shape : calculator.chain = front.push (.operand (.computed value)))
    (shown : Figure.write value = "0")
    {marks : List Mark}
    (nonempty : marks ≠ []) :
    Passes calculator (marks.map Mark.button)
      { calculator with
        chain := front.push (.operand (.typed (Mark.text marks)))
        fault? := none } := by
  rw [← Operand.foldl_afterMark_computed_of_write_eq_zero shown nonempty]
  obtain ⟨mark, rest, rfl⟩ := List.exists_cons_of_ne_nil nonempty
  exact .push (attempt_mark_operand shape mark) (passes_marks front _ _ _ rest)

/-- Marks behind an operator make up an operand. -/
theorem passes_marks_operator
    {operator : Operator}
    (shape : calculator.chain = front.push (.operator operator))
    (short : front.size ≤ 1)
    {marks : List Mark}
    (nonempty : marks ≠ []) :
    Passes calculator (marks.map Mark.button)
      { calculator with
        chain := calculator.chain.push (.operand (.typed (Mark.text marks)))
        fault? := none } := by
  rw [← Operand.foldl_afterMark_computed_of_write_eq_zero Figure.write_zero nonempty]
  obtain ⟨mark, rest, rfl⟩ := List.exists_cons_of_ne_nil nonempty
  exact .push (attempt_mark_operator shape short mark) (passes_marks calculator.chain _ _ _ rest)

end Calculator

end ChainCalculator

import ChainCalculator.Proofs.FigureParts
import ChainCalculator.Proofs.OperandProperties

namespace ChainCalculator

/-!
# Typed texts are legible

Every text that was typed or pasted has a digit or a point in it and fits in one line, also where a
point stands behind the name of a number that is not finite.  So it is neither an operator nor the
word for an error, and no screen is broken over lines.
-/

/-- A text with a digit or a point, in one line. -/
structure IsLegibleText
    (text : String) :
    Prop where
  marked : ∃ mark ∈ text.toList, Text.isDecimalDigit mark ∨ mark = '.'
  oneLine : '\n' ∉ text.toList

/-- A typed operand is legible. -/
def Operand.IsLegible :
    Operand → Prop
  | .typed text => IsLegibleText text
  | .computed _ => True

namespace IsLegibleText

variable {text : String}

/-- A plain number is legible. -/
theorem of_accepts
    (accepted : PlainNumber.accepts text) :
    IsLegibleText text where
  marked := by
    obtain ⟨parts, wellFormed, textShape⟩ := PlainNumber.Parts.exists_of_accepts accepted
    rw [textShape]
    rcases wellFormed.fractionShape with none | ⟨places, fractionShape, _⟩
    · have wholeNonempty : parts.whole ≠ [] := by
        simpa [none] using wellFormed.someDigit
      obtain ⟨first, rest, wholeShape⟩ := List.exists_cons_of_ne_nil wholeNonempty
      have firstMember : first ∈ parts.whole := by
        simp [wholeShape]
      exact
        ⟨first, by simp [PlainNumber.Parts.text, firstMember],
          Or.inl (wellFormed.wholeDigits first firstMember)⟩
    · exact ⟨'.', by simp [PlainNumber.Parts.text, fractionShape], Or.inr rfl⟩
  oneLine := by
    intro member
    rcases PlainNumber.mem_of_accepts accepted member with decimal | minus | point
    · revert decimal
      decide
    · revert minus
      decide
    · revert point
      decide

/-- A single digit is legible. -/
theorem of_singleton
    {digit : Char}
    (isDigit : digit.isDigit) :
    IsLegibleText (String.singleton digit) :=
  of_accepts (PlainNumber.isCanonical_singleton isDigit).1

/-- A legible text stays so with a digit more. -/
theorem append_digit
    (legible : IsLegibleText text)
    {digit : Char}
    (isDigit : digit.isDigit) :
    IsLegibleText (text ++ String.singleton digit) where
  marked := by
    obtain ⟨mark, member, isMark⟩ := legible.marked
    exact ⟨mark, by simp [member], isMark⟩
  oneLine := by
    simpa [legible.oneLine] using (of_singleton isDigit).oneLine

/-- A point makes every text in one line legible. -/
theorem append_point
    (oneLine : '\n' ∉ text.toList) :
    IsLegibleText (text ++ ".") where
  marked := ⟨'.', by simp, Or.inr rfl⟩
  oneLine := by
    simpa using oneLine

/-- A legible text has a digit or a point, so it is none of the words without. -/
theorem ne_of_any_eq_false
    (legible : IsLegibleText text)
    {other : String}
    (noMark : (other.toList.any fun mark => Text.isDecimalDigit mark || mark = '.') = false) :
    text ≠ other := by
  rintro rfl
  obtain ⟨mark, member, isMark⟩ := legible.marked
  rw [List.any_eq_false] at noMark
  exact noMark mark member (by simpa using isMark)

/-- A typed text is told from the operators. -/
theorem ne_symbol
    (legible : IsLegibleText text)
    (operator : Operator) :
    text ≠ String.singleton operator.symbol := by
  apply legible.ne_of_any_eq_false
  cases operator <;> decide

/-- A typed text is told from the word for an error. -/
theorem ne_errorWord
    (legible : IsLegibleText text) :
    text ≠ Screen.errorWord :=
  legible.ne_of_any_eq_false (by decide)

theorem ne_empty
    (legible : IsLegibleText text) :
    text ≠ "" :=
  legible.ne_of_any_eq_false (by decide)

end IsLegibleText

/-- The figure of any number fits in one line. -/
theorem Figure.newline_not_mem_write
    (value : Float) :
    '\n' ∉ (write value).toList := by
  by_cases finite : value.isFinite
  · exact (IsLegibleText.of_accepts (isCanonical_write finite).1).oneLine
  · rw [write, if_neg finite]
    split
    · decide
    · split <;> decide

namespace Operand

/-- A legible operand is written on one line. -/
theorem IsLegible.newline_not_mem_text
    {number : Operand}
    (legible : number.IsLegible) :
    '\n' ∉ number.text.toList := by
  cases number with
  | typed text => exact IsLegibleText.oneLine legible
  | computed value => exact Figure.newline_not_mem_write value

/-- An operand stays legible when a point is entered. -/
theorem IsLegible.afterPoint
    {number : Operand}
    (legible : number.IsLegible) :
    number.afterPoint.IsLegible := by
  by_cases pointed : number.hasPoint
  · rw [Operand.afterPoint, if_pos pointed]
    exact legible
  · rw [Operand.afterPoint, if_neg pointed]
    exact IsLegibleText.append_point legible.newline_not_mem_text

/-- Computed and pasted operands are legible, and stay so with a digit more. -/
theorem inherited_isLegible :
    Operand.Inherited Operand.IsLegible where
  computed := fun _ => trivial
  pasted := fun accepted =>
    IsLegibleText.of_accepts (PlainNumber.isCanonical_canonical accepted).1
  afterDigit := by
    intro number legible digit
    have single := IsLegibleText.of_singleton (Button.isDigit_digitChar digit)
    cases number with
    | computed value =>
        exact single
    | typed text =>
        by_cases zero : text = "0"
        · simpa [Operand.afterDigit, zero, Operand.IsLegible] using single
        · simpa [Operand.afterDigit, zero, Operand.IsLegible] using
            IsLegibleText.append_digit legible (Button.isDigit_digitChar digit)

end Operand

namespace Calculator

/-- After every run, every typed operand is legible. -/
theorem allOperands_isLegible
    (actions : List Action) :
    (fresh.actAll actions).chain.AllOperands Operand.IsLegible :=
  allOperands_actAll Operand.inherited_isLegible Operand.IsLegible.afterPoint actions

/-- A screen with legible operands fits in one line. -/
theorem newline_not_mem_screen_text
    {calculator : Calculator}
    (legible : calculator.chain.AllOperands Operand.IsLegible) :
    '\n' ∉ calculator.screen.text.toList := by
  rw [screen]
  split
  · decide
  · split
    · rename_i number latest
      have numberLegible := legible number (Chain.mem_of_latestOperand?_eq_some latest)
      cases number with
      | typed text =>
          rw [Screen.ofOperand, Screen.ofText]
          split
          · decide
          · exact numberLegible.newline_not_mem_text
      | computed value =>
          rw [Screen.ofOperand, Screen.ofValue]
          split
          · exact numberLegible.newline_not_mem_text
          · decide
    · decide

end Calculator

end ChainCalculator

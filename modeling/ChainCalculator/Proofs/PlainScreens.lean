import Mathlib.Data.List.Induction
import ChainCalculator.Proofs.FigureParts
import ChainCalculator.Proofs.OperandProperties

namespace ChainCalculator

/-!
# Typed operands are canonical numbers

Digits, points and pasted texts keep every typed operand a canonical number, and the screen shows
such a number or the error.  There is one way out.  A point that is entered while the latest operand
is a computed infinity or undefined number is put behind the name of that number, as in `inf.`, and
the screen then shows a text that is no number.

The main statement says that this is the only way: a run shows nothing but numbers and errors
exactly if it enters no such point.
-/

/-- A typed operand is a canonical number. -/
def Operand.IsPlain :
    Operand → Prop
  | .typed text => PlainNumber.IsCanonical text
  | .computed _ => True

/-- Every typed operand of a chain is a canonical number. -/
def Chain.IsPlain
    (chain : Chain) :
    Prop :=
  ∀ number, .operand number ∈ chain.links → number.IsPlain

/-- A screen shows the error or a plain number. -/
def Screen.IsPlain :
    Screen → Prop
  | .number text => PlainNumber.accepts text
  | .error => True

/-- The zero of a fresh calculator shows as a number. -/
theorem Screen.isPlain_zero :
    Screen.zero.IsPlain := by
  change PlainNumber.accepts "0"
  decide

namespace Operand.IsPlain

variable {number : Operand}

/-- A digit keeps an operand plain. -/
theorem afterDigit
    (plain : number.IsPlain)
    (digit : Fin 10) :
    (number.afterDigit digit).IsPlain := by
  have single : PlainNumber.IsCanonical (String.singleton (Button.digitChar digit)) :=
    PlainNumber.isCanonical_singleton (Button.isDigit_digitChar digit)
  cases number with
  | computed value =>
      exact single
  | typed text =>
      by_cases zero : text = "0"
      · simpa [Operand.afterDigit, zero, Operand.IsPlain] using single
      · simpa [Operand.afterDigit, zero, Operand.IsPlain] using
          PlainNumber.IsCanonical.append_digit plain zero (Button.isDigit_digitChar digit)

/-- A point keeps an operand plain, unless it is a computed number that is not finite. -/
theorem afterPoint
    (plain : number.IsPlain)
    (finite : ∀ value, number = .computed value → value.isFinite) :
    number.afterPoint.IsPlain := by
  by_cases pointed : number.hasPoint
  · rw [Operand.afterPoint, if_pos pointed]
    exact plain
  · rw [Operand.afterPoint, if_neg pointed]
    have canonicalText : PlainNumber.IsCanonical number.text := by
      cases number with
      | typed text => exact plain
      | computed value => exact Figure.isCanonical_write (finite value rfl)
    apply canonicalText.append_point
    simpa [hasPoint] using pointed

/-- The screen of a plain operand shows a plain number, or the error if it is not finite. -/
theorem screen
    (plain : number.IsPlain) :
    (Screen.ofOperand number).IsPlain := by
  cases number with
  | typed text =>
      by_cases empty : text = ""
      · rw [Screen.ofOperand, Screen.ofText, if_pos empty]
        exact Screen.isPlain_zero
      · rw [Screen.ofOperand, Screen.ofText, if_neg empty]
        exact plain.1
  | computed value =>
      by_cases finite : value.isFinite
      · rw [Screen.ofOperand, Screen.ofValue, if_pos finite]
        exact (Figure.isCanonical_write finite).1
      · rw [Screen.ofOperand, Screen.ofValue, if_neg finite]
        trivial

end Operand.IsPlain

/-- Being plain is inherited by all operands, but for a point behind a number that is not finite. -/
theorem Operand.inherited_isPlain :
    Operand.Inherited Operand.IsPlain where
  computed := fun _ => trivial
  pasted := PlainNumber.isCanonical_canonical
  afterDigit := Operand.IsPlain.afterDigit

/-- A computed number is plain in itself. -/
theorem Chain.isPlain_ofValue
    (value : Float) :
    (ofValue value).IsPlain :=
  Operand.inherited_isPlain.ofValue value

namespace Calculator

/-- Every typed operand and the screen show numbers. -/
structure ShowsNumbers
    (calculator : Calculator) :
    Prop where
  typed :
    ∀ text,
      .operand (.typed text) ∈ calculator.chain.links →
        PlainNumber.accepts text ∧ PlainNumber.canonical text = text
  screen :
    calculator.screen = .error ∨
      ∃ text, calculator.screen = .number text ∧ PlainNumber.accepts text

/-- A calculator whose chain is plain shows numbers only. -/
theorem showsNumbers_of_isPlain
    {calculator : Calculator}
    (plain : calculator.chain.IsPlain) :
    calculator.ShowsNumbers where
  typed text member := plain (.typed text) member
  screen := by
    have screenPlain : calculator.screen.IsPlain := by
      rw [Calculator.screen]
      split
      · trivial
      · split
        · rename_i number latestShape
          exact (plain number (Chain.mem_of_latestOperand?_eq_some latestShape)).screen
        · exact Screen.isPlain_zero
    cases shown : calculator.screen with
    | error =>
        exact Or.inl rfl
    | number text =>
        rw [shown] at screenPlain
        exact Or.inr ⟨text, rfl, screenPlain⟩

/-- An action enters a point while the latest operand is a computed number that is not finite. -/
def MarksNonFinite
    (calculator : Calculator)
    (action : Action) :
    Prop :=
  action.button? = some .dot ∧
    ∃ value,
      calculator.chain.latest? = some (.operand (.computed value)) ∧
        value.isFinite = false

/-- An action that does not mark a non-finite number keeps every typed operand canonical. -/
theorem Consistent.isPlain_act
    {calculator : Calculator}
    (consistent : calculator.Consistent)
    (plain : calculator.chain.IsPlain)
    {action : Action}
    (allowed : ¬calculator.MarksNonFinite action) :
    (calculator.act action).chain.IsPlain := by
  apply consistent.allOperands_act Operand.inherited_isPlain plain
  intro pushes number latestShape numberPlain
  apply numberPlain.afterPoint
  rintro value rfl
  by_cases finite : value.isFinite
  · exact finite
  · exact (allowed ⟨pushes, value, latestShape, by simpa using finite⟩).elim

/-- The name of a number that is not finite, with a point behind it, is no number. -/
theorem exists_afterPoint_not_accepts
    {value : Float}
    (nonFinite : value.isFinite = false) :
    ∃ text,
      (Operand.computed value).afterPoint = .typed text ∧
        ¬PlainNumber.accepts text := by
  have named :
      Figure.write value = "NaN" ∨ Figure.write value = "-inf" ∨ Figure.write value = "inf" := by
    rw [Figure.write, nonFinite]
    rw [if_neg Bool.false_ne_true]
    by_cases undefined : value.isNaN
    · rw [if_pos undefined]
      exact Or.inl rfl
    · rw [if_neg undefined]
      by_cases negative : Binary64.isNegative value
      · rw [if_pos negative]
        exact Or.inr (Or.inl rfl)
      · rw [if_neg negative]
        exact Or.inr (Or.inr rfl)
  refine ⟨Figure.write value ++ ".", ?_, ?_⟩
  · have pointFree : (Operand.computed value).hasPoint = false := by
      rw [Operand.hasPoint, Operand.text]
      rcases named with name | name | name <;> rw [name] <;> decide
    simp [Operand.afterPoint, pointFree, Operand.text]
  · rcases named with name | name | name <;> rw [name] <;> decide

/-- A point on a computed number that is not finite shows as no number. -/
theorem not_showsNumbers_act_of_marksNonFinite
    {calculator : Calculator}
    {action : Action}
    (marks : calculator.MarksNonFinite action) :
    ¬(calculator.act action).ShowsNumbers := by
  obtain ⟨pushes, value, latestShape, nonFinite⟩ := marks
  obtain ⟨front, shape⟩ := Chain.exists_push_of_latest?_eq_some latestShape
  obtain ⟨text, pointed, rejected⟩ := exists_afterPoint_not_accepts nonFinite
  have chainShape :
      (calculator.act action).chain = front.push (.operand (.typed text)) := by
    have handled := @enterDot_operand { calculator with fault? := none } front _ shape
    rw [act_of_button?_eq_some calculator pushes, push, attempt, handle, handled, pointed]
    rfl
  intro showsNumbers
  apply rejected
  apply (showsNumbers.typed text _).1
  rw [chainShape]
  simp [Chain.push]

/--
A run has only canonical numbers for its typed operands, and only numbers and errors on its screen,
at every moment, if and only if it never enters a point while the latest operand is a computed
number that is not finite.
-/
theorem run_showsNumbers_iff
    (actions : List Action) :
    (∀ earlier later,
        actions = earlier ++ later → (fresh.actAll earlier).ShowsNumbers) ↔
      ∀ earlier action later,
        actions = earlier ++ action :: later →
          ¬(fresh.actAll earlier).MarksNonFinite action := by
  constructor
  · intro showsNumbers earlier action later split marks
    apply not_showsNumbers_act_of_marksNonFinite marks
    rw [← actAll_concat]
    exact showsNumbers (earlier ++ [action]) later (by simp [split])
  · intro allowed earlier later split
    apply showsNumbers_of_isPlain
    -- Every part of the run from its start is allowed as well, so the induction is on that part.
    induction earlier using List.reverseRecOn generalizing later with
    | nil =>
        exact Chain.isPlain_ofValue 0
    | append_singleton earlier action inductionHypothesis =>
        have splitBefore : actions = earlier ++ action :: later := by
          simpa using split
        rw [actAll_concat]
        exact (Consistent.invariant.actAll earlier).isPlain_act
          (inductionHypothesis (action :: later) splitBefore)
          (allowed earlier action later splitBefore)

/-- A point after a division by zero puts `inf.` on the screen. -/
theorem not_forall_run_showsNumbers :
    ¬∀ actions : List Action, (fresh.actAll actions).ShowsNumbers := by
  intro showsNumbers
  have marked :
      (fresh.actAll
        [.push (.digit 5), .push (.operator .divide), .push (.digit 0), .push .equals,
          .push .dot]).chain.links = [.operand (.typed "inf.")] := by
    decide +kernel
  have accepted : PlainNumber.accepts "inf." :=
    ((showsNumbers _).typed "inf." (by rw [marked]; exact List.mem_singleton_self _)).1
  revert accepted
  decide

end Calculator

end ChainCalculator

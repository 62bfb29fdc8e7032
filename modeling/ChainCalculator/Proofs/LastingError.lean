import ChainCalculator.Proofs.FailedButtons
import ChainCalculator.Proofs.NonFinite
import ChainCalculator.Proofs.RunningTotal

namespace ChainCalculator

/-!
# Errors that last

A computed number that is not finite brings the error to the screen.  Operators, percent and equals
compute other numbers from it, and these are not finite either: the error lasts.  It ends in one case
only, when a finite number stands in the chain to be divided by a computed infinity.  Percent leaves
the infinity where it is; the first operator or equals then computes a zero.
-/

namespace Calculator

variable {calculator : Calculator}

/-- A computed number that is not finite shows as the error. -/
theorem screen_of_latestOperand?_eq_computed
    {value : Float}
    (latest : calculator.chain.latestOperand? = some (.computed value))
    (nonFinite : value.isFinite = false) :
    calculator.screen = .error := by
  rw [screen, latest]
  cases calculator.fault? with
  | some fault => rfl
  | none => simp [Screen.ofOperand, Screen.ofValue, nonFinite]

/--
The latest operand is a computed number that is not finite, and no finite number is about to be
divided by it if it is an infinity.  The operation to repeat is the one of a consistent calculator.
-/
inductive LastingError : Calculator → Prop where
  | single
      {value : Float}
      (nonFinite : value.isFinite = false)
      (operator? : Option Operator)
      (number? : Option Float)
      (fault? : Option Fault) :
      LastingError ⟨.single (.computed value), operator?, number?, fault?⟩
  | dangling
      {value : Float}
      (nonFinite : value.isFinite = false)
      (operator : Operator)
      (fault? : Option Fault) :
      LastingError ⟨.dangling (.computed value) operator, some operator, some value, fault?⟩
  | operation
      {left : Operand}
      {leftValue value : Float}
      {operator : Operator}
      (leftRead : left.value = .ok leftValue)
      (nonFinite : value.isFinite = false)
      (lasts : operator = .divide → leftValue.isFinite → value.isNaN)
      (fault? : Option Fault) :
      LastingError
        ⟨.operation left operator (.computed value), some operator, some leftValue, fault?⟩

namespace LastingError

/-- A lasting error shows as the error. -/
theorem screen_eq_error
    (lasting : calculator.LastingError) :
    calculator.screen = .error := by
  cases lasting with
  | single nonFinite => exact screen_of_latestOperand?_eq_computed rfl nonFinite
  | dangling nonFinite => exact screen_of_latestOperand?_eq_computed rfl nonFinite
  | operation leftRead nonFinite => exact screen_of_latestOperand?_eq_computed rfl nonFinite

/-- A fault more or less does not end a lasting error. -/
theorem withFault
    (lasting : calculator.LastingError)
    (fault? : Option Fault) :
    { calculator with fault? := fault? }.LastingError := by
  cases lasting with
  | single nonFinite => exact .single nonFinite _ _ _
  | dangling nonFinite operator => exact .dangling nonFinite operator _
  | operation leftRead nonFinite lasts => exact .operation leftRead nonFinite lasts _

/-- An operator leaves a lasting error in place. -/
theorem enterOperator
    (lasting : calculator.LastingError)
    (next : Operator) :
    (calculator.enterOperator next).settle.LastingError := by
  cases lasting with
  | single nonFinite =>
      rw [enterOperator_single rfl]
      exact .dangling nonFinite next _
  | dangling nonFinite operator =>
      rw [enterOperator_operator (Chain.dangling_eq_push _ operator)]
      exact .dangling nonFinite next _
  | operation leftRead nonFinite lasts =>
      rw [enterOperator_operation rfl, leftRead]
      exact .dangling (Operator.isFinite_apply_of_right nonFinite lasts) next _

/-- A percent sign leaves a lasting error in place. -/
theorem enterPercent
    (lasting : calculator.LastingError) :
    calculator.enterPercent.settle.LastingError := by
  cases lasting with
  | single nonFinite =>
      rw [enterPercent_operand (Chain.single_eq_push _)]
      exact .single (Operator.isFinite_apply_of_left nonFinite .divide 100) _ _ _
  | dangling nonFinite operator =>
      rw [enterPercent_dangling rfl]
      exact .single (Operator.isFinite_apply_of_left nonFinite .divide 100) _ _ _
  | operation leftRead nonFinite lasts =>
      rw [enterPercent_operand (Chain.operation_eq_push _ _ _)]
      exact
        .operation leftRead (Operator.isFinite_apply_of_left nonFinite .divide 100)
          (fun divides finite => Operator.isNaN_hundredth (lasts divides finite)) _

/-- Equals leaves a lasting error in place. -/
theorem equals
    (lasting : calculator.LastingError) :
    calculator.equals.settle.LastingError := by
  cases lasting with
  | single nonFinite operator? number? =>
      cases operator? with
      | none =>
          rw [equals_of_pendingOperator?_eq_none rfl]
          exact .single nonFinite _ _ _
      | some operator =>
          rw [equals_single rfl rfl]
          cases number? with
          | none => exact .single (Operator.isFinite_apply_of_left nonFinite operator _) _ _ _
          | some right => exact .single (Operator.isFinite_apply_of_left nonFinite operator _) _ _ _
  | dangling nonFinite operator =>
      rw [equals_dangling rfl rfl]
      exact .single (Operator.isFinite_apply_of_left nonFinite operator _) _ _ _
  | operation leftRead nonFinite lasts =>
      rw [equals_operation rfl rfl, leftRead]
      exact .single (Operator.isFinite_apply_of_right nonFinite lasts) _ _ _

/-- A button that calculates keeps an error that lasts. -/
theorem push
    (lasting : calculator.LastingError)
    {button : Button}
    (calculates : button.calculates) :
    (calculator.push button).LastingError := by
  have unlatched := lasting.withFault none
  cases button with
  | operator next => exact unlatched.enterOperator next
  | percent => exact unlatched.enterPercent
  | equals => exact unlatched.equals
  | _ => cases calculates

/-- As long as buttons calculate, a lasting error is all that shows. -/
theorem record_eq_error
    (lasting : calculator.LastingError)
    {buttons : List Button}
    (calculating : ∀ button ∈ buttons, button.calculates) :
    ∀ shown ∈ calculator.record (buttons.map .push), shown.2 = .error := by
  induction buttons generalizing calculator with
  | nil =>
      exact fun shown member => nomatch member
  | cons button rest inductionHypothesis =>
      obtain ⟨calculates, restCalculating⟩ := List.forall_mem_cons.mp calculating
      have lastingAfter := lasting.push calculates
      exact
        List.forall_mem_cons.mpr
          ⟨lastingAfter.screen_eq_error, inductionHypothesis lastingAfter restCalculating⟩

end LastingError

/-- A finite number stands in the chain to be divided by a computed infinity. -/
def DividesByInfinity
    (calculator : Calculator) :
    Prop :=
  ∃ left dividend divisor,
    calculator.chain = .operation left .divide (.computed divisor) ∧
      left.value = .ok dividend ∧ dividend.isFinite ∧ divisor.isInf

/-- Without such a division every computed number that is not finite is an error that lasts. -/
theorem Consistent.lastingError
    (consistent : calculator.Consistent)
    {value : Float}
    (latest : calculator.chain.latestOperand? = some (.computed value))
    (nonFinite : value.isFinite = false)
    (otherwise : ¬calculator.DividesByInfinity) :
    calculator.LastingError := by
  cases consistent with
  | single number =>
      cases latest
      exact .single nonFinite _ _ _
  | dangling operator leftRead =>
      cases latest
      cases leftRead
      exact .dangling nonFinite operator _
  | @operation left operator right leftValue leftRead fault? =>
      cases latest
      refine .operation leftRead nonFinite ?_ _
      rintro rfl finite
      rcases NonFinite.isFinite_eq_false_iff.mp nonFinite with undefined | infinite
      · exact undefined
      · exact (otherwise ⟨left, leftValue, value, rfl, leftRead, finite, infinite⟩).elim

/-- The quotient of a finite number by an infinity is shown as a zero. -/
theorem ofValue_divide_eq_zero
    {left right : Float}
    (finite : left.isFinite)
    (infinite : right.isInf) :
    Screen.ofValue (Operator.divide.apply left right) = .zero := by
  obtain ⟨zeroSign, quotient⟩ := Operator.exists_divide_eq_zero_of_isInf finite infinite
  rw [quotient]
  cases zeroSign <;> decide +kernel

namespace DividesByInfinity

/-- The infinity that is divided by is the latest operand. -/
theorem exists_latestOperand?_eq
    (divides : calculator.DividesByInfinity) :
    ∃ divisor,
      calculator.chain.latestOperand? = some (.computed divisor) ∧
        divisor.isFinite = false := by
  obtain ⟨left, dividend, divisor, shape, -, -, infinite⟩ := divides
  refine ⟨divisor, ?_, NonFinite.isFinite_eq_false_iff.mpr (Or.inr infinite)⟩
  rw [shape]
  rfl

/-- A division by infinity shows as the error before it is carried out. -/
theorem screen_eq_error
    (divides : calculator.DividesByInfinity) :
    calculator.screen = .error := by
  obtain ⟨divisor, latest, nonFinite⟩ := divides.exists_latestOperand?_eq
  exact screen_of_latestOperand?_eq_computed latest nonFinite

/-- Percent leaves the infinity in the place of the divisor. -/
theorem push_percent
    (divides : calculator.DividesByInfinity) :
    (calculator.push .percent).DividesByInfinity := by
  obtain ⟨left, dividend, divisor, shape, leftRead, finite, infinite⟩ := divides
  refine ⟨left, dividend, divisor / 100, ?_, leftRead, finite, Operator.isInf_hundredth infinite⟩
  have handled :=
    @enterPercent_operand { calculator with fault? := none } (.dangling left .divide) _ shape
  rw [Calculator.push, attempt, handle, handled]
  rfl

/-- Any other button that calculates carries out the division, which ends the error. -/
theorem screen_push_eq_zero
    (divides : calculator.DividesByInfinity)
    (consistent : calculator.Consistent)
    {button : Button}
    (calculates : button.calculates)
    (other : button ≠ .percent) :
    (calculator.push button).screen = .zero := by
  obtain ⟨left, dividend, divisor, shape, leftRead, finite, infinite⟩ := divides
  have quotient := ofValue_divide_eq_zero finite infinite
  cases consistent with
  | operation operator right _ fault? =>
      cases shape
      cases button with
      | operator next =>
          rw [Calculator.push, attempt, handle, enterOperator_operation rfl, leftRead]
          exact quotient
      | equals =>
          rw [Calculator.push, attempt, handle, equals_operation rfl rfl, leftRead]
          exact quotient
      | percent => exact absurd rfl other
      | _ => cases calculates
  | single => cases shape
  | dangling => cases shape

/-- The error lasts through percent alone. -/
theorem record_eq_error_iff
    (divides : calculator.DividesByInfinity)
    (consistent : calculator.Consistent)
    {buttons : List Button}
    (calculating : ∀ button ∈ buttons, button.calculates) :
    (∀ shown ∈ calculator.record (buttons.map .push), shown.2 = .error) ↔
      ∀ button ∈ buttons, button = .percent := by
  induction buttons generalizing calculator with
  | nil =>
      simp [record]
  | cons button rest inductionHypothesis =>
      obtain ⟨calculates, restCalculating⟩ := List.forall_mem_cons.mp calculating
      rw [List.map_cons, record, List.forall_mem_cons, List.forall_mem_cons]
      by_cases percent : button = .percent
      · subst percent
        have dividesAfter := divides.push_percent
        have after :=
          inductionHypothesis dividesAfter (consistent.push .percent) restCalculating
        exact and_congr (iff_of_true dividesAfter.screen_eq_error rfl) after
      · have shown : (calculator.act (.push button)).screen = .zero :=
          divides.screen_push_eq_zero consistent calculates percent
        simp [shown, percent, Screen.zero]

end DividesByInfinity

/-- The buttons for a number, a division and a second number, of which percent is taken. -/
def divideByPercent
    (first second : Word) :
    List Button :=
  first.buttons ++ .operator .divide :: second.buttons ++ [.percent]

/-- If the second number is too large to be finite, these buttons leave a division by infinity. -/
theorem dividesByInfinity_divideByPercent
    {first second : Word}
    (finite : first.number.isFinite)
    (infinite : second.number.isInf) :
    (fresh.pushAll (divideByPercent first second)).DividesByInfinity := by
  have divided :=
    (passes_word_fresh first).append
      (.push ((Entered.word first).attempt_operator .divide)
        (passes_word_dangling _ _ _ _ second))
  have percent :
      attempt
          ⟨.operation (.typed first.text) .divide (.typed second.text), some .divide,
            some first.number, none⟩ .percent =
        done
          ⟨.operation (.typed first.text) .divide (.computed (second.number / 100)),
            some .divide, some first.number, none⟩ := by
    rw [attempt, handle, enterPercent_operand (Chain.operation_eq_push _ _ _),
      second.value_typed_text]
    rfl
  rw [divideByPercent, (divided.append (.single percent)).pushAll_eq]
  exact
    ⟨.typed first.text, first.number, _, rfl, first.value_typed_text, finite,
      Operator.isInf_hundredth infinite⟩

/--
After every run that leaves a computed number for its latest operand which is not finite, operators,
percent and equals show nothing but the error, in any number and order, if and only if they do not
carry out the division of a finite number by an infinity: there is no such division in the chain, or
there is nothing but percent among the buttons.
-/
theorem run_error_lasts_iff
    (actions : List Action)
    {value : Float}
    (latest : (fresh.actAll actions).chain.latestOperand? = some (.computed value))
    (nonFinite : value.isFinite = false)
    {buttons : List Button}
    (calculating : ∀ button ∈ buttons, button.calculates) :
    (∀ shown ∈ (fresh.actAll actions).record (buttons.map .push), shown.2 = .error) ↔
      ((fresh.actAll actions).DividesByInfinity → ∀ button ∈ buttons, button = .percent) := by
  have consistent : (fresh.actAll actions).Consistent := Consistent.invariant.actAll actions
  by_cases divides : (fresh.actAll actions).DividesByInfinity
  · rw [divides.record_eq_error_iff consistent calculating]
    exact ⟨fun percents _ => percents, fun percents => percents divides⟩
  · have lasting := consistent.lastingError latest nonFinite divides
    exact iff_of_true (lasting.record_eq_error calculating) (fun divided => absurd divided divides)

/-- A division by zero shows the error through an operator, a percent and two repetitions. -/
theorem run_error_lasts_after_division_by_zero :
    let before :=
      fresh.actAll
        [.push (.digit 5), .push (.operator .divide), .push (.digit 0), .push .equals]
    before.chain.latestOperand? = some (.computed (5 / 0)) ∧
      (5 / 0 : Float).isFinite = false ∧
      ∀ shown ∈ before.record ([.operator .multiply, .percent, .equals, .equals].map .push),
        shown.2 = .error := by
  intro before
  have latest : before.chain.latestOperand? = some (.computed (5 / 0)) := by
    decide +kernel
  have nonFinite : (5 / 0 : Float).isFinite = false := by
    decide +kernel
  refine ⟨latest, nonFinite, (run_error_lasts_iff _ latest nonFinite (by decide)).mpr ?_⟩
  rintro ⟨left, dividend, divisor, shape, -⟩
  have size : before.chain.size = 1 := by
    decide +kernel
  rw [shape] at size
  cases size

/-- Equals behind `1 / 9...9 %` with 309 nines ends the error with a zero. -/
theorem not_forall_error_lasts :
    ¬∀ (actions : List Action) (value : Float) (button : Button),
        (fresh.actAll actions).chain.latestOperand? = some (.computed value) →
          value.isFinite = false →
            button.calculates →
              ((fresh.actAll actions).push button).screen = .error := by
  intro lasts
  have divides :=
    @dividesByInfinity_divideByPercent ⟨[.digit 1], List.cons_ne_nil _ _⟩
      ⟨List.replicate 309 (.digit 9), List.cons_ne_nil _ _⟩ (by decide +kernel) (by decide +kernel)
  rw [← actAll_map_push] at divides
  obtain ⟨divisor, latest, nonFinite⟩ := divides.exists_latestOperand?_eq
  have ended :=
    @DividesByInfinity.screen_push_eq_zero _ divides (Consistent.invariant.actAll _) .equals rfl
      (by decide)
  rw [lasts _ divisor .equals latest nonFinite rfl] at ended
  cases ended

end Calculator

end ChainCalculator

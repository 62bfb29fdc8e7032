import ChainCalculator.Proofs.PendingOperation

namespace ChainCalculator

/-!
# What a failed button leaves behind

Operators, percent and equals calculate with the operand at the end of the chain, and a text that is
no number is the only thing that stops them.  Whatever else they read can be read.

A button that is stopped clears the chain and brings the error to the screen.  The number to repeat
is kept.  The operator to repeat is kept as well, except by an operator button, which remembers its
own operator before it reads anything.
-/

namespace Button

/-- The operator that a button enters. -/
def operator? :
    Button → Option Operator
  | .operator operation => some operation
  | _ => none

/-- Whether a button calculates with the operand at the end of the chain. -/
def calculates :
    Button → Bool
  | .operator _ => true
  | .percent => true
  | .equals => true
  | _ => false

end Button

/-- The fault of reading an operand. -/
def Operand.fault?
    (number : Operand) :
    Option Fault :=
  match number.value with
  | .ok _ => none
  | .error fault => some fault

/-- An operand that reads has no fault. -/
theorem Operand.fault?_of_value_eq_ok
    {number : Operand}
    {value : Float}
    (read : number.value = .ok value) :
    number.fault? = none := by
  rw [fault?, read]

/-- The fault of reading the operand at the end of a chain; an operator at the end hides it. -/
def Chain.latestFault?
    (chain : Chain) :
    Option Fault :=
  match chain.latest? with
  | some (.operand number) => number.fault?
  | _ => none

/-- The latest operand decides on the fault. -/
@[simp]
theorem Chain.latestFault?_push_operand
    (front : Chain)
    (number : Operand) :
    (front.push (.operand number)).latestFault? = number.fault? := by
  simp [latestFault?]

namespace Calculator

/-- An outcome has the given fault, and with a fault it leaves the given operation to repeat. -/
structure Outcome.Leaves
    (outcome : Outcome)
    (fault? : Option Fault)
    (operator? : Option Operator)
    (number? : Option Float) :
    Prop where
  fault : outcome.fault? = fault?
  operator : outcome.fault? ≠ none → outcome.calculator.pendingOperator? = operator?
  number : outcome.fault? ≠ none → outcome.calculator.pendingNumber? = number?

/-- Handling that ends well has no fault, so it promises nothing about what a fault leaves. -/
theorem leaves_done
    (calculator : Calculator)
    (operator? : Option Operator)
    (number? : Option Float) :
    (done calculator).Leaves none operator? number? where
  fault := rfl
  operator failed := (failed rfl).elim
  number failed := (failed rfl).elim

/-- Reading an operand fails with the calculator as it is at that time. -/
theorem leaves_whenRead
    {calculator : Calculator}
    {number : Operand}
    {next : Float → Outcome}
    (goesOn :
      ∀ value,
        number.value = .ok value →
          (next value).Leaves none calculator.pendingOperator? calculator.pendingNumber?) :
    (whenRead calculator number.value next).Leaves number.fault?
      calculator.pendingOperator? calculator.pendingNumber? := by
  cases read : number.value with
  | ok value =>
      rw [Operand.fault?_of_value_eq_ok read]
      exact goesOn value read
  | error fault =>
      rw [Operand.fault?, read]
      exact ⟨rfl, fun _ => rfl, fun _ => rfl⟩

namespace Consistent

variable {calculator : Calculator}

/-- An operator is remembered before the operand in front of it is read. -/
theorem leaves_enterOperator
    (consistent : calculator.Consistent)
    (next : Operator) :
    (calculator.enterOperator next).Leaves calculator.chain.latestFault?
      (some next) calculator.pendingNumber? := by
  cases consistent with
  | single number =>
      rw [enterOperator_single rfl]
      exact leaves_whenRead fun value read => leaves_done _ _ _
  | dangling operator leftRead =>
      rw [enterOperator_operator (Chain.dangling_eq_push _ operator)]
      exact leaves_done _ _ _
  | operation operator right leftRead =>
      rw [enterOperator_operation rfl, leftRead]
      exact leaves_whenRead fun value read => leaves_done _ _ _

/-- A percent sign fails on the latest operand only, and keeps the pending operation. -/
theorem leaves_enterPercent
    (consistent : calculator.Consistent) :
    calculator.enterPercent.Leaves calculator.chain.latestFault?
      calculator.pendingOperator? calculator.pendingNumber? := by
  cases consistent with
  | single number =>
      rw [enterPercent_operand (Chain.single_eq_push number)]
      exact leaves_whenRead fun value read => leaves_done _ _ _
  | dangling operator leftRead =>
      rw [enterPercent_dangling rfl, leftRead]
      exact leaves_done _ _ _
  | operation operator right leftRead =>
      rw [enterPercent_operand (Chain.operation_eq_push _ operator right)]
      exact leaves_whenRead fun value read => leaves_done _ _ _

/-- What equals writes before it reads an operand is what was remembered already. -/
theorem leaves_equals
    (consistent : calculator.Consistent) :
    calculator.equals.Leaves calculator.chain.latestFault?
      calculator.pendingOperator? calculator.pendingNumber? := by
  cases consistent with
  | single number operator? number? fault? =>
      have latest : latestValue ⟨.single number, operator?, number?, fault?⟩ = number.value :=
        rfl
      cases operator? with
      | none =>
          rw [equals_of_pendingOperator?_eq_none rfl, latest]
          exact leaves_whenRead fun value read => leaves_done _ _ _
      | some operator =>
          rw [equals_single rfl rfl]
          cases number? with
          | none =>
              rw [repeatedNumber, latest]
              refine leaves_whenRead fun value read => ?_
              rw [read]
              exact leaves_done _ _ _
          | some right =>
              exact leaves_whenRead fun value read => leaves_done _ _ _
  | dangling operator leftRead =>
      rw [equals_dangling rfl rfl, leftRead]
      exact leaves_done _ _ _
  | operation operator right leftRead =>
      rw [equals_operation rfl rfl, leftRead]
      exact leaves_whenRead fun value read => leaves_done _ _ _

/-! The other buttons read no operand and never fail. -/

/-- A digit never fails. -/
theorem leaves_enterDigit
    (consistent : calculator.Consistent)
    (digit : Fin 10) :
    (calculator.enterDigit digit).Leaves none
      calculator.pendingOperator? calculator.pendingNumber? := by
  cases consistent with
  | single number =>
      rw [enterDigit_operand (Chain.single_eq_push number)]
      exact leaves_done _ _ _
  | dangling operator leftRead =>
      rw [enterDigit_operator (Chain.dangling_eq_push _ operator) (by simp)]
      exact leaves_done _ _ _
  | operation operator right leftRead =>
      rw [enterDigit_operand (Chain.operation_eq_push _ operator right)]
      exact leaves_done _ _ _

/-- A point never fails. -/
theorem leaves_enterDot
    (consistent : calculator.Consistent) :
    calculator.enterDot.Leaves none
      calculator.pendingOperator? calculator.pendingNumber? := by
  cases consistent with
  | single number =>
      rw [enterDot_operand (Chain.single_eq_push number)]
      exact leaves_done _ _ _
  | dangling operator leftRead =>
      rw [enterDot_operator (Chain.dangling_eq_push _ operator)]
      exact leaves_done _ _ _
  | operation operator right leftRead =>
      rw [enterDot_operand (Chain.operation_eq_push _ operator right)]
      exact leaves_done _ _ _

/-- Clearing the entry never fails. -/
theorem leaves_clearEntry
    (consistent : calculator.Consistent) :
    calculator.clearEntry.Leaves none
      calculator.pendingOperator? calculator.pendingNumber? := by
  cases consistent with
  | single number =>
      rw [clearEntry_single rfl]
      exact leaves_done _ _ _
  | dangling operator leftRead =>
      rw [clearEntry_dangling rfl]
      exact leaves_done _ _ _
  | operation operator right leftRead =>
      rw [clearEntry_operation rfl]
      exact leaves_done _ _ _

/-- A button fails if it calculates with a latest operand that does not read. -/
theorem leaves_handle
    (consistent : calculator.Consistent)
    (button : Button) :
    (calculator.handle button).Leaves
      (if button.calculates then calculator.chain.latestFault? else none)
      (button.operator?.or calculator.pendingOperator?) calculator.pendingNumber? := by
  cases button with
  | digit value => exact consistent.leaves_enterDigit value
  | dot => exact consistent.leaves_enterDot
  | operator next => exact consistent.leaves_enterOperator next
  | percent => exact consistent.leaves_enterPercent
  | equals => exact consistent.leaves_equals
  | clearAll => exact leaves_done _ _ _
  | clearEntry => exact consistent.leaves_clearEntry

/-- What a fault of a button leaves of the operation to repeat, and when there is a fault. -/
theorem leaves_attempt
    (consistent : calculator.Consistent)
    (button : Button) :
    (calculator.attempt button).Leaves
      (if button.calculates then calculator.chain.latestFault? else none)
      (button.operator?.or calculator.pendingOperator?) calculator.pendingNumber? :=
  (consistent.withFault none).leaves_handle button

/-- A button that fails clears the chain and keeps the rest of what the outcome left. -/
theorem push_of_attempt_eq_some
    (consistent : calculator.Consistent)
    {button : Button}
    {fault : Fault}
    (failed : (calculator.attempt button).fault? = some fault) :
    calculator.push button =
      { (calculator.attempt button).calculator with
        chain := .zero
        fault? := some fault } := by
  have sound : (calculator.attempt button).Sound := consistent.attempt button
  rw [Calculator.push]
  generalize calculator.attempt button = outcome at failed sound ⊢
  cases sound with
  | done => cases failed
  | unreadable stoppedAt text =>
      cases failed
      rfl

end Consistent

/--
After every run, a button that fails leaves a lone zero in the chain, the error on the screen and
the number to repeat as it was.  The operator to repeat is as it was too, unless an operator button
fails: then it is the operator of that button.  So the operation to repeat survives exactly if no
operator button fails but one with the operator that is remembered anyway.
-/
theorem run_failed_button
    (actions : List Action)
    {button : Button}
    {fault : Fault}
    (failed : ((fresh.actAll actions).attempt button).fault? = some fault) :
    let before := fresh.actAll actions
    let after := before.push button
    after.chain = .zero ∧
      after.screen = .error ∧
      after.pendingNumber? = before.pendingNumber? ∧
      after.pendingOperator? = button.operator?.or before.pendingOperator? ∧
      (after.pendingOperator? = before.pendingOperator? ↔
        ∀ next, button = .operator next → before.pendingOperator? = some next) := by
  intro before after
  have consistent : before.Consistent := Consistent.invariant.actAll actions
  have leaves := consistent.leaves_attempt button
  have failing : (before.attempt button).fault? ≠ none := by
    rw [failed]
    exact Option.some_ne_none fault
  have afterShape : after = _ := consistent.push_of_attempt_eq_some failed
  have operatorLeft : after.pendingOperator? = button.operator?.or before.pendingOperator? := by
    rw [afterShape]
    exact leaves.operator failing
  refine ⟨?_, ?_, ?_, operatorLeft, ?_⟩
  · rw [afterShape]
  · rw [afterShape]
    rfl
  · rw [afterShape]
    exact leaves.number failing
  · rw [operatorLeft]
    cases button with
    | operator next => simp [Button.operator?, eq_comm]
    | _ => simp [Button.operator?]

/-- Equals on `4 +` and a digit of another script fails and keeps the addition of `4`. -/
theorem run_failed_button_equals :
    let before := fresh.actAll [.push (.digit 4), .push (.operator .add), .paste "٣"]
    (before.attempt .equals).fault? = some (.unreadableOperand "٣") ∧
      (before.push .equals).chain = .zero ∧
      (before.push .equals).screen = .error ∧
      (before.push .equals).pendingNumber? = some 4 ∧
      (before.push .equals).pendingOperator? = some .add := by
  intro before
  have failed : (before.attempt .equals).fault? = some (.unreadableOperand "٣") := by
    decide +kernel
  have numberBefore : before.pendingNumber? = some 4 := by
    decide +kernel
  have operatorBefore : before.pendingOperator? = some .add := by
    decide +kernel
  obtain ⟨cleared, shown, number, operator, -⟩ := run_failed_button _ failed
  exact ⟨failed, cleared, shown, number.trans numberBefore, operator.trans operatorBefore⟩

/-- An operator behind `inf.` fails and takes the place of the division that was remembered. -/
theorem not_forall_failed_button_keeps_operator :
    ¬∀ (actions : List Action) (button : Button),
        ((fresh.actAll actions).attempt button).fault? ≠ none →
          ((fresh.actAll actions).push button).pendingOperator? =
            (fresh.actAll actions).pendingOperator? := by
  intro kept
  have replaced :=
    kept
      [.push (.digit 5), .push (.operator .divide), .push (.digit 0), .push .equals, .push .dot]
      (.operator .add) (by decide +kernel)
  revert replaced
  decide +kernel

end Calculator

end ChainCalculator

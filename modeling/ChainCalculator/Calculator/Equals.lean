import ChainCalculator.Calculator.State

namespace ChainCalculator.Calculator

/-!
# The equals button

Equals completes the operation in the chain.  If the chain holds less than one operation, the
remembered operation is applied to its first operand, so that equals can be pressed again and again.
Without any operator it turns the operand into a number.
-/

/-- Put the result of the operation that the chain begins with in its place. -/
def showResult
    (calculator : Calculator) :
    Outcome :=
  whenRead calculator calculator.chain.frontResult fun result =>
    done { calculator with chain := Chain.ofValue result }

/-- Complete an operator at the end of the chain by the current number, then show the result. -/
def completeOperation
    (calculator : Calculator) :
    Outcome :=
  match calculator.chain.latest? with
  | some (.operator _) =>
      whenRead calculator calculator.latestValue fun value =>
        showResult { calculator with chain := calculator.chain.push (.operand (.computed value)) }
  | some (.operand _) =>
      showResult calculator
  | none =>
      stopped calculator .emptyChain

/-- Remember the right operand of the operation in the chain, then complete it. -/
def rememberOperand
    (calculator : Calculator) :
    Outcome :=
  match calculator.chain.rightOperand? with
  | some right =>
      whenRead calculator right.value fun value =>
        completeOperation { calculator with pendingNumber? := some value }
  | none =>
      completeOperation calculator

/-- The number that a repeated operation uses on its right. -/
def repeatedNumber
    (calculator : Calculator) :
    Except Fault Float :=
  match calculator.pendingNumber? with
  | some value => .ok value
  | none => calculator.latestValue

/-- Carry out the operation in the chain, or repeat the remembered one if the chain has none. -/
def carryOut
    (calculator : Calculator)
    (operator : Operator) :
    Outcome :=
  if calculator.chain.size < 3 then
    whenRead calculator calculator.repeatedNumber fun right =>
      whenRead calculator calculator.chain.leadingOperand fun left =>
        rememberOperand
          { calculator with chain := Chain.operation left operator (.computed right) }
  else
    rememberOperand calculator

/-- Handle the equals button. -/
def equals
    (calculator : Calculator) :
    Outcome :=
  match calculator.pendingOperator? with
  | none =>
      whenRead calculator calculator.latestValue fun value =>
        done { calculator with chain := Chain.ofValue value, pendingNumber? := some value }
  | some pending =>
      let operator := calculator.chain.latestOperator?.getD pending
      carryOut { calculator with pendingOperator? := some operator } operator

end ChainCalculator.Calculator

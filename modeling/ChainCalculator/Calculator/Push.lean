import ChainCalculator.Bindings
import ChainCalculator.Calculator.Entering
import ChainCalculator.Calculator.Equals
import ChainCalculator.PlainNumber
import ChainCalculator.Text.Blank

namespace ChainCalculator.Calculator

/-!
# Working a calculator

A calculator is worked by pushing buttons, by pressing keys that stand for buttons, and by pasting
text.  A button that cannot be handled leaves a fault behind, and the operation to repeat as it was
when the fault occurred.
-/

/-- Handle a button. -/
def handle
    (calculator : Calculator) :
    Button → Outcome
  | .digit value => calculator.enterDigit value
  | .dot => calculator.enterDot
  | .operator operator => calculator.enterOperator operator
  | .percent => calculator.enterPercent
  | .equals => calculator.equals
  | .clearAll => calculator.clearAll
  | .clearEntry => calculator.clearEntry

/-- What handling a button leaves behind if no fault was remembered before. -/
def attempt
    (calculator : Calculator)
    (button : Button) :
    Outcome :=
  { calculator with fault? := none }.handle button

/-- The calculator after an outcome, with its fault reported. -/
def Outcome.settle
    (outcome : Outcome) :
    Calculator :=
  match outcome.fault? with
  | none => outcome.calculator
  | some fault => outcome.calculator.report fault

/-- Push a button. -/
def push
    (calculator : Calculator)
    (button : Button) :
    Calculator :=
  (calculator.attempt button).settle

/-- Press a key. -/
def press
    (calculator : Calculator)
    (bindings : Bindings)
    (key : String) :
    Calculator :=
  match bindings.resolve? key with
  | some button => calculator.push button
  | none => calculator.report (.unknownKey key)

/-- Paste a text as the current operand.  A text that is not a plain number is ignored. -/
def paste
    (calculator : Calculator)
    (text : String) :
    Calculator :=
  let trimmed := String.ofList (Text.trim text.toList)
  if PlainNumber.accepts trimmed then
    let link : Link := .operand (.typed (PlainNumber.canonical trimmed))
    let chain :=
      if calculator.chain.endsWithOperator then
        calculator.chain.push link
      else
        calculator.chain.replaceLatest link
    { calculator with chain := chain, fault? := none }
  else
    calculator

/-- Push buttons one after the other. -/
def pushAll
    (calculator : Calculator)
    (buttons : List Button) :
    Calculator :=
  buttons.foldl push calculator

end ChainCalculator.Calculator

import ChainCalculator.Chain
import ChainCalculator.Screen

namespace ChainCalculator

/-!
# The state of a calculator

Besides its chain a calculator remembers the operation that the equals button would repeat, and a
fault until the next button is accepted.
-/

/-- A calculator between two buttons. -/
structure Calculator where
  chain : Chain
  /-- The operator that the equals button applies again. -/
  pendingOperator? : Option Operator
  /-- The right operand that the equals button applies again. -/
  pendingNumber? : Option Float
  /-- The fault that the screen reports. -/
  fault? : Option Fault
  deriving Repr, DecidableEq

namespace Calculator

/-- A calculator that was just switched on. -/
def fresh : Calculator :=
  ⟨Chain.zero, none, none, none⟩

/-- What the screen shows: an error while a fault is remembered, else the latest operand. -/
def screen
    (calculator : Calculator) :
    Screen :=
  match calculator.fault? with
  | some _ => .error
  | none =>
      match calculator.chain.latestOperand? with
      | some operand => Screen.ofOperand operand
      | none => Screen.zero

/-- The number of the latest operand, or else the remembered one. -/
def latestValue
    (calculator : Calculator) :
    Except Fault Float :=
  match calculator.chain.latestOperand? with
  | some operand => operand.value
  | none => .ok (calculator.pendingNumber?.getD 0)

/-- Report a fault.  An unknown key leaves the chain as it is, any other fault clears it. -/
def report
    (calculator : Calculator)
    (fault : Fault) :
    Calculator :=
  match fault with
  | .unknownKey _ => { calculator with fault? := some fault }
  | _ => { calculator with chain := Chain.zero, fault? := some fault }

/-- What handling a button leaves behind: a calculator, and the fault that ended it early. -/
structure Outcome where
  calculator : Calculator
  fault? : Option Fault
  deriving Repr, DecidableEq

/-- Handling a button ended well. -/
def done
    (calculator : Calculator) :
    Outcome :=
  ⟨calculator, none⟩

/-- Handling a button ended early. -/
def stopped
    (calculator : Calculator)
    (fault : Fault) :
    Outcome :=
  ⟨calculator, some fault⟩

/-- Go on with what was read, or stop with the calculator as it is by now. -/
def whenRead
    (calculator : Calculator)
    (reading : Except Fault α)
    (next : α → Outcome) :
    Outcome :=
  match reading with
  | .ok found => next found
  | .error fault => stopped calculator fault

end Calculator

end ChainCalculator

import ChainCalculator.Button
import ChainCalculator.Calculator.State

namespace ChainCalculator.Calculator

/-!
# Entering operands and operators

Digits and the point extend the operand that is being typed; after an operator they begin a new
one.  An operator ends the operand before it, or replaces an operator that was just entered.  A
chain that grows beyond one complete operation is settled at once.
-/

/-- Append a link and settle the chain; the latest result becomes the number to repeat. -/
def append
    (calculator : Calculator)
    (link : Link) :
    Outcome :=
  let settled := (calculator.chain.push link).settle
  ⟨{ calculator with
      chain := settled.chain
      pendingNumber? := settled.total?.or calculator.pendingNumber? },
    settled.fault?⟩

/-- Replace the latest link by typed text. -/
def retype
    (calculator : Calculator)
    (text : String) :
    Calculator :=
  { calculator with chain := calculator.chain.replaceLatest (.operand (.typed text)) }

/-- Enter a digit.  It replaces a lone zero and a computed number, and extends any other operand. -/
def enterDigit
    (calculator : Calculator)
    (digit : Fin 10) :
    Outcome :=
  let single := String.singleton (Button.digitChar digit)
  match calculator.chain.latest? with
  | some (.operand (.typed text)) =>
      done (calculator.retype (if text = "0" then single else text ++ single))
  | some (.operand (.computed _)) =>
      done (calculator.retype single)
  | some (.operator _) =>
      calculator.append (.operand (.typed single))
  | none =>
      stopped calculator .emptyChain

/-- Enter a point.  An operand takes only one; after an operator the point follows a zero. -/
def enterDot
    (calculator : Calculator) :
    Outcome :=
  match calculator.chain.latest? with
  | some (.operand operand) =>
      if operand.hasPoint then
        done calculator
      else
        done (calculator.retype (operand.text ++ "."))
  | some (.operator _) =>
      done { calculator with chain := calculator.chain.push (.operand (.typed "0.")) }
  | none =>
      stopped calculator .emptyChain

/-- Enter an operator.  Of several in a row the last one counts. -/
def enterOperator
    (calculator : Calculator)
    (operator : Operator) :
    Outcome :=
  let chosen := { calculator with pendingOperator? := some operator }
  match calculator.chain.latest? with
  | some (.operand operand) =>
      whenRead chosen operand.value fun value =>
        append { chosen with pendingNumber? := some value } (.operator operator)
  | some (.operator _) =>
      done { chosen with chain := chosen.chain.replaceLatest (.operator operator) }
  | none =>
      stopped calculator .emptyChain

/-- Turn the latest operand into a hundredth of it, after dropping an operator behind it. -/
def enterPercent
    (calculator : Calculator) :
    Outcome :=
  let bare := { calculator with chain := calculator.chain.dropOperator }
  match bare.chain.latest? with
  | some (.operand operand) =>
      whenRead bare operand.value fun value =>
        done { bare with chain := bare.chain.replaceLatest (.operand (.computed (value / 100))) }
  | some (.operator _) =>
      done bare
  | none =>
      stopped bare .emptyChain

/-- Take back the latest link.  Taking back an operator also forgets it. -/
def clearEntry
    (calculator : Calculator) :
    Outcome :=
  let shortened :=
    { calculator with chain := calculator.chain.dropLatest (calculator.pendingNumber?.getD 0) }
  match calculator.chain.latest? with
  | some (.operand _) => done shortened
  | some (.operator _) => done { shortened with pendingOperator? := none }
  | none => stopped calculator .emptyChain

/-- Forget the chain and the operation to repeat. -/
def clearAll
    (calculator : Calculator) :
    Outcome :=
  done
    { calculator with
      chain := Chain.zero
      pendingOperator? := none
      pendingNumber? := none }

end ChainCalculator.Calculator

import ChainCalculator.Fault
import ChainCalculator.Number.Numeral
import ChainCalculator.Operator
import ChainCalculator.Number.Figure

namespace ChainCalculator

/-!
# Operands and links

An operand is kept as it was typed, so that `23.` and `0.50` stay on the screen, until an operation
computes a number in its place.
-/

/-- A number in a chain. -/
inductive Operand where
  /-- The characters that were typed or pasted. -/
  | typed (text : String)
  /-- The result of an operation. -/
  | computed (value : Float)
  deriving Repr, DecidableEq

namespace Operand

/-- The number that an operand stands for; an empty text stands for zero. -/
def value :
    Operand → Except Fault Float
  | .computed value => .ok value
  | .typed text =>
      if text = "" then
        .ok 0
      else
        match readFloat? text with
        | some value => .ok value
        | none => .error (.unreadableOperand text)

/-- An operand in writing. -/
def text :
    Operand → String
  | .typed text => text
  | .computed value => Figure.write value

/-- Whether an operand in writing has a decimal point. -/
def hasPoint
    (operand : Operand) :
    Bool :=
  operand.text.toList.contains '.'

end Operand

/-- One place of a chain. -/
inductive Link where
  | operand (number : Operand)
  | operator (operation : Operator)
  deriving Repr, DecidableEq

namespace Link

/-- Whether a place holds an operator. -/
def holdsOperator :
    Link → Bool
  | .operand _ => false
  | .operator _ => true

/-- The operand in a place. -/
def operand? :
    Link → Option Operand
  | .operand number => some number
  | .operator _ => none

/-- The operator in a place. -/
def operator? :
    Link → Option Operator
  | .operand _ => none
  | .operator operation => some operation

/-- A place in writing. -/
def text :
    Link → String
  | .operand number => number.text
  | .operator operation => String.singleton operation.symbol

end Link

end ChainCalculator

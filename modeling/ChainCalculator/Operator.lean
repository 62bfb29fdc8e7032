namespace ChainCalculator

/-!
# Operators

The four operations of a pocket calculator.  They work on binary64 numbers, so a division by zero
has an infinity or the undefined number for its result and never stops.
-/

/-- An operation on two numbers. -/
inductive Operator where
  | add
  | subtract
  | multiply
  | divide
  deriving Repr, DecidableEq

namespace Operator

/-- The operator that a character stands for. -/
def ofSymbol? :
    Char → Option Operator
  | '+' => some .add
  | '-' => some .subtract
  | '*' => some .multiply
  | '/' => some .divide
  | _ => none

/-- The character that stands for an operator. -/
def symbol :
    Operator → Char
  | .add => '+'
  | .subtract => '-'
  | .multiply => '*'
  | .divide => '/'

/-- The result of an operation, rounded to the nearest binary64 number. -/
def apply :
    Operator → Float → Float → Float
  | .add, left, right => left + right
  | .subtract, left, right => left - right
  | .multiply, left, right => left * right
  | .divide, left, right => left / right

/-- Every operator is read back from its own symbol. -/
@[simp]
theorem ofSymbol?_symbol
    (operator : Operator) :
    ofSymbol? operator.symbol = some operator := by
  cases operator <;> rfl

end Operator

end ChainCalculator

namespace ChainCalculator

/-!
# Faults

What can stop the calculator while it handles a button.  The last two faults guard steps that rely
on the shape of a chain: a chain is never empty and begins with an operand.
-/

/-- A cause for which a button cannot be handled. -/
inductive Fault where
  /-- The chain does not begin with an operand, an operator and an operand. -/
  | irreducible (chain : String)
  /-- The text of an operand is not a number. -/
  | unreadableOperand (text : String)
  /-- No button is bound to a key. -/
  | unknownKey (key : String)
  /-- The chain begins with an operator. -/
  | leadingOperator
  /-- The chain holds nothing. -/
  | emptyChain
  deriving Repr, DecidableEq

namespace Fault

/-- The wording of a fault. -/
def message :
    Fault → String
  | .irreducible chain => "cannot reduce buffer: " ++ chain
  | .unreadableOperand text => "invalid operand '" ++ text ++ "'"
  | .unknownKey key => "unrecognized key '" ++ key ++ "'"
  | .leadingOperator =>
      "internal error: entered unreachable code: buffer always starts with an operand"
  | .emptyChain => "internal error: the buffer is empty"

end Fault

end ChainCalculator

import ChainCalculator.Operand

namespace ChainCalculator

/-!
# The screen

The screen shows a number, as it was typed or as the figure of a result, or the word for an error.
-/

/-- What the screen shows. -/
inductive Screen where
  | number (text : String)
  | error
  deriving Repr, DecidableEq

namespace Screen

/-- The word that stands on the screen instead of a number. -/
def errorWord : String :=
  "Error"

/-- The screen of a calculator that was just switched on. -/
def zero : Screen :=
  .number "0"

/-- The screen for a computed number; only finite numbers have a figure. -/
def ofValue
    (value : Float) :
    Screen :=
  if value.isFinite then
    .number (Figure.write value)
  else
    .error

/-- The screen for an operand that is being typed. -/
def ofText
    (text : String) :
    Screen :=
  if text = "" then
    zero
  else
    .number text

/-- The screen for an operand. -/
def ofOperand :
    Operand → Screen
  | .typed text => ofText text
  | .computed value => ofValue value

/-- Whether the screen shows an error. -/
def showsError :
    Screen → Bool
  | .number _ => false
  | .error => true

/-- The characters on the screen. -/
def text :
    Screen → String
  | .number text => text
  | .error => errorWord

end Screen

end ChainCalculator

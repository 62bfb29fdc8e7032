import ChainCalculator.Calculator.State
import ChainCalculator.Json.Number
import ChainCalculator.Json.Text

namespace ChainCalculator

/-!
# The state in one line

The state of a calculator can be written as one line of JSON.  Typed operands, operators and the
screen are strings, computed numbers are numbers, and what is absent is `null`.
-/

namespace StateLine

/-- An operand in the line. -/
def operand :
    Operand → String
  | .typed text => Json.string text
  | .computed value => Json.number value

/-- An operator in the line. -/
def operator
    (operation : Operator) :
    String :=
  Json.string (String.singleton operation.symbol)

/-- A link in the line. -/
def link :
    Link → String
  | .operand number => operand number
  | .operator operation => operator operation

/-- Something that may be absent. -/
def optional
    (write : α → String) :
    Option α → String
  | some present => write present
  | none => "null"

/-- A chain in the line. -/
def chain
    (chain : Chain) :
    String :=
  "[" ++ String.intercalate "," (chain.links.map link) ++ "]"

end StateLine

/-- The state of a calculator as one line of JSON. -/
def Calculator.stateLine
    (calculator : Calculator) :
    String :=
  "\x7b\"buffer\":" ++ StateLine.chain calculator.chain ++
    ",\"last_operator\":" ++ StateLine.optional StateLine.operator calculator.pendingOperator? ++
    ",\"last_number\":" ++ StateLine.optional Json.number calculator.pendingNumber? ++
    ",\"display\":" ++ Json.string calculator.screen.text ++ "\x7d"

end ChainCalculator

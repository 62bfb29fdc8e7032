import ChainCalculator.CommandLine.Invocation
import ChainCalculator.Console
import ChainCalculator.StateLine

namespace ChainCalculator.CommandLine

/-!
# What a line prints

After each line the program prints the screen, or the whole state instead.  A trace shows every key
with the screen after it, and then the last screen only within the state.
-/

/-- A text moved to the right end of a column. -/
def alignRight
    (width : Nat)
    (text : String) :
    String :=
  String.ofList (List.replicate (width - text.toList.length) ' ') ++ text

/-- The width of the column of keys. -/
def keyWidth : Nat :=
  12

/-- The line of a trace for one key. -/
def traceLine
    (step : Keystroke) :
    String :=
  alignRight keyWidth step.key ++ "  " ++ step.screen.text ++ "\n"

/-- What is printed after the steps of a line. -/
def report
    (options : Options)
    (console : Console)
    (steps : List Keystroke) :
    String :=
  let trace := if options.trace then String.join (steps.map traceLine) else ""
  let state :=
    if options.json then
      console.calculator.stateLine ++ "\n"
    else if options.trace then
      ""
    else
      console.calculator.screen.text ++ "\n"
  trace ++ state

end ChainCalculator.CommandLine

import ChainCalculator.Calculator.Push

namespace ChainCalculator

/-!
# The console

A console works one calculator line by line.  A line is a command if one of four words stands alone
on it, else a sequence of keys, where blanks separate keys of more than one character.  Two of the
commands need a clipboard, which stands beside the console.
-/

/-- What a line asks for. -/
inductive Request where
  | keys (names : List String)
  | copy
  | paste
  | quit
  deriving Repr, DecidableEq

namespace Request

/-- The keys of a line without commands. -/
def keysOfLine
    (bindings : Bindings)
    (line : List Char) :
    List String :=
  (Text.words line).flatMap fun word => bindings.keysOfWord (String.ofList word)

/-- Read a line: a word for a command if it stands alone, else keys. -/
def read
    (bindings : Bindings)
    (line : String) :
    Request :=
  let trimmed := Text.trim line.toList
  match String.ofList trimmed with
  | "copy" => .copy
  | "paste" => .paste
  | "quit" => .quit
  | "exit" => .quit
  | _ => .keys (keysOfLine bindings trimmed)

end Request

/-- A key that was pressed, and the screen after it. -/
structure Keystroke where
  key : String
  screen : Screen
  deriving Repr, DecidableEq

/-- A calculator and the bindings of its keys. -/
structure Console where
  bindings : Bindings
  calculator : Calculator
  deriving Repr, DecidableEq

namespace Console

/-- A console with a calculator that was just switched on. -/
def start
    (bindings : Bindings) :
    Console :=
  ⟨bindings, Calculator.fresh⟩

/-- Press one key. -/
def press
    (console : Console)
    (key : String) :
    Console :=
  { console with calculator := console.calculator.press console.bindings key }

/-- Press keys one after the other. -/
def pressAll
    (console : Console)
    (keys : List String) :
    Console :=
  keys.foldl press console

/-- The screens after each of several keys, pressed one after the other. -/
def keystrokes
    (console : Console) :
    List String → List Keystroke
  | [] => []
  | key :: rest =>
      let pressed := console.press key
      ⟨key, pressed.calculator.screen⟩ :: pressed.keystrokes rest

/-- Paste a text as the current operand. -/
def paste
    (console : Console)
    (text : String) :
    Console :=
  { console with calculator := console.calculator.paste text }

/-- Keys leave the bindings as they were. -/
@[simp]
theorem bindings_pressAll
    (console : Console)
    (keys : List String) :
    (console.pressAll keys).bindings = console.bindings := by
  induction keys generalizing console with
  | nil => rfl
  | cons key rest inductionHypothesis => exact inductionHypothesis (console.press key)

/-- Pressing keys in two groups is pressing them all. -/
theorem pressAll_append
    (console : Console)
    (earlier later : List String) :
    console.pressAll (earlier ++ later) = (console.pressAll earlier).pressAll later := by
  simp [pressAll, List.foldl_append]

/-- The screens of two groups of keys are those of the first, then those of the second. -/
theorem keystrokes_append
    (console : Console)
    (earlier later : List String) :
    console.keystrokes (earlier ++ later) =
      console.keystrokes earlier ++ (console.pressAll earlier).keystrokes later := by
  induction earlier generalizing console with
  | nil =>
      rfl
  | cons key rest inductionHypothesis =>
      simp only [List.cons_append, keystrokes, inductionHypothesis, pressAll, List.foldl_cons]

end Console

end ChainCalculator

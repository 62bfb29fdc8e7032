import ChainCalculator.Console

namespace ChainCalculator

/-!
# A console and a clipboard

The clipboard is not part of the program.  Other programs use it too, and it can be out of reach.
So what it answers is left open: it depends on a state of its own, of which a console only knows
that it can be asked for a text and given one.
-/

/-- A clipboard, by the states that its answers depend on. -/
class Clipboard (σ : Type) where
  /-- Ask for the text.  There may be none, or no access to it. -/
  read : σ → Option String × σ
  /-- Offer a text.  Whether it was taken shows in later answers only. -/
  write : String → σ → σ

/-- A clipboard that is out of reach. -/
inductive NoClipboard where
  | unreachable
  deriving Repr, DecidableEq

instance : Clipboard NoClipboard where
  read clipboard := (none, clipboard)
  write _ clipboard := clipboard

/-- A clipboard that nobody else uses. -/
structure OwnClipboard where
  text? : Option String
  deriving Repr, DecidableEq

instance : Clipboard OwnClipboard where
  read clipboard := (clipboard.text?, clipboard)
  write text _ := ⟨some text⟩

/-- A console, and the clipboard that stands beside it. -/
structure Desk (σ : Type) where
  console : Console
  /-- Whether every result is copied. -/
  copiesResults : Bool
  clipboard : σ

namespace Desk

variable {σ : Type} [Clipboard σ]

/-- Copy what the screen shows. -/
def copy
    (desk : Desk σ) :
    Desk σ :=
  { desk with
    clipboard := Clipboard.write desk.console.calculator.screen.text desk.clipboard }

/-- Paste the text of the clipboard, if there is one. -/
def paste
    (desk : Desk σ) :
    Desk σ :=
  match Clipboard.read desk.clipboard with
  | (some text, clipboard) =>
      { desk with console := desk.console.paste text, clipboard := clipboard }
  | (none, clipboard) => { desk with clipboard := clipboard }

/-- Press one key, and copy the result that it leads to if results are copied. -/
def press
    (desk : Desk σ)
    (key : String) :
    Desk σ :=
  let pressed := { desk with console := desk.console.press key }
  if desk.copiesResults ∧ desk.console.bindings.resolve? key = some .equals then
    pressed.copy
  else
    pressed

/-- Press keys one after the other. -/
def pressAll
    (desk : Desk σ)
    (keys : List String) :
    Desk σ :=
  keys.foldl press desk

/-- Enter one line: the desk after it and the keystrokes, unless the line ends the dialogue. -/
def enter?
    (desk : Desk σ)
    (line : String) :
    Option (Desk σ × List Keystroke) :=
  match Request.read desk.console.bindings line with
  | .keys names => some (desk.pressAll names, desk.console.keystrokes names)
  | .copy => some (desk.copy, [])
  | .paste => some (desk.paste, [])
  | .quit => none

/-- Copying results does not change how keys work. -/
@[simp]
theorem console_press
    (desk : Desk σ)
    (key : String) :
    (desk.press key).console = desk.console.press key := by
  rw [press]
  split <;> rfl

/-- At a desk the keys reach the console in order, whatever else the desk does with them. -/
@[simp]
theorem console_pressAll
    (desk : Desk σ)
    (keys : List String) :
    (desk.pressAll keys).console = desk.console.pressAll keys := by
  induction keys generalizing desk with
  | nil =>
      rfl
  | cons key rest inductionHypothesis =>
      rw [pressAll, List.foldl_cons, ← pressAll, inductionHypothesis, console_press]
      rfl

end Desk

/-- Enter one line while the clipboard is out of reach. -/
def Console.enter?
    (console : Console)
    (line : String) :
    Option (Console × List Keystroke) :=
  ((⟨console, false, .unreachable⟩ : Desk NoClipboard).enter? line).map fun (desk, steps) =>
    (desk.console, steps)

end ChainCalculator

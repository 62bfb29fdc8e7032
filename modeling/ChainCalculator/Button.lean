import ChainCalculator.Operator

namespace ChainCalculator

/-!
# Buttons

The calculator is worked by buttons.  Most of them are pressed by typing one character; the two
clearing buttons have a name only.  An action is the name under which a button can be bound to a
key: a word, or the one character that presses the button.
-/

/-- One button of the calculator. -/
inductive Button where
  | digit (value : Fin 10)
  | dot
  | operator (operation : Operator)
  | percent
  | equals
  /-- Forget everything. -/
  | clearAll
  /-- Forget the last entry only. -/
  | clearEntry
  deriving Repr, DecidableEq

namespace Button

/-- The character of a decimal digit. -/
def digitChar
    (value : Fin 10) :
    Char :=
  Char.ofNat ('0'.toNat + value)

/-- A digit is written as it is anywhere else. -/
theorem digitChar_eq
    (value : Fin 10) :
    digitChar value = Nat.digitChar value := by
  revert value
  decide

/-- A digit is written with one of the characters `0` to `9`. -/
theorem isDigit_digitChar
    (value : Fin 10) :
    (digitChar value).isDigit := by
  revert value
  decide

/-- The button that a character presses. -/
def ofChar?
    (character : Char) :
    Option Button :=
  if character.isDigit then
    some (.digit (Fin.ofNat 10 (character.toNat - '0'.toNat)))
  else
    match character with
    | '.' => some .dot
    | '%' => some .percent
    | '=' => some .equals
    | _ => (Operator.ofSymbol? character).map .operator

/-- The button that a text of one character presses. -/
def ofSingle? :
    List Char → Option Button
  | [character] => ofChar? character
  | _ => none

/-- What is printed on a button. -/
def label :
    Button → String
  | .digit value => String.singleton (digitChar value)
  | .dot => "."
  | .operator operation => String.singleton operation.symbol
  | .percent => "%"
  | .equals => "="
  | .clearAll => "AC"
  | .clearEntry => "CE"

/-- The buttons that have an action word, with that word. -/
def actionWords :
    List (String × Button) :=
  [("clear-all", .clearAll),
   ("clear-entry", .clearEntry),
   ("equals", .equals),
   ("percent", .percent),
   ("dot", .dot),
   ("add", .operator .add),
   ("subtract", .operator .subtract),
   ("multiply", .operator .multiply),
   ("divide", .operator .divide)]

/-- The button that an action names: by its word, or by the one character that presses it. -/
def ofAction?
    (action : String) :
    Option Button :=
  (actionWords.lookup action).or (ofSingle? action.toList)

end Button

end ChainCalculator

import ChainCalculator.Button
import ChainCalculator.Text.LetterCase

namespace ChainCalculator

/-!
# Key bindings

A key is a name: what a keyboard prints on it, a word for a button, or one character.  Bindings give
buttons to names without regard to letter case.  A name without a binding still stands for the
button that its single character presses.

Further bindings come from a table, which has no order of its own.  Every run of the program takes
its entries in an order that it chooses anew.
-/

/-- A binding that cannot be made because its action names no button. -/
structure UnknownAction where
  key : String
  action : String
  deriving Repr, DecidableEq

/-- The wording for a binding that cannot be made. -/
def UnknownAction.message
    (unknown : UnknownAction) :
    String :=
  "unknown action '" ++ unknown.action ++ "' bound to key '" ++ unknown.key ++ "'"

/-- The order in which a run takes the entries of a table. -/
structure TableOrder where
  /-- The entries of a table that is given as it was written. -/
  arrange : List (String × String) → List (String × String)
  reorders : ∀ table : List (String × String), table.Perm (arrange table)

/-- The entries are taken as they were written. -/
def TableOrder.asWritten : TableOrder :=
  ⟨id, fun _ => .refl _⟩

/-- Names in small letters with their buttons, the newest binding first. -/
structure Bindings where
  buttons : List (String × Button)
  deriving Repr, DecidableEq

namespace Bindings

/-- The bindings of a calculator without settings. -/
def standard : Bindings :=
  ⟨[("escape", .clearAll),
    ("backspace", .clearEntry),
    ("enter", .equals),
    (",", .dot),
    ("ac", .clearAll),
    ("ce", .clearEntry),
    ("add", .operator .add),
    ("subtract", .operator .subtract),
    ("multiply", .operator .multiply),
    ("divide", .operator .divide),
    ("percent", .percent),
    ("equals", .equals),
    ("dot", .dot)]⟩

/-- The button bound to a name, whatever its letter case. -/
def bound?
    (bindings : Bindings)
    (key : String) :
    Option Button :=
  bindings.buttons.lookup (Text.lowercase key)

/-- Bind a key to the button of an action. -/
def bind
    (bindings : Bindings)
    (key action : String) :
    Except UnknownAction Bindings :=
  match Button.ofAction? action with
  | some button => .ok ⟨(Text.lowercase key, button) :: bindings.buttons⟩
  | none => .error ⟨key, action⟩

/-- Bind several keys, one after the other. -/
def bindAll
    (bindings : Bindings) :
    List (String × String) → Except UnknownAction Bindings
  | [] => .ok bindings
  | (key, action) :: rest =>
      match bindings.bind key action with
      | .ok extended => extended.bindAll rest
      | .error unknown => .error unknown

/-- The standard bindings with further ones, given as keys with their actions. -/
def standardWith
    (overrides : List (String × String)) :
    Except UnknownAction Bindings :=
  standard.bindAll overrides

/-- The button of a key: the one bound to it, or the one that its single character presses. -/
def resolve?
    (bindings : Bindings)
    (key : String) :
    Option Button :=
  (bindings.bound? key).or (Button.ofSingle? key.toList)

/-- The keys of a word: the word itself if it is bound, else each of its characters. -/
def keysOfWord
    (bindings : Bindings)
    (word : String) :
    List String :=
  if (bindings.bound? word).isSome then
    [word]
  else
    word.toList.map String.singleton

end Bindings

end ChainCalculator

namespace ChainCalculator.Json

/-!
# Strings in a JSON text

A string stands between quotation marks.  The quotation mark, the backslash and the control
characters are escaped, five of the latter by a letter and the others by their code; all other
characters stand for themselves.
-/

/-- A hexadecimal digit. -/
def hexDigit
    (value : Nat) :
    Char :=
  "0123456789abcdef".toList.getD value '0'

/-- A character within a string. -/
def escape
    (character : Char) :
    List Char :=
  match character with
  | '"' => ['\\', '"']
  | '\\' => ['\\', '\\']
  | '\x08' => ['\\', 'b']
  | '\x0c' => ['\\', 'f']
  | '\n' => ['\\', 'n']
  | '\r' => ['\\', 'r']
  | '\t' => ['\\', 't']
  | _ =>
      let code := character.toNat
      if code < 0x20 then
        ['\\', 'u', '0', '0', hexDigit (code / 16), hexDigit (code % 16)]
      else
        [character]

/-- A string as JSON writes it. -/
def string
    (text : String) :
    String :=
  String.ofList ('"' :: (text.toList.flatMap escape ++ ['"']))

end ChainCalculator.Json

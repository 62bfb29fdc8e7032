import ChainCalculator.Toml.Blank

namespace ChainCalculator.Toml

/-!
# Quoted strings in a TOML text

A basic string stands between quotation marks and knows escapes; a literal string stands between
apostrophes and stands for itself.  Either may be written on several lines between threefold marks.
The first line end of such a string does not count, and up to two marks may stand before the
closing ones.
-/

/-- The value of a hexadecimal digit. -/
def hexValue?
    (character : Char) :
    Option Nat :=
  if character.isDigit then
    some (character.toNat - '0'.toNat)
  else if 'a' ≤ character ∧ character ≤ 'f' then
    some (character.toNat - 'a'.toNat + 10)
  else if 'A' ≤ character ∧ character ≤ 'F' then
    some (character.toNat - 'A'.toNat + 10)
  else
    none

/-- The character whose code is written with a fixed number of hexadecimal digits. -/
def codedCharacter?
    (length : Nat)
    (text : List Char) :
    Option Char :=
  let digits := text.take length
  if digits.length = length then
    match digits.mapM hexValue? with
    | some values =>
        let code := values.foldl (fun code value => 16 * code + value) 0
        if valid : code.isValidChar then
          some (Char.ofNatAux code valid)
        else
          none
    | none => none
  else
    none

/-- The character that an escape stands for, and how many characters behind the backslash name it. -/
def escaped? :
    List Char → Option (Char × Nat)
  | 'b' :: _ => some ('\x08', 1)
  | 't' :: _ => some ('\t', 1)
  | 'n' :: _ => some ('\n', 1)
  | 'f' :: _ => some ('\x0c', 1)
  | 'r' :: _ => some ('\r', 1)
  | 'e' :: _ => some ('\x1b', 1)
  | '"' :: _ => some ('"', 1)
  | '\\' :: _ => some ('\\', 1)
  | 'x' :: rest => (codedCharacter? 2 rest).map fun character => (character, 3)
  | 'u' :: rest => (codedCharacter? 4 rest).map fun character => (character, 5)
  | 'U' :: rest => (codedCharacter? 8 rest).map fun character => (character, 9)
  | _ => none

/-- Put a character in front of what was read. -/
def consRead
    (character : Char) :
    Option (List Char × List Char) → Option (List Char × List Char)
  | some (text, rest) => some (character :: text, rest)
  | none => none

/-- Read a basic string behind its opening mark. -/
def readBasic :
    Reader (List Char)
  | [] => none
  | '"' :: rest => some ([], rest)
  | '\\' :: rest =>
      match escaped? rest with
      | some (character, used) => consRead character (readBasic (rest.drop used))
      | none => none
  | character :: rest =>
      if isControl character then none else consRead character (readBasic rest)
termination_by text => text.length
decreasing_by
  all_goals simp only [List.length_cons, List.length_drop]
  all_goals omega

/-- Read a literal string behind its opening mark. -/
def readLiteral :
    Reader (List Char)
  | [] => none
  | '\x27' :: rest => some ([], rest)
  | character :: rest =>
      if isControl character then none else consRead character (readLiteral rest)

/-- The marks that stand before the three closing ones, if the text starts with three marks. -/
def closing?
    (mark : Char)
    (text : List Char) :
    Option (List Char × List Char) :=
  let marks := (text.takeWhile (· == mark)).take 5
  if 3 ≤ marks.length then
    some (marks.drop 3, text.drop marks.length)
  else
    none

/-- A text without the space and the line ends at its start. -/
def skipLines :
    List Char → List Char
  | [] => []
  | '\n' :: rest => skipLines rest
  | '\r' :: rest =>
      match rest with
      | '\n' :: _ => skipLines rest
      | _ => '\r' :: rest
  | character :: rest =>
      if isSpace character then skipLines rest else character :: rest

/-- Skipping lines leaves no more than there was. -/
theorem length_skipLines_le
    (text : List Char) :
    (skipLines text).length ≤ text.length := by
  fun_induction skipLines text <;> grind

/-- The text after a line that ends with a backslash, if only space follows the backslash. -/
def continued?
    (text : List Char) :
    Option (List Char) :=
  (skipLineEnd? (skipSpaces text)).map fun _ => skipLines text

/-- Read the lines of a basic string. -/
def readBasicLines
    (text : List Char) :
    Option (List Char × List Char) :=
  match closing? '"' text with
  | some closed => some closed
  | none =>
      match text with
      | [] => none
      | '\\' :: rest =>
          match continued? rest with
          | some _ => readBasicLines (skipLines rest)
          | none =>
              match escaped? rest with
              | some (character, used) => consRead character (readBasicLines (rest.drop used))
              | none => none
      | character :: rest =>
          if character = '\n' ∨ character = '\r' ∧ rest.head? = some '\n' then
            consRead character (readBasicLines rest)
          else if isControl character then
            none
          else
            consRead character (readBasicLines rest)
termination_by text.length
decreasing_by
  all_goals simp only [List.length_cons, List.length_drop]
  · have := length_skipLines_le rest
    omega
  all_goals omega

/-- Read the lines of a literal string. -/
def readLiteralLines
    (text : List Char) :
    Option (List Char × List Char) :=
  match closing? '\x27' text with
  | some closed => some closed
  | none =>
      match text with
      | [] => none
      | character :: rest =>
          if character = '\n' ∨ character = '\r' ∧ rest.head? = some '\n' then
            consRead character (readLiteralLines rest)
          else if isControl character then
            none
          else
            consRead character (readLiteralLines rest)

/-- A text without the line end at its start. -/
def dropLineEnd
    (text : List Char) :
    List Char :=
  (skipLineEnd? text).getD text

/-- Read a string on one line, with its opening mark. -/
def readQuotedLine :
    Reader (List Char)
  | '"' :: rest => readBasic rest
  | '\x27' :: rest => readLiteral rest
  | _ => none

/-- Read a string, with its opening marks. -/
def readQuoted
    (text : List Char) :
    Option (List Char × List Char) :=
  match text with
  | '"' :: '"' :: '"' :: rest => readBasicLines (dropLineEnd rest)
  | '\x27' :: '\x27' :: '\x27' :: rest => readLiteralLines (dropLineEnd rest)
  | _ => readQuotedLine text

end ChainCalculator.Toml

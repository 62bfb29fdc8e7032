namespace ChainCalculator.Toml

/-!
# Space and comments in a TOML text

Spaces and tabs separate the parts of a line.  A line ends with a line feed that may follow a
carriage return; a carriage return elsewhere is an error.  A comment runs to the end of its line.
-/

/-- A reader takes something from the start of a text and leaves the rest. -/
abbrev Reader (α : Type) :=
  List Char → Option (α × List Char)

/-- Whether a character is a control character other than the tab. -/
def isControl
    (character : Char) :
    Bool :=
  character != '\t' && (character.toNat < 0x20 || character.toNat == 0x7F)

/-- Whether a character is a space or a tab. -/
def isSpace
    (character : Char) :
    Bool :=
  character == ' ' || character == '\t'

/-- A text without the spaces and tabs at its start. -/
def skipSpaces
    (text : List Char) :
    List Char :=
  text.dropWhile isSpace

/-- A text without the line end at its start, if it starts with one. -/
def skipLineEnd? :
    List Char → Option (List Char)
  | '\n' :: rest => some rest
  | '\r' :: '\n' :: rest => some rest
  | _ => none

/-- A text without the space, the line ends and the comments at its start. -/
def skipBlank
    (inComment : Bool) :
    List Char → Option (List Char)
  | [] => some []
  | '\n' :: rest => skipBlank false rest
  | '\r' :: rest =>
      match rest with
      | '\n' :: _ => skipBlank false rest
      | _ => none
  | character :: rest =>
      if inComment then
        if isControl character then none else skipBlank true rest
      else if isSpace character then
        skipBlank false rest
      else if character = '#' then
        skipBlank true rest
      else
        some (character :: rest)

/-- The text after a comment, up to the end of its line. -/
def skipComment :
    List Char → Option (List Char)
  | [] => some []
  | '\n' :: rest => some ('\n' :: rest)
  | '\r' :: rest => some ('\r' :: rest)
  | character :: rest =>
      if isControl character then none else skipComment rest

/-- The text after the end of a line, which only space and a comment may precede. -/
def endLine
    (text : List Char) :
    Option (List Char) :=
  let afterComment? :=
    match skipSpaces text with
    | '#' :: rest => skipComment rest
    | rest => some rest
  match afterComment? with
  | none => none
  | some [] => some []
  | some rest => skipLineEnd? rest

end ChainCalculator.Toml

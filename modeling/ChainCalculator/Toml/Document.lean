import ChainCalculator.Toml.Quoted
import ChainCalculator.Toml.Scalar

namespace ChainCalculator.Toml

/-!
# TOML documents

A document is a sequence of statements, one on a line: a key with its value, the header of a table,
or the double header of one more table in a series.  `document?` answers the table that all of them
define together, or nothing if the text is not a document.
-/

/-- Whether a character can stand in a key without quotes. -/
def isKeyCharacter
    (character : Char) :
    Bool :=
  character.isAlphanum || character == '_' || character == '-'

/-- Read one name of a key. -/
def readName
    (text : List Char) :
    Option (String × List Char) :=
  match readQuotedLine text with
  | some (name, rest) => some (String.ofList name, rest)
  | none =>
      let name := text.takeWhile isKeyCharacter
      if name = [] then
        none
      else
        some (String.ofList name, text.dropWhile isKeyCharacter)

/-- A key: the names before its last dot, and the last name. -/
structure Key where
  parents : List String
  name : String
  deriving Repr, DecidableEq

namespace Key

/-- All names of a key. -/
def path
    (key : Key) :
    List String :=
  key.parents ++ [key.name]

/-- A key with one more name in front. -/
def within
    (parent : String)
    (key : Key) :
    Key :=
  { key with parents := parent :: key.parents }

end Key

/-- Read names that are joined by dots, with space around the dots. -/
def readNames
    (text : List Char) :
    Option (Key × List Char) :=
  match readName (skipSpaces text) with
  | none => none
  | some (name, afterName) =>
      match skipSpaces afterName with
      | '.' :: rest =>
          if rest.length < text.length then
            match readNames rest with
            | some (key, rest) => some (key.within name, rest)
            | none => none
          else
            none
      | rest => some (⟨[], name⟩, rest)
termination_by text.length

/-- How many names may stand before the last name of a key. -/
def maximalParents : Nat :=
  79

/-- Read a key with no more names than a key may have. -/
def readKey
    (text : List Char) :
    Option (Key × List Char) :=
  match readNames text with
  | some (key, rest) =>
      if key.parents.length ≤ maximalParents then some (key, rest) else none
  | none => none

/--
Read items that are separated by commas, up to a closing mark.  Space, line ends and comments may
stand anywhere between them, and a comma may follow the last item.
-/
def readItems
    (item : Reader α)
    (close : Char)
    (text : List Char) :
    Option (List α × List Char) :=
  match skipBlank false text with
  | none => none
  | some [] => none
  | some (first :: afterFirst) =>
      if first = close then
        some ([], afterFirst)
      else
        match item (first :: afterFirst) with
        | none => none
        | some (value, afterValue) =>
            match skipBlank false afterValue with
            | some (',' :: rest) =>
                if rest.length < text.length then
                  match readItems item close rest with
                  | some (values, rest) => some (value :: values, rest)
                  | none => none
                else
                  none
            | some (mark :: rest) => if mark = close then some ([value], rest) else none
            | _ => none
termination_by text.length

/-- Read a key, an equals sign and a value, with the given blank around the sign. -/
def readAssignment
    (skip : List Char → Option (List Char))
    (value : Reader Value)
    (text : List Char) :
    Option ((Key × Value) × List Char) := do
  let (key, text) ← readKey text
  match ← skip text with
  | '=' :: rest => do
      let (value, rest) ← value (← skip rest)
      some ((key, value), rest)
  | _ => none

/-- The table that assignments define together. -/
def tableOf?
    (assignments : List (Key × Value)) :
    Option Fields :=
  assignments.foldlM
    (fun fields (key, value) => Fields.assign? fields key.parents key.name value) []

/-- Read a value that is not in brackets or braces. -/
def readSimple
    (text : List Char) :
    Option (Value × List Char) :=
  if text.head? = some '"' ∨ text.head? = some '\x27' then
    match readQuoted text with
    | some (text, rest) => some (.text (String.ofList text), rest)
    | none => none
  else
    let (scalar, rest) := Scalar.split text
    (Scalar.read? scalar).map fun value => (value, rest)

/-- Read a value with brackets and braces nested up to the given depth. -/
def readValue :
    Nat → Reader Value
  | 0 => fun text =>
      match text with
      | '[' :: _ => none
      | '\x7b' :: _ => none
      | _ => readSimple text
  | depth + 1 => fun text =>
      match text with
      | '[' :: rest =>
          match readItems (readValue depth) ']' rest with
          | some (items, rest) => some (.list items, rest)
          | none => none
      | '\x7b' :: rest =>
          match readItems (readAssignment (skipBlank false) (readValue depth)) '\x7d' rest with
          | some (assignments, rest) =>
              (tableOf? assignments).map fun fields => (.table .inline fields, rest)
          | none => none
      | _ => readSimple text

/-- How deep brackets and braces may be nested. -/
def maximalDepth : Nat :=
  80

/-- A statement of a document. -/
inductive Statement where
  | assign (key : Key) (value : Value)
  | header (key : Key)
  | doubleHeader (key : Key)
  deriving Repr

/-- Read a statement, up to the end of its line. -/
def readStatement :
    Reader Statement
  | '[' :: '[' :: rest => do
      let (key, rest) ← readKey rest
      match rest with
      | ']' :: ']' :: rest => some (.doubleHeader key, rest)
      | _ => none
  | '[' :: rest => do
      let (key, rest) ← readKey rest
      match rest with
      | ']' :: rest => some (.header key, rest)
      | _ => none
  | text => do
      let ((key, value), rest) ← readAssignment (some ∘ skipSpaces) (readValue maximalDepth) text
      some (.assign key value, rest)

/-- Read all statements of a text. -/
def readStatements
    (text : List Char) :
    Option (List Statement) :=
  match skipBlank false text with
  | none => none
  | some [] => some []
  | some start =>
      match readStatement start with
      | none => none
      | some (statement, afterStatement) =>
          match endLine afterStatement with
          | none => none
          | some rest =>
              if rest.length < text.length then
                (readStatements rest).map (statement :: ·)
              else
                none
termination_by text.length

/-- The tables defined so far, and the table that the next assignments belong to. -/
structure Draft where
  fields : Fields
  current : List String
  deriving Repr

/-- Carry out a statement. -/
def Draft.add?
    (draft : Draft) :
    Statement → Option Draft
  | .assign key value =>
      (draft.fields.change? draft.current fun fields =>
        fields.assign? key.parents key.name value).map fun fields =>
          { draft with fields := fields }
  | .header key =>
      (draft.fields.change? key.parents (Fields.open? key.name)).map fun fields =>
        ⟨fields, key.path⟩
  | .doubleHeader key =>
      (draft.fields.change? key.parents (Fields.extend? key.name)).map fun fields =>
        ⟨fields, key.path⟩

/-- The table that a text defines; a byte order mark may stand before it. -/
def document?
    (text : String) :
    Option Fields := do
  let text :=
    match text.toList with
    | '\uFEFF' :: rest => rest
    | all => all
  let statements ← readStatements text
  let draft ← statements.foldlM Draft.add? ⟨[], []⟩
  some draft.fields

end ChainCalculator.Toml

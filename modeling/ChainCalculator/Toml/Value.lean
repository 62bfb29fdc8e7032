import ChainCalculator.Toml.Moment

namespace ChainCalculator.Toml

/-!
# Values of a TOML document

A document is a table: names with values, each name once.  How a table came about decides what may
be added to it later, so tables remember it.
-/

/-- How a table came about. -/
inductive Origin where
  /-- By a header of its own. -/
  | header
  /-- By being named on the way to another table. -/
  | implied
  /-- By a dotted key. -/
  | dotted
  /-- In braces, complete from the start. -/
  | inline
  deriving Repr, DecidableEq

/-- A value of a document. -/
inductive Value where
  | text (text : String)
  | integer (value : Int)
  | real (value : Float)
  | boolean (value : Bool)
  | moment (moment : Moment)
  | list (items : List Value)
  /-- A table with its fields in the order of their definition. -/
  | table (origin : Origin) (fields : List (String × Value))
  /-- Tables of one name that were added by double headers. -/
  | series (tables : List (List (String × Value)))
  deriving Repr

/-- The fields of a table. -/
abbrev Fields :=
  List (String × Value)

namespace Fields

/-- The value of a name. -/
def get?
    (fields : Fields)
    (name : String) :
    Option Value :=
  fields.lookup name

/-- Fields with the value of a name replaced, or added behind the others. -/
def set
    (fields : Fields)
    (name : String)
    (value : Value) :
    Fields :=
  match fields with
  | [] => [(name, value)]
  | (other, old) :: rest =>
      if other = name then
        (name, value) :: rest
      else
        (other, old) :: Fields.set rest name value

/--
Give a new name a value, behind names that are joined by dots.  The last of these names must be a
table of dotted keys; the names before it may also be a table that was only named so far, or a
series, which stands for its last table.
-/
def assign?
    (fields : Fields)
    (parents : List String)
    (name : String)
    (value : Value) :
    Option Fields :=
  match parents with
  | [] =>
      match fields.get? name with
      | none => some (fields.set name value)
      | some _ => none
  | parent :: rest =>
      match fields.get? parent with
      | none =>
          (assign? [] rest name value).map fun inner => fields.set parent (.table .dotted inner)
      | some (.table .dotted inner) =>
          (assign? inner rest name value).map fun inner => fields.set parent (.table .dotted inner)
      | some (.table .implied inner) =>
          if rest = [] then
            none
          else
            (assign? inner rest name value).map fun inner =>
              fields.set parent (.table .implied inner)
      | some (.series tables) =>
          match rest, tables.getLast? with
          | _ :: _, some last =>
              (assign? last rest name value).map fun last =>
                fields.set parent (.series (tables.dropLast ++ [last]))
          | _, _ => none
      | some _ => none

/-- Change the table that a header names; what is missing on the way to it is created. -/
def change?
    (fields : Fields)
    (path : List String)
    (step : Fields → Option Fields) :
    Option Fields :=
  match path with
  | [] => step fields
  | name :: rest =>
      match fields.get? name with
      | none =>
          (change? [] rest step).map fun inner => fields.set name (.table .implied inner)
      | some (.table .inline _) => none
      | some (.table origin inner) =>
          (change? inner rest step).map fun inner => fields.set name (.table origin inner)
      | some (.series tables) =>
          match tables.getLast? with
          | some last =>
              (change? last rest step).map fun last =>
                fields.set name (.series (tables.dropLast ++ [last]))
          | none => none
      | some _ => none

/-- Open a table by its header.  A table that was only named so far may be opened once. -/
def open?
    (name : String)
    (fields : Fields) :
    Option Fields :=
  match fields.get? name with
  | none => some (fields.set name (.table .header []))
  | some (.table .implied inner) => some (fields.set name (.table .header inner))
  | some _ => none

/-- Add a table to a series by its double header. -/
def extend?
    (name : String)
    (fields : Fields) :
    Option Fields :=
  match fields.get? name with
  | none => some (fields.set name (.series [[]]))
  | some (.series tables) => some (fields.set name (.series (tables ++ [[]])))
  | some _ => none

end Fields

end ChainCalculator.Toml

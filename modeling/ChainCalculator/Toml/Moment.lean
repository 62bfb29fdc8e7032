import ChainCalculator.Number.Digits

namespace ChainCalculator.Toml

/-!
# Dates and times in a TOML text

A moment is a date, a time of day, or both with or without a distance from universal time.  Its
written form separates date and time by `T`, always has seconds, and has no zeros at the end of a
fraction.
-/

/-- A day of the calendar. -/
structure Date where
  year : Nat
  month : Nat
  day : Nat
  deriving Repr, DecidableEq

/-- A time of day. -/
structure Time where
  hour : Nat
  minute : Nat
  second : Nat
  nanosecond : Nat
  deriving Repr, DecidableEq

/-- The distance of a local time from universal time. -/
inductive Offset where
  | universal
  | minutes (count : Int)
  deriving Repr, DecidableEq

/-- A date, a time, or both. -/
inductive Moment where
  | date (day : Date)
  | time (clock : Time)
  | dateTime (day : Date) (clock : Time) (offset? : Option Offset)
  deriving Repr, DecidableEq

/-- The number of days in a month. -/
def daysInMonth
    (year month : Nat) :
    Nat :=
  if month = 2 then
    if year % 4 = 0 ∧ (year % 100 ≠ 0 ∨ year % 400 = 0) then 29 else 28
  else if month = 4 ∨ month = 6 ∨ month = 9 ∨ month = 11 then
    30
  else
    31

/-- Read a number with exactly the given number of digits. -/
def readFixed
    (length : Nat)
    (text : List Char) :
    Option (Nat × List Char) :=
  let digits := text.takeWhile Char.isDigit
  if digits.length = length then
    some (Digits.value digits, text.drop length)
  else
    none

/-- Read one given character. -/
def readMark
    (mark : Char) :
    List Char → Option (List Char)
  | character :: rest => if character = mark then some rest else none
  | [] => none

/-- Read a date of the calendar. -/
def readDate
    (text : List Char) :
    Option (Date × List Char) := do
  let (year, text) ← readFixed 4 text
  let text ← readMark '-' text
  let (month, text) ← readFixed 2 text
  let text ← readMark '-' text
  let (day, text) ← readFixed 2 text
  if 1 ≤ month ∧ month ≤ 12 ∧ 1 ≤ day ∧ day ≤ daysInMonth year month then
    some (⟨year, month, day⟩, text)
  else
    none

/-- The nanoseconds of a fraction; digits beyond the ninth are dropped. -/
def nanoseconds
    (digits : List Char) :
    Nat :=
  Digits.value ((digits ++ List.replicate 9 '0').take 9)

/-- Read the fraction of a second, which is zero if it is left out. -/
def readFraction :
    List Char → Option (Nat × List Char)
  | '.' :: rest =>
      let digits := rest.takeWhile Char.isDigit
      if digits = [] then none else some (nanoseconds digits, rest.drop digits.length)
  | rest => some (0, rest)

/-- Read a time of day, whose seconds are zero if they are left out. -/
def readTime
    (text : List Char) :
    Option (Time × List Char) := do
  let (hour, text) ← readFixed 2 text
  let text ← readMark ':' text
  let (minute, text) ← readFixed 2 text
  if 23 < hour ∨ 59 < minute then
    none
  else
    match text with
    | ':' :: text => do
        let (second, text) ← readFixed 2 text
        let (nanosecond, text) ← readFraction text
        if 60 < second then
          none
        else
          some (⟨hour, minute, second, nanosecond⟩, text)
    | _ => some (⟨hour, minute, 0, 0⟩, text)

/-- Read the hours and minutes of an offset. -/
def readOffsetMinutes
    (text : List Char) :
    Option Nat := do
  let (hours, text) ← readFixed 2 text
  let text ← readMark ':' text
  let (minutes, text) ← readFixed 2 text
  if text = [] ∧ hours ≤ 23 ∧ minutes ≤ 59 then
    some (60 * hours + minutes)
  else
    none

/-- Read the offset that ends a moment, if there is one. -/
def readOffset :
    List Char → Option (Option Offset)
  | [] => some none
  | ['Z'] => some (some .universal)
  | ['z'] => some (some .universal)
  | '+' :: rest => (readOffsetMinutes rest).map fun count => some (.minutes count)
  | '-' :: rest => (readOffsetMinutes rest).map fun count => some (.minutes (-count))
  | _ => none

/-- The moment that a text denotes, if all of it is one moment. -/
def Moment.read?
    (text : List Char) :
    Option Moment :=
  match readDate text with
  | some (day, []) => some (.date day)
  | some (day, separator :: rest) =>
      if separator = 'T' ∨ separator = 't' ∨ separator = ' ' then
        match readTime rest with
        | some (clock, rest) => (readOffset rest).map fun offset? => .dateTime day clock offset?
        | none => none
      else
        none
  | none =>
      match readTime text with
      | some (clock, []) => some (.time clock)
      | _ => none

/-- A date in writing. -/
def Date.text
    (date : Date) :
    List Char :=
  Digits.padded 4 date.year ++ '-' :: Digits.padded 2 date.month ++ '-' :: Digits.padded 2 date.day

/-- A fraction of a second in writing; zero is left out. -/
def fractionText
    (nanosecond : Nat) :
    List Char :=
  if nanosecond = 0 then
    []
  else
    '.' :: Digits.dropTrailing '0' (Digits.padded 9 nanosecond)

/-- A time of day in writing. -/
def Time.text
    (time : Time) :
    List Char :=
  Digits.padded 2 time.hour ++ ':' :: Digits.padded 2 time.minute ++
    ':' :: Digits.padded 2 time.second ++ fractionText time.nanosecond

/-- An offset in writing. -/
def Offset.text :
    Offset → List Char
  | .universal => ['Z']
  | .minutes count =>
      (if count < 0 then '-' else '+') ::
        (Digits.padded 2 (count.natAbs / 60) ++ ':' :: Digits.padded 2 (count.natAbs % 60))

/-- A moment in writing. -/
def Moment.text :
    Moment → String
  | .date day => String.ofList day.text
  | .time clock => String.ofList clock.text
  | .dateTime day clock offset? =>
      String.ofList (day.text ++ 'T' :: clock.text ++ (offset?.map Offset.text).getD [])

end ChainCalculator.Toml

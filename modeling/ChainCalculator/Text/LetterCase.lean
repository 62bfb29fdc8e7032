import ChainCalculator.Text.LetterCase.Table
import ChainCalculator.Text.Ranges

namespace ChainCalculator.Text

/-!
# Small letters

A text is brought into small letters by the full Unicode mapping.  Every letter has one small
letter, except that the dotted capital I becomes two characters and that the capital sigma has a
form of its own at the end of a word.
-/

/-- The run of capitals that a code point belongs to. -/
def capitalRun?
    (codePoint : Nat) :
    Option CapitalRun :=
  capitalRuns.find? fun run =>
    run.first ≤ codePoint && codePoint ≤ run.last && (codePoint - run.first) % run.step == 0

/-- The small letters of one character, wherever it stands. -/
def smallLetters
    (character : Char) :
    List Char :=
  if character = 'İ' then
    ['i', '\u0307']
  else
    match capitalRun? character.toNat with
    | some run => [Char.ofNat (run.small + (character.toNat - run.first))]
    | none => [character]

/--
Whether the first character that is not ignorable is a letter with case.  A character that is both
counts as ignorable.
-/
def startsCased
    (text : List Char) :
    Bool :=
  match text.dropWhile (inRanges caseIgnorableRanges) with
  | [] => false
  | character :: _ => inRanges casedRanges character

/--
The small letters of a text that stands behind other characters, the nearest of them first.  A
sigma ends a word if a letter stands before it and none behind it.
-/
def smallLettersAfter
    (before : List Char) :
    List Char → List Char
  | [] => []
  | character :: rest =>
      (if character = 'Σ' then
        [if startsCased before && !startsCased rest then 'ς' else 'σ']
      else
        smallLetters character) ++ smallLettersAfter (character :: before) rest

/-- A text in small letters. -/
def lowercase
    (text : String) :
    String :=
  String.ofList (smallLettersAfter [] text.toList)

end ChainCalculator.Text

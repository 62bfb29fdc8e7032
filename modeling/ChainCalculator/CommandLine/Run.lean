import ChainCalculator.CommandLine.Report
import ChainCalculator.Desk
import ChainCalculator.Settings

namespace ChainCalculator.CommandLine

/-!
# A run of the program

A run presses the keys among the arguments and ends; without any it takes lines from its input until
the input ends or a line ends the run.  What a run prints and how it ends is a function of its
arguments, of the files of settings, of the order in which it binds the keys of the settings, of the
bytes of its input and of the clipboard.
-/

variable {σ : Type} [Clipboard σ]

/-- What a run printed, and the code that it ended with. -/
structure Result where
  output : String
  exitCode : Nat
  deriving Repr, DecidableEq

namespace Result

/-- A run that ended well. -/
def success
    (output : String) :
    Result :=
  ⟨output, 0⟩

/-- A run that was stopped by an error. -/
def failure : Result :=
  ⟨"", 1⟩

/-- A run whose arguments were wrong. -/
def misuse : Result :=
  ⟨"", 2⟩

end Result

/-- What a run printed, the code that it ended with, and the clipboard that it left behind. -/
structure Ending (σ : Type) extends Result where
  clipboard : σ

/-- The ending of a run that printed something before. -/
def Ending.after
    (output : String)
    (ending : Ending σ) :
    Ending σ :=
  { ending with output := output ++ ending.output }

/-- End a run that no error stopped.  The last screen is copied if the arguments ask for it. -/
def endWell
    (options : Options)
    (desk : Desk σ)
    (output : String) :
    Ending σ :=
  ⟨.success output, (if options.copy then desk.copy else desk).clipboard⟩

/-- What a line prints, and the desk after it, unless the line ends the run. -/
def answerLine
    (options : Options)
    (desk : Desk σ)
    (line : String) :
    Option (String × Desk σ) :=
  match desk.enter? line with
  | some (next, steps) => some (report options next.console steps, next)
  | none => none

/-- Press the keys among the arguments as one line. -/
def runKeys
    (options : Options)
    (desk : Desk σ) :
    Ending σ :=
  match answerLine options desk (String.intercalate " " options.keys) with
  | some (output, next) => endWell options next output
  | none => endWell options desk ""

/-- Put a byte in front of lines: a line feed ends a line, any other byte belongs to the first. -/
def addByte
    (byte : UInt8)
    (lines : List (List UInt8)) :
    List (List UInt8) :=
  if byte = 10 then
    [] :: lines
  else
    match lines with
    | [] => [[byte]]
    | line :: others => (byte :: line) :: others

/-- The lines of an input, without their line feeds.  The last line may lack its line feed. -/
def inputLines
    (input : List UInt8) :
    List (List UInt8) :=
  input.foldr addByte []

/-- The text of a line of bytes, if it is valid UTF-8. -/
def lineText?
    (line : List UInt8) :
    Option String :=
  String.fromUTF8? ⟨line.toArray⟩

/-- What taking one line of bytes leads to. -/
inductive LineOutcome (σ : Type) where
  /-- The line is not text, which stops the run. -/
  | undecodable
  /-- The line asks to end the run. -/
  | quit
  /-- Something is printed, and the run goes on. -/
  | printed (output : String) (next : Desk σ)

/-- Take one line of bytes. -/
def takeLine
    (options : Options)
    (desk : Desk σ)
    (line : List UInt8) :
    LineOutcome σ :=
  match lineText? line with
  | none => .undecodable
  | some text =>
      match answerLine options desk text with
      | none => .quit
      | some (output, next) => .printed output next

/-- Take lines of bytes until a line ends the run or no line is left. -/
def takeLines
    (options : Options)
    (desk : Desk σ) :
    List (List UInt8) → Ending σ
  | [] => endWell options desk ""
  | line :: rest =>
      match takeLine options desk line with
      | .undecodable => ⟨.failure, desk.clipboard⟩
      | .quit => endWell options desk ""
      | .printed output next => (takeLines options next rest).after output

/-- Run a console on the keys among the arguments, or else on the lines of the input. -/
def runDesk
    (options : Options)
    (desk : Desk σ)
    (input : List UInt8) :
    Ending σ :=
  if options.keys = [] then
    takeLines options desk (inputLines input)
  else
    runKeys options desk

/-- The usual path of the settings, from the directory for configurations and the home directory. -/
def usualPath?
    (configurations? home? : Option String) :
    Option String :=
  match configurations?.filter fun directory => directory.startsWith "/" with
  | some directory => some (directory ++ "/zcalc/config.toml")
  | none => home?.map fun home => home ++ "/.config/zcalc/config.toml"

/-- The desk that some settings ask for, their keys bound in the given order. -/
def startDesk?
    (settings : Except SettingsFault Settings)
    (order : TableOrder)
    (clipboard : σ) :
    Option (Desk σ) :=
  match settings with
  | .error _ => none
  | .ok settings =>
      match settings.bindingsIn order with
      | .error _ => none
      | .ok bindings => some ⟨Console.start bindings, settings.copyOnEquals, clipboard⟩

/-- The name and the version of the program. -/
def versionText : String :=
  "zcalc 0.1.0\n"

/-- How to use the program. -/
def helpText : String :=
  "Usage: zcalc [OPTIONS] [KEYS]...\n\n" ++
    "  -t, --trace            Print the display after every key instead of only the last one\n" ++
    "  -j, --json             Print the engine state as JSON after each line\n" ++
    "  -c, --copy             Copy the final display to the clipboard\n" ++
    "      --config <CONFIG>  Configuration file to use instead of the default location\n" ++
    "  -h, --help             Print help\n" ++
    "  -V, --version          Print version\n"

/--
A run of the program beside a clipboard, given what is stored under each path and at the usual
place.  The order of the keys of the settings is the run's own.
-/
def runWith
    (order : TableOrder)
    (clipboard : σ)
    (arguments : List String)
    (stored : String → Stored)
    (usual : SettingsFile)
    (input : List UInt8) :
    Ending σ :=
  match Invocation.read? arguments with
  | none => ⟨.misuse, clipboard⟩
  | some .showVersion => ⟨.success versionText, clipboard⟩
  | some .showHelp => ⟨.success helpText, clipboard⟩
  | some (.run options) =>
      let chosen? := options.settingsPath?.map fun path => ⟨path, stored path⟩
      match startDesk? (Settings.load chosen? usual) order clipboard with
      | none => ⟨.failure, clipboard⟩
      | some desk => runDesk options desk input

/--
A run of the program that binds the keys of the settings as they were written, while the clipboard
is out of reach.
-/
def run
    (arguments : List String)
    (stored : String → Stored)
    (usual : SettingsFile)
    (input : List UInt8) :
    Result :=
  (runWith .asWritten NoClipboard.unreachable arguments stored usual input).toResult

end ChainCalculator.CommandLine

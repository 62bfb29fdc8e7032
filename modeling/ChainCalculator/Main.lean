import ChainCalculator.CommandLine.Run

namespace ChainCalculator.CommandLine

/-!
# The program

This module reads files and lines and prints answers; everything else is decided elsewhere.  The
clipboard is out of its reach.
-/

/-- What is stored under a path. -/
def readStored
    (path : String) :
    IO Stored := do
  try
    return .bytes (← IO.FS.readBinFile path)
  catch
    | .noFileOrDirectory .. => return .absent
    | _ => return .unreadable

/-- The usual file of settings. -/
def readUsual :
    IO SettingsFile := do
  match usualPath? (← IO.getEnv "XDG_CONFIG_HOME") (← IO.getEnv "HOME") with
  | some path => return ⟨path, ← readStored path⟩
  | none => return ⟨"", .absent⟩

/-- Read a line of bytes without its line feed; nothing is answered at the end of the input. -/
partial def readLine?
    (input : IO.FS.Stream)
    (before : List UInt8) :
    IO (Option (List UInt8)) := do
  match (← input.read 1).toList with
  | [byte] =>
      if byte = 10 then
        return some before.reverse
      else
        readLine? input (byte :: before)
  | _ =>
      return if before = [] then none else some before.reverse

/-- Answer lines of the standard input until the input or the dialogue ends. -/
partial def answerInput
    (options : Options)
    (desk : Desk NoClipboard) :
    IO UInt32 := do
  let input ← IO.getStdin
  let output ← IO.getStdout
  if ← input.isTty then
    output.putStr "> "
    output.flush
  match ← readLine? input [] with
  | none => return 0
  | some line =>
      match takeLine options desk line with
      | .undecodable => return UInt32.ofNat Result.failure.exitCode
      | .quit => return 0
      | .printed answer next =>
          output.putStr answer
          output.flush
          answerInput options next

/-- Print what a run printed, and end with its code. -/
def finish
    (result : Result) :
    IO UInt32 := do
  IO.print result.output
  return UInt32.ofNat result.exitCode

/-- Run the program on its arguments. -/
def runProgram
    (arguments : List String) :
    IO UInt32 := do
  match Invocation.read? arguments with
  | some (.run options) =>
      let chosen? ← options.settingsPath?.mapM fun path => do
        return (⟨path, ← readStored path⟩ : SettingsFile)
      let settings := Settings.load chosen? (← readUsual)
      match startDesk? settings .asWritten NoClipboard.unreachable with
      | none =>
          match settings with
          | .error fault => IO.eprintln ("Error: " ++ fault.message)
          | .ok _ => IO.eprintln "Error: Invalid key binding in configuration"
          return 1
      | some desk =>
          if options.keys = [] then
            answerInput options desk
          else
            finish (runKeys options desk).toResult
  | other? =>
      if other? = none then
        IO.eprintln "error: invalid arguments; try --help"
      finish (run arguments (fun _ => .absent) ⟨"", .absent⟩ [])

end ChainCalculator.CommandLine

/-- The program. -/
def main
    (arguments : List String) :
    IO UInt32 :=
  ChainCalculator.CommandLine.runProgram arguments

namespace ChainCalculator.CommandLine

/-!
# Arguments of the command line

Flags may stand before, between and behind the keys, and single letters may share one hyphen.  Two
hyphens alone end the flags, one hyphen alone is a key.  Every flag is given at most once, under its
whole name.
-/

/-- A flag without a value. -/
inductive Flag where
  /-- Print the screen after every key. -/
  | trace
  /-- Print the whole state after each line. -/
  | json
  /-- Copy the final screen to the clipboard. -/
  | copy
  /-- Print the version and nothing else. -/
  | version
  /-- Print how to use the program and nothing else. -/
  | help
  deriving Repr, DecidableEq

namespace Flag

/-- The flag of a letter behind one hyphen. -/
def ofLetter? :
    Char → Option Flag
  | 't' => some .trace
  | 'j' => some .json
  | 'c' => some .copy
  | 'V' => some .version
  | 'h' => some .help
  | _ => none

/-- The flag of a name behind two hyphens. -/
def ofName? :
    String → Option Flag
  | "trace" => some .trace
  | "json" => some .json
  | "copy" => some .copy
  | "version" => some .version
  | "help" => some .help
  | _ => none

end Flag

/-- What the arguments ask of a run. -/
structure Options where
  trace : Bool
  json : Bool
  copy : Bool
  /-- The file of settings that was chosen. -/
  settingsPath? : Option String
  keys : List String
  deriving Repr, DecidableEq

/-- What the program is asked to do. -/
inductive Invocation where
  | run (options : Options)
  | showVersion
  | showHelp
  deriving Repr, DecidableEq

/-- Where reading an argument leads. -/
inductive Progress where
  | refused
  | going (options : Options)
  | finished (invocation : Invocation)
  deriving Repr, DecidableEq

namespace Options

/-- A run without arguments. -/
def plain : Options :=
  ⟨false, false, false, none, []⟩

/-- Set a flag, which must not be set already. -/
def set
    (options : Options) :
    Flag → Progress
  | .trace => if options.trace then .refused else .going { options with trace := true }
  | .json => if options.json then .refused else .going { options with json := true }
  | .copy => if options.copy then .refused else .going { options with copy := true }
  | .version => .finished .showVersion
  | .help => .finished .showHelp

/-- Set the flags of several letters. -/
def setLetters
    (options : Options) :
    List Char → Progress
  | [] => .going options
  | letter :: rest =>
      match Flag.ofLetter? letter with
      | none => .refused
      | some flag =>
          match options.set flag with
          | .going next => next.setLetters rest
          | ending => ending

/-- Choose the file of settings, which must not be chosen already and must have a name. -/
def choose?
    (options : Options)
    (path : String) :
    Option Options :=
  if options.settingsPath?.isSome ∨ path = "" then
    none
  else
    some { options with settingsPath? := some path }

/-- Add keys behind the others. -/
def addKeys
    (options : Options)
    (keys : List String) :
    Options :=
  { options with keys := options.keys ++ keys }

end Options

/-- The form of one argument. -/
inductive Argument where
  /-- Two hyphens alone. -/
  | separator
  /-- A name behind two hyphens, and the value behind its equals sign. -/
  | long (name : String) (value? : Option String)
  /-- Letters behind one hyphen. -/
  | letters (letters : List Char)
  /-- Anything else, which is taken as it is. -/
  | plain
  deriving Repr, DecidableEq

/-- The form of a text. -/
def Argument.ofText
    (text : String) :
    Argument :=
  match text.toList with
  | ['-', '-'] => .separator
  | '-' :: '-' :: setting =>
      let value? :=
        match setting.dropWhile (· != '=') with
        | [] => none
        | _ :: value => some (String.ofList value)
      .long (String.ofList (setting.takeWhile (· != '='))) value?
  | '-' :: letter :: rest => .letters (letter :: rest)
  | _ => .plain

/-- Read arguments on top of the options so far; nothing is answered for arguments that are wrong. -/
def Invocation.readOnto?
    (options : Options) :
    List String → Option Invocation
  | [] => some (.run options)
  | argument :: rest =>
      match Argument.ofText argument with
      | .separator => some (.run (options.addKeys rest))
      | .plain => readOnto? (options.addKeys [argument]) rest
      | .letters letters =>
          match options.setLetters letters with
          | .refused => none
          | .going next => readOnto? next rest
          | .finished invocation => some invocation
      | .long "config" (some path) =>
          match options.choose? path with
          | some next => readOnto? next rest
          | none => none
      | .long "config" none =>
          match rest with
          | [] => none
          | path :: rest =>
              if Argument.ofText path = .plain then
                match options.choose? path with
                | some next => readOnto? next rest
                | none => none
              else
                none
      | .long _ (some _) => none
      | .long name none =>
          match Flag.ofName? name with
          | none => none
          | some flag =>
              match options.set flag with
              | .refused => none
              | .going next => readOnto? next rest
              | .finished invocation => some invocation

/-- What a list of arguments asks the program to do; nothing is answered if one is wrong. -/
def Invocation.read?
    (arguments : List String) :
    Option Invocation :=
  Invocation.readOnto? Options.plain arguments

end ChainCalculator.CommandLine

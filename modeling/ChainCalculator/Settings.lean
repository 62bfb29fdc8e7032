import ChainCalculator.Bindings
import ChainCalculator.Toml.Document

namespace ChainCalculator

/-!
# Settings

Settings are a TOML document with three fields, each of which may be left out: the filter for log
messages, whether a result is copied to the clipboard, and further key bindings.  Other fields are
ignored, but a field of the wrong type makes the document invalid.
-/

/-- The settings of the program. -/
structure Settings where
  logFilter : String
  copyOnEquals : Bool
  /-- Keys with their actions: the entries of a table, as they were written. -/
  keys : List (String × String)
  deriving Repr, DecidableEq

/-- A reason for which there are no settings. -/
inductive SettingsFault where
  /-- A text is not a document of settings. -/
  | invalid
  /-- The text of a file is not a document of settings. -/
  | invalidFile (path : String)
  /-- A file cannot be read as text. -/
  | unreadableFile (path : String)
  deriving Repr, DecidableEq

/-- The wording for missing settings. -/
def SettingsFault.message :
    SettingsFault → String
  | .invalid => "Invalid configuration"
  | .invalidFile path => "In " ++ path ++ ": Invalid configuration"
  | .unreadableFile path => "Failed to read config file " ++ path

namespace Settings

/-- The settings that hold without a document. -/
def standard : Settings :=
  ⟨"zcalc=warn", false, []⟩

/-- The field name under which a moment is taken for a table. -/
def momentField : String :=
  "$__toml_private_datetime"

/-- The log filter of a document. -/
def logFilter? :
    Option Toml.Value → Option String
  | none => some standard.logFilter
  | some (.text filter) => some filter
  | some _ => none

/-- Whether a document asks for copying results. -/
def copyOnEquals? :
    Option Toml.Value → Option Bool
  | none => some standard.copyOnEquals
  | some (.boolean copy) => some copy
  | some _ => none

/-- A field that binds a key. -/
def binding? :
    String × Toml.Value → Option (String × String)
  | (key, .text action) => some (key, action)
  | _ => none

/-- The bindings of a document.  A moment counts as a table whose one field holds its text. -/
def keys? :
    Option Toml.Value → Option (List (String × String))
  | none => some standard.keys
  | some (.table _ fields) => fields.mapM binding?
  | some (.moment moment) => some [(momentField, moment.text)]
  | some _ => none

/-- The settings of a text. -/
def read?
    (text : String) :
    Option Settings := do
  let fields ← Toml.document? text
  let logFilter ← logFilter? (fields.get? "log_filter")
  let copyOnEquals ← copyOnEquals? (fields.get? "copy_on_equals")
  let keys ← keys? (fields.get? "keys")
  some ⟨logFilter, copyOnEquals, keys⟩

/-- The settings of a text, or the fault that it has none. -/
def read
    (text : String) :
    Except SettingsFault Settings :=
  match read? text with
  | some settings => .ok settings
  | none => .error .invalid

/-- The bindings of a run with these settings, which takes their keys in the given order. -/
def bindingsIn
    (settings : Settings)
    (order : TableOrder) :
    Except UnknownAction Bindings :=
  Bindings.standardWith (order.arrange settings.keys)

/-- The bindings of a run that takes the keys as they were written. -/
def bindings
    (settings : Settings) :
    Except UnknownAction Bindings :=
  settings.bindingsIn .asWritten

end Settings

/-- What is stored at a place for a file. -/
inductive Stored where
  | absent
  | unreadable
  | bytes (content : ByteArray)

/-- A place for a file, and what is stored there. -/
structure SettingsFile where
  path : String
  stored : Stored

namespace SettingsFile

/-- The text of a file, if it can be read. -/
def text?
    (file : SettingsFile) :
    Option String :=
  match file.stored with
  | .bytes content => String.fromUTF8? content
  | _ => none

/-- The settings in a file. -/
def settings
    (file : SettingsFile) :
    Except SettingsFault Settings :=
  match file.text? with
  | none => .error (.unreadableFile file.path)
  | some text =>
      match Settings.read? text with
      | some settings => .ok settings
      | none => .error (.invalidFile file.path)

end SettingsFile

/--
The settings of a run.  A file that was chosen must exist; the file at the usual place counts if it
exists.
-/
def Settings.load
    (chosen? : Option SettingsFile)
    (usual : SettingsFile) :
    Except SettingsFault Settings :=
  match chosen? with
  | some chosen => chosen.settings
  | none =>
      match usual.stored with
      | .absent => .ok standard
      | _ => usual.settings

end ChainCalculator

/-!
# Files of the data directory

What is found under the name of a file, and the operating system's reports when that is in the way.
-/

namespace MessageBox

/-- What stands under the name of a file. -/
inductive Entry where
  | missing
  | directory
  | file (content : ByteArray)

/-- Failures of the operating system. -/
inductive OsFailure where
  | noDevice
  | fileExists
  | isDirectory
  | invalidText
  deriving DecidableEq

/-- The operating system's report of a failure. -/
def OsFailure.message : OsFailure → String
  | .noDevice => "No such device or address (os error 6)"
  | .fileExists => "File exists (os error 17)"
  | .isDirectory => "Is a directory (os error 21)"
  | .invalidText => "stream did not contain valid UTF-8"

namespace Entry

/-- The text of an entry; none if it is missing. -/
def read : Entry → Except OsFailure (Option String)
  | .missing => .ok none
  | .directory => .error .isDirectory
  | .file content =>
    match String.fromUTF8? content with
    | some text => .ok (some text)
    | none => .error .invalidText

/-- The entry after writing a text to it. -/
def write (text : String) : Entry → Except OsFailure Entry
  | .directory => .error .isDirectory
  | _ => .ok (.file text.toUTF8)

/-- The entry once it is open for text to be added at its end. -/
def append : Entry → Except OsFailure Entry
  | .directory => .error .isDirectory
  | .missing => .ok (.file .empty)
  | .file content => .ok (.file content)

end Entry

/-- A data directory: its path, whether a file is in its place, and its two files. -/
structure DataDir where
  path : String
  isFile : Bool := false
  settings : Entry := .missing
  log : Entry := .missing

namespace DataDir

/-- The path of the settings file. -/
def settingsPath (d : DataDir) : String := d.path ++ "/config.yaml"

/-- The path of the log file. -/
def logPath (d : DataDir) : String := d.path ++ "/modalbox.log"

/-- Creates the directory, if it is not there yet. -/
def create (d : DataDir) : Except OsFailure DataDir := if d.isFile then .error .fileExists else .ok d

end DataDir

end MessageBox

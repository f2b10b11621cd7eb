import MessageBox.Settings.Reader
import MessageBox.Settings.Writer
import MessageBox.Storage

/-!
# The settings file

The settings are a mapping of names to values. How the mapping is written and read is up to a format; which names there
are, and what is left out or taken by default, does not depend on it.
-/

namespace MessageBox.Settings

/-- How a file holds values under their names. -/
structure Format where
  /-- A name or a value as it stands in a text. -/
  Node : Type
  /-- The text that holds some values, or why there is none. -/
  write : List (String × Value) → Except String String
  /-- What a text holds, in its order; none if it is malformed. -/
  entries? : String → Option (List (Node × Node))
  /-- Reads a name, or a value that is a text. -/
  text? : Node → Option String
  /-- Reads a number that may be absent. -/
  number? : Node → Option (Option Nat)
  /-- Reads a truth value. -/
  flag? : Node → Option Bool

/-- The format of the settings file. -/
def yaml : Format where
  Node := Yaml.Node
  write entries := .ok (mapping entries)
  entries? text := (Yaml.parse text).bind entriesOf?
  text? := readText
  number? := readOptionalNumber
  flag? := readFlag

namespace Format

/-- The text of the settings file. -/
def print (f : Format) (s : Settings) : Except String String := f.write (s.fields.map fun g => (g.name, g.value))

/-- Takes over the value of a name. Names that are not settings are ignored. -/
def readSetting (f : Format) (s : Settings) (name : String) (value : f.Node) : Option Settings :=
  match name with
  | "log_level" => (f.text? value).map fun logLevel => { s with logLevel }
  | "wait_timeout_ms" => (f.number? value).map fun waitTimeoutMs => { s with waitTimeoutMs }
  | "report_interruption" => (f.flag? value).map fun reportInterruption => { s with reportInterruption }
  | _ => some s

/-- Takes over an entry, whose key must be a name. -/
def readEntry (f : Format) (s : Settings) (entry : f.Node × f.Node) : Option Settings := do
  f.readSetting s (← f.text? entry.1) entry.2

/-- The settings a text holds; none if it is malformed. Settings that are not given keep their defaults. -/
def read (f : Format) (text : String) : Option Settings := do
  (← f.entries? text).foldlM f.readEntry {}

/-- Reads the settings of a data directory; without a file they are the defaults. -/
def load (f : Format) (d : DataDir) : Except SettingsError Settings :=
  match d.settings.read with
  | .error e => .error (.io ("Failed to read " ++ d.settingsPath ++ ": " ++ e.message))
  | .ok none => .ok {}
  | .ok (some text) =>
    match f.read text with
    | some s => .ok s
    | none => .error (.parse ("Failed to parse " ++ d.settingsPath ++ ": "))

/-- The data directory after writing the settings to it. -/
def save (f : Format) (s : Settings) (d : DataDir) : Except SettingsError DataDir :=
  match f.print s with
  | .error e => .error (.serialize ("Failed to serialize config: " ++ e))
  | .ok text =>
    match d.create with
    | .error e => .error (.io ("Failed to create data directory: " ++ e.message))
    | .ok d =>
      match d.settings.write text with
      | .error e => .error (.io ("Failed to write config: " ++ e.message))
      | .ok settings => .ok { d with settings }

end Format

/-- Reads the settings of a data directory. -/
def load (d : DataDir) : Except SettingsError Settings := yaml.load d

/-- Reads the settings of a data directory, or takes the defaults if that fails. -/
def loadOrDefault (d : DataDir) : Settings := (load d).toOption.getD {}

/-- The data directory after writing the settings to it. -/
def save (s : Settings) (d : DataDir) : Except SettingsError DataDir := yaml.save s d

end MessageBox.Settings

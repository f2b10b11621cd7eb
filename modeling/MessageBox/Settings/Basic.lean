import MessageBox.Prompt

/-!
# Settings

The settings of the command line, which a file in the data directory keeps between runs.
-/

namespace MessageBox

/-- The settings. -/
structure Settings where
  logLevel : String := "info"
  /-- Limit of the wait on a worker thread, in milliseconds. -/
  waitTimeoutMs : Option Nat := none
  reportInterruption : Bool := false
  deriving DecidableEq, Inhabited

/-- The options of a prompt under these settings. -/
def Settings.options (s : Settings) : Options := ⟨s.waitTimeoutMs, s.reportInterruption⟩

namespace Settings

/-- One of the settings. -/
inductive Field where
  | logLevel (level : String)
  | waitTimeoutMs (limit : Option Nat)
  | reportInterruption (report : Bool)
  deriving DecidableEq

/-- A value in the settings file. -/
inductive Value where
  | text (text : String)
  /-- A number that may be absent. -/
  | number (n : Option Nat)
  | flag (b : Bool)
  deriving DecidableEq

namespace Field

/-- The name of a setting in the settings file. -/
def name : Field → String
  | .logLevel _ => "log_level"
  | .waitTimeoutMs _ => "wait_timeout_ms"
  | .reportInterruption _ => "report_interruption"

/-- The value of a setting in the settings file. -/
def value : Field → Value
  | .logLevel level => .text level
  | .waitTimeoutMs limit => .number limit
  | .reportInterruption report => .flag report

end Field

/-- The settings that are written, in their order. A limit that is absent is left out. -/
def fields (s : Settings) : List Field :=
  .logLevel s.logLevel :: ((if s.waitTimeoutMs.isSome then [.waitTimeoutMs s.waitTimeoutMs] else [])
    ++ [.reportInterruption s.reportInterruption])

end Settings

/-- Why settings could not be read or written. -/
inductive SettingsError where
  | io (reason : String)
  | parse (reason : String)
  | serialize (reason : String)
  deriving DecidableEq

/-- The report of a failure with the settings file. -/
def SettingsError.message : SettingsError → String
  | .io reason => "IO error: " ++ reason
  | .parse reason => "Parse error: " ++ reason
  | .serialize reason => "Serialization error: " ++ reason

end MessageBox

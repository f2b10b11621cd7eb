import MessageBox.Text.Quoted

/-!
# Log records

A record has a level, the part of the program it comes from, a message and named values.
-/

namespace MessageBox.Log

/-- How important a record is, the most important level first. -/
inductive Level where
  | error
  | warn
  | info
  | debug
  | trace
  deriving DecidableEq, Inhabited

namespace Level

/-- The name of a level in a record. -/
def text : Level → String
  | .error => "ERROR"
  | .warn => "WARN"
  | .info => "INFO"
  | .debug => "DEBUG"
  | .trace => "TRACE"

/-- 1 for the most important level, 5 for the least. -/
def rank : Level → Nat
  | .error => 1
  | .warn => 2
  | .info => 3
  | .debug => 4
  | .trace => 5

end Level

/-- A value in a record. -/
inductive Value where
  /-- A text that log lines put between quotes. -/
  | quoted (text : String)
  /-- A text that log lines show as it is. -/
  | plain (text : String)
  | number (n : Nat)
  | flag (b : Bool)
  deriving DecidableEq

/-- The text of a value in a log line. -/
def Value.text : Value → String
  | .quoted t => Text.quote t
  | .plain t => t
  | .number n => toString n
  | .flag b => if b then "true" else "false"

/-- One log record. -/
structure Record where
  level : Level
  /-- The part of the program it comes from. -/
  source : String
  message : String
  fields : List (String × Value) := []
  deriving DecidableEq

/-- The part of a log line after its level and thread: source, message and fields. -/
def Record.text (r : Record) : String :=
  r.source ++ ": " ++ r.message ++ String.join (r.fields.map fun (name, v) => " " ++ name ++ "=" ++ v.text)

/-- A line of the log: the level, aligned to the right, the thread and the record. -/
def Record.line (r : Record) (thread : String) : String :=
  String.ofList (List.replicate (5 - r.level.text.length) ' ') ++ r.level.text ++ " " ++ thread ++ " "
    ++ r.text

end MessageBox.Log

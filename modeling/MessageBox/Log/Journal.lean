import MessageBox.Log.Filter
import MessageBox.Log.Rotation
import MessageBox.Storage

/-!
# The log of a run

What earlier runs have left in the log file, and the records that this run adds to it.
-/

namespace MessageBox

open Log

/-- Rotates a log file and tells whether that was needed. -/
def Entry.rotate (max keep : Nat) : Entry → Bool × Entry
  | .file content =>
    match rotate? max keep content with
    | some rotated => (true, .file rotated)
    | none => (false, .file content)
  | entry => (false, entry)

namespace Log

/-- A line of the log. -/
inductive Line where
  | plain (text : String)
  /-- The start of a record. -/
  | record (level : Level) (thread : String) (text : String)
  deriving DecidableEq

/-- A text without a carriage return at its end. -/
def dropReturn (line : String) : String := if line.endsWith "\r" then (line.dropEnd 1).toString else line

/-- The lines of a text, of which the last one may lack its line feed. A log is long, so it is never taken
apart into characters. -/
def linesOf (text : String) : List String :=
  let lines := text.splitOn "\n"
  (if lines.getLast? = some "" then lines.dropLast else lines).map dropReturn

/-- The lines of a record; only a text with a line feed in it takes more than one. -/
def recordLines (thread : String) (r : Record) : List Line :=
  match linesOf r.text with
  | first :: rest => .record r.level thread first :: rest.map .plain
  | [] => []

/-- The lines of a log: an earlier text, and the records added to it with the names of their threads. -/
def lines (earlier : String) (records : List (String × Record)) : List Line :=
  (linesOf earlier).map .plain ++ records.flatMap fun (thread, r) => recordLines thread r

end Log

end MessageBox

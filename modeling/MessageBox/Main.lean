import MessageBox.Session
import MessageBox.Terminal.Decoding

/-!
# The program

Shows a message box and prints the number of the chosen action. Everything that is decided is decided by
the session; this module reads and writes files and the terminal for it.
-/

namespace MessageBox.Main

/-- What stands under the name of a file. -/
def entryAt (path : String) : IO Entry := do
  match ← (IO.FS.readBinFile path).toBaseIO with
  | .ok content => return .file content
  | .error (.noFileOrDirectory _ _ _) => return .missing
  | .error _ => return .directory

/-- The data directory at a path. -/
def dataDirAt (path : String) : IO DataDir := do
  match ← entryAt path with
  | .file _ => return { path, isFile := true }
  | _ =>
    let dir : DataDir := { path }
    return { dir with settings := ← entryAt dir.settingsPath, log := ← entryAt dir.logPath }

/-- Writes a file, unless a directory is in its place. -/
def putEntry (path : String) : Entry → IO Unit
  | .file content => IO.FS.writeBinFile path content
  | _ => return

/-- Leaves the data directory as a report has it, with the new records in its log. -/
def putDataDir (report : Report) : IO Unit := do
  let dir := report.dir
  unless dir.isFile do
    IO.FS.createDirAll dir.path
    putEntry dir.settingsPath dir.settings
    let added := String.join (report.records.map fun (thread, r) => r.line thread ++ "\n")
    match dir.log with
    | .file earlier => putEntry dir.logPath (.file (earlier ++ added.toUTF8))
    | _ => return

/-- Draws the open dialogs of a machine. -/
def draw (m : Machine) : IO Unit := do
  let console : Console := {}
  let stack := m.terminal.getD {}
  IO.print ("\x1b[2J\x1b[H" ++ "\n".intercalate (stack.screen console.columns console.rows).displayed)
  (← IO.getStdout).flush

/-- Hands keys to a machine until its prompt is resolved or the input ends. -/
partial def interact (start : Nat) (m : Machine) : IO Machine := do
  if (Invocation.outcome? m).isSome then return m
  draw m
  let text ← (← IO.getStdin).getLine
  let m := (m.elapseTo ((← IO.monoMsNow) - start)).settle Invocation.mainThread
  if text.isEmpty then return m
  interact start ((Terminal.decode text.toList).foldl Invocation.handleInput m)

/-- Shows a prompt on the terminal, if there is one. -/
def showPrompt (s : Session) (inv : Invocation) : IO Report := do
  if inv.headlessPress.isSome || !(← (← IO.getStdin).isTty) then return s.showPrompt inv none
  IO.print "\x1b[?1049h"
  let m ← interact (← IO.monoMsNow) inv.openTerminal
  IO.print "\x1b[?1049l"
  return s.finish m

/-- Runs a session with accepted arguments. -/
def run (args : CommandLine.Args) : IO UInt32 := do
  let home := (← IO.getEnv "HOME").getD "."
  let dir ← dataDirAt (args.dataPath home)
  let report ← match Session.prepare args dir (← IO.getEnv "RUST_LOG") with
    | .ok (s, inv) => showPrompt s inv
    | .error report => pure report
  putDataDir report
  if let some e := report.warning then IO.eprintln ("Warning: " ++ e.message ++ "; using default settings")
  if let some reason := report.failure? then IO.eprintln ("Error: " ++ reason)
  unless report.output.isEmpty do IO.println report.output
  return .ofNat (report.status?.getD 1)

end MessageBox.Main

/-- Runs the program. -/
def main (argv : List String) : IO UInt32 := do
  match MessageBox.CommandLine.parse argv with
  | .ok args => MessageBox.Main.run args
  | .error .displayHelp =>
    IO.println MessageBox.CommandLine.about
    return 0
  | .error e =>
    IO.eprintln ("error: " ++ e.message)
    return 2

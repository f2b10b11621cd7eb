import MessageBox.CommandLine.Invocation
import MessageBox.Log.Journal
import MessageBox.Settings.File
import MessageBox.Terminal.Display
import MessageBox.Terminal.Drawing

/-!
# Sessions

A session is one run of the program: it loads the settings, opens the log, saves the settings if that is
asked for, shows the prompt and reports how it was resolved. The first failure ends it.
-/

namespace MessageBox

open CommandLine Log

/-- A terminal to run on: its size, and what it sends once a dialog is open. -/
structure Console where
  rows : UInt16 := 24
  columns : UInt16 := 80
  inputs : List Terminal.Input := []

/-- How a session ends. -/
inductive Ending where
  | refused (error : ArgsError)
  | failed (reason : String)
  | resolved (outcome : Outcome)
  /-- The prompt has not been answered yet. -/
  | pending

/-- What remains of a session. -/
structure Report where
  ending : Ending
  /-- The data directory as the session leaves it, without the records added to its log. -/
  dir : DataDir
  /-- Why the settings could not be loaded. -/
  warning : Option SettingsError := none
  /-- The records added to the log, with the names of their threads. -/
  records : List (String × Record) := []
  /-- The first screen with the dialog. -/
  screen : Option Terminal.Screen := none

namespace Report

/-- The exit status; none as long as the session goes on. -/
def status? (r : Report) : Option Nat :=
  match r.ending with
  | .refused .displayHelp => some 0
  | .refused _ => some 2
  | .failed _ => some 1
  | .resolved outcome => some outcome.code
  | .pending => none

/-- The first line printed. -/
def output (r : Report) : String :=
  match r.ending with
  | .refused .displayHelp => about
  | .resolved outcome => toString outcome.code
  | _ => ""

/-- Why the session failed, if it did. -/
def failure? (r : Report) : Option String :=
  match r.ending with
  | .failed reason => some reason
  | _ => none

/-- The lines of the log afterwards; none if there is no readable log. -/
def log? (r : Report) : Option (List Line) :=
  match r.dir.log.read with
  | .ok (some earlier) => some (lines earlier r.records)
  | _ => none

end Report

/-- A session under way. -/
structure Session where
  dir : DataDir
  settings : Settings
  warning : Option SettingsError
  filter : Filter
  records : List (String × Record) := []

namespace Session

/-- Loads the settings, or takes the defaults with a warning, and lays the arguments over them. -/
def start (args : Args) (dir : DataDir) (wanted : Option String) : Session :=
  let loaded := Settings.load dir
  let settings := (loaded.toOption.getD {}).overriddenBy args
  let warning := match loaded with | .error e => some e | .ok _ => none
  { dir, settings, warning, filter := .choose wanted settings.logLevel }

/-- Adds a record of a thread to the log, if the filter lets it pass. -/
def note (s : Session) (thread : String) (r : Record) : Session :=
  if s.filter.passes r then { s with records := s.records ++ [(thread, r)] } else s

/-- The report of a session that ends here. -/
def report (s : Session) (ending : Ending) : Report :=
  { ending, dir := s.dir, warning := s.warning, records := s.records }

/-- Goes on with what succeeded, or ends the session with the reason of its failure. -/
def attempt {ε α : Type} (s : Session) (message : ε → String) (result : Except ε α) : Except Report α :=
  result.mapError fun e => s.report (.failed (message e))

/-- Rotates and opens the log. -/
def openLog (s : Session) : Except OsFailure Session := do
  let dir ← s.dir.create
  let (rotated, log) := dir.log.rotate maxSize keepSize
  let log ← log.append
  let s := { s with dir := { dir with log } }
  return s.note "main" ⟨.info, "modalbox::logging", "modalbox logging initialized",
    [("log_path", .plain dir.logPath), ("rotated", .flag rotated)]⟩

/-- Saves the settings, if that is asked for. -/
def saveSettings (s : Session) (args : Args) : Except SettingsError Session :=
  if args.saveConfig then do
    let dir ← s.settings.save s.dir
    return { s with dir }.note "main"
      ⟨.info, "modalbox", "Saved config", [("path", .plain dir.settingsPath)]⟩
  else .ok s

/-- Everything before the prompt is shown. -/
def prepare (args : Args) (dir : DataDir) (wanted : Option String) :
    Except Report (Session × Invocation) := do
  let s := start args dir wanted
  let s ← s.attempt OsFailure.message s.openLog
  let s ← s.attempt SettingsError.message (s.saveSettings args)
  let inv ← s.attempt InvocationError.message (Invocation.make args s.settings)
  return (s.note "main" ⟨.info, "modalbox::app", "Running prompt",
    [("caption", .quoted inv.spec.caption), ("actions", .number inv.spec.actions.length),
     ("worker", .flag inv.worker), ("headless", .flag inv.headlessPress.isSome)]⟩, inv)

/-- Takes over what a machine has logged, and reports how the prompt was resolved. -/
def finish (s : Session) (m : Machine) : Report :=
  let s := m.log.foldl (fun s (thread, r) => s.note thread r) s
  match Invocation.outcome? m with
  | some outcome =>
    (s.note "main" ⟨.info, "modalbox", "Prompt resolved, shutting down",
      [("result", .plain outcome.text), ("code", .number outcome.code)]⟩).report (.resolved outcome)
  | none => s.report .pending

/-- Shows the prompt, on the headless toolkit or on a terminal. -/
def showPrompt (s : Session) (inv : Invocation) (console : Option Console) : Report :=
  match inv.headlessPress, console with
  | some index, _ => s.finish (inv.runHeadless index)
  | none, none => s.report (.failed OsFailure.noDevice.message)
  | none, some console =>
    { s.finish (inv.runTerminal console.inputs) with
      screen := inv.openTerminal.terminal.map (·.screen console.columns console.rows) }

/-- A whole session of arguments that were accepted; `wanted` is a log filter asked for from outside. -/
def run (args : Args) (dir : DataDir) (wanted : Option String) (console : Option Console) : Report :=
  match prepare args dir wanted with
  | .ok (s, inv) => s.showPrompt inv console
  | .error report => report

end Session

end MessageBox

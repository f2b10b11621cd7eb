import MessageBox.CommandLine.Args
import MessageBox.Machine.Log
import MessageBox.Machine.Schedule
import MessageBox.Settings.Basic

/-!
# Invocations

What a command line does: one prompt, on the UI thread or on a worker, answered by the headless toolkit or
on the terminal.
-/

namespace MessageBox

open CommandLine Machine

/-- The settings with what the command line lays over them. -/
def Settings.overriddenBy (s : Settings) (args : Args) : Settings :=
  { s with
    logLevel := args.logLevel.getD s.logLevel
    waitTimeoutMs := args.timeoutMs.orElse fun _ => s.waitTimeoutMs }

/-- Why arguments make no invocation. -/
inductive InvocationError where
  | spec (error : SpecError)
  | pressOutOfRange (press buttons : Nat)
  deriving DecidableEq

/-- The report of arguments that make no invocation. -/
def InvocationError.message : InvocationError → String
  | .spec e => e.message
  | .pressOutOfRange press buttons =>
    s!"--headless-press {press} is out of range: the dialog has {buttons} button(s)"

/-- Everything needed to show one prompt. -/
structure Invocation where
  spec : Spec
  options : Options
  /-- Shows the prompt from a worker thread. -/
  worker : Bool
  /-- Presses this button, counted from zero, instead of drawing the dialog. -/
  headlessPress : Option Nat

namespace Invocation

/-- The invocation of arguments under some settings. -/
def make (args : Args) (settings : Settings) : Except InvocationError Invocation :=
  let spec :=
    if args.actions.isEmpty then
      .ok (Spec.ofPreset args.caption args.message args.icon (args.preset.getD .ok))
    else Spec.make args.caption args.message args.icon args.actions
  match spec with
  | .error e => .error (.spec e)
  | .ok spec =>
    if args.headlessPress.any fun n => spec.actions.length < n then
      .error (.pressOutOfRange (args.headlessPress.getD 0) spec.actions.length)
    else .ok ⟨spec, settings.options, args.worker, args.headlessPress.map (· - 1)⟩

/-- The number of the one caller. -/
def caller : Nat := 0

/-- The thread that shows the prompt or waits for it. -/
def mainThread : ThreadId := 0

/-- The token that ends the loop of a terminal. -/
def exitToken : Token := .named "exit"

/-- The machine of an invocation, before any thread has started. -/
def machine (inv : Invocation) : Machine := { prompts := [{ prompt := ⟨inv.spec, inv.options⟩ }] }

/-- What the main thread does with a headless toolkit, whose UI thread is thread 1. -/
def headlessProgram (inv : Invocation) : List Op :=
  (if inv.worker then [.ask 0 (.caller caller)] else [.post [.ask 0 (.caller caller)], .receive caller])
    ++ [.close, .signal .ui, .join 1]

/-- Runs an invocation on a headless toolkit that presses a button. -/
def runHeadless (inv : Invocation) (index : Nat) : Machine :=
  let m := { inv.machine with desk := { responder := .byIndex index } }
  let m := (m.spawn "main" []).spawn "modalbox-ui" (load [.run .ui false])
  let m := ((m.settle mainThread).goto mainThread (load inv.headlessProgram)).settle mainThread
  m.waitUntil (·.finished mainThread) none

/-- The thread that hands on what the terminal sends. -/
def inputThread : ThreadId := 1

/-- The thread a worker prompt is shown on. -/
def workerThread : ThreadId := 2

/-- Shows the prompt on a terminal and then ends its loop. -/
def terminalPrompt : List Op := [.ask 0 (.caller caller), .signal exitToken]

/-- What the main thread does on a terminal. -/
def terminalProgram (inv : Invocation) : List Op :=
  if inv.worker then [.bind, .run exitToken false, .close, .join workerThread]
  else [.bind, .post terminalPrompt, .run exitToken false, .close]

/-- An invocation on a terminal, with its dialog open. -/
def openTerminal (inv : Invocation) : Machine :=
  let m := { inv.machine with terminal := some {} }
  let m := (m.spawn "main" (load inv.terminalProgram)).spawn "modalbox-input" []
  (if inv.worker then m.spawn "modalbox-worker" (load terminalPrompt) else m).settle mainThread

/-- The task that the input thread posts for what the terminal has sent. -/
def inputTask? : Terminal.Input → Option (List Op)
  | .key k => some [.key k]
  | .resize => some []
  | .focus => none

/-- Hands on what the terminal has sent. -/
def handleInput (m : Machine) (input : Terminal.Input) : Machine :=
  match inputTask? input with
  | some task => (m.goto inputThread (load [.post task])).settle inputThread
  | none => m

/-- Runs an invocation on a terminal that sends this once its dialog is open. -/
def runTerminal (inv : Invocation) (inputs : List Terminal.Input) : Machine :=
  (inputs.foldl handleInput inv.openTerminal).waitUntil (·.finished mainThread) none

/-- How a run was resolved, if it was. -/
def outcome? (m : Machine) : Option Outcome := m.outcome? caller

end Invocation

end MessageBox

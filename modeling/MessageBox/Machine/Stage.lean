import MessageBox.Machine.Log
import MessageBox.Machine.Schedule

/-!
# A headless toolkit on stage

One thread, the player, works with a headless toolkit and the prompts shown on it. The toolkit's UI thread
runs beside it, or the player pumps the loop itself. Between two steps every thread has gone as far as it
can without time passing.
-/

namespace MessageBox

open Machine

/-- A machine with a player, its UI thread, and the names given to prompts and calls. -/
structure Stage where
  machine : Machine
  /-- The UI thread, as long as there is one. -/
  ui : Option ThreadId := none
  prompts : List (String × PromptId) := []
  /-- The numbers of the callers by name, the latest first. -/
  callers : List (String × Nat) := []
  /-- How many callers have had a number. -/
  count : Nat := 0

namespace Stage

/-- The thread of the player. -/
def player : ThreadId := 0

/-- Where a prompt is shown. -/
inductive Site where
  /-- On a new thread. -/
  | worker
  /-- In a task of the loop. -/
  | ui
  /-- On the player's thread. -/
  | here
  deriving DecidableEq

/-- A stage whose toolkit has a UI thread of its own. Its start leaves no trace in the history. -/
def withUiThread (m : Machine) : Stage :=
  let m := (m.spawn "main" []).spawn "modalbox-ui" (load [.run .ui false])
  { machine := { m.settle player with history := m.history }, ui := some 1 }

/-- A stage whose player does everything. -/
def alone (m : Machine) : Stage := { machine := m.spawn "main" [] }

/-- Lets the player execute a program as far as it goes, and every other thread after it. -/
def perform (s : Stage) (program : List Op) : Stage :=
  { s with machine := (s.machine.goto player (load program)).settle player }

/-- Lets the player execute a program to its end, however long that takes. -/
def complete (s : Stage) (program : List Op) : Stage :=
  let s := s.perform program
  { s with machine := s.machine.waitUntil (·.finished player) none }

/-- Whether a thread has nothing to do until it is given a task. -/
def atRest (m : Machine) (t : ThreadId) : Bool :=
  m.threads[t]?.all fun th => th.asleep && th.code.head?.any fun i => i matches .pump _

/-- Lets the UI thread work off its tasks, however long that takes; a loop that is closed is not waited
for. -/
def calm (s : Stage) : Stage :=
  match s.ui with
  | none => s
  | some ui =>
    if s.machine.loop.closed then s
    else { s with machine := s.machine.waitUntil (atRest · ui) none }

/-- What happened on a stage since an earlier one. -/
def since (s earlier : Stage) : List (ThreadId × Event) :=
  s.machine.history.toList.drop earlier.machine.history.size

/-- The first event since an earlier stage that `f` recognises. -/
def observe {β : Type} (s earlier : Stage) (f : Event → Option β) : Option β :=
  (s.since earlier).findSome? fun (_, e) => f e

/-- The result of the player's post since an earlier stage. -/
def postFailure (s earlier : Stage) : Option ToolkitFailure :=
  (s.observe earlier fun e => match e with | .posted f => some f | _ => none).join

/-- The prompt of a name. -/
def prompt? (s : Stage) (name : String) : Option PromptId := s.prompts.lookup name

/-- Adds a prompt under a name. -/
def addPrompt (s : Stage) (name : String) (p : Prompt) : Stage :=
  { s with
    prompts := (name, s.machine.prompts.length) :: s.prompts
    machine := { s.machine with prompts := s.machine.prompts ++ [{ prompt := p }] } }

/-- How long, in milliseconds, the player waits for a dialog to appear. -/
def patience : Nat := 5000

/-- Waits until a dialog beyond the first `count` is shown or the call of a caller is over. -/
def awaitDialog (s : Stage) (count number : Nat) : Stage :=
  { s with
    machine := s.machine.waitUntil (fun m => count < m.desk.shown.length || (m.outcome? number).isSome)
      (some (s.machine.clock + patience)) }

/-- Starts to show a prompt under the name of a caller, and waits for its dialog. Only a refused post keeps it
from starting. -/
def start (s : Stage) (p : PromptId) (site : Site) (caller : String) : Except ToolkitFailure Stage :=
  let ask : Op := .ask p (.caller s.count)
  let s := { s with machine.latest := some p }
  let shown := s.machine.desk.shown.length
  let named := { s with callers := (caller, s.count) :: s.callers, count := s.count + 1 }
  match site with
  | .worker =>
    let worker := s.machine.threads.length
    let machine := (s.machine.spawn "worker" (load [ask])).settle worker
    .ok ({ named with machine }.awaitDialog shown s.count)
  | .here => .ok (named.complete [ask])
  | .ui =>
    let after := s.perform [.post [ask]]
    match after.postFailure s with
    | some e => .error e
    | none => .ok ({ named with machine := after.machine }.awaitDialog shown s.count)

/-- Waits for the call of a caller; none if it never ends. -/
def join (s : Stage) (number : Nat) : Option Outcome × Stage :=
  let m := s.machine.waitUntil (fun m => (m.outcome? number).isSome) none
  (m.outcome? number, { s with machine := m })

/-- Offers a dialog of the player's. -/
def offer (s : Stage) (d : Dialog (List Op)) : Option ToolkitFailure × Stage :=
  let after := s.perform [.offer d]
  ((after.observe s fun e => match e with | .offered f => some f | _ => none).join, after)

/-- Presses a pending dialog through the loop. -/
def press (s : Stage) (index : Option Nat) (slot : Slot) : Option ToolkitFailure × Stage :=
  let after := s.perform [.press index slot]
  (after.postFailure s, after)

/-- Tries to dismiss the last pending dialog. -/
def dismiss (s : Stage) : Bool × Stage :=
  let after := s.perform [.dismiss]
  ((after.observe s fun e => match e with | .dismissed d => some d.isSome | _ => none).getD false, after)

/-- Claims the loop for the player. -/
def bind (s : Stage) : Bool × Stage :=
  let after := s.perform [.bind]
  ((after.observe s fun e => match e with | .bound b => some b | _ => none).getD false, after)

/-- Who takes itself for the UI thread. -/
structure UiView where
  /-- Whether the player does. -/
  here : Bool
  /-- If there is a UI thread, whether a task on it does; a loop that is closed takes no task. -/
  there : Option (Option Bool)

/-- Whether the player's thread is the UI thread and, if there is a UI thread, what a task on it sees. -/
def uiThreads (s : Stage) : UiView × Stage :=
  let here := s.machine.loop.owner == some player
  match s.ui with
  | none => (⟨here, none⟩, s)
  | some _ =>
    let after := s.perform [.post [.inspect]]
    let seen := after.observe s fun e => match e with | .inspected _ _ owned => some owned | _ => none
    (⟨here, some seen⟩, after)

/-- Runs the loop on the player's thread until it has worked off what is queued now. -/
def pump (s : Stage) : Option ToolkitFailure × Stage :=
  let token := Token.named (toString s.machine.history.size)
  let posted := s.perform [.post [.signal token]]
  match posted.postFailure s with
  | some e => (some e, posted)
  | none =>
    let after := posted.complete [.run token false]
    let failure := after.observe posted fun e => match e with | .ran _ (.refused e) _ => some e | _ => none
    (failure, after)

/-- How an attempt to end the UI thread went. -/
inductive Shutdown where
  | ended
  | noThread
  /-- A nested run is alive; nothing was done. -/
  | busy
  deriving DecidableEq

/-- Closes the loop, ends the UI thread and waits for it. -/
def dropUi (s : Stage) : Shutdown × Stage :=
  match s.ui with
  | none => (.noThread, s)
  | some ui =>
    if 1 < s.machine.loop.depth then (.busy, s)
    else (.ended, { s.complete [.close, .signal .ui, .join ui] with ui := none })

/-- What button handlers have left behind: the labels, and the outcomes of prompts they showed. -/
inductive Mark where
  | label (text : String)
  | outcome (label : String) (outcome : Outcome)
  deriving DecidableEq

/-- The marks of all handlers so far. -/
def fired (s : Stage) : List Mark :=
  s.machine.history.toList.filterMap fun (_, e) =>
    match e with
    | .said text => some (.label text)
    | .resolved _ (.note label) outcome => some (.outcome label outcome)
    | _ => none

/-- How many nested runs were begun and how many have ended. -/
def nested (s : Stage) : Nat × Nat :=
  let count (p : Event → Bool) := s.machine.history.toList.countP fun (_, e) => p e
  (count fun e => e matches .nestEntered _, count fun e => e matches .nestLeft _)

end Stage

end MessageBox

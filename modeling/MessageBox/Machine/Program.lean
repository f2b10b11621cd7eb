import MessageBox.Failure
import MessageBox.Prompt
import MessageBox.Terminal.Stack

/-!
# Programs

What the threads of a machine and the tasks of its dispatch loop do, as data. A program is a list of
operations; operations that create tasks, threads and buttons carry the programs of these.
-/

namespace MessageBox.Machine

/-- A thread, by its place in the machine. -/
abbrev ThreadId := Nat

/-- A prompt, by its place in the machine. -/
abbrev PromptId := Nat

/-- One showing of a prompt, by its place in the machine. -/
abbrev CallId := Nat

/-- A dialog offered to the toolkit, by its place in the machine. -/
abbrev DialogId := Nat

/-- What ends one run of the dispatch loop. -/
inductive Token where
  | named (name : String)
  /-- Ends the nested run of a prompt shown on the UI thread. -/
  | call (id : CallId)
  /-- Ends the run of the UI thread. -/
  | ui
  deriving DecidableEq

/-- Who wants to know how a showing was resolved. -/
inductive Ticket where
  /-- A button handler that notes the result under its label. -/
  | note (label : String)
  /-- A caller, by number. -/
  | caller (number : Nat)
  deriving DecidableEq

/-- How the headless toolkit answers dialogs. -/
inductive Responder where
  /-- Presses this slot. -/
  | press (slot : Slot)
  /-- Presses the button of this index. -/
  | byIndex (index : Nat)
  /-- Leaves the dialog pending. -/
  | manual
  deriving DecidableEq, Inhabited

/-- The slot a responder chooses for a dialog, which the dialog may lack. -/
def Responder.choose {α : Type} (r : Responder) (d : Dialog α) : Option Slot :=
  match r with
  | .press slot => some slot
  | .byIndex index => d.buttons[index]?.map (·.slot)
  | .manual => none

/-- One operation of a program. -/
inductive Op where
  /-- Leaves a text in the history. -/
  | say (text : String)
  /-- Posts a task to the dispatch loop. -/
  | post (task : List Op)
  /-- Runs the dispatch loop until the token is signalled. A panic of a task ends here, unless it is
  rethrown. -/
  | run (token : Token) (rethrow : Bool)
  | signal (token : Token)
  | checkSignal (token : Token)
  /-- Notes depth, queue length and ownership of the loop. -/
  | inspect
  /-- Notes the descriptions of the loop and a token. -/
  | describe (token : Token)
  /-- Claims the loop for this thread. -/
  | bind
  /-- Closes the loop to new tasks. -/
  | close
  | panic
  /-- Runs a program on a new thread and waits for it. -/
  | fork (body : List Op)
  /-- Runs a program on a new thread after some time. -/
  | later (ms : Nat) (body : List Op)
  /-- Waits for a thread to end. -/
  | join (thread : ThreadId)
  /-- Waits until the call of a caller is resolved. -/
  | receive (caller : Nat)
  /-- Shows a prompt and waits for its outcome. -/
  | ask (prompt : PromptId) (ticket : Ticket)
  | interrupt (prompt : PromptId)
  /-- Offers a dialog of its own to the toolkit. -/
  | offer (dialog : Dialog (List Op))
  /-- Posts a press of the pending dialog of an index, or of the last one. -/
  | press (index : Option Nat) (slot : Slot)
  /-- Tries to close the last pending dialog without a button. -/
  | dismiss
  | respond (responder : Responder)
  /-- Makes the next dialog fail. -/
  | failNext (failure : ToolkitFailure)
  /-- Handles a key press of the terminal. -/
  | key (key : Terminal.Key)

end MessageBox.Machine

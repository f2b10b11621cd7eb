import MessageBox.Machine.Program
import MessageBox.Sync.Handoff

/-!
# States of the machine

A machine holds threads, the dispatch loop they share, the toolkit that presents dialogs, and the prompts
shown on it. A thread's code is its control stack: the instruction at its head comes next, and a live run
of the dispatch loop is a `pump` instruction in it. Everything a thread does to shared state between
taking and releasing one lock is one instruction, and notifying sleepers is an instruction of its own.
-/

namespace MessageBox.Machine

/-- What pressing a button does. -/
inductive Reaction where
  | script (body : List Op)
  /-- Answers a call with a code and, on the UI thread, ends its nested run. -/
  | answer (call : CallId) (code : Nat) (stops : Bool)

/-- Who offered a dialog. -/
inductive Origin where
  /-- A program, by itself. -/
  | program
  /-- A call on the UI thread, before its nested run. -/
  | nested (call : CallId)
  /-- The task a call on another thread has posted. -/
  | posted (call : CallId)
  deriving DecidableEq

/-- One step of a thread. -/
inductive Instr where
  | op (op : Op)
  /-- A live run of the loop: takes the next task, sleeps, or leaves. -/
  | pump (token : Token)
  /-- Reports a run that is over; panics of its tasks end here. -/
  | returned (token : Token) (rethrow : Bool)
  /-- Notifies the thread that sleeps in the loop. -/
  | wakeLoop
  /-- Goes on once the clock has reached a time. -/
  | sleepUntil (time : Nat)
  /-- Makes a call the active one of its prompt. -/
  | activate (call : CallId)
  /-- Posts the task that creates the dialog of a call. -/
  | schedule (call : CallId)
  /-- Creates the dialog of a call and offers it. -/
  | create (call : CallId)
  /-- Fixes the deadline of a call's wait. -/
  | beginWait (call : CallId)
  /-- Waits for a call's handoff. -/
  | await (call : CallId) (deadline : Option Nat)
  /-- Starts the nested run of a call. -/
  | nest (call : CallId)
  /-- The nested run of a call is over. -/
  | nestLeft (call : CallId)
  /-- Reads what was recorded for a call. -/
  | collect (call : CallId)
  /-- Leaves the prompt of a call without an active call. -/
  | deactivate (call : CallId) (outcome : Outcome)
  /-- Returns from a call. -/
  | resolve (call : CallId) (outcome : Outcome)
  /-- Hands a dialog to the toolkit. -/
  | present (dialog : DialogId)
  /-- Uses up an injected failure, if there is one. -/
  | accept (dialog : DialogId)
  /-- Adds a dialog to those shown. -/
  | exhibit (dialog : DialogId)
  /-- Asks the responder about a dialog. -/
  | choose (dialog : DialogId)
  /-- Posts the press the responder chose. -/
  | schedulePress (dialog : DialogId) (slot : Slot)
  /-- Adds a dialog to the pending ones. -/
  | keep (dialog : DialogId)
  /-- Takes a pending dialog to press it. -/
  | takePending (index : Option Nat) (slot : Slot)
  /-- Presses a dialog that was pending at an index. -/
  | pressTaken (place : Nat) (dialog : DialogId) (slot : Slot)
  /-- Puts a dialog back among the pending ones. -/
  | putBack (place : Nat) (dialog : DialogId)
  /-- Presses a dialog as its responder chose. -/
  | pressChosen (dialog : DialogId) (slot : Slot)
  /-- Records the answer of a call. -/
  | complete (call : CallId) (code : Nat)
  /-- Releases a call without an answer. -/
  | release (call : CallId)
  /-- Notifies the thread that sleeps in a call. -/
  | wakeCall (call : CallId)
  /-- Reports a failure to show a dialog. -/
  | report (failure : ToolkitFailure)
  /-- Acts on a terminal dialog that was closed. -/
  | conclude (view : Terminal.View Reaction) (slot : Option Slot)

/-- A task of the dispatch loop. -/
abbrev Task := List Instr

/-- A thread and its control stack. -/
structure Thread where
  name : String
  code : List Instr
  /-- Sleeps in the instruction at the head of its code. -/
  asleep : Bool := false
  panicked : Bool := false

/-- The dispatch loop the threads share. -/
structure Loop where
  queue : List Task := []
  closed : Bool := false
  owner : Option ThreadId := none
  depth : Nat := 0
  /-- The tokens signalled so far. -/
  signalled : List Token := []

/-- The headless toolkit. -/
structure Desk where
  responder : Responder := .manual
  /-- The dialogs that wait for a press, oldest first. -/
  pending : List DialogId := []
  /-- What was shown so far, oldest first. -/
  shown : List Snapshot := []
  /-- Fails the next dialog. -/
  failNext : Option ToolkitFailure := none

/-- Where a call shows its prompt. -/
inductive Context where
  | uiThread
  | worker
  deriving DecidableEq

/-- The name of a context in descriptions. -/
def Context.text : Context → String
  | .uiThread => "UiThread"
  | .worker => "Worker"

/-- One showing of a prompt. -/
structure Call where
  prompt : PromptId
  spec : Spec
  options : Options
  context : Context
  ticket : Ticket
  handoff : Handoff Nat := {}
  outcome : Option Outcome := none

/-- A prompt, and the call that an interruption would reach. -/
structure ActivePrompt where
  prompt : Prompt
  active : Option CallId := none

/-- A dialog offered to the toolkit. -/
structure Offer where
  dialog : Dialog Reaction
  origin : Origin

/-- Behaviour laid over a toolkit; by default there is none. -/
structure Overrides where
  /-- Answers whether a thread is the UI thread. -/
  uiThread : Option Bool := none
  /-- Presses this button of a dialog as soon as it is offered. -/
  instantPress : Option Slot := none
  /-- Runs tasks for the UI thread at once, where they are scheduled. -/
  inlineTasks : Bool := false
  /-- Fails every nested run. -/
  nestedFailure : Option ToolkitFailure := none
  /-- Interrupts the prompt that a caller started last, before a dialog is offered. -/
  interruptOnShow : Bool := false

/-- What a run of the loop ended with. -/
inductive RunResult where
  | ok
  | refused (failure : ToolkitFailure)
  | panicked

/-- What a thread did. -/
inductive Event where
  | said (text : String)
  /-- A task was put into the queue. -/
  | accepted (task : Task)
  /-- A task was taken from the queue. -/
  | started (task : Task)
  /-- The result of posting for a program. -/
  | posted (failure : Option ToolkitFailure)
  | entered (depth : Nat)
  | left (depth : Nat)
  | ran (token : Token) (result : RunResult) (depth : Nat)
  | sawSignal (signalled : Bool)
  | inspected (depth pending : Nat) (owned : Bool)
  | described (loop token : String)
  | bound (owned : Bool)
  | asking (call : CallId) (caption : String) (actions : Nat) (context : Context)
  | nestEntered (call : CallId)
  | nestLeft (call : CallId)
  | waitInterrupted (call : CallId) (caption : String)
  | waitTimedOut (call : CallId) (caption : String) (limit : Option Nat)
  | resolved (call : CallId) (ticket : Ticket) (outcome : Outcome)
  | interruptIgnored
  | failed (failure : ToolkitFailure)
  | pressScheduled (dialog : DialogId) (slot : Slot) (title : String)
  | chosenSlotMissing (slot : Slot)
  | nothingToPress (slot : Slot) (index : Option Nat)
  | noSuchButton (dialog : DialogId) (slot : Slot) (title : String)
  /-- A button's handler was started. -/
  | pressed (dialog : DialogId) (slot : Slot)
  | dismissalRefused (title : String)
  | dismissed (dialog : Option DialogId)
  /-- The result of offering a dialog for a program. -/
  | offered (failure : Option ToolkitFailure)
  | opening (title : String) (buttons : Nat)
  | logged (record : Log.Record)

end MessageBox.Machine

namespace MessageBox

open Machine in
/-- Threads, the loop they share, the toolkit, and the prompts shown on it. -/
structure Machine where
  threads : List Thread := []
  loop : Loop := {}
  desk : Desk := {}
  /-- The open dialogs of a terminal; none for the headless toolkit. -/
  terminal : Option (Terminal.Stack Reaction) := none
  overrides : Overrides := {}
  prompts : List ActivePrompt := []
  calls : List Call := []
  dialogs : List Offer := []
  /-- The prompt that a caller started last. -/
  latest : Option PromptId := none
  lastError : String := ""
  clock : Nat := 0
  history : Array (ThreadId × Event) := #[]

end MessageBox

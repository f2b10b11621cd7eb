import MessageBox.Machine.Log
import MessageBox.Machine.Schedule

/-!
# Programs on a dispatch loop

A program runs on a thread of its own against a fresh loop. It is stuck if it, or a thread it left behind,
has not ended when its time is over.
-/

namespace MessageBox.Machine

/-- How a program ended. -/
inductive Ending where
  | done
  | panic
  | stuck
  deriving DecidableEq

/-- The time a program has, in milliseconds. -/
def timeLimit : Nat := 400

/-- Whether no thread has anything left to do. -/
def idle (m : Machine) : Bool := m.threads.all (·.code.isEmpty)

/-- Runs a program on a fresh loop, with the threads it leaves behind. -/
def runProgram (program : List Op) : Machine :=
  let m := settle (spawn {} "main" (load program)) 0
  m.waitUntil idle (some timeLimit)

/-- How the program of a machine's first thread ended, for which the threads it left behind have to end
too. -/
def ending (m : Machine) : Ending :=
  if !m.idle then .stuck else if m.threads[0]?.any (·.panicked) then .panic else .done

end MessageBox.Machine

/-!
# Failures

Why a wait ended without a permit and why a toolkit could not present a dialog, with the texts that
report it.
-/

namespace MessageBox

/-- Why a wait ended without a permit. -/
inductive WaitFailure where
  | interrupted
  | timedOut
  deriving DecidableEq, Inhabited

/-- The report of a failed wait. -/
def WaitFailure.message : WaitFailure → String
  | .interrupted => "wait interrupted"
  | .timedOut => "wait timed out"

/-- Why a toolkit could not present a dialog. -/
inductive ToolkitFailure where
  /-- The loop is closed or belongs to another thread. -/
  | unavailable (reason : String)
  /-- The dialog could not be drawn. -/
  | render (reason : String)
  deriving DecidableEq, Inhabited

namespace ToolkitFailure

/-- The report of a toolkit failure. -/
def message : ToolkitFailure → String
  | .unavailable reason => "toolkit unavailable: " ++ reason
  | .render reason => "dialog rendering failed: " ++ reason

/-- A task was offered to a closed loop. -/
def closed : ToolkitFailure := .unavailable "dispatch loop is closed"

/-- A thread that does not own the loop tried to run it. -/
def foreign : ToolkitFailure := .unavailable "dispatch loop is owned by another thread"

end ToolkitFailure

end MessageBox

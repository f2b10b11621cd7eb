import MessageBox.Failure

/-!
# Waiting on guarded state

A waiter looks at the state it waits on each time it wakes up. `Wait.check` is one such look and
`Wait.run` a whole wait over the states and clock readings of its successive wake-ups.
Interruption beats readiness, and readiness beats an expired deadline.
-/

namespace MessageBox

/-- How a waiter reads the state `σ` it waits on. -/
structure Wait (σ : Type) where
  /-- The state lets the waiter go on. -/
  ready : σ → Bool
  /-- An interruption is pending. -/
  interrupted : σ → Bool
  /-- Takes a pending interruption out of the state. -/
  clear : σ → σ

/-- What one look decides. -/
inductive Look where
  | interrupted
  | ready
  | timedOut
  /-- Sleep again, for at most the remaining time if there is a deadline. -/
  | sleep (remaining : Option Nat)
  deriving DecidableEq

namespace Wait

variable {σ : Type}

/-- One look at the state `s` at time `now`. -/
def check (w : Wait σ) (deadline : Option Nat) (now : Nat) (s : σ) : Look :=
  if w.interrupted s then .interrupted
  else if w.ready s then .ready
  else
    match deadline with
    | none => .sleep none
    | some deadline => if deadline ≤ now then .timedOut else .sleep (some (deadline - now))

/-- Where a wait ended: at which look, how, and the state it left behind. -/
structure Ending (σ : Type) where
  looks : Nat
  result : Except WaitFailure Unit
  state : σ

/-- A wait over the states and clock readings of its successive looks; none if all of them end in sleep. -/
def run (w : Wait σ) (deadline : Option Nat) : List (σ × Nat) → Option (Ending σ)
  | [] => none
  | (s, now) :: later =>
    match w.check deadline now s with
    | .interrupted => some ⟨0, .error .interrupted, w.clear s⟩
    | .ready => some ⟨0, .ok (), s⟩
    | .timedOut => some ⟨0, .error .timedOut, s⟩
    | .sleep _ => (w.run deadline later).map fun e => { e with looks := e.looks + 1 }

end Wait

end MessageBox

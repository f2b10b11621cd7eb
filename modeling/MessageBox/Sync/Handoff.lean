import MessageBox.Sync.Wait

/-!
# Handoff

A slot that is written at most once, together with the permits that wake whoever waits for it. Both
change in one guarded step, so a permit released by the writer is never seen before its value.
-/

namespace MessageBox

/-- The guarded state of a handoff. -/
structure Handoff (α : Type) where
  value : Option α := none
  permits : Nat := 0
  interruptPending : Bool := false
  deriving DecidableEq, Inhabited

namespace Handoff

variable {α : Type}

/-- Records a value and releases one permit, unless a value is already there. -/
def complete (a : α) (h : Handoff α) : Bool × Handoff α :=
  match h.value with
  | some _ => (false, h)
  | none => (true, { h with value := some a, permits := h.permits + 1 })

/-- Releases a permit without a value. -/
def releaseEmpty (h : Handoff α) : Handoff α := { h with permits := h.permits + 1 }

/-- Leaves an interruption for one waiter. -/
def interrupt (h : Handoff α) : Handoff α := { h with interruptPending := true }

/-- Takes one permit. -/
def take (h : Handoff α) : Handoff α := { h with permits := h.permits - 1 }

/-- Waiting for a permit. -/
def wait : Wait (Handoff α) where
  ready h := 0 < h.permits
  interrupted h := h.interruptPending
  clear h := { h with interruptPending := false }

end Handoff

end MessageBox

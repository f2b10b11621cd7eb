import MessageBox.Sync.Wait

/-!
# Counting semaphore

Permits are 32-bit words. A release that would pass the largest word stops there, and permits are only
taken when they are all there, so the count never wraps.
-/

namespace MessageBox

/-- The guarded state of a counting semaphore. -/
structure Semaphore where
  permits : UInt32 := 0
  interruptPending : Bool := false
  deriving DecidableEq, Inhabited

namespace Semaphore

/-- The most permits a semaphore can hold. -/
def limit : Nat := 0xFFFFFFFF

/-- Takes one permit if there is one. -/
def tryAcquire (s : Semaphore) : Bool × Semaphore :=
  if 0 < s.permits then (true, { s with permits := s.permits - 1 }) else (false, s)

/-- Adds `n` permits, up to the limit. -/
def release (n : UInt32) (s : Semaphore) : Semaphore :=
  { s with permits := if s.permits.toNat + n.toNat ≤ limit then s.permits + n else .ofNat limit }

/-- Leaves an interruption for one waiter. -/
def interrupt (s : Semaphore) : Semaphore := { s with interruptPending := true }

/-- Takes `n` permits at once. -/
def take (n : UInt32) (s : Semaphore) : Semaphore := { s with permits := s.permits - n }

/-- Waiting for `n` permits. -/
def wait (n : UInt32) : Wait Semaphore where
  ready s := n ≤ s.permits
  interrupted s := s.interruptPending
  clear s := { s with interruptPending := false }

end Semaphore

end MessageBox

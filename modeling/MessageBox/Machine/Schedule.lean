import MessageBox.Machine.Step

/-!
# Running a machine

One interleaving among all: a thread runs until it cannot go on, then the first thread that can takes
over, and time passes only when no thread can go on.
-/

namespace MessageBox.Machine

/-- More steps than any finite program of reasonable size takes. -/
def budget : Nat := 10000000

/-- The next thread to run and the machine after its step: the current thread if it can go on, else the
first that can. -/
def next? (m : Machine) (current : ThreadId) : Option (ThreadId × Machine) :=
  match m.exec current with
  | some m' => some (current, m')
  | none => (List.range m.threads.length).findSome? fun t => (m.exec t).map fun m' => (t, m')

/-- Runs until no thread can go on, for at most `fuel` steps. -/
def settleFrom : (fuel : Nat) → ThreadId → Machine → Machine
  | 0, _, m => m
  | fuel + 1, current, m =>
    match m.next? current with
    | none => m
    | some (t, m') => settleFrom fuel t m'

/-- Runs until no thread can go on, beginning with the given thread. -/
def settle (m : Machine) (first : ThreadId) : Machine := settleFrom budget first m

/-- The time a thread waits for, if it waits for one. -/
def Thread.due? (th : Thread) : Option Nat :=
  match th.code with
  | .sleepUntil time :: _ => some time
  | .await _ deadline :: _ => if th.asleep then deadline else none
  | _ => none

/-- The first time some thread waits for. -/
def nextDue? (m : Machine) : Option Nat := (m.threads.filterMap Thread.due?).min?

/-- Sets the clock to a time and wakes the threads that waited for it. -/
def elapseTo (m : Machine) (time : Nat) : Machine :=
  { m with
    clock := max m.clock time
    threads := m.threads.map fun th =>
      if th.due?.any (· ≤ time) then { th with asleep := false } else th }

/-- Lets time pass, up to `limit`, until `stop` holds; `rounds` bounds how often a thread is waited for. -/
def playUntil (stop : Machine → Bool) (limit : Option Nat) : (rounds : Nat) → Machine → Machine
  | 0, m => m
  | rounds + 1, m =>
    if stop m then m
    else
      match m.nextDue? with
      | none => m
      | some time =>
        if limit.any (· < time) then m
        else playUntil stop limit rounds (settle (m.elapseTo time) 0)

/-- Lets time pass until `stop` holds or no thread waits for a time within the limit. -/
def waitUntil (m : Machine) (stop : Machine → Bool) (limit : Option Nat) : Machine :=
  playUntil stop limit budget m

end MessageBox.Machine

import MessageBox.Sync.Monitor

/-!
# Rehearsals of a monitor

One thread plays a list of steps on a monitor, with waiters it has spawned beside it. Time is virtual:
it passes only where the player lets it, and between two steps every thread that can move has moved.
-/

namespace MessageBox

namespace Rehearsal

/-- Time a new waiter gets to start. -/
def startUp : Nat := 5

/-- Time the player watches its waiters in one `watch` step. -/
def watchTime : Nat := 15

/-- A wait that would last longer than this counts as endless. -/
def patience : Nat := 1000

end Rehearsal

/-- A monitor in rehearsal: its waiters are those that still wait, and `arrivals` holds the results nobody
has collected yet, oldest first. -/
structure Rehearsal (σ δ β : Type) where
  monitor : Monitor σ δ β
  arrivals : List (Except WaitFailure β) := []

namespace Rehearsal

variable {σ υ δ β : Type}

/-- A step of the player. -/
inductive Step (υ δ : Type) where
  | update (u : υ)
  /-- The player itself waits. -/
  | wait (demand : δ) (timeout : Option Nat)
  | spawn (demand : δ) (timeout : Option Nat)
  /-- Collects the next `count` results. -/
  | join (count : Nat)
  /-- Collects what has arrived after a while. -/
  | watch

/-- What the player sees of a step. -/
inductive Reply (β : Type) where
  | updated (granted : Bool)
  | waited (result : Except WaitFailure β)
  /-- The wait would not have ended; it was given up and took nothing. -/
  | blocked
  | spawned
  | collected (results : List (Except WaitFailure β)) (waiting : Nat)

/-- The result of a waiter that has one. -/
def result? (w : Waiter δ β) : Option (Except WaitFailure β) :=
  match w.phase with
  | .finished r => some r
  | _ => none

/-- How many spawned waiters have not been collected. -/
def outstanding (p : Rehearsal σ δ β) : Nat := p.monitor.waiters.length + p.arrivals.length

/-- Notifies and lets every waiter look once; a look never makes another waiter ready. -/
def settle (r : Resource σ υ δ β) (m : Monitor σ δ β) : Monitor σ δ β :=
  m.run r (List.replicate m.unannounced .announce ++ (List.range m.waiters.length).map .look)

/-- Lets time pass, with the waiters whose deadline is reached waking up. -/
def elapse (r : Resource σ υ δ β) (ms : Nat) (m : Monitor σ δ β) : Monitor σ δ β :=
  let m := m.step r (.pass ms)
  let due := (List.range m.waiters.length).filter fun i =>
    (m.waiters[i]?.bind (·.deadline)).any (· ≤ m.clock)
  settle r (m.run r (due.map .rouse))

/-- Moves the results of finished waiters to the arrivals. -/
def gather (p : Rehearsal σ δ β) (m : Monitor σ δ β) : Rehearsal σ δ β :=
  { monitor := { m with waiters := m.waiters.filter fun w => (result? w).isNone },
    arrivals := p.arrivals ++ m.waiters.filterMap result? }

/-- The time until the first deadline of a waiter. -/
def untilDeadline (m : Monitor σ δ β) : Option Nat :=
  (m.waiters.filterMap (·.deadline)).min?.map (· - m.clock)

/-- Lets time pass until `count` results have arrived, at most `rounds` deadlines long. -/
def awaitArrivals (r : Resource σ υ δ β) (count : Nat) : (rounds : Nat) → Rehearsal σ δ β → Rehearsal σ δ β
  | 0, p => p
  | rounds + 1, p =>
    if count ≤ p.arrivals.length then p
    else
      match untilDeadline p.monitor with
      | none => p
      | some ms => awaitArrivals r count rounds (p.gather (elapse r ms p.monitor))

/-- Plays one step. -/
def play (r : Resource σ υ δ β) (p : Rehearsal σ δ β) : Step υ δ → Reply β × Rehearsal σ δ β
  | .update u =>
    (.updated (r.update u p.monitor.state).1, p.gather (settle r (p.monitor.step r (.update u))))
  | .wait demand timeout =>
    let m := settle r (p.monitor.step r (.enter demand timeout))
    let m :=
      match m.waiters.getLast?.bind result?, timeout with
      | none, some ms => if ms ≤ patience then elapse r ms m else m
      | _, _ => m
    let reply := (m.waiters.getLast?.bind result?).elim .blocked .waited
    (reply, p.gather { m with waiters := m.waiters.dropLast })
  | .spawn demand timeout =>
    (.spawned, p.gather (elapse r startUp (settle r (p.monitor.step r (.enter demand timeout)))))
  | .join count =>
    let p := awaitArrivals r count p.outstanding p
    let rest := { p with arrivals := p.arrivals.drop count }
    (.collected (p.arrivals.take count) rest.outstanding, rest)
  | .watch =>
    let p := p.gather (elapse r watchTime p.monitor)
    let rest := { p with arrivals := [] }
    (.collected p.arrivals rest.outstanding, rest)

end Rehearsal

end MessageBox

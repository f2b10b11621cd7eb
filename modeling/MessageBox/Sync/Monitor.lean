import MessageBox.Sync.Handoff
import MessageBox.Sync.Semaphore

/-!
# Monitors

A monitor is a guarded state with the threads that wait on it. An update of the state and the
notification that follows it are separate moves, a waiter may be roused at any time, and time passes by
moves of its own, so a list of moves is one interleaving of any number of updating and waiting threads.
-/

namespace MessageBox

/-- The operations on a guarded state `σ`: updates `υ`, and waits for a demand `δ` that yield a `β`. -/
structure Resource (σ υ δ β : Type) where
  /-- Whether an update is granted, and the state after it. -/
  update : υ → σ → Bool × σ
  /-- Whether a thread whose update was granted notifies the waiters afterwards. -/
  announces : υ → Bool
  /-- How a waiter with a demand reads the state. -/
  wait : δ → Wait σ
  /-- What a waiter whose demand is met gets, and the state it leaves. -/
  take : δ → σ → β × σ

/-- Where a waiter stands. -/
inductive Phase (β : Type) where
  /-- About to look at the state. -/
  | checking
  | asleep
  | finished (result : Except WaitFailure β)

/-- A thread that waits on a monitor. -/
structure Waiter (δ β : Type) where
  demand : δ
  deadline : Option Nat
  phase : Phase β

/-- Wakes a waiter that sleeps. -/
def Waiter.rouse {δ β : Type} (w : Waiter δ β) : Waiter δ β :=
  match w.phase with
  | .asleep => { w with phase := .checking }
  | _ => w

/-- A guarded state, its waiters, and how many updates still have to notify them. -/
structure Monitor (σ δ β : Type) where
  state : σ
  waiters : List (Waiter δ β) := []
  unannounced : Nat := 0
  clock : Nat := 0

/-- One move of an interleaving. -/
inductive Monitor.Move (υ δ : Type) where
  /-- A thread starts to wait, with a time limit or without. -/
  | enter (demand : δ) (timeout : Option Nat)
  /-- A thread updates the state. -/
  | update (u : υ)
  /-- A thread that has updated the state notifies all waiters. -/
  | announce
  /-- A waiter that is awake looks at the state. -/
  | look (i : Nat)
  /-- A sleeping waiter wakes up by itself. -/
  | rouse (i : Nat)
  /-- Time passes. -/
  | pass (ms : Nat)

namespace Monitor

variable {σ υ δ β : Type}

/-- A waiter's look at the state: the waiter and the state afterwards. -/
def look (r : Resource σ υ δ β) (now : Nat) (s : σ) (w : Waiter δ β) : Waiter δ β × σ :=
  match w.phase with
  | .checking =>
    match (r.wait w.demand).check w.deadline now s with
    | .interrupted => ({ w with phase := .finished (.error .interrupted) }, (r.wait w.demand).clear s)
    | .timedOut => ({ w with phase := .finished (.error .timedOut) }, s)
    | .ready => ({ w with phase := .finished (.ok (r.take w.demand s).1) }, (r.take w.demand s).2)
    | .sleep _ => ({ w with phase := .asleep }, s)
  | _ => (w, s)

/-- The monitor after one move; a move that nobody can make changes nothing. -/
def step (r : Resource σ υ δ β) (m : Monitor σ δ β) : Move υ δ → Monitor σ δ β
  | .enter demand timeout =>
    { m with waiters := m.waiters ++ [⟨demand, timeout.map (m.clock + ·), .checking⟩] }
  | .update u =>
    { m with state := (r.update u m.state).2,
             unannounced :=
               if (r.update u m.state).1 && r.announces u then m.unannounced + 1 else m.unannounced }
  | .announce =>
    if m.unannounced = 0 then m
    else { m with waiters := m.waiters.map Waiter.rouse, unannounced := m.unannounced - 1 }
  | .look i =>
    match m.waiters[i]? with
    | none => m
    | some w =>
      { m with waiters := m.waiters.set i (look r m.clock m.state w).1,
               state := (look r m.clock m.state w).2 }
  | .rouse i => { m with waiters := m.waiters.modify i Waiter.rouse }
  | .pass ms => { m with clock := m.clock + ms }

/-- The monitor after an interleaving. -/
def run (r : Resource σ υ δ β) (m : Monitor σ δ β) (moves : List (Move υ δ)) : Monitor σ δ β :=
  moves.foldl (step r) m

end Monitor

/-- Updates of a semaphore. -/
inductive Semaphore.Update where
  | tryAcquire
  | release (n : UInt32)
  | interrupt
  deriving DecidableEq

/-- A semaphore as a resource: demands are numbers of permits. -/
def Semaphore.resource : Resource Semaphore Semaphore.Update UInt32 Unit where
  update
    | .tryAcquire, s => s.tryAcquire
    | .release n, s => (true, s.release n)
    | .interrupt, s => (true, s.interrupt)
  announces
    | .tryAcquire => false
    | _ => true
  wait := Semaphore.wait
  take n s := ((), s.take n)

/-- Updates of a handoff. -/
inductive Handoff.Update (α : Type) where
  | complete (a : α)
  | releaseEmpty
  | interrupt

/-- A handoff as a resource: every waiter demands one permit and gets the recorded value. -/
def Handoff.resource (α : Type) : Resource (Handoff α) (Handoff.Update α) Unit (Option α) where
  update
    | .complete a, h => h.complete a
    | .releaseEmpty, h => (true, h.releaseEmpty)
    | .interrupt, h => (true, h.interrupt)
  announces _ := true
  wait _ := Handoff.wait
  take _ h := (h.value, h.take)

end MessageBox

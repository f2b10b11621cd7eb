import MessageBox.CommandLine.Invocation
import MessageBox.Proofs.Buttons
import MessageBox.Proofs.Machine.Run
import MessageBox.Proofs.Machine.Settling

/-!
# Scenes of a headless run

A headless run has two threads, one prompt and one call. What they do next depends on the code of the threads,
the loop, the call and its dialog (`scene`); the rest of the machine, such as its history, is a backdrop. The
two places a prompt can be shown at have scenes of their own. Of those, `Reliable` is all that the run as a whole
needs: a rank that every instruction lowers, and an answer when no thread can go on.
-/

namespace MessageBox.Invocation

open Machine

variable {inv : Invocation} {index : Nat}

/-- A machine in which everything that matters to a headless run is as given. -/
def scene (inv : Invocation) (index : Nat) (m : Machine) (main ui : Thread) (queue : List Task) (closed : Bool)
    (signalled : List Token) (calls : List Call) (dialogs : List Offer) : Machine :=
  { m with
    threads := [main, ui]
    loop := { queue, closed, owner := some 1, depth := m.loop.depth, signalled }
    desk := { responder := .byIndex index, shown := m.desk.shown }
    terminal := none
    overrides := {}
    prompts := [{ prompt := ⟨inv.spec, inv.options⟩, active := m.prompts[0]?.bind (·.active) }]
    calls
    dialogs }

/-- The scene in which the main thread begins to show the prompt. -/
def opening (inv : Invocation) (index : Nat) (m : Machine) (ui : Thread) : Machine :=
  scene inv index m { name := "main", code := load inv.headlessProgram } ui [] false [] [] []

/-- The machine of a run whose UI thread has claimed the loop, but has not run it yet. -/
def launched (inv : Invocation) (index : Nat) : Machine :=
  opening inv index {} { name := "modalbox-ui", code := load [.run .ui false] }

/-- The machine of a run whose UI thread has gone to sleep before the main thread begins. -/
def waiting (inv : Invocation) (index : Nat) : Machine :=
  let m := { inv.machine with desk := { responder := .byIndex index } }
  let m := (m.spawn "main" []).spawn "modalbox-ui" (load [.run .ui false])
  (m.settle mainThread).goto mainThread (load inv.headlessProgram)

/-- The scene in which the UI thread sleeps in its run is the machine whose UI thread waits for tasks. -/
lemma opening_waiting (inv : Invocation) (index : Nat) :
    opening inv index (waiting inv index)
      { name := "modalbox-ui", code := [.pump .ui, .returned .ui false], asleep := true } =
        waiting inv index := rfl

/-- The outcome of the requested button. -/
def requested (inv : Invocation) (index : Nat) : Outcome := .ofCode (index + 1) inv.spec.actions.length

/-- A thread after a wake-up of those whose next instruction satisfies `p`. -/
def wokenBy (p : Instr → Bool) (th : Thread) : Thread :=
  if th.asleep && th.code.head?.any p then { th with asleep := false } else th

/-- A wake-up in a scene is one of its two threads. -/
lemma scene_wake {m : Machine} {p : Instr → Bool} {main ui main' ui' : Thread} {queue : List Task} {closed : Bool}
    {signalled : List Token} {calls : List Call} {dialogs : List Offer} (hmain : wokenBy p main = main')
    (hui : wokenBy p ui = ui') :
    (scene inv index m main ui queue closed signalled calls dialogs).wake p =
      scene inv index m main' ui' queue closed signalled calls dialogs := by
  subst hmain hui
  rfl

/-- The responder chooses this slot for a dialog of the invocation. -/
structure Chosen (inv : Invocation) (index : Nat) (onChoice : Nat → Reaction) (slot : Slot) : Prop where
  choose : (Responder.byIndex index).choose (inv.spec.dialog onChoice) = some slot
  layout : (slot, index + 1) ∈ Slot.layout inv.spec.actions.length

/-- The responder chooses a slot for an index that the invocation has. -/
lemma exists_chosen (onChoice : Nat → Reaction) (h : index < inv.spec.actions.length) :
    ∃ slot, Chosen inv index onChoice slot := by
  obtain ⟨b, hb, hlayout⟩ := inv.spec.dialog_getElem? onChoice h
  exact ⟨b.slot, inv.spec.dialog_choose onChoice hb, hlayout⟩

namespace Chosen

variable {onChoice : Nat → Reaction} {slot : Slot} (h : Chosen inv index onChoice slot)
include h

/-- The dialog has the slot that the responder chooses. -/
lemma hasSlot : (inv.spec.dialog onChoice).hasSlot slot = true := inv.spec.dialog_hasSlot onChoice h.layout

/-- Pressing the slot that the responder chooses answers with the code after its index. -/
lemma press : (inv.spec.dialog onChoice).press slot = .ok (onChoice (index + 1)) :=
  inv.spec.dialog_press_ok onChoice h.layout

end Chosen

/-! ### The end of a run -/

/-- The end of the main thread: it stops the UI thread and waits for it. -/
inductive Closing where
  | close
  | closeWake
  | signal
  | signalWake
  | join
  | done

namespace Closing

/-- What the main thread still has to do. -/
def code : Closing → List Instr
  | .close => [.op .close, .op (.signal .ui), .op (.join 1)]
  | .closeWake => [.wakeLoop, .op (.signal .ui), .op (.join 1)]
  | .signal => [.op (.signal .ui), .op (.join 1)]
  | .signalWake => [.wakeLoop, .op (.join 1)]
  | .join => [.op (.join 1)]
  | .done => []

/-- Whether the loop is closed. -/
def closed : Closing → Bool
  | .close => false
  | _ => true

/-- Whether the UI thread has been told to stop. -/
def signalled : Closing → Bool
  | .signalWake | .join | .done => true
  | _ => false

/-- A bound on what the main thread still has to do. Each instruction lowers it by two, for it may wake the
other thread. -/
def rank : Closing → Nat
  | .close => 10
  | .closeWake => 8
  | .signal => 6
  | .signalWake => 4
  | .join => 2
  | .done => 0

/-- At its end, the main thread has no more to do than this. -/
lemma rank_le (p : Closing) : p.rank ≤ 10 := by
  cases p <;> decide

end Closing

/-! ### Runs that end well -/

/-- What a headless run may end with: the requested button, or, on a worker whose wait has a limit, no answer in
time. -/
def Expects (inv : Invocation) (index : Nat) (o : Outcome) : Prop :=
  o = requested inv index ∨ o = .timedOut ∧ inv.worker = true ∧ inv.options.waitLimit.isSome = true

/-- Both threads have ended and the call is resolved. -/
structure Over (m : Machine) : Prop where
  main : m.finished mainThread = true
  ui : m.finished 1 = true
  resolved : (outcome? m).isSome = true

/-- A ranked property of the machines of a headless run that carries it to its end. -/
structure Reliable (inv : Invocation) (index : Nat) (P : Nat → Machine → Prop) : Prop where
  descent : Descent P
  rouse {k m} (t : ThreadId) : P k m → ∃ k', P k' (m.rouse t)
  pass {k m} (ms : Nat) : P k m → P k { m with clock := m.clock + ms }
  bound {k m} : P k m → k < budget
  pending {k m} : P k m → m.desk.pending = []
  expects {k m o} : P k m → outcome? m = some o → Expects inv index o
  stops {k m} : P k m → m.Stuck → Over m

namespace Reliable

variable {P : Nat → Machine → Prop} {k : Nat} {m : Machine} (hP : Reliable inv index P)
include hP

/-- Every move keeps a machine in a state of the run. -/
lemma step (h : P k m) (mv : Move) : ∃ k', P k' (m.step mv) := by
  cases mv with
  | exec t =>
    cases he : m.exec t with
    | none => exact ⟨k, by simpa [Machine.step, he] using h⟩
    | some m' =>
      obtain ⟨k', -, h'⟩ := hP.descent h he
      exact ⟨k', by simpa [Machine.step, he] using h'⟩
  | rouse t => exact hP.rouse t h
  | pass ms => exact ⟨k, hP.pass ms h⟩

/-- The machines of a run are in states of the run. -/
lemma play (h : P k m) (moves : List Move) : ∃ k', P k' (m.play moves) :=
  play_induction (P := fun m => ∃ k, P k m) ⟨k, h⟩ (fun _ mv ⟨_, h⟩ => hP.step h mv) moves

/-- A run that settles is over. -/
lemma settle (h : P k m) (t : ThreadId) : (∃ k', P k' (m.settle t)) ∧ Over (m.settle t) := by
  obtain ⟨⟨k', h'⟩, hstuck⟩ := hP.descent.settle h (hP.bound h)
  exact ⟨⟨k', h'⟩, hP.stops h' hstuck⟩

end Reliable

end MessageBox.Invocation

import MessageBox.Machine.State

/-!
# Steps of the machine

`exec` is one instruction of one thread. A step of the machine is an instruction of any thread, a wake-up
that nobody asked for, or the passing of time, so a list of moves is one interleaving of all threads.
-/

namespace MessageBox.Machine

/-- One move of an interleaving. -/
inductive Move where
  /-- A thread executes its next instruction. -/
  | exec (thread : ThreadId)
  /-- A sleeping thread wakes up by itself. -/
  | rouse (thread : ThreadId)
  /-- Time passes. -/
  | pass (ms : Nat)
  deriving DecidableEq

/-! ### Small changes -/

/-- Adds an event to the history. -/
def emit (m : Machine) (t : ThreadId) (e : Event) : Machine := { m with history := m.history.push (t, e) }

/-- Gives a thread new code. -/
def goto (m : Machine) (t : ThreadId) (code : List Instr) : Machine :=
  { m with threads := m.threads.modify t fun th => { th with code } }

/-- Puts a thread to sleep in its next instruction. -/
def sleep (m : Machine) (t : ThreadId) : Machine :=
  { m with threads := m.threads.modify t fun th => { th with asleep := true } }

/-- Wakes every sleeping thread whose next instruction satisfies `p`. -/
def wake (m : Machine) (p : Instr → Bool) : Machine :=
  { m with threads := m.threads.map fun th =>
      if th.asleep && th.code.head?.any p then { th with asleep := false } else th }

/-- Adds a thread. -/
def spawn (m : Machine) (name : String) (code : List Instr) : Machine :=
  { m with threads := m.threads ++ [{ name, code }] }

/-- Whether a thread has nothing left to do. -/
def finished (m : Machine) (t : ThreadId) : Bool := m.threads[t]?.all (·.code.isEmpty)

/-- How the call of a caller was resolved, if it was. -/
def outcome? (m : Machine) (caller : Nat) : Option Outcome :=
  (m.calls.find? (·.ticket == .caller caller)).bind (·.outcome)

/-- Changes a call. -/
def modifyCall (m : Machine) (c : CallId) (f : Call → Call) : Machine :=
  { m with calls := m.calls.modify c f }

/-- Changes which call of a prompt is active. -/
def setActive (m : Machine) (p : PromptId) (active : Option CallId) : Machine :=
  { m with prompts := m.prompts.modify p fun q => { q with active } }

/-- Whether the toolkit takes a thread for the UI thread. -/
def isUiThread (m : Machine) (t : ThreadId) : Bool :=
  m.overrides.uiThread.getD (m.loop.owner == some t)

/-- Makes a program an instruction list. -/
def load (body : List Op) : List Instr := body.map .op

/-! ### The dispatch loop -/

/-- Claims the loop for a thread; false if another one owns it. -/
def Loop.bind (l : Loop) (t : ThreadId) : Bool × Loop :=
  match l.owner with
  | some owner => (owner == t, l)
  | none => (true, { l with owner := some t })

/-- Puts a task at the end of the queue, unless the loop is closed. -/
def Loop.post (l : Loop) (task : Task) : Except ToolkitFailure Loop :=
  if l.closed then .error .closed else .ok { l with queue := l.queue ++ [task] }

/-- Signals a token. -/
def Loop.signal (l : Loop) (token : Token) : Loop := { l with signalled := token :: l.signalled }

/-- The description of a loop. -/
def Loop.describe (l : Loop) : Description :=
  .record "DispatchLoop" [("depth", .number l.depth), ("pending", .number l.queue.length)] false

/-- The description of a token. -/
def Loop.describeToken (l : Loop) (token : Token) : Description :=
  .record "ExitToken" [("signalled", .flag (token ∈ l.signalled))] false

/-- Posts a task for a program, which is told the result. -/
def post (m : Machine) (t : ThreadId) (task : Task) (rest : List Instr) : Machine :=
  match m.loop.post task with
  | .error e => (m.emit t (.posted (some e))).goto t rest
  | .ok loop =>
    ((({ m with loop }).emit t (.accepted task)).emit t (.posted none)).goto t (.wakeLoop :: rest)

/-- Starts a run of the loop on a thread that may run it. -/
def enter (m : Machine) (t : ThreadId) (loop : Loop) (code : List Instr) : Machine :=
  (({ m with loop := { loop with depth := loop.depth + 1 } }).emit t (.entered (loop.depth + 1))).goto t code

/-- Runs the loop until a token is signalled. -/
def run (m : Machine) (t : ThreadId) (token : Token) (rethrow : Bool) (rest : List Instr) : Machine :=
  match m.loop.bind t with
  | (true, loop) => m.enter t loop (.pump token :: .returned token rethrow :: rest)
  | (false, _) => (m.emit t (.ran token (.refused .foreign) m.loop.depth)).goto t rest

/-- A live run: leaves once its token is signalled, else takes the next task, else sleeps. -/
def pump (m : Machine) (t : ThreadId) (token : Token) (rest : List Instr) : Machine :=
  if token ∈ m.loop.signalled then
    (({ m with loop := { m.loop with depth := m.loop.depth - 1 } }).emit t (.left m.loop.depth)).goto t rest
  else
    match m.loop.queue with
    | task :: queue =>
      (({ m with loop := { m.loop with queue } }).emit t (.started task)).goto t
        (task ++ Instr.pump token :: rest)
    | [] => m.sleep t

/-- Where a panic ends: how many runs it unwinds, and the frame that catches it. -/
def unwind : List Instr → Nat × Option (Token × Bool × List Instr)
  | [] => (0, none)
  | .pump _ :: rest => ((unwind rest).1 + 1, (unwind rest).2)
  | .returned token rethrow :: rest => (0, some (token, rethrow, rest))
  | _ :: rest => unwind rest

/-- Unwinds a thread to the run that catches its panic, or ends the thread. -/
def panic (m : Machine) (t : ThreadId) (rest : List Instr) : Machine :=
  let depth := m.loop.depth - (unwind rest).1
  let m := { m with loop := { m.loop with depth } }
  match (unwind rest).2 with
  | some (token, rethrow, rest) =>
    (m.emit t (.ran token .panicked depth)).goto t (if rethrow then .op .panic :: rest else rest)
  | none => { m with threads := m.threads.modify t fun th => { th with code := [], panicked := true } }

/-! ### The toolkit -/

/-- The code that runs the action of a pressed button. -/
def Reaction.code : Reaction → List Instr
  | .script body => load body
  | .answer call code stops => .complete call code :: if stops then [.op (.signal (.call call))] else []

/-- What follows when the toolkit has taken a dialog. -/
def Origin.accepted : Origin → List Instr
  | .program => []
  | .nested call => [.nest call]
  | .posted _ => []

/-- What follows when the toolkit has refused a dialog. -/
def Origin.refused (failure : ToolkitFailure) : Origin → List Instr
  | .program => []
  | .nested call => [.report failure, .deactivate call .noAction]
  | .posted call => [.report failure, .release call, .wakeCall call]

/-- Tells a program the result of its offer. -/
def tellProgram (m : Machine) (t : ThreadId) (origin : Origin) (failure : Option ToolkitFailure) : Machine :=
  match origin with
  | .program => m.emit t (.offered failure)
  | _ => m

/-- The toolkit has taken a dialog. -/
def acceptDialog (m : Machine) (t : ThreadId) (o : Offer) (rest : List Instr) : Machine :=
  (m.tellProgram t o.origin none).goto t (o.origin.accepted ++ rest)

/-- The toolkit has refused a dialog. -/
def refuseDialog (m : Machine) (t : ThreadId) (o : Offer) (e : ToolkitFailure) (rest : List Instr) :
    Machine :=
  (m.tellProgram t o.origin (some e)).goto t (o.origin.refused e ++ rest)

/-- Makes a new offer of a dialog. -/
def offer (m : Machine) (t : ThreadId) (o : Offer) (rest : List Instr) : Machine :=
  ({ m with dialogs := m.dialogs ++ [o] }).goto t (.present m.dialogs.length :: rest)

/-- Interrupts the active call of a prompt; without one, nothing happens. -/
def interrupt (m : Machine) (t : ThreadId) (p : PromptId) (rest : List Instr) : Machine :=
  match m.prompts[p]?.bind (·.active) with
  | some c =>
    (m.modifyCall c fun call => { call with handoff := call.handoff.interrupt }).goto t (.wakeCall c :: rest)
  | none => (m.emit t .interruptIgnored).goto t rest

/-- Hands a dialog to the toolkit: on a terminal it opens at once, otherwise the desk decides. The overrides
are laid over the toolkit for prompts only, so an override may press a prompt's dialog first, and never that
of a program. -/
def present (m : Machine) (t : ThreadId) (d : DialogId) (o : Offer) (rest : List Instr) : Machine :=
  match m.terminal with
  | some stack =>
    let m := m.emit t (.opening o.dialog.title o.dialog.buttons.length)
    ({ m with terminal := some (stack.push ⟨o.dialog, 0⟩) }).acceptDialog t o rest
  | none =>
    if o.origin = .program then m.goto t (.accept d :: rest)
    else
      let next : List Instr :=
        match m.overrides.instantPress with
        | none => [.accept d]
        | some slot => if o.dialog.hasSlot slot then .pressChosen d slot :: o.origin.accepted else [.accept d]
      match m.overrides.interruptOnShow, m.latest with
      | true, some p => m.interrupt t p (next ++ rest)
      | _, _ => m.goto t (next ++ rest)

/-- Uses up an injected failure, or goes on to show the dialog. -/
def accept (m : Machine) (t : ThreadId) (d : DialogId) (o : Offer) (rest : List Instr) : Machine :=
  match m.desk.failNext with
  | some e => ({ m with desk := { m.desk with failNext := none } }).refuseDialog t o e rest
  | none => m.goto t (.exhibit d :: rest)

/-- Asks the responder: a button the dialog has is pressed by a task, otherwise the dialog is kept. -/
def choose (m : Machine) (t : ThreadId) (d : DialogId) (o : Offer) (rest : List Instr) : Machine :=
  match m.desk.responder.choose o.dialog with
  | none => m.goto t (.keep d :: rest)
  | some slot =>
    if o.dialog.hasSlot slot then
      (m.emit t (.pressScheduled d slot o.dialog.title)).goto t (.schedulePress d slot :: rest)
    else (m.emit t (.chosenSlotMissing slot)).goto t (.keep d :: rest)

/-- Posts the press the responder chose. -/
def schedulePress (m : Machine) (t : ThreadId) (d : DialogId) (slot : Slot) (o : Offer) (rest : List Instr) :
    Machine :=
  match m.loop.post [.pressChosen d slot] with
  | .error e => m.refuseDialog t o e rest
  | .ok loop =>
    ((({ m with loop }).emit t (.accepted [.pressChosen d slot])).tellProgram t o.origin none).goto t
      (.wakeLoop :: (o.origin.accepted ++ rest))

/-- Presses a button of a dialog, or does `missing` if the dialog has none in that slot. -/
def pressDialog (m : Machine) (t : ThreadId) (d : DialogId) (slot : Slot) (o : Offer) (rest : List Instr)
    (missing : Machine) : Machine :=
  match o.dialog.press slot with
  | .ok reaction => (m.emit t (.pressed d slot)).goto t (reaction.code ++ rest)
  | .error _ => missing

/-- Takes the pending dialog of an index, or the last one, to press it. -/
def takePending (m : Machine) (t : ThreadId) (index : Option Nat) (slot : Slot) (rest : List Instr) :
    Machine :=
  let place := index.getD (m.desk.pending.length - 1)
  match m.desk.pending[place]? with
  | some d =>
    ({ m with desk := { m.desk with pending := m.desk.pending.eraseIdx place } }).goto t
      (.pressTaken place d slot :: rest)
  | none => (m.emit t (.nothingToPress slot index)).goto t rest

/-- Puts a dialog back at its old place, or at the end if the list has become shorter. -/
def putBack (m : Machine) (t : ThreadId) (place : Nat) (d : DialogId) (rest : List Instr) : Machine :=
  let pending := m.desk.pending.insertIdx (min place m.desk.pending.length) d
  ({ m with desk := { m.desk with pending } }).goto t rest

/-- Tries to close the last pending dialog without a button. -/
def dismiss (m : Machine) (t : ThreadId) (rest : List Instr) : Machine :=
  match m.desk.pending.getLast? with
  | none => (m.emit t (.dismissed none)).goto t rest
  | some d =>
    match m.dialogs[d]? with
    | none => m.goto t rest
    | some o =>
      if o.dialog.cancelable then
        (({ m with desk := { m.desk with pending := m.desk.pending.dropLast } }).emit t
          (.dismissed (some d))).goto t rest
      else ((m.emit t (.dismissalRefused o.dialog.title)).emit t (.dismissed none)).goto t rest

/-- Gives a key to the open dialogs of a terminal. -/
def key (m : Machine) (t : ThreadId) (k : Terminal.Key) (rest : List Instr) : Machine :=
  match m.terminal with
  | none => m.goto t rest
  | some stack =>
    let m := (stack.records k).foldl (fun m r => m.emit t (.logged r)) m
    match stack.route k with
    | (.closed view slot, stack) => ({ m with terminal := some stack }).goto t (.conclude view slot :: rest)
    | (_, stack) => ({ m with terminal := some stack }).goto t rest

/-- Acts on a terminal dialog that was closed. -/
def conclude (m : Machine) (t : ThreadId) (view : Terminal.View Reaction) (slot : Option Slot)
    (rest : List Instr) : Machine :=
  let (reaction, records) := view.conclude slot
  (records.foldl (fun m r => m.emit t (.logged r)) m).goto t (reaction.elim [] Reaction.code ++ rest)

/-! ### Prompts -/

/-- Starts a call: on the UI thread it offers its dialog itself, elsewhere it has a task do so. -/
def ask (m : Machine) (t : ThreadId) (p : PromptId) (ticket : Ticket) (rest : List Instr) : Machine :=
  match m.prompts[p]? with
  | none => m.goto t rest
  | some q =>
    let c := m.calls.length
    let spec := q.prompt.spec
    let context := if m.isUiThread t then Context.uiThread else .worker
    let call : Call := { prompt := p, spec, options := q.prompt.options, context, ticket }
    let next : Instr := match context with | .uiThread => .create c | .worker => .schedule c
    (({ m with calls := m.calls ++ [call] }).emit t
      (.asking c spec.caption spec.actions.length context)).goto t (.activate c :: next :: rest)

/-- Posts the task that creates the dialog, and waits; if the loop is closed, the call fails. -/
def schedule (m : Machine) (t : ThreadId) (c : CallId) (rest : List Instr) : Machine :=
  if m.overrides.inlineTasks then m.goto t (.create c :: .beginWait c :: rest)
  else
    match m.loop.post [.create c] with
    | .error e => m.goto t (.report e :: .deactivate c .noAction :: rest)
    | .ok loop =>
      (({ m with loop }).emit t (.accepted [.create c])).goto t (.wakeLoop :: .beginWait c :: rest)

/-- Creates the dialog of a call and offers it. -/
def create (m : Machine) (t : ThreadId) (c : CallId) (call : Call) (rest : List Instr) : Machine :=
  let o : Offer :=
    match call.context with
    | .uiThread => ⟨call.spec.dialog fun code => .answer c code true, .nested c⟩
    | .worker => ⟨call.spec.dialog fun code => .answer c code false, .posted c⟩
  m.offer t o rest

/-- The outcome of what was recorded for a call. -/
def Call.recorded (call : Call) : Outcome :=
  match call.handoff.value with
  | some code => .ofCode code call.spec.actions.length
  | none => .noAction

/-- One look of a waiting call at its handoff. -/
def await (m : Machine) (t : ThreadId) (c : CallId) (deadline : Option Nat) (call : Call)
    (rest : List Instr) : Machine :=
  match Handoff.wait.check deadline m.clock call.handoff with
  | .ready =>
    (m.modifyCall c fun call => { call with handoff := call.handoff.take }).goto t
      (.deactivate c call.recorded :: rest)
  | .interrupted =>
    let m := m.modifyCall c fun call => { call with handoff := Handoff.wait.clear call.handoff }
    (m.emit t (.waitInterrupted c call.spec.caption)).goto t
      ((if call.options.reportInterruption then .deactivate c .interrupted else .collect c) :: rest)
  | .timedOut =>
    (m.emit t (.waitTimedOut c call.spec.caption call.options.waitLimit)).goto t
      (.deactivate c .timedOut :: rest)
  | .sleep _ => m.sleep t

/-- Starts the nested run of a call; if the loop cannot be run, the failure is reported instead. -/
def nest (m : Machine) (t : ThreadId) (c : CallId) (rest : List Instr) : Machine :=
  let m := m.emit t (.nestEntered c)
  let giveUp (e : ToolkitFailure) := m.goto t (.nestLeft c :: .report e :: .collect c :: rest)
  match m.overrides.nestedFailure with
  | some e => giveUp e
  | none =>
    match m.loop.bind t with
    | (true, loop) => m.enter t loop (.pump (.call c) :: .nestLeft c :: .collect c :: rest)
    | (false, _) => giveUp .foreign

/-! ### Execution -/

/-- The machine after one operation of a program, or none if the thread cannot go on yet. -/
def execOp (m : Machine) (t : ThreadId) (rest : List Instr) : Op → Option Machine
  | .say text => some ((m.emit t (.said text)).goto t rest)
  | .post task => some (m.post t (load task) rest)
  | .run token rethrow => some (m.run t token rethrow rest)
  | .signal token => some (({ m with loop := m.loop.signal token }).goto t (.wakeLoop :: rest))
  | .checkSignal token => some ((m.emit t (.sawSignal (token ∈ m.loop.signalled))).goto t rest)
  | .inspect =>
    some ((m.emit t (.inspected m.loop.depth m.loop.queue.length (m.loop.owner == some t))).goto t rest)
  | .describe token =>
    some ((m.emit t (.described m.loop.describe.inline (m.loop.describeToken token).inline)).goto t rest)
  | .bind => some ((({ m with loop := (m.loop.bind t).2 }).emit t (.bound (m.loop.bind t).1)).goto t rest)
  | .close => some (({ m with loop := { m.loop with closed := true } }).goto t (.wakeLoop :: rest))
  | .panic => some (m.panic t rest)
  | .fork body => some ((m.spawn "" (load body)).goto t (.op (.join m.threads.length) :: rest))
  | .later ms body => some ((m.spawn "" (.sleepUntil (m.clock + ms) :: load body)).goto t rest)
  | .join other => if m.finished other then some (m.goto t rest) else none
  | .receive caller => if (m.outcome? caller).isSome then some (m.goto t rest) else none
  | .ask p ticket => some (m.ask t p ticket rest)
  | .interrupt p => some (m.interrupt t p rest)
  | .offer d =>
    let buttons := d.buttons.map fun b => (⟨b.slot, b.label, .script b.action⟩ : Button Reaction)
    some (m.offer t ⟨⟨d.title, d.message, d.icon, d.cancelable, buttons⟩, .program⟩ rest)
  | .press index slot => some (m.post t [.takePending index slot] rest)
  | .dismiss => some (m.dismiss t rest)
  | .respond responder => some (({ m with desk := { m.desk with responder } }).goto t rest)
  | .failNext e => some (({ m with desk := { m.desk with failNext := some e } }).goto t rest)
  | .key k => some (m.key t k rest)

/-- Continues with a call, if there is such a call. -/
def withCall (m : Machine) (t : ThreadId) (c : CallId) (rest : List Instr) (f : Call → Machine) : Machine :=
  (m.calls[c]?).elim (m.goto t rest) f

/-- Continues with an offered dialog, if there is such a dialog. -/
def withOffer (m : Machine) (t : ThreadId) (d : DialogId) (rest : List Instr) (f : Offer → Machine) :
    Machine :=
  (m.dialogs[d]?).elim (m.goto t rest) f

/-- The machine after one instruction, or none if the thread cannot go on yet. -/
def execInstr (m : Machine) (t : ThreadId) (rest : List Instr) : Instr → Option Machine
  | .op op => m.execOp t rest op
  | .pump token => some (m.pump t token rest)
  | .returned token _ => some ((m.emit t (.ran token .ok m.loop.depth)).goto t rest)
  | .wakeLoop => some ((m.wake fun i => i matches .pump _).goto t rest)
  | .sleepUntil time => if time ≤ m.clock then some (m.goto t rest) else none
  | .activate c => some (m.withCall t c rest fun call =>
      (m.setActive call.prompt (some c)).goto t rest)
  | .schedule c => some (m.schedule t c rest)
  | .create c => some (m.withCall t c rest fun call => m.create t c call rest)
  | .beginWait c => some (m.withCall t c rest fun call =>
      m.goto t (.await c (call.options.waitLimit.map (m.clock + ·)) :: rest))
  | .await c deadline => some (m.withCall t c rest fun call => m.await t c deadline call rest)
  | .nest c => some (m.nest t c rest)
  | .nestLeft c => some ((m.emit t (.nestLeft c)).goto t rest)
  | .collect c => some (m.withCall t c rest fun call => m.goto t (.deactivate c call.recorded :: rest))
  | .deactivate c outcome => some (m.withCall t c rest fun call =>
      (m.setActive call.prompt none).goto t (.resolve c outcome :: rest))
  | .resolve c outcome => some (m.withCall t c rest fun call =>
      ((m.modifyCall c fun call => { call with outcome := some outcome }).emit t
        (.resolved c call.ticket outcome)).goto t rest)
  | .present d => some (m.withOffer t d rest fun o => m.present t d o rest)
  | .accept d => some (m.withOffer t d rest fun o => m.accept t d o rest)
  | .exhibit d => some (m.withOffer t d rest fun o =>
      ({ m with desk := { m.desk with shown := m.desk.shown ++ [o.dialog.snapshot] } }).goto t
        (.choose d :: rest))
  | .choose d => some (m.withOffer t d rest fun o => m.choose t d o rest)
  | .schedulePress d slot => some (m.withOffer t d rest fun o => m.schedulePress t d slot o rest)
  | .keep d => some (m.withOffer t d rest fun o =>
      ({ m with desk := { m.desk with pending := m.desk.pending ++ [d] } }).acceptDialog t o rest)
  | .takePending index slot => some (m.takePending t index slot rest)
  | .pressTaken place d slot => some (m.withOffer t d rest fun o =>
      m.pressDialog t d slot o rest
        ((m.emit t (.noSuchButton d slot o.dialog.title)).goto t (.putBack place d :: rest)))
  | .putBack place d => some (m.putBack t place d rest)
  | .pressChosen d slot => some (m.withOffer t d rest fun o => m.pressDialog t d slot o rest (m.goto t rest))
  | .complete c code => some (m.withCall t c rest fun call =>
      match call.handoff.complete code with
      | (true, handoff) => (m.modifyCall c fun call => { call with handoff }).goto t (.wakeCall c :: rest)
      | (false, _) => m.goto t rest)
  | .release c => some
      ((m.modifyCall c fun call => { call with handoff := call.handoff.releaseEmpty }).goto t rest)
  | .wakeCall c => some ((m.wake fun i => match i with | .await d _ => c == d | _ => false).goto t rest)
  | .report e => some (({ m with lastError := e.message }).emit t (.failed e) |>.goto t rest)
  | .conclude view slot => some (m.conclude t view slot rest)

/-- The machine after the next instruction of a thread, or none if the thread cannot go on. -/
def exec (m : Machine) (t : ThreadId) : Option Machine :=
  match m.threads[t]? with
  | some { code := i :: rest, asleep := false, .. } => m.execInstr t rest i
  | _ => none

/-- Wakes a sleeping thread. -/
def rouse (m : Machine) (t : ThreadId) : Machine :=
  { m with threads := m.threads.modify t fun th => { th with asleep := false } }

/-- The machine after one move; a move that cannot be made changes nothing. -/
def step (m : Machine) : Move → Machine
  | .exec t => (m.exec t).getD m
  | .rouse t => m.rouse t
  | .pass ms => { m with clock := m.clock + ms }

/-- The machine after an interleaving. -/
def play (m : Machine) (moves : List Move) : Machine := moves.foldl step m

end MessageBox.Machine

import Mathlib.Data.List.Basic
import Mathlib.Tactic.Lemma
import MessageBox.Machine.Step

/-!
# What an instruction does

`Fires m t i next sent m'` says once, rule by rule, what thread `t` of machine `m` does by executing the
instruction `i`: it leaves the code `next` in the place of `i`, it hands `sent` to a new task or a new
thread, and `m'` is the machine with everything else it does. The code behind `i` plays no part. Two
instructions are not of that kind and have relations of their own: a run that takes a task (`Takes`), and
a panic, which cuts the code behind it.

`Steps` gathers what a move can do, and `steps` is the inversion that all invariants of runs start from.
-/

namespace MessageBox.Machine

/-- The task an operation posts. -/
def Op.task? : Op → Option Task
  | .post body => some (load body)
  | .press index slot => some [.takePending index slot]
  | _ => none

/-- The call without which an instruction does nothing. -/
def Instr.call? : Instr → Option CallId
  | .activate c | .create c | .beginWait c | .await c _ | .collect c | .deactivate c _ | .resolve c _
  | .complete c _ => some c
  | _ => none

/-- The offer without which an instruction does nothing. -/
def Instr.offer? : Instr → Option DialogId
  | .present d | .accept d | .exhibit d | .choose d | .schedulePress d _ | .keep d | .pressTaken _ d _
  | .pressChosen d _ => some d
  | _ => none

/-- The call that an interruption of a prompt reaches. -/
def reach (m : Machine) (p : PromptId) : Option CallId := m.prompts[p]?.bind (·.active)

/-- Leaves records in the history. -/
def note (m : Machine) (t : ThreadId) (records : List Log.Record) : Machine :=
  records.foldl (fun m r => m.emit t (.logged r)) m

/-- Puts a task at the end of the queue. -/
def enqueue (m : Machine) (t : ThreadId) (task : Task) : Machine :=
  ({ m with loop := { m.loop with queue := m.loop.queue ++ [task] } }).emit t (.accepted task)

/-- The call that asking for a prompt makes. -/
def newCall (m : Machine) (t : ThreadId) (p : PromptId) (q : ActivePrompt) (ticket : Ticket) : Call :=
  { prompt := p, spec := q.prompt.spec, options := q.prompt.options, ticket
    context := if m.isUiThread t then .uiThread else .worker }

/-- What a call does first: on the UI thread it creates its dialog, elsewhere it has a task do so. -/
def Context.first (c : CallId) : Context → Instr
  | .uiThread => .create c
  | .worker => .schedule c

/-- The offer of a call's dialog. -/
def Call.offer (call : Call) (c : CallId) : Offer :=
  match call.context with
  | .uiThread => ⟨call.spec.dialog fun code => .answer c code true, .nested c⟩
  | .worker => ⟨call.spec.dialog fun code => .answer c code false, .posted c⟩

/-- A program's dialog as an offer. -/
def programOffer (d : Dialog (List Op)) : Offer :=
  ⟨⟨d.title, d.message, d.icon, d.cancelable,
    d.buttons.map fun b => (⟨b.slot, b.label, .script b.action⟩ : Button Reaction)⟩, .program⟩

/-- What is done with a dialog that a prompt has offered: an override presses it, or the toolkit gets it. -/
def presented (m : Machine) (d : DialogId) (o : Offer) : List Instr :=
  match m.overrides.instantPress with
  | none => [.accept d]
  | some slot => if o.dialog.hasSlot slot then .pressChosen d slot :: o.origin.accepted else [.accept d]

/-! ### Members of code -/

/-- A loaded program has its operations for instructions. -/
@[simp]
lemma mem_load {j : Instr} {body : List Op} : j ∈ load body ↔ ∃ o ∈ body, .op o = j := List.mem_map

/-- Only an offer for a call on the UI thread goes on when it is accepted: the loop is run inside the call. -/
@[simp]
lemma mem_accepted {j : Instr} {origin : Origin} :
    j ∈ origin.accepted ↔ ∃ c, origin = .nested c ∧ j = .nest c := by
  cases origin <;> simp [Origin.accepted]

/-- A refused offer for a call is reported, and the call is deactivated or released. -/
@[simp]
lemma mem_refused {j : Instr} {origin : Origin} {e : ToolkitFailure} :
    j ∈ origin.refused e ↔
      (∃ c, origin = .nested c ∧ (j = .report e ∨ j = .deactivate c .noAction)) ∨
      ∃ c, origin = .posted c ∧ (j = .report e ∨ j = .release c ∨ j = .wakeCall c) := by
  cases origin <;> simp [Origin.refused]

/-- A dialog that a prompt has offered is pressed at once if an override names a button that it has, and goes to the
toolkit otherwise. -/
@[simp]
lemma mem_presented {m : Machine} {j : Instr} {d : DialogId} {o : Offer} :
    j ∈ m.presented d o ↔
      (∃ slot, m.overrides.instantPress = some slot ∧ o.dialog.hasSlot slot = true ∧
        (j = .pressChosen d slot ∨ ∃ c, o.origin = .nested c ∧ j = .nest c)) ∨
      (∀ slot, m.overrides.instantPress = some slot → o.dialog.hasSlot slot = false) ∧ j = .accept d := by
  unfold presented
  split
  · next hp => simp [hp]
  · next slot hp =>
    split
    · next hs => simp [hp, hs]
    · next hs => simp [hp, hs]

/-- A handler runs its script, or answers its call and stops the loop that runs inside the call. -/
@[simp]
lemma mem_reaction {j : Instr} {reaction : Reaction} :
    j ∈ reaction.code ↔
      (∃ body, reaction = .script body ∧ ∃ o ∈ body, .op o = j) ∨
      ∃ c code stops, reaction = .answer c code stops ∧
        (j = .complete c code ∨ stops = true ∧ j = .op (.signal (.call c))) := by
  cases reaction with
  | script body => simp [Reaction.code]
  | answer c code stops => cases stops <;> simp [Reaction.code]

/-- What thread `t` does by executing an instruction: the code it leaves in its place, what it hands to a
new task or thread, and the machine with all else it does. -/
inductive Fires (m : Machine) (t : ThreadId) : Instr → List Instr → List Instr → Machine → Prop where
  | say {text} :
    Fires m t (.op (.say text)) [] [] (m.emit t (.said text))
  | post {o task} :
    Op.task? o = some task →
    m.loop.closed = false →
    Fires m t (.op o) [.wakeLoop] task ((m.enqueue t task).emit t (.posted none))
  | postClosed {o task} :
    Op.task? o = some task →
    m.loop.closed = true →
    Fires m t (.op o) [] [] (m.emit t (.posted (some .closed)))
  | run {token rethrow loop} :
    m.loop.bind t = (true, loop) →
    Fires m t (.op (.run token rethrow)) [.pump token, .returned token rethrow] []
      (({ m with loop := { loop with depth := loop.depth + 1 } }).emit t (.entered (loop.depth + 1)))
  | runForeign {token rethrow} :
    (m.loop.bind t).1 = false →
    Fires m t (.op (.run token rethrow)) [] [] (m.emit t (.ran token (.refused .foreign) m.loop.depth))
  | signal {token} :
    Fires m t (.op (.signal token)) [.wakeLoop] [] { m with loop := m.loop.signal token }
  | checkSignal {token} :
    Fires m t (.op (.checkSignal token)) [] [] (m.emit t (.sawSignal (token ∈ m.loop.signalled)))
  | inspect :
    Fires m t (.op .inspect) [] []
      (m.emit t (.inspected m.loop.depth m.loop.queue.length (m.loop.owner == some t)))
  | describe {token} :
    Fires m t (.op (.describe token)) [] []
      (m.emit t (.described m.loop.describe.inline (m.loop.describeToken token).inline))
  | bind :
    Fires m t (.op .bind) [] []
      (({ m with loop := (m.loop.bind t).2 }).emit t (.bound (m.loop.bind t).1))
  | close :
    Fires m t (.op .close) [.wakeLoop] [] { m with loop := { m.loop with closed := true } }
  | fork {body} :
    Fires m t (.op (.fork body)) [.op (.join m.threads.length)] (load body) (m.spawn "" (load body))
  | later {ms body} :
    Fires m t (.op (.later ms body)) [] (.sleepUntil (m.clock + ms) :: load body)
      (m.spawn "" (.sleepUntil (m.clock + ms) :: load body))
  | join {other} :
    m.finished other = true →
    Fires m t (.op (.join other)) [] [] m
  | receive {caller} :
    (m.outcome? caller).isSome = true →
    Fires m t (.op (.receive caller)) [] [] m
  | ask {p ticket q} :
    m.prompts[p]? = some q →
    Fires m t (.op (.ask p ticket))
      [.activate m.calls.length, (m.newCall t p q ticket).context.first m.calls.length] []
      (({ m with calls := m.calls ++ [m.newCall t p q ticket] }).emit t
        (.asking m.calls.length q.prompt.spec.caption q.prompt.spec.actions.length
          (m.newCall t p q ticket).context))
  | askUnknown {p ticket} :
    m.prompts[p]? = none →
    Fires m t (.op (.ask p ticket)) [] [] m
  | interrupt {p c} :
    m.reach p = some c →
    Fires m t (.op (.interrupt p)) [.wakeCall c] []
      (m.modifyCall c fun call => { call with handoff := call.handoff.interrupt })
  | interruptIgnored {p} :
    m.reach p = none →
    Fires m t (.op (.interrupt p)) [] [] (m.emit t .interruptIgnored)
  | offer {d} :
    Fires m t (.op (.offer d)) [.present m.dialogs.length] []
      { m with dialogs := m.dialogs ++ [programOffer d] }
  | dismissNothing :
    m.desk.pending.getLast? = none →
    Fires m t (.op .dismiss) [] [] (m.emit t (.dismissed none))
  | dismissUnknown {d} :
    m.desk.pending.getLast? = some d →
    m.dialogs[d]? = none →
    Fires m t (.op .dismiss) [] [] m
  | dismiss {d o} :
    m.desk.pending.getLast? = some d →
    m.dialogs[d]? = some o →
    o.dialog.cancelable = true →
    Fires m t (.op .dismiss) [] []
      (({ m with desk := { m.desk with pending := m.desk.pending.dropLast } }).emit t (.dismissed (some d)))
  | dismissRefused {d o} :
    m.desk.pending.getLast? = some d →
    m.dialogs[d]? = some o →
    o.dialog.cancelable = false →
    Fires m t (.op .dismiss) [] []
      ((m.emit t (.dismissalRefused o.dialog.title)).emit t (.dismissed none))
  | respond {responder} :
    Fires m t (.op (.respond responder)) [] [] { m with desk := { m.desk with responder } }
  | failNext {e} :
    Fires m t (.op (.failNext e)) [] [] { m with desk := { m.desk with failNext := some e } }
  | keyUnseen {k} :
    m.terminal = none →
    Fires m t (.op (.key k)) [] [] m
  | keyClosed {k stack view slot stack'} :
    m.terminal = some stack →
    stack.route k = (.closed view slot, stack') →
    Fires m t (.op (.key k)) [.conclude view slot] []
      { m.note t (stack.records k) with terminal := some stack' }
  | key {k stack} :
    m.terminal = some stack →
    (∀ view slot, (stack.route k).1 ≠ .closed view slot) →
    Fires m t (.op (.key k)) [] [] { m.note t (stack.records k) with terminal := some (stack.route k).2 }
  | leave {token} :
    token ∈ m.loop.signalled →
    Fires m t (.pump token) [] []
      (({ m with loop := { m.loop with depth := m.loop.depth - 1 } }).emit t (.left m.loop.depth))
  | doze {token} :
    token ∉ m.loop.signalled →
    m.loop.queue = [] →
    Fires m t (.pump token) [.pump token] [] (m.sleep t)
  | returned {token rethrow} :
    Fires m t (.returned token rethrow) [] [] (m.emit t (.ran token .ok m.loop.depth))
  | wakeLoop :
    Fires m t .wakeLoop [] [] (m.wake fun i => i matches .pump _)
  | sleepUntil {time} :
    time ≤ m.clock →
    Fires m t (.sleepUntil time) [] [] m
  | noCall {i c} :
    i.call? = some c →
    m.calls[c]? = none →
    Fires m t i [] [] m
  | activate {c call} :
    m.calls[c]? = some call →
    Fires m t (.activate c) [] [] (m.setActive call.prompt (some c))
  | scheduleInline {c} :
    m.overrides.inlineTasks = true →
    Fires m t (.schedule c) [.create c, .beginWait c] [] m
  | schedule {c} :
    m.overrides.inlineTasks = false →
    m.loop.closed = false →
    Fires m t (.schedule c) [.wakeLoop, .beginWait c] [.create c] (m.enqueue t [.create c])
  | scheduleClosed {c} :
    m.overrides.inlineTasks = false →
    m.loop.closed = true →
    Fires m t (.schedule c) [.report .closed, .deactivate c .noAction] [] m
  | create {c call} :
    m.calls[c]? = some call →
    Fires m t (.create c) [.present m.dialogs.length] [] { m with dialogs := m.dialogs ++ [call.offer c] }
  | beginWait {c call} :
    m.calls[c]? = some call →
    Fires m t (.beginWait c) [.await c (call.options.waitLimit.map (m.clock + ·))] [] m
  | awaitReady {c deadline call} :
    m.calls[c]? = some call →
    Handoff.wait.check deadline m.clock call.handoff = .ready →
    Fires m t (.await c deadline) [.deactivate c call.recorded] []
      (m.modifyCall c fun call => { call with handoff := call.handoff.take })
  | awaitInterrupted {c deadline call} :
    m.calls[c]? = some call →
    Handoff.wait.check deadline m.clock call.handoff = .interrupted →
    Fires m t (.await c deadline)
      [if call.options.reportInterruption then .deactivate c .interrupted else .collect c] []
      ((m.modifyCall c fun call => { call with handoff := Handoff.wait.clear call.handoff }).emit t
        (.waitInterrupted c call.spec.caption))
  | awaitTimedOut {c deadline call} :
    m.calls[c]? = some call →
    Handoff.wait.check deadline m.clock call.handoff = .timedOut →
    Fires m t (.await c deadline) [.deactivate c .timedOut] []
      (m.emit t (.waitTimedOut c call.spec.caption call.options.waitLimit))
  | awaitSleep {c deadline call remaining} :
    m.calls[c]? = some call →
    Handoff.wait.check deadline m.clock call.handoff = .sleep remaining →
    Fires m t (.await c deadline) [.await c deadline] [] (m.sleep t)
  | nestFailed {c e} :
    m.overrides.nestedFailure = some e →
    Fires m t (.nest c) [.nestLeft c, .report e, .collect c] [] (m.emit t (.nestEntered c))
  | nest {c loop} :
    m.overrides.nestedFailure = none →
    m.loop.bind t = (true, loop) →
    Fires m t (.nest c) [.pump (.call c), .nestLeft c, .collect c] []
      (({ m.emit t (.nestEntered c) with loop := { loop with depth := loop.depth + 1 } }).emit t
        (.entered (loop.depth + 1)))
  | nestForeign {c} :
    m.overrides.nestedFailure = none →
    (m.loop.bind t).1 = false →
    Fires m t (.nest c) [.nestLeft c, .report .foreign, .collect c] [] (m.emit t (.nestEntered c))
  | nestLeft {c} :
    Fires m t (.nestLeft c) [] [] (m.emit t (.nestLeft c))
  | collect {c call} :
    m.calls[c]? = some call →
    Fires m t (.collect c) [.deactivate c call.recorded] [] m
  | deactivate {c outcome call} :
    m.calls[c]? = some call →
    Fires m t (.deactivate c outcome) [.resolve c outcome] [] (m.setActive call.prompt none)
  | resolve {c outcome call} :
    m.calls[c]? = some call →
    Fires m t (.resolve c outcome) [] []
      ((m.modifyCall c fun call => { call with outcome := some outcome }).emit t
        (.resolved c call.ticket outcome))
  | noOffer {i d} :
    i.offer? = some d →
    m.dialogs[d]? = none →
    Fires m t i [] [] m
  | presentOpen {d o stack} :
    m.dialogs[d]? = some o →
    m.terminal = some stack →
    Fires m t (.present d) o.origin.accepted []
      (({ m.emit t (.opening o.dialog.title o.dialog.buttons.length) with
          terminal := some (stack.push ⟨o.dialog, 0⟩) }).tellProgram t o.origin none)
  | presentProgram {d o} :
    m.dialogs[d]? = some o →
    m.terminal = none →
    o.origin = .program →
    Fires m t (.present d) [.accept d] [] m
  | presentInterrupt {d o p c} :
    m.dialogs[d]? = some o →
    m.terminal = none →
    o.origin ≠ .program →
    m.overrides.interruptOnShow = true →
    m.latest = some p →
    m.reach p = some c →
    Fires m t (.present d) (.wakeCall c :: m.presented d o) []
      (m.modifyCall c fun call => { call with handoff := call.handoff.interrupt })
  | presentIgnored {d o p} :
    m.dialogs[d]? = some o →
    m.terminal = none →
    o.origin ≠ .program →
    m.overrides.interruptOnShow = true →
    m.latest = some p →
    m.reach p = none →
    Fires m t (.present d) (m.presented d o) [] (m.emit t .interruptIgnored)
  | present {d o} :
    m.dialogs[d]? = some o →
    m.terminal = none →
    o.origin ≠ .program →
    (m.overrides.interruptOnShow = false ∨ m.latest = none) →
    Fires m t (.present d) (m.presented d o) [] m
  | acceptFailed {d o e} :
    m.dialogs[d]? = some o →
    m.desk.failNext = some e →
    Fires m t (.accept d) (o.origin.refused e) []
      (({ m with desk := { m.desk with failNext := none } }).tellProgram t o.origin (some e))
  | accept {d o} :
    m.dialogs[d]? = some o →
    m.desk.failNext = none →
    Fires m t (.accept d) [.exhibit d] [] m
  | exhibit {d o} :
    m.dialogs[d]? = some o →
    Fires m t (.exhibit d) [.choose d] []
      { m with desk := { m.desk with shown := m.desk.shown ++ [o.dialog.snapshot] } }
  | chooseNone {d o} :
    m.dialogs[d]? = some o →
    m.desk.responder.choose o.dialog = none →
    Fires m t (.choose d) [.keep d] [] m
  | choose {d o slot} :
    m.dialogs[d]? = some o →
    m.desk.responder.choose o.dialog = some slot →
    o.dialog.hasSlot slot = true →
    Fires m t (.choose d) [.schedulePress d slot] [] (m.emit t (.pressScheduled d slot o.dialog.title))
  | chooseMissing {d o slot} :
    m.dialogs[d]? = some o →
    m.desk.responder.choose o.dialog = some slot →
    o.dialog.hasSlot slot = false →
    Fires m t (.choose d) [.keep d] [] (m.emit t (.chosenSlotMissing slot))
  | schedulePress {d slot o} :
    m.dialogs[d]? = some o →
    m.loop.closed = false →
    Fires m t (.schedulePress d slot) (.wakeLoop :: o.origin.accepted) [.pressChosen d slot]
      ((m.enqueue t [.pressChosen d slot]).tellProgram t o.origin none)
  | schedulePressClosed {d slot o} :
    m.dialogs[d]? = some o →
    m.loop.closed = true →
    Fires m t (.schedulePress d slot) (o.origin.refused .closed) []
      (m.tellProgram t o.origin (some .closed))
  | keep {d o} :
    m.dialogs[d]? = some o →
    Fires m t (.keep d) o.origin.accepted []
      (({ m with desk := { m.desk with pending := m.desk.pending ++ [d] } }).tellProgram t o.origin none)
  | takePending {index slot place d} :
    place = index.getD (m.desk.pending.length - 1) →
    m.desk.pending[place]? = some d →
    Fires m t (.takePending index slot) [.pressTaken place d slot] []
      { m with desk := { m.desk with pending := m.desk.pending.eraseIdx place } }
  | takeNothing {index slot} :
    m.desk.pending[index.getD (m.desk.pending.length - 1)]? = none →
    Fires m t (.takePending index slot) [] [] (m.emit t (.nothingToPress slot index))
  | pressTaken {place d slot o reaction} :
    m.dialogs[d]? = some o →
    o.dialog.press slot = .ok reaction →
    Fires m t (.pressTaken place d slot) reaction.code [] (m.emit t (.pressed d slot))
  | pressTakenMissing {place d slot o back} :
    m.dialogs[d]? = some o →
    o.dialog.press slot = .error back →
    Fires m t (.pressTaken place d slot) [.putBack place d] []
      (m.emit t (.noSuchButton d slot o.dialog.title))
  | putBack {place d} :
    Fires m t (.putBack place d) [] []
      { m with desk := { m.desk with
          pending := m.desk.pending.insertIdx (min place m.desk.pending.length) d } }
  | pressChosen {d slot o reaction} :
    m.dialogs[d]? = some o →
    o.dialog.press slot = .ok reaction →
    Fires m t (.pressChosen d slot) reaction.code [] (m.emit t (.pressed d slot))
  | pressChosenMissing {d slot o back} :
    m.dialogs[d]? = some o →
    o.dialog.press slot = .error back →
    Fires m t (.pressChosen d slot) [] [] m
  | complete {c code call} :
    m.calls[c]? = some call →
    call.handoff.value = none →
    Fires m t (.complete c code) [.wakeCall c] []
      (m.modifyCall c fun call => { call with handoff := (call.handoff.complete code).2 })
  | completeAgain {c code call} :
    m.calls[c]? = some call →
    call.handoff.value.isSome = true →
    Fires m t (.complete c code) [] [] m
  | release {c} :
    Fires m t (.release c) [] []
      (m.modifyCall c fun call => { call with handoff := call.handoff.releaseEmpty })
  | wakeCall {c} :
    Fires m t (.wakeCall c) [] [] (m.wake fun i => match i with | .await d _ => c == d | _ => false)
  | report {e} :
    Fires m t (.report e) [] [] (({ m with lastError := e.message }).emit t (.failed e))
  | conclude {view slot} :
    Fires m t (.conclude view slot) ((view.conclude slot).1.elim [] Reaction.code) []
      (m.note t (view.conclude slot).2)

/-! ### Every instruction fires, but for a run that takes a task and a panic -/

/-- The machine `m'` comes from firing the instruction `i` of thread `t`, with `rest` behind it. -/
def Fired (m : Machine) (t : ThreadId) (i : Instr) (rest : List Instr) (m' : Machine) : Prop :=
  ∃ next sent m₁, Fires m t i next sent m₁ ∧ m' = m₁.goto t (next ++ rest)

/-- Posting a task is firing an operation that has a task. -/
lemma post_fired {m : Machine} {t rest o task} (ho : Op.task? o = some task) :
    Fired m t (.op o) rest (m.post t task rest) := by
  unfold Machine.post Loop.post
  split
  · next e he =>
    split at he
    · next hc =>
      cases he
      exact ⟨_, _, _, .postClosed ho hc, rfl⟩
    · cases he
  · next loop hl =>
    split at hl
    · cases hl
    · next hc =>
      cases hl
      exact ⟨_, _, _, .post ho (by simpa using hc), rfl⟩

/-- What an operation other than a panic does is described by its firing. -/
lemma execOp_fired {m m' : Machine} {t rest o} (h : m.execOp t rest o = some m') (hp : o ≠ .panic) :
    Fired m t (.op o) rest m' := by
  cases o with
  | say text => cases h; exact ⟨_, _, _, .say, rfl⟩
  | post body => cases h; exact post_fired rfl
  | run token rethrow =>
    cases h
    unfold Machine.run
    split
    · next loop hb => exact ⟨_, _, _, .run hb, rfl⟩
    · next loop hb => exact ⟨_, _, _, .runForeign (by rw [hb]), rfl⟩
  | signal token => cases h; exact ⟨_, _, _, .signal, rfl⟩
  | checkSignal token => cases h; exact ⟨_, _, _, .checkSignal, rfl⟩
  | inspect => cases h; exact ⟨_, _, _, .inspect, rfl⟩
  | describe token => cases h; exact ⟨_, _, _, .describe, rfl⟩
  | bind => cases h; exact ⟨_, _, _, .bind, rfl⟩
  | close => cases h; exact ⟨_, _, _, .close, rfl⟩
  | panic => exact absurd rfl hp
  | fork body => cases h; exact ⟨_, _, _, .fork, rfl⟩
  | later ms body => cases h; exact ⟨_, _, _, .later, rfl⟩
  | join other =>
    rw [execOp] at h
    split at h
    · next hf => cases h; exact ⟨_, _, _, .join hf, rfl⟩
    · cases h
  | receive caller =>
    rw [execOp] at h
    split at h
    · next hr => cases h; exact ⟨_, _, _, .receive hr, rfl⟩
    · cases h
  | ask p ticket =>
    cases h
    unfold Machine.ask
    split
    · next hq => exact ⟨_, _, _, .askUnknown hq, rfl⟩
    · next q hq =>
      refine ⟨_, _, _, .ask hq, ?_⟩
      by_cases hu : m.isUiThread t <;> simp [newCall, hu, Context.first]
  | interrupt p =>
    cases h
    unfold Machine.interrupt
    split
    · next c hc => exact ⟨_, _, _, .interrupt hc, rfl⟩
    · next hc => exact ⟨_, _, _, .interruptIgnored hc, rfl⟩
  | offer d => cases h; exact ⟨_, _, _, .offer, rfl⟩
  | press index slot => cases h; exact post_fired rfl
  | dismiss =>
    cases h
    unfold Machine.dismiss
    split
    · next hl => exact ⟨_, _, _, .dismissNothing hl, rfl⟩
    · next d hl =>
      split
      · next ho => exact ⟨_, _, _, .dismissUnknown hl ho, rfl⟩
      · next o ho =>
        split
        · next hc => exact ⟨_, _, _, .dismiss hl ho hc, rfl⟩
        · next hc => exact ⟨_, _, _, .dismissRefused hl ho (by simpa using hc), rfl⟩
  | respond responder => cases h; exact ⟨_, _, _, .respond, rfl⟩
  | failNext e => cases h; exact ⟨_, _, _, .failNext, rfl⟩
  | key k =>
    cases h
    unfold Machine.key
    split
    · next ht => exact ⟨_, _, _, .keyUnseen ht, rfl⟩
    · next stack ht =>
      split
      · next view slot stack' hr => exact ⟨_, _, _, .keyClosed ht hr, rfl⟩
      · next r stack' hn hr =>
        refine ⟨_, _, _, .key ht fun view slot he => ?_, ?_⟩
        · rw [hr] at he
          exact hn view slot he
        · rw [hr]
          rfl

/-- A change of a call that only looks at its present value may be written as a constant. -/
lemma modifyCall_congr {m : Machine} {c call} {f g : Call → Call} (hc : m.calls[c]? = some call)
    (h : f call = g call) : m.modifyCall c f = m.modifyCall c g := by
  have hcalls : m.calls.modify c f = m.calls.modify c g := by
    apply List.ext_getElem?
    intro j
    by_cases hj : c = j
    · subst hj
      simp [hc, h]
    · simp [hj]
  simp [modifyCall, hcalls]

/-- Giving a thread the code it has changes nothing. -/
lemma goto_self {m : Machine} {t th} (ht : m.threads[t]? = some th) : m.goto t th.code = m := by
  have hthreads : (m.threads.modify t fun th' => { th' with code := th.code }) = m.threads := by
    apply List.ext_getElem?
    intro j
    by_cases hj : t = j
    · subst hj
      simp [ht]
    · simp [hj]
  simp [goto, hthreads]

/-- A thread that falls asleep keeps its code. -/
lemma sleep_goto {m : Machine} {t th} (ht : m.threads[t]? = some th) :
    m.sleep t = (m.sleep t).goto t th.code := by
  have ht' : (m.sleep t).threads[t]? = some { th with asleep := true } := by simp [Machine.sleep, ht]
  exact (goto_self ht').symm

/-- What presenting a dialog does is described by its firing. -/
lemma present_fired {m : Machine} {t rest d o} (ho : m.dialogs[d]? = some o) :
    Fired m t (.present d) rest (m.present t d o rest) := by
  unfold Machine.present
  split
  · next stack hs => exact ⟨_, _, _, .presentOpen ho hs, rfl⟩
  · next hs =>
    split
    · next hp => exact ⟨_, _, _, .presentProgram ho hs hp, rfl⟩
    · next hp =>
      dsimp only
      split
      · next p hi hl =>
        unfold Machine.interrupt
        split
        · next c hc => exact ⟨_, _, _, .presentInterrupt ho hs hp hi hl hc, rfl⟩
        · next hc => exact ⟨_, _, _, .presentIgnored ho hs hp hi hl hc, rfl⟩
      · next hn =>
        refine ⟨_, _, _, .present ho hs hp ?_, rfl⟩
        cases hl : m.latest with
        | none => exact .inr rfl
        | some p =>
          cases hi : m.overrides.interruptOnShow with
          | false => exact .inl rfl
          | true => exact (hn p hi hl).elim

/-- What asking the responder does is described by its firing. -/
lemma choose_fired {m : Machine} {t rest d o} (ho : m.dialogs[d]? = some o) :
    Fired m t (.choose d) rest (m.choose t d o rest) := by
  unfold Machine.choose
  split
  · next hr => exact ⟨_, _, _, .chooseNone ho hr, rfl⟩
  · next slot hr =>
    split
    · next hs => exact ⟨_, _, _, .choose ho hr hs, rfl⟩
    · next hs => exact ⟨_, _, _, .chooseMissing ho hr (by simpa using hs), rfl⟩

/-- What posting a chosen press does is described by its firing. -/
lemma schedulePress_fired {m : Machine} {t rest d slot o} (ho : m.dialogs[d]? = some o) :
    Fired m t (.schedulePress d slot) rest (m.schedulePress t d slot o rest) := by
  unfold Machine.schedulePress Loop.post
  split
  · next e he =>
    split at he
    · next hc =>
      cases he
      exact ⟨_, _, _, .schedulePressClosed ho hc, rfl⟩
    · cases he
  · next loop hl =>
    split at hl
    · cases hl
    · next hc =>
      cases hl
      exact ⟨_, _, _, .schedulePress ho (by simpa using hc), rfl⟩

/-- What posting the task of a call does is described by its firing. -/
lemma schedule_fired {m : Machine} {t rest c} :
    Fired m t (.schedule c) rest (m.schedule t c rest) := by
  unfold Machine.schedule Loop.post
  split
  · next hi => exact ⟨_, _, _, .scheduleInline hi, rfl⟩
  · next hi =>
    have hi : m.overrides.inlineTasks = false := by simpa using hi
    split
    · next e he =>
      split at he
      · next hc =>
        cases he
        exact ⟨_, _, _, .scheduleClosed hi hc, rfl⟩
      · cases he
    · next loop hl =>
      split at hl
      · cases hl
      · next hc =>
        cases hl
        exact ⟨_, _, _, .schedule hi (by simpa using hc), rfl⟩

/-- What waiting for a call does is described by its firing. -/
lemma await_fired {m : Machine} {t th rest c deadline call} (ht : m.threads[t]? = some th)
    (hcode : th.code = .await c deadline :: rest) (hc : m.calls[c]? = some call) :
    Fired m t (.await c deadline) rest (m.await t c deadline call rest) := by
  unfold Machine.await
  split
  · next hl => exact ⟨_, _, _, .awaitReady hc hl, rfl⟩
  · next hl => exact ⟨_, _, _, .awaitInterrupted hc hl, rfl⟩
  · next hl => exact ⟨_, _, _, .awaitTimedOut hc hl, rfl⟩
  · next remaining hl =>
    -- the thread sleeps in the look itself, so it keeps its code
    refine ⟨_, _, _, .awaitSleep hc hl, ?_⟩
    have h := sleep_goto ht
    rw [hcode] at h
    exact h

/-- What running the loop inside a call does is described by its firing. -/
lemma nest_fired {m : Machine} {t rest c} : Fired m t (.nest c) rest (m.nest t c rest) := by
  unfold Machine.nest
  dsimp only
  split
  · next e he => exact ⟨_, _, _, .nestFailed he, rfl⟩
  · next he =>
    split
    · next loop hb => exact ⟨_, _, _, .nest he hb, rfl⟩
    · next loop hb => exact ⟨_, _, _, .nestForeign he (congrArg Prod.fst hb), rfl⟩

/-- What taking a pending dialog does is described by its firing. -/
lemma takePending_fired {m : Machine} {t rest index slot} :
    Fired m t (.takePending index slot) rest (m.takePending t index slot rest) := by
  unfold Machine.takePending
  dsimp only
  split
  · next d hd => exact ⟨_, _, _, .takePending rfl hd, rfl⟩
  · next hd => exact ⟨_, _, _, .takeNothing hd, rfl⟩

/-- What completing a call does is described by its firing. -/
lemma complete_fired {m : Machine} {t rest c code call} (hc : m.calls[c]? = some call) :
    Fired m t (.complete c code) rest
      (match call.handoff.complete code with
      | (true, handoff) => (m.modifyCall c fun call => { call with handoff }).goto t (.wakeCall c :: rest)
      | (false, _) => m.goto t rest) := by
  cases hv : call.handoff.value with
  | none =>
    have he : call.handoff.complete code =
        (true, { call.handoff with value := some code, permits := call.handoff.permits + 1 }) := by
      simp [Handoff.complete, hv]
    rw [he]
    refine ⟨_, _, _, .complete hc hv, ?_⟩
    dsimp only
    congr 1
    exact modifyCall_congr hc (by simp [he])
  | some old =>
    have he : call.handoff.complete code = (false, call.handoff) := by simp [Handoff.complete, hv]
    rw [he]
    exact ⟨_, _, _, .completeAgain hc (by simp [hv]), rfl⟩

/-- The machine after a run has taken the first task of its queue. -/
def taken (m : Machine) (t : ThreadId) (task : Task) (queue : List Task) : Machine :=
  ({ m with loop := { m.loop with queue } }).emit t (.started task)

/-- What an instruction about a call does is described by its firing. -/
lemma execInstr_call {m m' : Machine} {t th rest i c} (ht : m.threads[t]? = some th)
    (hcode : th.code = i :: rest) (hi : i.call? = some c) (h : m.execInstr t rest i = some m') :
    Fired m t i rest m' := by
  cases hc : m.calls[c]? with
  | none =>
    refine ⟨_, _, _, .noCall hi hc, ?_⟩
    cases i <;> cases hi <;> simpa [execInstr, withCall, hc] using h.symm
  | some call =>
    cases i with
    | activate c =>
      cases hi
      exact ⟨_, _, _, .activate hc, by simpa [execInstr, withCall, hc] using h.symm⟩
    | create c =>
      cases hi
      refine ⟨_, _, _, .create hc, ?_⟩
      simp only [execInstr, withCall, hc, Option.elim, Option.some.injEq] at h
      rw [← h]
      unfold Machine.create Machine.offer Call.offer
      cases call.context <;> rfl
    | beginWait c =>
      cases hi
      exact ⟨_, _, _, .beginWait hc, by simpa [execInstr, withCall, hc] using h.symm⟩
    | await c deadline =>
      cases hi
      simp only [execInstr, withCall, hc, Option.elim, Option.some.injEq] at h
      rw [← h]
      exact await_fired ht hcode hc
    | collect c =>
      cases hi
      exact ⟨_, _, _, .collect hc, by simpa [execInstr, withCall, hc] using h.symm⟩
    | deactivate c outcome =>
      cases hi
      exact ⟨_, _, _, .deactivate hc, by simpa [execInstr, withCall, hc] using h.symm⟩
    | resolve c outcome =>
      cases hi
      exact ⟨_, _, _, .resolve hc, by simpa [execInstr, withCall, hc] using h.symm⟩
    | complete c code =>
      cases hi
      simp only [execInstr, withCall, hc, Option.elim, Option.some.injEq] at h
      rw [← h]
      exact complete_fired hc
    | _ => cases hi

/-- What an instruction about a dialog does is described by its firing. -/
lemma execInstr_offer {m m' : Machine} {t rest i d} (hi : i.offer? = some d)
    (h : m.execInstr t rest i = some m') : Fired m t i rest m' := by
  cases ho : m.dialogs[d]? with
  | none =>
    refine ⟨_, _, _, .noOffer hi ho, ?_⟩
    cases i <;> cases hi <;> simpa [execInstr, withOffer, ho] using h.symm
  | some o =>
    cases i with
    | present d =>
      cases hi
      simp only [execInstr, withOffer, ho, Option.elim, Option.some.injEq] at h
      rw [← h]
      exact present_fired ho
    | accept d =>
      cases hi
      simp only [execInstr, withOffer, ho, Option.elim, Option.some.injEq] at h
      rw [← h]
      unfold Machine.accept
      split
      · next e he => exact ⟨_, _, _, .acceptFailed ho he, rfl⟩
      · next he => exact ⟨_, _, _, .accept ho he, rfl⟩
    | exhibit d =>
      cases hi
      exact ⟨_, _, _, .exhibit ho, by simpa [execInstr, withOffer, ho] using h.symm⟩
    | choose d =>
      cases hi
      simp only [execInstr, withOffer, ho, Option.elim, Option.some.injEq] at h
      rw [← h]
      exact choose_fired ho
    | schedulePress d slot =>
      cases hi
      simp only [execInstr, withOffer, ho, Option.elim, Option.some.injEq] at h
      rw [← h]
      exact schedulePress_fired ho
    | keep d =>
      cases hi
      exact ⟨_, _, _, .keep ho, by simpa [execInstr, withOffer, ho, acceptDialog] using h.symm⟩
    | pressTaken place d slot =>
      cases hi
      simp only [execInstr, withOffer, ho, Option.elim, Option.some.injEq] at h
      rw [← h]
      unfold Machine.pressDialog
      split
      · next reaction hr => exact ⟨_, _, _, .pressTaken ho hr, rfl⟩
      · next back hr => exact ⟨_, _, _, .pressTakenMissing ho hr, rfl⟩
    | pressChosen d slot =>
      cases hi
      simp only [execInstr, withOffer, ho, Option.elim, Option.some.injEq] at h
      rw [← h]
      unfold Machine.pressDialog
      split
      · next reaction hr => exact ⟨_, _, _, .pressChosen ho hr, rfl⟩
      · next back hr => exact ⟨_, _, _, .pressChosenMissing ho hr, rfl⟩
    | _ => cases hi

/-- What the next instruction of a thread can do: it fires, or a run takes a task, or it is a panic. -/
lemma execInstr_cases {m m' : Machine} {t th rest i} (ht : m.threads[t]? = some th)
    (hcode : th.code = i :: rest) (h : m.execInstr t rest i = some m') :
    Fired m t i rest m' ∨
    (∃ token task queue, i = .pump token ∧ token ∉ m.loop.signalled ∧ m.loop.queue = task :: queue ∧
      m' = (m.taken t task queue).goto t (task ++ .pump token :: rest)) ∨
    (i = .op .panic ∧ m' = m.panic t rest) := by
  cases hcall : i.call? with
  | some c => exact .inl (execInstr_call ht hcode hcall h)
  | none =>
    cases hoffer : i.offer? with
    | some d => exact .inl (execInstr_offer hoffer h)
    | none =>
      cases i with
      | op o =>
        by_cases hp : o = .panic
        · subst hp
          cases h
          exact .inr (.inr ⟨rfl, rfl⟩)
        · exact .inl (execOp_fired h hp)
      | pump token =>
        cases h
        unfold Machine.pump
        split
        · next hs => exact .inl ⟨_, _, _, .leave hs, rfl⟩
        · next hs =>
          split
          · next task queue hq => exact .inr (.inl ⟨token, task, queue, rfl, hs, hq, rfl⟩)
          · next hq =>
            -- the thread sleeps in the run itself, so it keeps its code
            refine .inl ⟨_, _, _, .doze hs hq, ?_⟩
            have hsleep := sleep_goto ht
            rw [hcode] at hsleep
            exact hsleep
      | returned token rethrow => cases h; exact .inl ⟨_, _, _, .returned, rfl⟩
      | wakeLoop => cases h; exact .inl ⟨_, _, _, .wakeLoop, rfl⟩
      | sleepUntil time =>
        rw [execInstr] at h
        split at h
        · next hle => cases h; exact .inl ⟨_, _, _, .sleepUntil hle, rfl⟩
        · cases h
      | schedule c => cases h; exact .inl schedule_fired
      | nest c => cases h; exact .inl nest_fired
      | nestLeft c => cases h; exact .inl ⟨_, _, _, .nestLeft, rfl⟩
      | takePending index slot => cases h; exact .inl takePending_fired
      | putBack place d => cases h; exact .inl ⟨_, _, _, .putBack, rfl⟩
      | release c => cases h; exact .inl ⟨_, _, _, .release, rfl⟩
      | wakeCall c => cases h; exact .inl ⟨_, _, _, .wakeCall, rfl⟩
      | report e => cases h; exact .inl ⟨_, _, _, .report, rfl⟩
      | conclude view slot => cases h; exact .inl ⟨_, _, _, .conclude, rfl⟩
      | _ => simp_all [Instr.call?, Instr.offer?]

/-- What a move can do. -/
inductive Steps (m : Machine) : Move → Machine → Prop where
  /-- The thread cannot go on. -/
  | stuck {t} :
    m.exec t = none →
    Steps m (.exec t) m
  | fires {t th i rest next sent m₁} :
    m.threads[t]? = some th →
    th.code = i :: rest →
    th.asleep = false →
    Fires m t i next sent m₁ →
    Steps m (.exec t) (m₁.goto t (next ++ rest))
  | takes {t th token rest task queue} :
    m.threads[t]? = some th →
    th.code = .pump token :: rest →
    th.asleep = false →
    token ∉ m.loop.signalled →
    m.loop.queue = task :: queue →
    Steps m (.exec t) ((m.taken t task queue).goto t (task ++ .pump token :: rest))
  | panics {t th rest} :
    m.threads[t]? = some th →
    th.code = .op .panic :: rest →
    th.asleep = false →
    Steps m (.exec t) (m.panic t rest)
  | rouse {t} :
    Steps m (.rouse t) (m.rouse t)
  | pass {ms} :
    Steps m (.pass ms) { m with clock := m.clock + ms }

/-- Every move does one of the things that `Steps` lists. -/
lemma steps (m : Machine) (mv : Move) : Steps m mv (m.step mv) := by
  cases mv with
  | exec t =>
    cases he : m.exec t with
    | none => simpa [step, he] using Steps.stuck he
    | some m' =>
      have hstep : m.step (.exec t) = m' := by simp [step, he]
      rw [hstep]
      unfold exec at he
      split at he
      · next name i rest panicked ht =>
        obtain ⟨next, sent, m₁, hf, rfl⟩ | ⟨token, task, queue, rfl, hs, hq, rfl⟩ | ⟨rfl, rfl⟩ :=
          execInstr_cases ht rfl he
        · exact .fires ht rfl rfl hf
        · exact .takes ht rfl rfl hs hq
        · exact .panics ht rfl rfl
      · cases he
  | rouse t => exact .rouse
  | pass ms => exact .pass

end MessageBox.Machine

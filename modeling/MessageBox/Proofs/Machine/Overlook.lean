import MessageBox.Proofs.Machine.Caller

/-!
# Interruptions that nobody looks at

The interruption in a handoff is only ever read by the wait for it. So a call whose wait is over (`PastWait`) may
have been interrupted or not, and the machine goes on in the same way. Neither does anybody read that an
interruption was ignored. `overlook` takes both out of a machine, and a machine makes the same moves before and
after that (`step_overlook`).
-/

namespace MessageBox.Machine

/-- The wait of a call is over: no step up to its end is left, now or later. -/
structure PastWait (m : Machine) (c : CallId) : Prop where
  made : c < m.calls.length
  waits : ∀ i ∈ m.agenda, i.waits c = false

/-- Whether an event tells of an interruption that reached no call. -/
def Event.tellsIgnored : Event → Bool
  | .interruptIgnored => true
  | _ => false

/-- A call with an interruption in its handoff. -/
def Call.interrupted (call : Call) : Call := { call with handoff := call.handoff.interrupt }

/-- The machine without the events of ignored interruptions, and with each call of `late` interrupted. -/
def overlook (m : Machine) (late : List CallId) : Machine :=
  { m with
    history := m.history.filter fun e => !e.2.tellsIgnored
    calls := m.calls.mapIdx fun c call => if c ∈ late then call.interrupted else call }

section Overlook

variable {m : Machine} {late : List CallId} {t : ThreadId} {rest : List Instr}

/-! ### Small changes -/

/-- Overlooking leaves the threads alone. -/
lemma overlook_threads : (m.overlook late).threads = m.threads := rfl

/-- Overlooking leaves the loop alone. -/
lemma overlook_loop : (m.overlook late).loop = m.loop := rfl

/-- Overlooking leaves the desk alone. -/
lemma overlook_desk : (m.overlook late).desk = m.desk := rfl

/-- Overlooking leaves the terminal alone. -/
lemma overlook_terminal : (m.overlook late).terminal = m.terminal := rfl

/-- Overlooking leaves the overrides alone. -/
lemma overlook_overrides : (m.overlook late).overrides = m.overrides := rfl

/-- Overlooking leaves the prompts alone. -/
lemma overlook_prompts : (m.overlook late).prompts = m.prompts := rfl

/-- Overlooking leaves the dialogs alone. -/
lemma overlook_dialogs : (m.overlook late).dialogs = m.dialogs := rfl

/-- Overlooking leaves the latest prompt alone. -/
lemma overlook_latest : (m.overlook late).latest = m.latest := rfl

/-- Overlooking leaves the clock alone. -/
lemma overlook_clock : (m.overlook late).clock = m.clock := rfl

/-- The loop may be replaced before or after overlooking. -/
@[simp] lemma overlook_setLoop (loop : Loop) :
    { m.overlook late with loop } = ({ m with loop }).overlook late := rfl

/-- The desk may be replaced before or after overlooking. -/
@[simp] lemma overlook_setDesk (desk : Desk) :
    { m.overlook late with desk } = ({ m with desk }).overlook late := rfl

/-- The terminal may be replaced before or after overlooking. -/
@[simp] lemma overlook_setTerminal (terminal : Option (Terminal.Stack Reaction)) :
    { m.overlook late with terminal } = ({ m with terminal }).overlook late := rfl

/-- The dialogs may be replaced before or after overlooking. -/
@[simp] lemma overlook_setDialogs (dialogs : List Offer) :
    { m.overlook late with dialogs } = ({ m with dialogs }).overlook late := rfl

/-- A thread may fall asleep before or after overlooking. -/
@[simp] lemma overlook_sleep : (m.overlook late).sleep t = (m.sleep t).overlook late := rfl

/-- Threads may be woken before or after overlooking. -/
@[simp] lemma overlook_wake (p : Instr → Bool) : (m.overlook late).wake p = (m.wake p).overlook late := rfl

/-- Overlooking does not change which thread is the UI thread. -/
@[simp] lemma overlook_isUiThread : (m.overlook late).isUiThread t = m.isUiThread t := rfl

/-- An event that tells of no ignored interruption may come before or after overlooking. -/
@[simp]
lemma overlook_emit {e : Event} (he : e ≠ .interruptIgnored) :
    (m.overlook late).emit t e = (m.emit t e).overlook late := by
  have hkeep : e.tellsIgnored = false := by
    cases e with
    | interruptIgnored => exact absurd rfl he
    | _ => rfl
  simp [overlook, emit, hkeep]

/-- An ignored interruption is overlooked. -/
lemma overlook_ignored : (m.emit t .interruptIgnored).overlook late = m.overlook late := by
  simp [overlook, emit, Event.tellsIgnored]

/-- A thread may go to its next code before or after overlooking. -/
@[simp]
lemma overlook_goto (code : List Instr) :
    (m.overlook late).goto t code = (m.goto t code).overlook late := rfl

/-- Records may be left before or after overlooking. -/
@[simp]
lemma overlook_note (records : List Log.Record) :
    (m.overlook late).note t records = (m.note t records).overlook late := by
  induction records generalizing m with
  | nil => rfl
  | cons r records ih =>
    have hcons : ∀ m : Machine, m.note t (r :: records) = (m.emit t (.logged r)).note t records := fun _ => rfl
    rw [hcons, hcons, overlook_emit (by simp), ih]

/-- What overlooking makes of a call: the late ones are interrupted, the others are as they were. -/
lemma overlook_calls (c : CallId) :
    (m.overlook late).calls[c]? =
      m.calls[c]?.map fun call => if c ∈ late then call.interrupted else call := by
  simp [overlook]

/-- Overlooking leaves the outcomes of calls alone. -/
@[simp]
lemma overlook_outcome? (caller : Nat) : (m.overlook late).outcome? caller = m.outcome? caller := by
  have same : ∀ (calls : List Call) (f : Nat → Call → Call),
      (∀ c call, (f c call).ticket = call.ticket ∧ (f c call).outcome = call.outcome) →
      ((calls.mapIdx f).find? (·.ticket == .caller caller)).bind (·.outcome) =
        (calls.find? (·.ticket == .caller caller)).bind (·.outcome) := by
    intro calls
    induction calls with
    | nil => intro f _; rfl
    | cons call calls ih =>
      intro f hf
      rw [List.mapIdx_cons, List.find?_cons, List.find?_cons, (hf 0 call).1]
      split
      · exact (hf 0 call).2
      · exact ih _ fun c call => hf (c + 1) call
  refine same m.calls _ fun c call => ?_
  split <;> exact ⟨rfl, rfl⟩

/-- A call may be changed before or after it is taken for interrupted, if the change allows it. -/
lemma overlook_modifyCall {c : CallId} (f' f : Call → Call)
    (h : ∀ call, m.calls[c]? = some call →
      f' (if c ∈ late then call.interrupted else call) = if c ∈ late then (f call).interrupted else f call) :
    (m.overlook late).modifyCall c f' = (m.modifyCall c f).overlook late := by
  have hcalls : (m.calls.mapIdx fun c call => if c ∈ late then call.interrupted else call).modify c f' =
      (m.calls.modify c f).mapIdx fun c call => if c ∈ late then call.interrupted else call := by
    apply List.ext_getElem?
    intro j
    by_cases hj : c = j
    · subst hj
      cases hc : m.calls[c]? with
      | none => simp [hc]
      | some call => simpa [hc] using h call hc
    · simp [hj]
  simp only [overlook, modifyCall, hcalls]

/-- Interrupting a call that is overlooked anyway changes nothing that is seen. -/
lemma overlook_interrupted {c : CallId} (hc : c ∈ late) :
    (m.modifyCall c Call.interrupted).overlook late = m.overlook late := by
  have hcalls : ((m.calls.modify c Call.interrupted).mapIdx fun c call =>
        if c ∈ late then call.interrupted else call) =
      m.calls.mapIdx fun c call => if c ∈ late then call.interrupted else call := by
    apply List.ext_getElem?
    intro j
    by_cases hj : c = j
    · subst hj
      have hidem : ∀ call : Call, call.interrupted.interrupted = call.interrupted := fun _ => rfl
      simp [hc, Function.comp_def, hidem]
    · simp [hj]
  simp only [overlook, modifyCall, hcalls]

/-- Overlooking twice is overlooking once, if the second time takes in the late calls of the first. -/
lemma overlook_overlook {more : List CallId} (h : late ⊆ more) :
    (m.overlook late).overlook more = m.overlook more := by
  have hcalls : ((m.calls.mapIdx fun c call => if c ∈ late then call.interrupted else call).mapIdx
        fun c call => if c ∈ more then call.interrupted else call) =
      m.calls.mapIdx fun c call => if c ∈ more then call.interrupted else call := by
    apply List.ext_getElem?
    intro c
    have hidem : ∀ call : Call, call.interrupted.interrupted = call.interrupted := fun _ => rfl
    by_cases hl : c ∈ late
    · simp [hl, h hl, Function.comp_def, hidem]
    · simp [hl, Function.comp_def]
  simp only [overlook, hcalls, Array.filter_filter, Bool.and_self]

/-! ### What instructions do -/

/-- A task may be posted before or after overlooking. -/
lemma overlook_post (task : Task) :
    (m.overlook late).post t task rest = (m.post t task rest).overlook late := by
  unfold Machine.post
  rw [overlook_loop]
  split <;> simp

/-- A run may be entered before or after overlooking. -/
lemma overlook_enter (loop : Loop) (code : List Instr) :
    (m.overlook late).enter t loop code = (m.enter t loop code).overlook late := by
  simp [Machine.enter]

/-- A run may be tried before or after overlooking. -/
lemma overlook_run (token : Token) (rethrow : Bool) :
    (m.overlook late).run t token rethrow rest = (m.run t token rethrow rest).overlook late := by
  unfold Machine.run
  rw [overlook_loop]
  split <;> simp [overlook_enter]

/-- A run may go on before or after overlooking. -/
lemma overlook_pump (token : Token) :
    (m.overlook late).pump t token rest = (m.pump t token rest).overlook late := by
  unfold Machine.pump
  rw [overlook_loop]
  split
  · simp
  · split <;> simp

/-- A thread may panic before or after overlooking. -/
lemma overlook_panic : (m.overlook late).panic t rest = (m.panic t rest).overlook late := by
  unfold Machine.panic
  dsimp only
  split
  · simp [overlook_loop]
  · rfl

/-- A program may be told about its offer before or after overlooking. -/
lemma overlook_tellProgram (origin : Origin) (failure : Option ToolkitFailure) :
    (m.overlook late).tellProgram t origin failure = (m.tellProgram t origin failure).overlook late := by
  unfold Machine.tellProgram
  split <;> simp

/-- A dialog may be accepted before or after overlooking. -/
lemma overlook_acceptDialog (o : Offer) :
    (m.overlook late).acceptDialog t o rest = (m.acceptDialog t o rest).overlook late := by
  simp [Machine.acceptDialog, overlook_tellProgram]

/-- A dialog may be refused before or after overlooking. -/
lemma overlook_refuseDialog (o : Offer) (e : ToolkitFailure) :
    (m.overlook late).refuseDialog t o e rest = (m.refuseDialog t o e rest).overlook late := by
  simp [Machine.refuseDialog, overlook_tellProgram]

/-- A dialog may be offered before or after overlooking. -/
lemma overlook_offer (o : Offer) :
    (m.overlook late).offer t o rest = (m.offer t o rest).overlook late := by
  simp [Machine.offer, overlook_dialogs]

/-- An interruption reaches the same call. -/
lemma overlook_interrupt (p : PromptId) :
    ((m.overlook late).interrupt t p rest).overlook late = (m.interrupt t p rest).overlook late := by
  unfold Machine.interrupt
  rw [overlook_prompts]
  split
  · rw [overlook_modifyCall _ Call.interrupted fun call _ => by split <;> rfl, overlook_goto,
      overlook_overlook (List.Subset.refl _)]
    rfl
  · rw [← overlook_goto, overlook_ignored, ← overlook_goto, overlook_ignored,
      overlook_overlook (List.Subset.refl _)]

/-- The headless toolkit may take a dialog in before or after overlooking. -/
lemma overlook_accept (d : DialogId) (o : Offer) :
    (m.overlook late).accept t d o rest = (m.accept t d o rest).overlook late := by
  unfold Machine.accept
  rw [overlook_desk]
  split <;> simp [overlook_refuseDialog]

/-- The responder may be asked before or after overlooking. -/
lemma overlook_choose (d : DialogId) (o : Offer) :
    (m.overlook late).choose t d o rest = (m.choose t d o rest).overlook late := by
  unfold Machine.choose
  rw [overlook_desk]
  split
  · simp
  · split <;> simp

/-- A chosen press may be posted before or after overlooking. -/
lemma overlook_schedulePress (d : DialogId) (slot : Slot) (o : Offer) :
    (m.overlook late).schedulePress t d slot o rest = (m.schedulePress t d slot o rest).overlook late := by
  unfold Machine.schedulePress
  rw [overlook_loop]
  split <;> simp [overlook_refuseDialog, overlook_tellProgram]

/-- A dialog may be pressed before or after overlooking. -/
lemma overlook_pressDialog (d : DialogId) (slot : Slot) (o : Offer) (missing : Machine) :
    (m.overlook late).pressDialog t d slot o rest (missing.overlook late) =
      (m.pressDialog t d slot o rest missing).overlook late := by
  unfold Machine.pressDialog
  split <;> simp

/-- A pending dialog may be taken before or after overlooking. -/
lemma overlook_takePending (index : Option Nat) (slot : Slot) :
    (m.overlook late).takePending t index slot rest = (m.takePending t index slot rest).overlook late := by
  unfold Machine.takePending
  simp only [overlook_desk]
  split <;> simp

/-- The last dialog may be dismissed before or after overlooking. -/
lemma overlook_dismiss : (m.overlook late).dismiss t rest = (m.dismiss t rest).overlook late := by
  have hdialog : ∀ d : DialogId, (m.overlook late).dialogs[d]? = m.dialogs[d]? := fun _ => rfl
  unfold Machine.dismiss
  simp only [overlook_desk, hdialog]
  split
  · simp
  · split
    · simp
    · split <;> simp

/-- A key may be typed before or after overlooking. -/
lemma overlook_key (k : Terminal.Key) :
    (m.overlook late).key t k rest = (m.key t k rest).overlook late := by
  unfold Machine.key
  rw [overlook_terminal]
  split
  · rfl
  · next stack _ =>
    have hnote : (m.overlook late).note t (stack.records k) = (m.note t (stack.records k)).overlook late :=
      overlook_note _
    unfold note at hnote
    rw [hnote]
    split <;> rfl

/-- A closed dialog may be acted on before or after overlooking. -/
lemma overlook_conclude (view : Terminal.View Reaction) (slot : Option Slot) :
    (m.overlook late).conclude t view slot rest = (m.conclude t view slot rest).overlook late := by
  unfold Machine.conclude
  have hnote : (m.overlook late).note t (view.conclude slot).2 =
      (m.note t (view.conclude slot).2).overlook late := overlook_note _
  unfold note at hnote
  dsimp only
  rw [hnote, overlook_goto]

/-- A call that starts is none of those that are overlooked. -/
lemma overlook_addCall (hmade : ∀ c ∈ late, c < m.calls.length) (call : Call) :
    { m.overlook late with calls := (m.overlook late).calls ++ [call] } =
      ({ m with calls := m.calls ++ [call] }).overlook late := by
  have hnew : m.calls.length ∉ late := fun h => Nat.lt_irrefl _ (hmade _ h)
  simp [overlook, List.mapIdx_append, hnew]

/-- A call may be made before or after overlooking, as it is not among those that are late already. -/
lemma overlook_ask (hmade : ∀ c ∈ late, c < m.calls.length) (p : PromptId) (ticket : Ticket) :
    (m.overlook late).ask t p ticket rest = (m.ask t p ticket rest).overlook late := by
  have hlen : (m.overlook late).calls.length = m.calls.length := by simp [overlook]
  have hprompt : (m.overlook late).prompts[p]? = m.prompts[p]? := rfl
  unfold Machine.ask
  rw [hprompt]
  split
  · rfl
  · simp only [overlook_isUiThread, hlen, overlook_addCall hmade, overlook_goto,
      overlook_emit (e := .asking _ _ _ _) (by simp)]
    rfl

/-- The task of a call may be posted before or after overlooking. -/
lemma overlook_schedule (c : CallId) :
    (m.overlook late).schedule t c rest = (m.schedule t c rest).overlook late := by
  have hinline : (m.overlook late).overrides.inlineTasks = m.overrides.inlineTasks := rfl
  unfold Machine.schedule
  rw [hinline, overlook_loop]
  split
  · rfl
  · split <;> simp

/-- The nested run of a call may begin before or after overlooking. -/
lemma overlook_nest (c : CallId) :
    (m.overlook late).nest t c rest = (m.nest t c rest).overlook late := by
  unfold Machine.nest
  simp only [overlook_emit (e := .nestEntered c) (by simp), overlook_overrides, overlook_loop]
  split
  · rfl
  · split
    · rw [overlook_enter]
    · rfl

/-- A dialog that is presented may have a call interrupted before. -/
lemma overlook_present (d : DialogId) (o : Offer) :
    ((m.overlook late).present t d o rest).overlook late = (m.present t d o rest).overlook late := by
  have same : ∀ code : List Instr,
      ((m.overlook late).goto t code).overlook late = (m.goto t code).overlook late := fun code => by
    rw [overlook_goto, overlook_overlook (List.Subset.refl _)]
  unfold Machine.present
  rw [overlook_terminal]
  split
  · simp [overlook_acceptDialog, overlook_overlook (List.Subset.refl _)]
  · split
    · exact same _
    · dsimp only
      rw [overlook_overrides, overlook_latest]
      split
      · exact overlook_interrupt _
      · exact same _

/-- A wait looks at the interruption of its own call only. -/
lemma overlook_await {c : CallId} {deadline : Option Nat} {call : Call} (hc : c ∉ late) :
    (m.overlook late).await t c deadline call rest = (m.await t c deadline call rest).overlook late := by
  have hmodify : ∀ f : Call → Call,
      (m.overlook late).modifyCall c f = (m.modifyCall c f).overlook late :=
    fun f => overlook_modifyCall f f fun call _ => by rw [if_neg hc, if_neg hc]
  unfold Machine.await
  rw [overlook_clock]
  split <;> simp [hmodify]

/-- What is done with an offer may be done before or after overlooking, if this is so for every offer. -/
lemma overlook_withOffer {d : DialogId} {f g : Offer → Machine} (h : ∀ o, f o = (g o).overlook late) :
    (m.overlook late).withOffer t d rest f = (m.withOffer t d rest g).overlook late := by
  unfold Machine.withOffer
  rw [overlook_dialogs]
  cases m.dialogs[d]? with
  | none => rfl
  | some o => exact h o

/-- What is done with a call may be done before or after overlooking, if this is so for the call as overlooking shows
it. -/
lemma overlook_withCall {c : CallId} {f g : Call → Machine}
    (h : ∀ call, m.calls[c]? = some call →
      f (if c ∈ late then call.interrupted else call) = (g call).overlook late) :
    (m.overlook late).withCall t c rest f = (m.withCall t c rest g).overlook late := by
  unfold Machine.withCall
  rw [overlook_calls]
  cases hc : m.calls[c]? with
  | none => rfl
  | some call => exact h call hc

/-- A thread may tell of something and go on before or after overlooking. -/
lemma overlook_tell {e : Event} (he : e ≠ .interruptIgnored) :
    ((m.overlook late).emit t e).goto t rest = ((m.emit t e).goto t rest).overlook late := by
  rw [overlook_emit he, overlook_goto]

/-- An operation that interrupts no prompt may be executed before or after overlooking. -/
lemma execOp_overlook (hmade : ∀ c ∈ late, c < m.calls.length) {o : Op} (ho : ∀ p, o ≠ .interrupt p) :
    (m.overlook late).execOp t rest o = (m.execOp t rest o).map (·.overlook late) := by
  cases o with
  | interrupt p => exact absurd rfl (ho p)
  | post body => exact congrArg some (overlook_post _)
  | press index slot => exact congrArg some (overlook_post _)
  | run token rethrow => exact congrArg some (overlook_run ..)
  | panic => exact congrArg some overlook_panic
  | ask p ticket => exact congrArg some (overlook_ask hmade ..)
  | offer d => exact congrArg some (overlook_offer _)
  | dismiss => exact congrArg some overlook_dismiss
  | key k => exact congrArg some (overlook_key k)
  | join other =>
    have hfinished : (m.overlook late).finished other = m.finished other := rfl
    rw [execOp, execOp, hfinished]
    split <;> rfl
  | receive caller =>
    rw [execOp, execOp, overlook_outcome?]
    split <;> rfl
  | say | checkSignal | inspect | describe => exact congrArg some (overlook_tell (by simp))
  | bind => exact congrArg some (overlook_tell (m := { m with loop := (m.loop.bind t).2 }) (by simp))
  | signal | close | fork | later | respond | failNext => rfl

/-- Whatever comes next on a thread, interruptions of calls that it does not wait for make no difference. -/
lemma execInstr_overlook {i : Instr} (hmade : ∀ c ∈ late, c < m.calls.length)
    (hwaits : ∀ c ∈ late, i.waits c = false) :
    ((m.overlook late).execInstr t rest i).map (·.overlook late) =
      (m.execInstr t rest i).map (·.overlook late) := by
  -- most instructions even leave the same behind
  have same : ∀ {i : Instr},
      (m.overlook late).execInstr t rest i = (m.execInstr t rest i).map (·.overlook late) →
      ((m.overlook late).execInstr t rest i).map (·.overlook late) =
        (m.execInstr t rest i).map (·.overlook late) := by
    intro i h
    rw [h, Option.map_map]
    congr 1
    exact funext fun m => overlook_overlook (List.Subset.refl _)
  cases i with
  | op o =>
    by_cases hp : ∃ p, o = .interrupt p
    · obtain ⟨p, rfl⟩ := hp
      exact congrArg some (overlook_interrupt p)
    · exact same (execOp_overlook hmade fun p h => hp ⟨p, h⟩)
  | present d =>
    rw [execInstr, execInstr, Option.map_some, Option.map_some, withOffer, withOffer, overlook_dialogs]
    cases m.dialogs[d]? with
    | none =>
      refine congrArg some ?_
      rw [Option.elim_none, Option.elim_none, overlook_goto, overlook_overlook (List.Subset.refl _)]
    | some o => exact congrArg some (overlook_present d o)
  | pump token => exact same (congrArg some (overlook_pump _))
  | sleepUntil time =>
    refine same ?_
    rw [execInstr, execInstr, overlook_clock]
    split <;> rfl
  | activate c =>
    refine same (congrArg some (overlook_withCall fun call _ => ?_))
    split <;> rfl
  | schedule c => exact same (congrArg some (overlook_schedule c))
  | create c =>
    refine same (congrArg some (overlook_withCall fun call _ => ?_))
    split <;> exact overlook_offer _
  | beginWait c =>
    refine same (congrArg some (overlook_withCall fun call _ => ?_))
    split <;> rfl
  | await c deadline =>
    have hc : c ∉ late := fun h => by simpa [Instr.waits] using hwaits c h
    refine same (congrArg some (overlook_withCall fun call _ => ?_))
    rw [if_neg hc]
    exact overlook_await hc
  | nest c => exact same (congrArg some (overlook_nest c))
  | collect c =>
    refine same (congrArg some (overlook_withCall fun call _ => ?_))
    split <;> rfl
  | deactivate c o =>
    refine same (congrArg some (overlook_withCall fun call _ => ?_))
    split <;> rfl
  | resolve c o =>
    refine same (congrArg some (overlook_withCall fun call _ => ?_))
    have hticket : (if c ∈ late then call.interrupted else call).ticket = call.ticket := by split <;> rfl
    rw [hticket, overlook_modifyCall _ (fun call => { call with outcome := some o })
      fun call _ => by split <;> rfl]
    exact overlook_tell (by simp)
  | accept d => exact same (congrArg some (overlook_withOffer fun o => overlook_accept d o))
  | exhibit d => exact same (congrArg some (overlook_withOffer fun o => rfl))
  | choose d => exact same (congrArg some (overlook_withOffer fun o => overlook_choose d o))
  | schedulePress d slot =>
    exact same (congrArg some (overlook_withOffer fun o => overlook_schedulePress d slot o))
  | keep d => exact same (congrArg some (overlook_withOffer fun o =>
      overlook_acceptDialog (m := { m with desk := { m.desk with pending := m.desk.pending ++ [d] } }) o))
  | takePending index slot => exact same (congrArg some (overlook_takePending index slot))
  | pressTaken place d slot =>
    refine same (congrArg some (overlook_withOffer fun o => ?_))
    rw [overlook_emit (by simp), overlook_goto]
    exact overlook_pressDialog d slot o _
  | putBack place d => exact same rfl
  | pressChosen d slot =>
    exact same (congrArg some (overlook_withOffer fun o => overlook_pressDialog d slot o (m.goto t rest)))
  | complete c code =>
    refine same (congrArg some (overlook_withCall fun call hc => ?_))
    have hvalue : (if c ∈ late then call.interrupted else call).handoff.value = call.handoff.value := by
      split <;> rfl
    cases hv : call.handoff.value with
    | none =>
      have hfirst : ∀ h : Handoff Nat, h.value = none →
          h.complete code = (true, { h with value := some code, permits := h.permits + 1 }) := by
        intro h hv
        simp [Handoff.complete, hv]
      rw [hfirst _ hv, hfirst _ (hvalue.trans hv)]
      dsimp only
      rw [overlook_modifyCall _ (fun old => { old with handoff :=
        { call.handoff with value := some code, permits := call.handoff.permits + 1 } }), overlook_goto]
      intro call' _
      split <;> rfl
    | some old =>
      have hagain : ∀ h : Handoff Nat, h.value = some old → h.complete code = (false, h) := by
        intro h hv
        simp [Handoff.complete, hv]
      rw [hagain _ hv, hagain _ (hvalue.trans hv)]
      rfl
  | release c =>
    refine same (congrArg some ?_)
    rw [overlook_modifyCall _ (fun call => { call with handoff := call.handoff.releaseEmpty })
      fun call _ => by split <;> rfl, overlook_goto]
  | conclude view slot => exact same (congrArg some (overlook_conclude view slot))
  | report e => exact same (congrArg some (overlook_tell (m := { m with lastError := e.message }) (by simp)))
  | nestLeft | returned => exact same (congrArg some (overlook_tell (by simp)))
  | wakeLoop | wakeCall => exact same rfl

/-- Interruptions of calls whose wait is over make no difference to a move. -/
lemma step_overlook (mv : Move) (hpast : ∀ c ∈ late, m.PastWait c) :
    ((m.overlook late).step mv).overlook late = (m.step mv).overlook late := by
  cases mv with
  | rouse t => exact overlook_overlook (m := m.rouse t) (List.Subset.refl _)
  | pass ms => exact overlook_overlook (m := { m with clock := m.clock + ms }) (List.Subset.refl _)
  | exec t =>
    simp only [step, exec, overlook_threads]
    split
    · next name i rest panicked ht =>
      have hi : i ∈ m.agenda := mem_agenda_of_code (codes_getElem? ht) (List.mem_cons_self ..)
      have hsame : ((m.overlook late).execInstr t rest i).map (·.overlook late) =
          (m.execInstr t rest i).map (·.overlook late) :=
        execInstr_overlook (fun c hc => (hpast c hc).made) (fun c hc => (hpast c hc).waits i hi)
      cases he : m.execInstr t rest i with
      | none =>
        rw [he, Option.map_none, Option.map_eq_none_iff] at hsame
        rw [hsame]
        exact overlook_overlook (List.Subset.refl _)
      | some m' =>
        rw [he, Option.map_some, Option.map_eq_some_iff] at hsame
        obtain ⟨m'', he', hm''⟩ := hsame
        rw [he']
        exact hm''
    · exact overlook_overlook (List.Subset.refl _)

end Overlook

/-! ### A wait that is over stays over -/

/-- A wait that is over stays so. -/
lemma PastWait.step {m : Machine} {c : CallId} (h : m.PastWait c) (mv : Move) : (m.step mv).PastWait c where
  made := Nat.lt_of_lt_of_le h.made (step_grows m mv).calls_length
  waits j hj := by
    rcases (steps m mv).fires_or_quiet with ⟨t, i, rest, next, sent, m₁, -, ht, hf, he⟩ | hq
    · by_contra hw
      rcases hf.waits_before ht (he ▸ hj) (by simpa using hw) with ⟨k, hk, hkw⟩ | ⟨rfl, -⟩
      · rw [h.waits k hk] at hkw
        cases hkw
      · exact absurd h.made (Nat.lt_irrefl _)
    · exact h.waits j (hq.agenda.subset hj)

/-- Overlooking leaves the agenda alone. -/
lemma overlook_agenda (m : Machine) (late : List CallId) : (m.overlook late).agenda = m.agenda := rfl

/-- Whether a wait is over does not depend on what is overlooked. -/
lemma PastWait.of_overlook {m m' : Machine} {late : List CallId} {c : CallId} (h : m.PastWait c)
    (he : m.overlook late = m'.overlook late) : m'.PastWait c := by
  have hlen : ∀ m : Machine, (m.overlook late).calls.length = m.calls.length := by simp [overlook]
  constructor
  case made =>
    rw [← hlen, ← he, hlen]
    exact h.made
  case waits =>
    rw [← overlook_agenda m' late, ← he]
    exact h.waits

/-- Machines that differ in interruptions that nobody looks at make the same moves. -/
lemma step_alike {m m' : Machine} {late : List CallId} (mv : Move) (hpast : ∀ c ∈ late, m.PastWait c)
    (he : m.overlook late = m'.overlook late) :
    (m.step mv).overlook late = (m'.step mv).overlook late := by
  rw [← step_overlook mv hpast, he, step_overlook mv fun c hc => (hpast c hc).of_overlook he]

end MessageBox.Machine

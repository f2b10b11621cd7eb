import MessageBox.Proofs.Machine.Growth

/-!
# What an instruction puts on the agenda

`Leads m t i j` says that thread `t` of machine `m`, executing the instruction `i`, may put the instruction
`j` on the agenda, and under which conditions. It is the view of `Fires` that invariants about single
instructions need: where an instruction comes from is a case analysis on `Fires.leads`.
-/

namespace MessageBox.Machine

/-- The program that an operation hands to a task or a thread. -/
def Op.body? : Op → Option (List Op)
  | .post body | .fork body | .later _ body => some body
  | _ => none

/-- The button that an instruction is about to press. -/
def Instr.press? : Instr → Option (DialogId × Slot)
  | .pressTaken _ d slot | .pressChosen d slot => some (d, slot)
  | _ => none

/-- An instruction that presses a button is about the dialog that it presses. -/
lemma Instr.offer?_of_press {i : Instr} {d : DialogId} {slot : Slot} (h : i.press? = some (d, slot)) :
    i.offer? = some d := by
  cases i with
  | pressTaken | pressChosen =>
    cases h
    rfl
  | _ => cases h

/-- Where the instructions on the agenda come from. -/
inductive Leads (m : Machine) (t : ThreadId) : Instr → Instr → Prop where
  | body {o body o'} :
    Op.body? o = some body →
    o' ∈ body →
    Leads m t (.op o) (.op o')
  | join {body} :
    Leads m t (.op (.fork body)) (.op (.join m.threads.length))
  | sleepUntil {ms body} :
    Leads m t (.op (.later ms body)) (.sleepUntil (m.clock + ms))
  | take {index slot} :
    Leads m t (.op (.press index slot)) (.takePending index slot)
  | wakeLoop {i} :
    Leads m t i .wakeLoop
  | wakeCall {i c} :
    Leads m t i (.wakeCall c)
  | report {i e} :
    Leads m t i (.report e)
  | pump {token rethrow} :
    (m.loop.bind t).1 = true →
    Leads m t (.op (.run token rethrow)) (.pump token)
  | returned {token rethrow} :
    (m.loop.bind t).1 = true →
    Leads m t (.op (.run token rethrow)) (.returned token rethrow)
  | doze {token} :
    token ∉ m.loop.signalled →
    m.loop.queue = [] →
    Leads m t (.pump token) (.pump token)
  | activate {p ticket q} :
    m.prompts[p]? = some q →
    Leads m t (.op (.ask p ticket)) (.activate m.calls.length)
  | ask {p ticket q} :
    m.prompts[p]? = some q →
    m.isUiThread t = true →
    Leads m t (.op (.ask p ticket)) (.create m.calls.length)
  | askOff {p ticket q} :
    m.prompts[p]? = some q →
    m.isUiThread t = false →
    Leads m t (.op (.ask p ticket)) (.schedule m.calls.length)
  | create {c} :
    Leads m t (.schedule c) (.create c)
  | beginWait {c} :
    Leads m t (.schedule c) (.beginWait c)
  | await {c call} :
    m.calls[c]? = some call →
    Leads m t (.beginWait c) (.await c (call.options.waitLimit.map (m.clock + ·)))
  | awaitSleep {c deadline call remaining} :
    m.calls[c]? = some call →
    Handoff.wait.check deadline m.clock call.handoff = .sleep remaining →
    Leads m t (.await c deadline) (.await c deadline)
  | closed {c} :
    m.loop.closed = true →
    Leads m t (.schedule c) (.deactivate c .noAction)
  | ready {c deadline call} :
    m.calls[c]? = some call →
    Handoff.wait.check deadline m.clock call.handoff = .ready →
    Leads m t (.await c deadline) (.deactivate c call.recorded)
  | interrupted {c deadline call} :
    m.calls[c]? = some call →
    Handoff.wait.check deadline m.clock call.handoff = .interrupted →
    call.options.reportInterruption = true →
    Leads m t (.await c deadline) (.deactivate c .interrupted)
  | swallowed {c deadline call} :
    m.calls[c]? = some call →
    Handoff.wait.check deadline m.clock call.handoff = .interrupted →
    call.options.reportInterruption = false →
    Leads m t (.await c deadline) (.collect c)
  | timedOut {c deadline call} :
    m.calls[c]? = some call →
    Handoff.wait.check deadline m.clock call.handoff = .timedOut →
    Leads m t (.await c deadline) (.deactivate c .timedOut)
  | nestPump {c} :
    m.overrides.nestedFailure = none →
    (m.loop.bind t).1 = true →
    Leads m t (.nest c) (.pump (.call c))
  | nestLeft {c} :
    Leads m t (.nest c) (.nestLeft c)
  | nestCollect {c} :
    Leads m t (.nest c) (.collect c)
  | collected {c call} :
    m.calls[c]? = some call →
    Leads m t (.collect c) (.deactivate c call.recorded)
  | resolve {c outcome} :
    Leads m t (.deactivate c outcome) (.resolve c outcome)
  | offered {d} :
    Leads m t (.op (.offer d)) (.present m.dialogs.length)
  | created {c call} :
    m.calls[c]? = some call →
    Leads m t (.create c) (.present m.dialogs.length)
  | accept {d o} :
    m.dialogs[d]? = some o →
    Leads m t (.present d) (.accept d)
  | instant {d o slot} :
    m.dialogs[d]? = some o →
    m.overrides.instantPress = some slot →
    o.dialog.hasSlot slot = true →
    Leads m t (.present d) (.pressChosen d slot)
  | exhibit {d o} :
    m.dialogs[d]? = some o →
    m.desk.failNext = none →
    Leads m t (.accept d) (.exhibit d)
  | choose {d o} :
    m.dialogs[d]? = some o →
    Leads m t (.exhibit d) (.choose d)
  | schedulePress {d o slot} :
    m.dialogs[d]? = some o →
    m.desk.responder.choose o.dialog = some slot →
    o.dialog.hasSlot slot = true →
    Leads m t (.choose d) (.schedulePress d slot)
  | keep {d o} :
    m.dialogs[d]? = some o →
    (∀ slot, m.desk.responder.choose o.dialog = some slot → o.dialog.hasSlot slot = false) →
    Leads m t (.choose d) (.keep d)
  | pressChosen {d slot o} :
    m.dialogs[d]? = some o →
    m.loop.closed = false →
    Leads m t (.schedulePress d slot) (.pressChosen d slot)
  | pressTaken {index slot place d} :
    m.desk.pending[place]? = some d →
    Leads m t (.takePending index slot) (.pressTaken place d slot)
  | putBack {place d slot o back} :
    m.dialogs[d]? = some o →
    o.dialog.press slot = .error back →
    Leads m t (.pressTaken place d slot) (.putBack place d)
  | accepted {i d o j} :
    i.offer? = some d →
    m.dialogs[d]? = some o →
    j ∈ o.origin.accepted →
    Leads m t i j
  | refused {i d o e j} :
    i.offer? = some d →
    m.dialogs[d]? = some o →
    (m.desk.failNext = some e ∨ m.loop.closed = true) →
    j ∈ o.origin.refused e →
    Leads m t i j
  | pressed {i d slot o reaction j} :
    i.press? = some (d, slot) →
    m.dialogs[d]? = some o →
    o.dialog.press slot = .ok reaction →
    j ∈ reaction.code →
    Leads m t i j
  | conclude {k stack view slot stack'} :
    m.terminal = some stack →
    stack.route k = (.closed view slot, stack') →
    Leads m t (.op (.key k)) (.conclude view slot)
  | concluded {view slot reaction j} :
    (view.conclude slot).1 = some reaction →
    j ∈ reaction.code →
    Leads m t (.conclude view slot) j

/-- What is done with a presented dialog: it is pressed at once, taken, or handed on. -/
lemma leads_presented {m : Machine} {t d o j} (ho : m.dialogs[d]? = some o) (hj : j ∈ m.presented d o) :
    Leads m t (.present d) j := by
  rcases mem_presented.1 hj with ⟨slot, hp, hs, rfl | hn⟩ | ⟨-, rfl⟩
  · exact .instant ho hp hs
  · exact .accepted rfl ho (mem_accepted.2 hn)
  · exact .accept ho

/-- Where nothing else is left, this is where it comes from. -/
lemma Leads.only {m : Machine} {t i a j} (h : Leads m t i a) (hj : j ∈ [a] ∨ j ∈ []) : Leads m t i j := by
  rcases hj with hj | hj
  · obtain rfl := List.mem_singleton.1 hj
    exact h
  · cases hj

/-- What a firing leaves and hands on comes from the executed instruction. -/
lemma Fires.leads {m m₁ : Machine} {t i next sent j} (h : Fires m t i next sent m₁)
    (hj : j ∈ next ∨ j ∈ sent) : Leads m t i j := by
  cases h with
  | @post o task ho _ =>
    rcases hj with hj | hj
    · obtain rfl := List.mem_singleton.1 hj
      exact .wakeLoop
    · cases o with
      | post body =>
        cases ho
        obtain ⟨o', ho', rfl⟩ := mem_load.1 hj
        exact .body rfl ho'
      | press index slot =>
        cases ho
        obtain rfl := List.mem_singleton.1 hj
        exact .take
      | _ => cases ho
  | run hb =>
    simp only [List.mem_cons, List.not_mem_nil, or_false] at hj
    obtain rfl | rfl := hj
    · exact .pump (by rw [hb])
    · exact .returned (by rw [hb])
  | fork =>
    rcases hj with hj | hj
    · obtain rfl := List.mem_singleton.1 hj
      exact .join
    · obtain ⟨o', ho', rfl⟩ := mem_load.1 hj
      exact .body rfl ho'
  | later =>
    rcases hj with hj | hj
    · cases hj
    · rcases List.mem_cons.1 hj with rfl | hj
      · exact .sleepUntil
      · obtain ⟨o', ho', rfl⟩ := mem_load.1 hj
        exact .body rfl ho'
  | ask hq =>
    simp only [List.mem_cons, List.not_mem_nil, or_false] at hj
    obtain rfl | rfl := hj
    · exact .activate hq
    · by_cases hu : m.isUiThread t = true
      · simp only [newCall, hu, if_true]
        exact .ask hq hu
      · simp only [newCall, hu]
        exact .askOff hq (by simpa using hu)
  | scheduleInline _ =>
    simp only [List.mem_cons, List.not_mem_nil, or_false] at hj
    obtain rfl | rfl := hj
    · exact .create
    · exact .beginWait
  | schedule _ _ =>
    simp only [List.mem_cons, List.not_mem_nil, or_false] at hj
    obtain (rfl | rfl) | rfl := hj
    · exact .wakeLoop
    · exact .beginWait
    · exact .create
  | scheduleClosed _ hc =>
    simp only [List.mem_cons, List.not_mem_nil, or_false] at hj
    obtain rfl | rfl := hj
    · exact .report
    · exact .closed hc
  | awaitInterrupted hc hl =>
    simp only [List.mem_cons, List.not_mem_nil, or_false] at hj
    split at hj
    · next hr => exact hj ▸ .interrupted hc hl hr
    · next hr => exact hj ▸ .swallowed hc hl (by simpa using hr)
  | nestFailed _ =>
    simp only [List.mem_cons, List.not_mem_nil, or_false] at hj
    obtain rfl | rfl | rfl := hj
    · exact .nestLeft
    · exact .report
    · exact .nestCollect
  | nest hn hb =>
    simp only [List.mem_cons, List.not_mem_nil, or_false] at hj
    obtain rfl | rfl | rfl := hj
    · exact .nestPump hn (by rw [hb])
    · exact .nestLeft
    · exact .nestCollect
  | nestForeign _ _ =>
    simp only [List.mem_cons, List.not_mem_nil, or_false] at hj
    obtain rfl | rfl | rfl := hj
    · exact .nestLeft
    · exact .report
    · exact .nestCollect
  | presentOpen ho _ =>
    rcases hj with hj | hj
    · exact .accepted rfl ho hj
    · cases hj
  | presentInterrupt ho _ _ _ _ _ =>
    rcases hj with hj | hj
    · rcases List.mem_cons.1 hj with rfl | hj
      · exact .wakeCall
      · exact leads_presented ho hj
    · cases hj
  | presentIgnored ho _ _ _ _ _ =>
    rcases hj with hj | hj
    · exact leads_presented ho hj
    · cases hj
  | present ho _ _ _ =>
    rcases hj with hj | hj
    · exact leads_presented ho hj
    · cases hj
  | acceptFailed ho he =>
    rcases hj with hj | hj
    · exact .refused rfl ho (.inl he) hj
    · cases hj
  | schedulePress ho hc =>
    rcases hj with hj | hj
    · rcases List.mem_cons.1 hj with rfl | hj
      · exact .wakeLoop
      · exact .accepted rfl ho hj
    · obtain rfl := List.mem_singleton.1 hj
      exact .pressChosen ho hc
  | schedulePressClosed ho hc =>
    rcases hj with hj | hj
    · exact .refused rfl ho (.inr hc) hj
    · cases hj
  | keep ho =>
    rcases hj with hj | hj
    · exact .accepted rfl ho hj
    · cases hj
  | pressTaken ho hr =>
    rcases hj with hj | hj
    · exact .pressed rfl ho hr hj
    · cases hj
  | pressChosen ho hr =>
    rcases hj with hj | hj
    · exact .pressed rfl ho hr hj
    · cases hj
  | @conclude view slot =>
    rcases hj with hj | hj
    · cases hr : (view.conclude slot).1 with
      | none =>
        rw [hr] at hj
        cases hj
      | some reaction =>
        rw [hr] at hj
        exact .concluded hr hj
    · cases hj
  | signal => exact Leads.wakeLoop.only hj
  | close => exact Leads.wakeLoop.only hj
  | interrupt _ => exact Leads.wakeCall.only hj
  | offer => exact Leads.offered.only hj
  | keyClosed ht hr => exact (Leads.conclude ht hr).only hj
  | doze hs hq => exact (Leads.doze hs hq).only hj
  | create hc => exact (Leads.created hc).only hj
  | beginWait hc => exact (Leads.await hc).only hj
  | awaitReady hc hl => exact (Leads.ready hc hl).only hj
  | awaitTimedOut hc hl => exact (Leads.timedOut hc hl).only hj
  | awaitSleep hc hl => exact (Leads.awaitSleep hc hl).only hj
  | collect hc => exact (Leads.collected hc).only hj
  | deactivate _ => exact Leads.resolve.only hj
  | presentProgram ho _ _ => exact (Leads.accept ho).only hj
  | accept ho he => exact (Leads.exhibit ho he).only hj
  | exhibit ho => exact (Leads.choose ho).only hj
  | chooseNone ho hr => exact (Leads.keep ho (by simp [hr])).only hj
  | choose ho hr hs => exact (Leads.schedulePress ho hr hs).only hj
  | chooseMissing ho hr hs => exact (Leads.keep ho (by simp [hr, hs])).only hj
  | takePending _ hd => exact (Leads.pressTaken hd).only hj
  | pressTakenMissing ho hr => exact (Leads.putBack ho hr).only hj
  | complete _ _ => exact Leads.wakeCall.only hj
  | _ => simp at hj

/-- A call returns with the verdict it was given. -/
lemma Leads.of_resolve {m : Machine} {t i c o} (h : Leads m t i (.resolve c o)) : i = .deactivate c o := by
  cases h with
  | resolve => rfl
  | accepted _ _ hj => simp at hj
  | refused _ _ _ hj => simp at hj
  | pressed _ _ _ hj => simp at hj
  | concluded _ hj => simp at hj

end MessageBox.Machine

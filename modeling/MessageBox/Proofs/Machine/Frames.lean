import MessageBox.Proofs.Machine.Caller

/-!
# Control stacks around a UI thread

A UI thread `u` pumps the loop of a headless machine, a responder `r` presses a button of every prompt's
dialog, and all programs are tame: they leave the loop, the responder and running calls alone. Then the code
of every thread is what it does at the moment (`Front`) on top of programs and live runs of the loop
(`Below`), and every task in the queue is of one of four kinds (`Queued`). `Staffed` says this of a whole
machine, and `step_staffed` that it stays so.
-/

namespace MessageBox.Machine

/-- An operation that leaves the loop, the responder and running calls alone. -/
inductive Op.Tame : Op → Prop where
  | say {text} :
    Tame (.say text)
  | post {body} :
    (∀ o ∈ body, Tame o) →
    Tame (.post body)
  | signal {name} :
    Tame (.signal (.named name))
  | checkSignal {token} :
    Tame (.checkSignal token)
  | inspect :
    Tame .inspect
  | describe {token} :
    Tame (.describe token)
  | bind :
    Tame .bind
  | fork {body} :
    (∀ o ∈ body, Tame o) →
    Tame (.fork body)
  | later {ms body} :
    (∀ o ∈ body, Tame o) →
    Tame (.later ms body)
  | join {thread} :
    Tame (.join thread)
  | receive {caller} :
    Tame (.receive caller)
  | ask {p ticket} :
    Tame (.ask p ticket)
  | offer {d : Dialog (List Op)} :
    (∀ b ∈ d.buttons, ∀ o ∈ b.action, Tame o) →
    Tame (.offer d)
  | press {index slot} :
    Tame (.press index slot)
  | dismiss :
    Tame .dismiss
  | key {k} :
    Tame (.key k)

/-- In the dialog of a specification, the responder presses the button of this code. -/
def Responder.Answers (r : Responder) (spec : Spec) (code : Nat) : Prop :=
  ∃ slot, r.choose (spec.dialog id) = some slot ∧ (slot, code) ∈ Slot.layout spec.actions.length

/-- A call waits without a limit, and what is recorded for it and returned is what the responder presses. -/
structure Call.Served (call : Call) (r : Responder) : Prop where
  unlimited : call.options.waitLimit = none
  answers : ∃ code, r.Answers call.spec code
  uninterrupted : call.handoff.interruptPending = false
  permits : 0 < call.handoff.permits → call.handoff.value.isSome = true
  value : ∀ {code}, call.handoff.value = some code → r.Answers call.spec code
  outcome : ∀ {o}, call.outcome = some o →
    ∃ code, r.Answers call.spec code ∧ o = .ofCode code call.spec.actions.length

/-- The code is what the responder presses for a call. -/
def Pressed (m : Machine) (r : Responder) (c : CallId) (code : Nat) : Prop :=
  ∃ call, m.calls[c]? = some call ∧ r.Answers call.spec code

/-- The outcome is what the responder presses for a call. -/
def Decided (m : Machine) (r : Responder) (c : CallId) (o : Outcome) : Prop :=
  ∃ call code, m.calls[c]? = some call ∧ r.Answers call.spec code ∧
    o = .ofCode code call.spec.actions.length

/-- An answer is recorded for a call. -/
def Answered (m : Machine) (c : CallId) : Prop := ∃ code, m.Recorded c code

/-- An offer of a program's own dialog. -/
def ProgramDialog (m : Machine) (d : DialogId) : Prop := ∃ o, m.dialogs[d]? = some o ∧ o.origin = .program

/-- An offered dialog; if it belongs to a call, it is thread `u` that deals with it. -/
def DealtWith (m : Machine) (u t : ThreadId) (d : DialogId) : Prop :=
  ∃ o, m.dialogs[d]? = some o ∧ (o.origin ≠ .program → t = u)

/-- The responder chooses the slot for a dialog. -/
def ChosenSlot (m : Machine) (r : Responder) (d : DialogId) (slot : Slot) : Prop :=
  ∃ o, m.dialogs[d]? = some o ∧ r.choose o.dialog = some slot

/-- What a thread `t` does at the moment. -/
inductive Front (m : Machine) (u : ThreadId) (r : Responder) (t : ThreadId) : List Instr → Prop where
  | none :
    Front m u r t []
  | ask {c} :
    t = u →
    c < m.calls.length →
    Front m u r t [.activate c, .create c]
  | askOff {c} :
    t ≠ u →
    m.In .worker c →
    Front m u r t [.activate c, .schedule c]
  | schedule {c} :
    t ≠ u →
    m.In .worker c →
    Front m u r t [.schedule c]
  | scheduled {c} :
    t ≠ u →
    m.In .worker c →
    Front m u r t [.wakeLoop, .beginWait c]
  | beginWait {c} :
    t ≠ u →
    m.In .worker c →
    Front m u r t [.beginWait c]
  | await {c} :
    t ≠ u →
    m.In .worker c →
    Front m u r t [.await c none]
  | create {c} :
    t = u →
    c < m.calls.length →
    Front m u r t [.create c]
  | present {d} :
    m.DealtWith u t d →
    Front m u r t [.present d]
  | accept {d} :
    m.DealtWith u t d →
    Front m u r t [.accept d]
  | exhibit {d} :
    m.DealtWith u t d →
    Front m u r t [.exhibit d]
  | choose {d} :
    m.DealtWith u t d →
    Front m u r t [.choose d]
  | schedulePress {d slot} :
    m.DealtWith u t d →
    m.ChosenSlot r d slot →
    Front m u r t [.schedulePress d slot]
  | keep {d} :
    m.ProgramDialog d →
    Front m u r t [.keep d]
  | wakeLoop :
    Front m u r t [.wakeLoop]
  | wakeNest {c} :
    t = u →
    m.In .uiThread c →
    Front m u r t [.wakeLoop, .nest c]
  | nest {c} :
    t = u →
    m.In .uiThread c →
    Front m u r t [.nest c]
  | deactivate {c o} :
    m.Decided r c o →
    Front m u r t [.deactivate c o]
  | resolve {c o} :
    m.Decided r c o →
    Front m u r t [.resolve c o]
  | take {index slot} :
    t = u →
    Front m u r t [.takePending index slot]
  | pressTaken {place d slot} :
    t = u →
    m.ProgramDialog d →
    Front m u r t [.pressTaken place d slot]
  | putBack {place d} :
    t = u →
    m.ProgramDialog d →
    Front m u r t [.putBack place d]
  | pressChosen {d slot} :
    t = u →
    m.ChosenSlot r d slot →
    Front m u r t [.pressChosen d slot]
  | complete {c code} :
    t = u →
    m.In .worker c →
    m.Pressed r c code →
    Front m u r t [.complete c code]
  | wakeCall {c} :
    Front m u r t [.wakeCall c]
  | completeStop {c code} :
    t = u →
    m.In .uiThread c →
    m.Pressed r c code →
    Front m u r t [.complete c code, .op (.signal (.call c))]
  | wakeStop {c} :
    t = u →
    m.Answered c →
    Front m u r t [.wakeCall c, .op (.signal (.call c))]
  | stop {c} :
    t = u →
    m.Answered c →
    Front m u r t [.op (.signal (.call c))]
  | sleepUntil {time} :
    t ≠ u →
    Front m u r t [.sleepUntil time]

/-- What a thread `t` comes back to: programs, and on the UI thread live runs of the loop. -/
inductive Below (m : Machine) (u t : ThreadId) : List Instr → Prop where
  | done :
    t ≠ u →
    Below m u t []
  | start :
    t = u →
    Below m u t [.op (.run .ui false)]
  | base :
    t = u →
    Below m u t [.pump .ui, .returned .ui false]
  | op {o rest} :
    o.Tame →
    Below m u t rest →
    Below m u t (.op o :: rest)
  | nested {c rest} :
    t = u →
    m.In .uiThread c →
    Below m u t rest →
    Below m u t (.pump (.call c) :: .nestLeft c :: .collect c :: rest)
  | left {c rest} :
    t = u →
    m.In .uiThread c →
    .call c ∈ m.loop.signalled →
    Below m u t rest →
    Below m u t (.nestLeft c :: .collect c :: rest)
  | collect {c rest} :
    t = u →
    m.In .uiThread c →
    .call c ∈ m.loop.signalled →
    Below m u t rest →
    Below m u t (.collect c :: rest)

/-- The code of a thread. -/
def Framed (m : Machine) (u : ThreadId) (r : Responder) (t : ThreadId) (code : List Instr) : Prop :=
  ∃ front below, code = front ++ below ∧ Front m u r t front ∧ Below m u t below

/-- A task in the queue. -/
inductive Queued (m : Machine) (r : Responder) : Task → Prop where
  | program {body} :
    (∀ o ∈ body, Op.Tame o) →
    Queued m r (load body)
  | create {c} :
    m.In .worker c →
    Queued m r [.create c]
  | take {index slot} :
    Queued m r [.takePending index slot]
  | press {d slot} :
    m.ChosenSlot r d slot →
    Queued m r [.pressChosen d slot]

/-- A headless machine on which thread `u` pumps the loop and `r` answers the prompts. -/
structure Staffed (m : Machine) (u : ThreadId) (r : Responder) : Prop where
  present : u < m.codes.length
  owner : m.loop.owner = some u
  opened : m.loop.closed = false
  responder : m.desk.responder = r
  failNext : m.desk.failNext = none
  terminal : m.terminal = none
  overrides : m.overrides = {}
  prompts : ∀ {p : PromptId} {q : ActivePrompt}, m.prompts[p]? = some q →
    q.prompt.options.waitLimit = none ∧ ∃ code, r.Answers q.prompt.spec code
  calls : ∀ {c : CallId} {call : Call}, m.calls[c]? = some call → call.Served r
  signalled : ∀ token ∈ m.loop.signalled,
    (∃ name, token = .named name) ∨ ∃ c, token = .call c ∧ m.Answered c
  scripts : ∀ {d : DialogId} {o : Offer} {slot body}, m.dialogs[d]? = some o →
    o.dialog.press slot = .ok (.script body) → ∀ op ∈ body, Op.Tame op
  pending : ∀ d ∈ m.desk.pending, m.ProgramDialog d
  codes : ∀ {t : ThreadId} {code}, m.codes[t]? = some code → Framed m u r t code
  queue : ∀ task ∈ m.loop.queue, Queued m r task

/-! ### Growth keeps frames -/

section Growth

variable {m m' : Machine} {u t : ThreadId} {r : Responder}

/-- What the responder presses for a call it still presses for it on a later machine. -/
lemma Grows.pressed (h : m.Grows m') {c code} (hc : m.Pressed r c code) : m'.Pressed r c code := by
  obtain ⟨call, hc, ha⟩ := hc
  obtain ⟨call', hc', hcont⟩ := h.calls hc
  exact ⟨call', hc', hcont.spec ▸ ha⟩

/-- An outcome that the responder has decided stays so on a later machine. -/
lemma Grows.decided (h : m.Grows m') {c o} (hc : m.Decided r c o) : m'.Decided r c o := by
  obtain ⟨call, code, hc, ha, ho⟩ := hc
  obtain ⟨call', hc', hcont⟩ := h.calls hc
  exact ⟨call', code, hc', hcont.spec ▸ ha, hcont.spec ▸ ho⟩

/-- A call that is answered stays answered. -/
lemma Grows.answered (h : m.Grows m') {c} (hc : m.Answered c) : m'.Answered c := by
  obtain ⟨code, hc⟩ := hc
  exact ⟨code, h.recorded hc⟩

/-- A program's own dialog stays one. -/
lemma Grows.programDialog (h : m.Grows m') {d} (hd : m.ProgramDialog d) : m'.ProgramDialog d := by
  obtain ⟨o, ho, hp⟩ := hd
  exact ⟨o, h.dialogs ho, hp⟩

/-- The thread that deals with a dialog does so on a later machine. -/
lemma Grows.dealtWith (h : m.Grows m') {d} (hd : m.DealtWith u t d) : m'.DealtWith u t d := by
  obtain ⟨o, ho, hp⟩ := hd
  exact ⟨o, h.dialogs ho, hp⟩

/-- A program's own dialog was offered by the program. -/
lemma ProgramDialog.origin_eq {d o} (h : m.ProgramDialog d) (ho : m.dialogs[d]? = some o) :
    o.origin = .program := by
  obtain ⟨o', ho', hp⟩ := h
  cases ho.symm.trans ho'
  exact hp

/-- A thread that deals with the dialog of a call is the UI thread. -/
lemma DealtWith.thread_eq {d o} (h : m.DealtWith u t d) (ho : m.dialogs[d]? = some o) (hp : o.origin ≠ .program) :
    t = u := by
  obtain ⟨o', ho', hu⟩ := h
  cases ho.symm.trans ho'
  exact hu hp

/-- The slot that was chosen for a dialog is the one that the responder chooses. -/
lemma ChosenSlot.choose_eq {d slot o} (h : m.ChosenSlot r d slot) (ho : m.dialogs[d]? = some o) :
    r.choose o.dialog = some slot := by
  obtain ⟨o', ho', hchosen⟩ := h
  cases ho.symm.trans ho'
  exact hchosen

/-- The slot that was chosen for a dialog is so on a later machine. -/
lemma Grows.chosenSlot (h : m.Grows m') {d slot} (hd : m.ChosenSlot r d slot) : m'.ChosenSlot r d slot := by
  obtain ⟨o, ho, hp⟩ := hd
  exact ⟨o, h.dialogs ho, hp⟩

/-- What a thread does at the moment it does so on a later machine. -/
lemma Grows.front (h : m.Grows m') {code} (hc : Front m u r t code) : Front m' u r t code := by
  have hlen := h.calls_length
  cases hc with
  | none => exact .none
  | ask ht hlt => exact .ask ht (Nat.lt_of_lt_of_le hlt hlen)
  | askOff ht hw => exact .askOff ht (h.in hw)
  | schedule ht hw => exact .schedule ht (h.in hw)
  | scheduled ht hw => exact .scheduled ht (h.in hw)
  | beginWait ht hw => exact .beginWait ht (h.in hw)
  | await ht hw => exact .await ht (h.in hw)
  | create ht hlt => exact .create ht (Nat.lt_of_lt_of_le hlt hlen)
  | present hd => exact .present (h.dealtWith hd)
  | accept hd => exact .accept (h.dealtWith hd)
  | exhibit hd => exact .exhibit (h.dealtWith hd)
  | choose hd => exact .choose (h.dealtWith hd)
  | schedulePress hd hs => exact .schedulePress (h.dealtWith hd) (h.chosenSlot hs)
  | keep hd => exact .keep (h.programDialog hd)
  | wakeLoop => exact .wakeLoop
  | wakeNest ht hx => exact .wakeNest ht (h.in hx)
  | nest ht hx => exact .nest ht (h.in hx)
  | deactivate hd => exact .deactivate (h.decided hd)
  | resolve hd => exact .resolve (h.decided hd)
  | take ht => exact .take ht
  | pressTaken ht hd => exact .pressTaken ht (h.programDialog hd)
  | putBack ht hd => exact .putBack ht (h.programDialog hd)
  | pressChosen ht hs => exact .pressChosen ht (h.chosenSlot hs)
  | complete ht hw hp => exact .complete ht (h.in hw) (h.pressed hp)
  | wakeCall => exact .wakeCall
  | completeStop ht hx hp => exact .completeStop ht (h.in hx) (h.pressed hp)
  | wakeStop ht ha => exact .wakeStop ht (h.answered ha)
  | stop ht ha => exact .stop ht (h.answered ha)
  | sleepUntil ht => exact .sleepUntil ht

/-- What a thread comes back to it comes back to on a later machine. -/
lemma Grows.below (h : m.Grows m') {code} (hc : Below m u t code) : Below m' u t code := by
  induction hc with
  | done ht => exact .done ht
  | start ht => exact .start ht
  | base ht => exact .base ht
  | op ho _ ih => exact .op ho ih
  | nested ht hx _ ih => exact .nested ht (h.in hx) ih
  | left ht hx hs _ ih => exact .left ht (h.in hx) (h.signalled hs) ih
  | collect ht hx hs _ ih => exact .collect ht (h.in hx) (h.signalled hs) ih

/-- Framed code stays framed on a later machine. -/
lemma Grows.framed (h : m.Grows m') {code} (hc : Framed m u r t code) : Framed m' u r t code := by
  obtain ⟨front, below, he, hf, hb⟩ := hc
  exact ⟨front, below, he, h.front hf, h.below hb⟩

/-- A task that may be in the queue may be there on a later machine. -/
lemma Grows.queued (h : m.Grows m') {task} (hc : Queued m r task) : Queued m' r task := by
  cases hc with
  | program hb => exact .program hb
  | create hw => exact .create (h.in hw)
  | take => exact .take
  | press hs => exact .press (h.chosenSlot hs)

end Growth

/-! ### What the responder presses -/

/-- What a responder chooses for a prompt does not depend on what the buttons do. -/
lemma Responder.choose_dialog {α β : Type} (r : Responder) (spec : Spec) (f : Nat → α) (g : Nat → β) :
    r.choose (spec.dialog f) = r.choose (spec.dialog g) := by
  cases r with
  | press slot => rfl
  | byIndex index =>
    simp only [Responder.choose, Spec.dialog_buttons, List.getElem?_map, Option.map_map]
    rfl
  | manual => rfl

/-- A responder chooses the same button for the offer of a call as for any dialog of its specification. -/
lemma Call.offer_choose (call : Call) (c : CallId) (r : Responder) :
    r.choose (call.offer c).dialog = r.choose (call.spec.dialog id) := by
  unfold Call.offer
  cases call.context with
  | uiThread => exact r.choose_dialog ..
  | worker => exact r.choose_dialog ..

/-- The dialog of a call has the slots of its layout. -/
lemma Call.offer_hasSlot {call : Call} {slot code} (c : CallId)
    (h : (slot, code) ∈ Slot.layout call.spec.actions.length) :
    (call.offer c).dialog.hasSlot slot = true := by
  unfold Call.offer
  cases call.context with
  | uiThread => exact call.spec.dialog_hasSlot _ h
  | worker => exact call.spec.dialog_hasSlot _ h

/-- A button of a program's own dialog runs a program. -/
lemma Sound.script {m : Machine} (hm : m.Sound) {d : DialogId} {o : Offer} {slot reaction}
    (ho : m.dialogs[d]? = some o) (hp : o.origin = .program) (hr : o.dialog.press slot = .ok reaction) :
    ∃ body, reaction = .script body := by
  cases hm.offers ho with
  | program =>
    obtain ⟨b, -, rfl⟩ := programOffer_press hr
    exact ⟨_, rfl⟩
  | @call c call _ =>
    rcases call.offer_origin c with ⟨-, he⟩ | ⟨-, he⟩
    all_goals
      rw [he] at hp
      cases hp

/-- Only the offer of a call on the UI thread is followed by something, its nested run. -/
lemma Origin.accepted_cases (origin : Origin) :
    origin.accepted = [] ∨ ∃ c, origin = .nested c ∧ origin.accepted = [.nest c] := by
  cases origin with
  | program => exact .inl rfl
  | nested c => exact .inr ⟨c, rfl, rfl⟩
  | posted c => exact .inl rfl

section Staffed

variable {m m₁ : Machine} {u t : ThreadId} {r : Responder}

/-- The responder presses a button of every dialog that belongs to a call. -/
lemma Staffed.chosen (h : m.Staffed u r) (hm : m.Sound) {d : DialogId} {o : Offer}
    (ho : m.dialogs[d]? = some o) :
    o.origin = .program ∨
      ∃ slot, m.desk.responder.choose o.dialog = some slot ∧ o.dialog.hasSlot slot = true := by
  cases hm.offers ho with
  | program => exact .inl rfl
  | @call c call hc =>
    obtain ⟨code, slot, hchoose, hl⟩ := (h.calls hc).answers
    rw [h.responder, call.offer_choose c]
    exact .inr ⟨slot, hchoose, call.offer_hasSlot c hl⟩

/-- What is recorded for a call is what the responder presses. -/
lemma Staffed.decided (h : m.Staffed u r) {c : CallId} {call : Call} (hc : m.calls[c]? = some call)
    (hv : call.handoff.value.isSome = true) : m.Decided r c call.recorded := by
  obtain ⟨code, hcode⟩ := Option.isSome_iff_exists.1 hv
  exact ⟨call, code, hc, (h.calls hc).value hcode, by simp [Call.recorded, hcode]⟩

/-- The UI thread can bind the loop, which is its own. -/
lemma Staffed.bind (h : m.Staffed u r) : (m.loop.bind u).1 = true := by
  simp [Loop.bind, h.owner]

/-- Only thread `u` is taken for the UI thread. -/
lemma Staffed.isUiThread (h : m.Staffed u r) : m.isUiThread t = true ↔ t = u := by
  simp only [Machine.isUiThread, h.overrides, Option.getD_none, h.owner, beq_iff_eq, Option.some.injEq]
  exact eq_comm

/-! ### A step of the code of a thread -/

/-- A program on top of what a thread comes back to. -/
lemma Below.load {body : List Op} {below : List Instr} (hb : ∀ o ∈ body, Op.Tame o) (h : Below m u t below) :
    Below m u t (load body ++ below) := by
  induction body with
  | nil => exact h
  | cons o body ih =>
    have htail := ih fun o ho => hb o (List.mem_cons_of_mem _ ho)
    exact .op (hb o (List.mem_cons_self ..)) htail

/-- What comes next is what a thread does at the moment, or what it comes back to. -/
lemma Framed.head {i : Instr} {rest : List Instr} (h : Framed m u r t (i :: rest)) :
    (∃ front below, rest = front ++ below ∧ Front m u r t (i :: front) ∧ Below m u t below) ∨
      Below m u t (i :: rest) := by
  obtain ⟨front, below, he, hf, hb⟩ := h
  cases front with
  | nil => exact .inr (he ▸ hb)
  | cons j front =>
    cases he
    exact .inl ⟨front, below, rfl, hf, hb⟩

/-- A thread may have nothing to do but what it comes back to. -/
lemma Framed.below {code : List Instr} (h : Below m u t code) : Framed m u r t code :=
  ⟨[], code, rfl, .none, h⟩

/-- The handler of a button that the responder has chosen runs a program, or answers a call with what the
responder presses for it. -/
lemma Staffed.pressed (h : m.Staffed u r) (hm : m.Sound) {d : DialogId} {o : Offer} {slot reaction below}
    (ho : m.dialogs[d]? = some o) (hchosen : r.choose o.dialog = some slot)
    (hr : o.dialog.press slot = .ok reaction) (ht : t = u) (hg : m.Grows m₁) (hb : Below m₁ u t below) :
    Framed m₁ u r t (reaction.code ++ below) := by
  have hoffered := hm.offers ho
  cases hoffered with
  | program =>
    obtain ⟨b, -, rfl⟩ := programOffer_press hr
    exact .below (.load (h.scripts ho hr) hb)
  | @call c call hc =>
    obtain ⟨code, hl, rfl⟩ := Call.offer_press hr
    rw [call.offer_choose c] at hchosen
    have hpressed : m₁.Pressed r c code := hg.pressed ⟨call, hc, slot, hchosen, hl⟩
    cases hx : call.context with
    | uiThread => exact ⟨[_, _], below, rfl, .completeStop ht (hg.in ⟨call, hc, hx⟩) hpressed, hb⟩
    | worker => exact ⟨[_], below, rfl, .complete ht (hg.in ⟨call, hc, hx⟩) hpressed, hb⟩

/-- A step of what a thread does at the moment. -/
lemma Front.fires {i : Instr} {front below next sent : List Instr} (hfront : Front m u r t (i :: front))
    (hf : Fires m t i next sent m₁) (hm : m.Sound) (hi : i.Sound m) (h : m.Staffed u r)
    (hb : Below m₁ u t below) : Framed m₁ u r t (next ++ (front ++ below)) := by
  have hg := hf.grows
  cases hf with
  | noCall hi' hn => exact absurd hn (hi.call_ne_none hi')
  | noOffer hi' hn => exact absurd hn (hi.offer_ne_none hi')
  | post ho _ =>
    cases hfront
    cases ho
  | postClosed ho _ =>
    cases hfront
    cases ho
  | signal =>
    cases hfront with
    | stop _ _ => exact ⟨[_], below, rfl, .wakeLoop, hb⟩
  | wakeLoop =>
    cases hfront with
    | scheduled ht hw => exact ⟨[_], below, rfl, .beginWait ht (hg.in hw), hb⟩
    | wakeLoop => exact .below hb
    | wakeNest ht hx => exact ⟨[_], below, rfl, .nest ht (hg.in hx), hb⟩
  | sleepUntil _ =>
    cases hfront with
    | sleepUntil _ => exact .below hb
  | activate _ =>
    cases hfront with
    | ask ht hlt => exact ⟨[_], below, rfl, .create ht hlt, hb⟩
    | askOff ht hw => exact ⟨[_], below, rfl, .schedule ht (hg.in hw), hb⟩
  | scheduleInline hinline => simp [h.overrides] at hinline
  | schedule _ _ =>
    cases hfront with
    | schedule ht hw => exact ⟨[_, _], below, rfl, .scheduled ht (hg.in hw), hb⟩
  | scheduleClosed _ hclosed => simp [h.opened] at hclosed
  | create _ =>
    cases hfront with
    | create ht _ => exact ⟨[_], below, rfl, .present ⟨_, List.getElem?_concat_length, fun _ => ht⟩, hb⟩
  | beginWait hc =>
    cases hfront with
    | beginWait ht hw =>
      rw [(h.calls hc).unlimited]
      exact ⟨[_], below, rfl, .await ht hw, hb⟩
  | awaitReady hc hlook =>
    -- the permit came with an answer, and the answer is what the responder pressed
    have hv := (h.calls hc).permits (check_ready hlook)
    cases hfront with
    | await _ _ => exact ⟨[_], below, rfl, .deactivate (hg.decided (h.decided hc hv)), hb⟩
  | awaitInterrupted hc hlook =>
    have hpending := check_interrupted hlook
    rw [(h.calls hc).uninterrupted] at hpending
    cases hpending
  | awaitTimedOut hc hlook =>
    cases hfront with
    | await _ _ =>
      obtain ⟨-, time, htime⟩ := check_timedOut hlook
      cases htime
  | awaitSleep _ _ =>
    cases hfront with
    | await ht hw => exact ⟨[_], below, rfl, .await ht (hg.in hw), hb⟩
  | nestFailed he => simp [h.overrides] at he
  | nest _ _ =>
    cases hfront with
    | nest ht hx => exact .below (.nested ht (hg.in hx) hb)
  | nestForeign _ hforeign =>
    cases hfront with
    | nest ht _ => simp [ht, h.bind] at hforeign
  | deactivate _ =>
    cases hfront with
    | deactivate hd => exact ⟨[_], below, rfl, .resolve (hg.decided hd), hb⟩
  | resolve _ =>
    cases hfront with
    | resolve _ => exact .below hb
  | presentOpen _ hopen => simp [h.terminal] at hopen
  | presentProgram _ _ _ =>
    cases hfront with
    | present hd => exact ⟨[_], below, rfl, .accept (hg.dealtWith hd), hb⟩
  | presentInterrupt _ _ _ hshow _ _ => simp [h.overrides] at hshow
  | presentIgnored _ _ _ hshow _ _ => simp [h.overrides] at hshow
  | @present d o _ _ _ _ =>
    have hpresented : m.presented d o = [.accept d] := by simp [presented, h.overrides]
    rw [hpresented]
    cases hfront with
    | present hd => exact ⟨[_], below, rfl, .accept (hg.dealtWith hd), hb⟩
  | acceptFailed _ hfail => simp [h.failNext] at hfail
  | accept _ _ =>
    cases hfront with
    | accept hd => exact ⟨[_], below, rfl, .exhibit (hg.dealtWith hd), hb⟩
  | exhibit _ =>
    cases hfront with
    | exhibit hd => exact ⟨[_], below, rfl, .choose (hg.dealtWith hd), hb⟩
  | chooseNone ho hnone =>
    -- only a program's own dialog is left pending
    cases hfront with
    | choose _ =>
      rcases h.chosen hm ho with hp | ⟨slot, hslot, -⟩
      · exact ⟨[_], below, rfl, .keep (hg.programDialog ⟨_, ho, hp⟩), hb⟩
      · rw [hnone] at hslot
        cases hslot
  | choose ho hchosen _ =>
    cases hfront with
    | choose hd =>
      have hslot := hg.chosenSlot ⟨_, ho, h.responder ▸ hchosen⟩
      exact ⟨[_], below, rfl, .schedulePress (hg.dealtWith hd) hslot, hb⟩
  | chooseMissing ho hchosen hmissing =>
    cases hfront with
    | choose _ =>
      rcases h.chosen hm ho with hp | ⟨slot, hslot, hhas⟩
      · exact ⟨[_], below, rfl, .keep (hg.programDialog ⟨_, ho, hp⟩), hb⟩
      · rw [hchosen] at hslot
        cases hslot
        rw [hmissing] at hhas
        cases hhas
  | @schedulePress d slot o ho _ =>
    cases hfront with
    | schedulePress hd _ =>
      rcases o.origin.accepted_cases with he | ⟨c, horigin, he⟩
      · rw [he]
        exact ⟨[_], below, rfl, .wakeLoop, hb⟩
      · rw [he]
        have ht : t = u := hd.thread_eq ho (by simp [horigin])
        exact ⟨[_, _], below, rfl, .wakeNest ht (hg.in (hm.in_nested ho horigin)), hb⟩
  | schedulePressClosed _ hclosed => simp [h.opened] at hclosed
  | @keep d o ho =>
    cases hfront with
    | keep hd =>
      have hnothing : o.origin.accepted = [] := by rw [hd.origin_eq ho]; rfl
      rw [hnothing]
      exact .below hb
  | takePending _ hd =>
    cases hfront with
    | take ht =>
      have hprogram := h.pending _ (List.mem_of_getElem? hd)
      exact ⟨[_], below, rfl, .pressTaken ht (hg.programDialog hprogram), hb⟩
  | takeNothing _ =>
    cases hfront with
    | take _ => exact .below hb
  | pressTaken ho hr =>
    cases hfront with
    | pressTaken _ hd =>
      obtain ⟨body, rfl⟩ := hm.script ho (hd.origin_eq ho) hr
      exact .below (.load (h.scripts ho hr) hb)
  | pressTakenMissing _ _ =>
    cases hfront with
    | pressTaken ht hd => exact ⟨[_], below, rfl, .putBack ht (hg.programDialog hd), hb⟩
  | putBack =>
    cases hfront with
    | putBack _ _ => exact .below hb
  | pressChosen ho hr =>
    cases hfront with
    | pressChosen ht hs =>
      exact h.pressed hm ho (hs.choose_eq ho) hr ht hg hb
  | pressChosenMissing _ _ =>
    cases hfront with
    | pressChosen _ _ => exact .below hb
  | @complete c code call hc hv =>
    have hrecorded : (m.modifyCall c fun call =>
        { call with handoff := (call.handoff.complete code).2 }).Recorded c code :=
      ⟨_, modifyCall_self hc _, by simp [Handoff.complete, hv]⟩
    cases hfront with
    | complete _ _ _ => exact ⟨[_], below, rfl, .wakeCall, hb⟩
    | completeStop ht _ _ => exact ⟨[_, _], below, rfl, .wakeStop ht ⟨code, hrecorded⟩, hb⟩
  | completeAgain hc hv =>
    obtain ⟨old, hold⟩ := Option.isSome_iff_exists.1 hv
    cases hfront with
    | complete _ _ _ => exact .below hb
    | completeStop ht _ _ => exact ⟨[_], below, rfl, .stop ht ⟨old, _, hc, hold⟩, hb⟩
  | wakeCall =>
    cases hfront with
    | wakeCall => exact .below hb
    | wakeStop ht ha => exact ⟨[_], below, rfl, .stop ht (hg.answered ha), hb⟩
  | _ => cases hfront

/-- A tame operation leaves at most the start of a call or of an offer. -/
lemma Fires.tame {o : Op} {rest next sent : List Instr} (hf : Fires m t (.op o) next sent m₁) (ho : o.Tame)
    (h : m.Staffed u r) (hb : Below m₁ u t rest) : Framed m₁ u r t (next ++ rest) := by
  cases hf with
  | post _ _ => exact ⟨[_], rest, rfl, .wakeLoop, hb⟩
  | signal => exact ⟨[_], rest, rfl, .wakeLoop, hb⟩
  | fork => exact .below (.op .join hb)
  | offer => exact ⟨[_], rest, rfl, .present ⟨_, List.getElem?_concat_length, fun hp => absurd rfl hp⟩, hb⟩
  | @ask p ticket q hq =>
    by_cases ht : t = u
    · have hx : (m.newCall t p q ticket).context = .uiThread := by simp [newCall, h.isUiThread.2 ht]
      have hfirst : (m.newCall t p q ticket).context.first m.calls.length = .create m.calls.length := by
        rw [hx, Context.first]
      rw [hfirst]
      exact ⟨[_, _], rest, rfl, .ask ht (by simp [emit]), hb⟩
    · have hx : (m.newCall t p q ticket).context = .worker := by simp [newCall, h.isUiThread, ht]
      have hfirst : (m.newCall t p q ticket).context.first m.calls.length = .schedule m.calls.length := by
        rw [hx, Context.first]
      rw [hfirst]
      exact ⟨[_, _], rest, rfl, .askOff ht ⟨_, List.getElem?_concat_length, hx⟩, hb⟩
  | keyClosed hopen _ => simp [h.terminal] at hopen
  | run _ | close | interrupt _ => cases ho
  | _ => exact .below hb

/-- A step of what a thread comes back to. -/
lemma Below.fires {i : Instr} {rest next sent : List Instr} (hbelow : Below m u t (i :: rest))
    (hf : Fires m t i next sent m₁) (h : m.Staffed u r) : Framed m₁ u r t (next ++ rest) := by
  have hg := hf.grows
  cases hbelow with
  | start ht =>
    cases hf with
    | run _ => exact .below (.base ht)
    | runForeign hforeign => simp [ht, h.bind] at hforeign
    | post ho _ => cases ho
    | postClosed ho _ => cases ho
    | noCall hi _ => cases hi
    | noOffer hi _ => cases hi
  | base ht =>
    cases hf with
    | leave hs =>
      -- nobody ends the run of the UI thread
      rcases h.signalled _ hs with ⟨name, hn⟩ | ⟨c, hc, -⟩
      · cases hn
      · cases hc
    | doze _ _ => exact .below (.base ht)
    | noCall hi _ => cases hi
    | noOffer hi _ => cases hi
  | op ho hrest => exact hf.tame ho h (hg.below hrest)
  | nested ht hx hrest =>
    cases hf with
    | leave hs => exact .below (.left ht (hg.in hx) (hg.signalled hs) (hg.below hrest))
    | doze _ _ => exact .below (.nested ht (hg.in hx) (hg.below hrest))
    | noCall hi _ => cases hi
    | noOffer hi _ => cases hi
  | left ht hx hs hrest =>
    cases hf with
    | nestLeft => exact .below (.collect ht (hg.in hx) (hg.signalled hs) (hg.below hrest))
    | noCall hi _ => cases hi
    | noOffer hi _ => cases hi
  | collect ht hx hs hrest =>
    cases hf with
    | collect hc =>
      -- the nested run is over because the call was answered
      rcases h.signalled _ hs with ⟨name, hn⟩ | ⟨c', he, code, call', hc', hv⟩
      · cases hn
      · cases he
        rw [hc] at hc'
        cases hc'
        exact ⟨[_], _, rfl, .deactivate (h.decided hc (by simp [hv])), hg.below hrest⟩
    | noCall hi hn =>
      cases hi
      obtain ⟨call, hc, -⟩ := hx
      rw [hc] at hn
      cases hn
    | noOffer hi _ => cases hi

/-- A step of the code of a thread. -/
lemma Fires.framed {i : Instr} {rest next sent : List Instr} (hf : Fires m t i next sent m₁)
    (ht : m.codes[t]? = some (i :: rest)) (hm : m.Sound) (h : m.Staffed u r) :
    Framed m₁ u r t (next ++ rest) := by
  have hi : i.Sound m := hm.agenda i (mem_agenda_of_code ht (List.mem_cons_self ..))
  rcases (h.codes ht).head with ⟨front, below, rfl, hfront, hb⟩ | hb
  · exact hfront.fires hf hm hi h (hf.grows.below hb)
  · exact hb.fires hf h

/-! ### A step of the machine -/

/-- An operation that comes next is tame, or it ends the nested run of an answered call, or it is the start
of the UI thread. -/
lemma Staffed.op (h : m.Staffed u r) {o : Op} {rest : List Instr} (ht : m.codes[t]? = some (.op o :: rest)) :
    o.Tame ∨ (∃ c, o = .signal (.call c) ∧ m.Answered c) ∨ o = .run .ui false := by
  rcases (h.codes ht).head with ⟨front, below, -, hfront, -⟩ | hb
  · cases hfront with
    | stop _ ha => exact .inr (.inl ⟨_, rfl, ha⟩)
  · cases hb with
    | start _ => exact .inr (.inr rfl)
    | op ho _ => exact .inl ho

/-- No thread of a staffed machine panics. -/
lemma Staffed.calm (h : m.Staffed u r) {rest : List Instr} : m.codes[t]? ≠ some (.op .panic :: rest) := by
  intro ht
  rcases h.op ht with ho | ⟨c, ho, -⟩ | ho <;> cases ho

/-- Whether a thread can come back to an instruction. -/
def Instr.resumed : Instr → Bool
  | .op _ | .pump _ | .nestLeft _ | .collect _ => true
  | _ => false

/-- An instruction that no thread comes back to is what its thread does at the moment. -/
lemma Staffed.front (h : m.Staffed u r) {i : Instr} {rest : List Instr} (ht : m.codes[t]? = some (i :: rest))
    (hi : i.resumed = false) : ∃ front, Front m u r t (i :: front) := by
  rcases (h.codes ht).head with ⟨front, below, -, hfront, -⟩ | hb
  · exact ⟨front, hfront⟩
  · cases hb <;> cases hi

/-- Only the UI thread runs the loop. -/
lemma Staffed.pump (h : m.Staffed u r) {token : Token} {rest : List Instr}
    (ht : m.codes[t]? = some (.pump token :: rest)) : t = u ∧ Below m u t (.pump token :: rest) := by
  rcases (h.codes ht).head with ⟨front, below, -, hfront, -⟩ | hb
  · cases hfront
  · refine ⟨?_, hb⟩
    cases hb with
    | base hu => exact hu
    | nested hu _ _ => exact hu

/-- After an instruction, every call still has nothing but what the responder presses for it. -/
lemma Fires.served {i : Instr} {rest next sent : List Instr} {c : CallId} {call : Call}
    (hf : Fires m t i next sent m₁) (ht : m.codes[t]? = some (i :: rest)) (h : m.Staffed u r)
    (hc : m₁.calls[c]? = some call) : call.Served r := by
  obtain ⟨old, hold, rfl | ⟨f, hch, rfl⟩⟩ | ⟨p, ticket, q, -, hq, -, rfl⟩ := hf.call_before hc
  · exact h.calls hold
  · have hserved := h.calls hold
    cases hch with
    | interrupt _ => rcases h.op ht with ho | ⟨c, ho, -⟩ | ho <;> cases ho
    | interruptOnShow _ _ _ hshow _ _ => simp [h.overrides] at hshow
    | take _ _ =>
      exact { hserved with permits := fun hp => hserved.permits (Nat.lt_of_lt_of_le hp (Nat.sub_le ..)) }
    | clear _ _ => exact { hserved with uninterrupted := rfl }
    | @complete _ code call hcall hnone =>
      rw [hold] at hcall
      cases hcall
      obtain ⟨front, hfront⟩ := h.front ht rfl
      have hpressed : m.Pressed r c code := by
        cases hfront with
        | complete _ _ hp => exact hp
        | completeStop _ _ hp => exact hp
      obtain ⟨call, hcall, ha⟩ := hpressed
      rw [hold] at hcall
      cases hcall
      simp only [Handoff.complete, hnone]
      exact { hserved with
        permits := fun _ => rfl
        value := fun hv => Option.some.inj hv ▸ ha }
    | release =>
      obtain ⟨front, hfront⟩ := h.front ht rfl
      cases hfront
    | resolve _ =>
      obtain ⟨front, hfront⟩ := h.front ht rfl
      cases hfront with
      | resolve hd =>
        obtain ⟨call, code, hcall, ha, rfl⟩ := hd
        rw [hold] at hcall
        cases hcall
        exact { hserved with outcome := fun ho => ⟨code, ha, (Option.some.inj ho).symm⟩ }
  · obtain ⟨hlimit, hanswers⟩ := h.prompts hq
    exact ⟨hlimit, hanswers, rfl, fun hp => absurd hp (Nat.lt_irrefl 0), by simp [newCall],
      by simp [newCall]⟩

/-- After an instruction, the scripts of all dialogs are tame: a dialog is one of before, a tame program's, or that of a
call. -/
lemma Fires.scripts {i : Instr} {rest next sent : List Instr} {d : DialogId} {o : Offer} {slot body}
    (hf : Fires m t i next sent m₁) (ht : m.codes[t]? = some (i :: rest)) (h : m.Staffed u r)
    (hd : m₁.dialogs[d]? = some o) (hr : o.dialog.press slot = .ok (.script body)) :
    ∀ op ∈ body, Op.Tame op := by
  rcases hf.offer_before hd with hd | ⟨-, ⟨d', rfl, rfl⟩ | ⟨c, call, -, -, rfl⟩⟩
  · exact h.scripts hd hr
  · obtain ⟨b, hb, he⟩ := programOffer_press hr
    cases he
    rcases h.op ht with ho | ⟨c, ho, -⟩ | ho
    · cases ho with
      | offer htame => exact htame b hb
    · cases ho
    · cases ho
  · obtain ⟨code, -, he⟩ := Call.offer_press hr
    cases he

/-- After an instruction, only programs' own dialogs are pending: the dialog of a call is pressed instead of kept. -/
lemma Fires.pending_program {i : Instr} {rest next sent : List Instr} {d : DialogId}
    (hf : Fires m t i next sent m₁) (ht : m.codes[t]? = some (i :: rest)) (h : m.Staffed u r)
    (hd : d ∈ m₁.desk.pending) : m.ProgramDialog d := by
  obtain he | ⟨d', rfl, he⟩ | ⟨_, _, _, _, -, -, -, he⟩ | ⟨place, d', rfl, he⟩ | ⟨_, _, -, -, -, he⟩ :=
    hf.pending
  · exact h.pending d (he ▸ hd)
  · rw [he] at hd
    rcases List.mem_append.1 hd with hd | hd
    · exact h.pending d hd
    · obtain rfl := List.mem_singleton.1 hd
      obtain ⟨front, hfront⟩ := h.front ht rfl
      cases hfront with
      | keep hp => exact hp
  · exact h.pending d ((List.eraseIdx_sublist ..).subset (he ▸ hd))
  · rw [he] at hd
    rcases List.eq_or_mem_of_mem_insertIdx hd with rfl | hd
    · obtain ⟨front, hfront⟩ := h.front ht rfl
      cases hfront with
      | putBack _ hp => exact hp
    · exact h.pending d hd
  · exact h.pending d (List.dropLast_subset _ (he ▸ hd))

/-- A new thread runs a tame program. -/
lemma Staffed.spawns (h : m.Staffed u r) {i : Instr} {rest code : List Instr} {v : ThreadId}
    (ht : m.codes[t]? = some (i :: rest)) (hs : Spawns i code) (hv : v ≠ u) : Framed m u r v code := by
  cases hs with
  | @fork body =>
    rcases h.op ht with ho | ⟨c, ho, -⟩ | ho
    · cases ho with
      | fork hb =>
        have hbelow : Below m u v (load body ++ []) := .load hb (.done hv)
        exact .below (by simpa using hbelow)
    · cases ho
    · cases ho
  | @later ms body time =>
    rcases h.op ht with ho | ⟨c, ho, -⟩ | ho
    · cases ho with
      | later hb =>
        have hbelow : Below m u v (load body ++ []) := .load hb (.done hv)
        exact ⟨[_], load body, rfl, .sleepUntil hv, by simpa using hbelow⟩
    · cases ho
    · cases ho

/-- A new task is of one of the four kinds. -/
lemma Staffed.posts (h : m.Staffed u r) {i : Instr} {rest : List Instr} {task : Task}
    (ht : m.codes[t]? = some (i :: rest)) (hp : Posts i task) : Queued m r task := by
  cases hp with
  | @program o task ho =>
    rcases h.op ht with htame | ⟨c, rfl, -⟩ | rfl
    · cases htame with
      | post hb =>
        cases ho
        exact .program hb
      | press =>
        cases ho
        exact .take
      | _ => cases ho
    · cases ho
    · cases ho
  | create =>
    obtain ⟨front, hfront⟩ := h.front ht rfl
    cases hfront with
    | schedule _ hw => exact .create hw
  | press =>
    obtain ⟨front, hfront⟩ := h.front ht rfl
    cases hfront with
    | schedulePress _ hs => exact .press hs

/-- An instruction keeps a machine staffed. -/
lemma Fires.staffed {i : Instr} {rest next sent : List Instr} (hf : Fires m t i next sent m₁)
    (ht : m.codes[t]? = some (i :: rest)) (hm : m.Sound) (h : m.Staffed u r) :
    (m₁.goto t (next ++ rest)).Staffed u r := by
  have hg₁ : m₁.Grows (m₁.goto t (next ++ rest)) := grows_goto ..
  have hg : m.Grows (m₁.goto t (next ++ rest)) := hf.grows.trans hg₁
  -- what tame programs leave alone, nobody touches
  have untamed : ∀ o, ¬ o.Tame → (∀ token, o ≠ .signal token) → o ≠ .run .ui false → i ≠ .op o := by
    rintro o hn hsignal hrun rfl
    rcases h.op ht with ho | ⟨c, ho, -⟩ | ho
    · exact hn ho
    · exact hsignal _ ho
    · exact hrun ho
  have hsteady := hf.steady (untamed .close nofun nofun nofun)
    (fun r => untamed (.respond r) nofun nofun nofun)
    (fun e => untamed (.failNext e) nofun nofun nofun) h.failNext
  constructor
  case present =>
    obtain ⟨code, hcode⟩ : ∃ code, m.codes[u]? = some code := ⟨_, List.getElem?_eq_getElem h.present⟩
    have hlt := (List.getElem?_eq_some_iff.1 (hf.code hcode)).1
    rw [codes_goto, List.length_set]
    exact hlt
  case owner => exact hg.owner h.owner
  case opened => exact hsteady.1.trans h.opened
  case responder => exact hsteady.2.1.trans h.responder
  case failNext => exact hsteady.2.2
  case terminal => exact hf.terminal h.terminal
  case overrides => exact hf.overrides.trans h.overrides
  case prompts =>
    intro p q hq
    obtain ⟨old, hold, he⟩ := hf.prompts hq
    rw [he]
    exact h.prompts hold
  case calls => exact fun hc => hf.served ht h hc
  case signalled =>
    intro token hs
    have old : token ∈ m.loop.signalled →
        (∃ name, token = .named name) ∨ ∃ c, token = .call c ∧ (m₁.goto t (next ++ rest)).Answered c :=
      fun hs => (h.signalled token hs).imp_right fun ⟨c, he, ha⟩ => ⟨c, he, hg.answered ha⟩
    have hs : token ∈ m₁.loop.signalled := hs
    obtain he | ⟨token', rfl, he⟩ := hf.signals
    · exact old (he ▸ hs)
    · rw [he] at hs
      rcases List.mem_cons.1 hs with rfl | hs
      · rcases h.op ht with ho | ⟨c, ho, ha⟩ | ho
        · cases ho with
          | signal => exact .inl ⟨_, rfl⟩
        · cases ho
          exact .inr ⟨c, rfl, hg.answered ha⟩
        · cases ho
      · exact old hs
  case scripts => exact fun hd hr => hf.scripts ht h hd hr
  case pending => exact fun d hd => hg.programDialog (hf.pending_program ht h hd)
  case codes =>
    intro v code hv
    rcases hf.codes_after ht hv with ⟨rfl, rfl⟩ | hold | ⟨hnew, hs⟩
    · exact hg₁.framed (hf.framed ht hm h)
    · exact hg.framed (h.codes hold)
    · refine hg.framed (h.spawns ht hs ?_)
      rintro rfl
      exact absurd h.present (Nat.not_lt.2 (List.getElem?_eq_none_iff.1 hnew))
  case queue =>
    intro task hq
    rcases hf.queue_after hq with hq | ⟨-, hp⟩
    · exact hg.queued (h.queue task hq)
    · exact hg.queued (h.posts ht hp)

/-- A task is taken by the UI thread, on top of its live run. -/
lemma Queued.framed {task : Task} {below : List Instr} (hq : Queued m r task) (ht : t = u)
    (hb : Below m u t below) : Framed m u r t (task ++ below) := by
  cases hq with
  | program hbody => exact .below (.load hbody hb)
  | create hw =>
    obtain ⟨call, hc, -⟩ := hw
    exact ⟨[_], below, rfl, .create ht (List.getElem?_eq_some_iff.1 hc).1, hb⟩
  | take => exact ⟨[_], below, rfl, .take ht, hb⟩
  | press hs => exact ⟨[_], below, rfl, .pressChosen ht hs, hb⟩

/-- A machine stays staffed as its UI thread takes a task. -/
lemma Staffed.takes (h : m.Staffed u r) {token : Token} {rest : List Instr} {task : Task} {queue : List Task}
    (ht : m.codes[t]? = some (.pump token :: rest)) (hq : m.loop.queue = task :: queue) :
    ((m.taken t task queue).goto t (task ++ .pump token :: rest)).Staffed u r := by
  have hg : m.Grows ((m.taken t task queue).goto t (task ++ .pump token :: rest)) :=
    ⟨(Grows.refl m).calls, id, by simp [taken, emit, goto], id, id⟩
  have ht' : (m.taken t task queue).codes[t]? = some (.pump token :: rest) := ht
  obtain ⟨hu, hb⟩ := h.pump ht
  have hlen : ((m.taken t task queue).goto t (task ++ .pump token :: rest)).codes.length =
      m.codes.length := by
    rw [codes_goto, List.length_set]
    rfl
  refine ⟨hlen ▸ h.present, h.owner, h.opened, h.responder, h.failNext, h.terminal, h.overrides, h.prompts,
    h.calls, h.signalled, h.scripts, h.pending, fun {v code} hv => ?_, fun task' hq' => ?_⟩
  · by_cases hvt : t = v
    · subst hvt
      rw [codes_goto_self ht'] at hv
      cases hv
      have htask := h.queue task (hq ▸ List.mem_cons_self ..)
      exact hg.framed (htask.framed hu hb)
    · rw [codes_goto_other hvt] at hv
      exact hg.framed (h.codes hv)
  · exact hg.queued (h.queue task' (hq ▸ List.mem_cons_of_mem _ hq'))

/-- Every move keeps a machine staffed. -/
lemma step_staffed (mv : Move) (hm : m.Sound) (h : m.Staffed u r) : (m.step mv).Staffed u r := by
  have hs := steps m mv
  generalize m.step mv = m' at hs
  cases hs with
  | stuck _ => exact h
  | fires ht hcode _ hf => exact hf.staffed (hcode ▸ codes_getElem? ht) hm h
  | takes ht hcode _ _ hq => exact h.takes (hcode ▸ codes_getElem? ht) hq
  | panics ht hcode _ => exact absurd (hcode ▸ codes_getElem? ht) h.calm
  | @rouse t =>
    have hg : m.Grows (m.rouse t) := ⟨(Grows.refl m).calls, id, List.prefix_rfl, id, id⟩
    refine ⟨codes_rouse m t ▸ h.present, h.owner, h.opened, h.responder, h.failNext, h.terminal, h.overrides,
      h.prompts, h.calls, h.signalled, h.scripts, h.pending, fun hv => ?_, fun task hq => ?_⟩
    · rw [codes_rouse] at hv
      exact hg.framed (h.codes hv)
    · exact hg.queued (h.queue task hq)
  | @pass ms =>
    have hg : m.Grows { m with clock := m.clock + ms } := ⟨(Grows.refl m).calls, id, List.prefix_rfl, id, id⟩
    exact ⟨h.present, h.owner, h.opened, h.responder, h.failNext, h.terminal, h.overrides, h.prompts, h.calls,
      h.signalled, h.scripts, h.pending, fun hv => hg.framed (h.codes hv),
      fun task hq => hg.queued (h.queue task hq)⟩

end Staffed

end MessageBox.Machine

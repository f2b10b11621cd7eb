import MessageBox.Proofs.Machine.Leads
import MessageBox.Proofs.Routing

/-!
# Sound machines

In a sound machine every instruction speaks of calls and dialogs that exist, waits are made by calls off
the UI thread and nested runs by calls on it, every offer is a program's own dialog or the dialog of a call,
and every answer on its way to a call is one that the call's specification has. Machines start sound
(`Fresh.sound`) and stay so (`step_sound`).
-/

namespace MessageBox.Machine

/-- The call a dialog was offered for. -/
def Origin.call? : Origin → Option CallId
  | .program => none
  | .nested c | .posted c => some c

/-- The call that a dialog belongs to; none for a program's own dialog. -/
def caller? (m : Machine) (d : DialogId) : Option CallId := m.dialogs[d]?.bind (·.origin.call?)

/-- There is such a call, and it is made in the given context. -/
def In (m : Machine) (context : Context) (c : CallId) : Prop :=
  ∃ call, m.calls[c]? = some call ∧ call.context = context

/-- The layout of a call's dialog has the given code. -/
def Answerable (m : Machine) (c : CallId) (code : Nat) : Prop :=
  ∃ call slot, m.calls[c]? = some call ∧ (slot, code) ∈ Slot.layout call.spec.actions.length

/-- What is offered: a program's own dialog, or the dialog of a call. -/
inductive Offered (m : Machine) : Offer → Prop where
  | program {d} :
    Offered m (programOffer d)
  | call {c : CallId} {call : Call} :
    m.calls[c]? = some call →
    Offered m (call.offer c)

/-- An instruction that speaks of calls and dialogs as they are. -/
def Instr.Sound (m : Machine) : Instr → Prop
  | .activate c | .create c | .collect c | .deactivate c _ | .resolve c _ => c < m.calls.length
  | .schedule c | .beginWait c | .await c _ | .release c => m.In .worker c
  | .nest c | .nestLeft c => m.In .uiThread c
  | .complete c code => m.Answerable c code
  | .present d | .accept d | .exhibit d | .choose d | .keep d | .pressTaken _ d _ | .putBack _ d =>
    d < m.dialogs.length
  | .schedulePress d slot | .pressChosen d slot =>
    ∃ o : Offer, m.dialogs[d]? = some o ∧ o.dialog.hasSlot slot = true
  | .conclude view _ => ∃ o : Offer, Offered m o ∧ view.dialog = o.dialog
  | .op _ | .pump _ | .returned _ _ | .wakeLoop | .sleepUntil _ | .takePending _ _ | .wakeCall _
  | .report _ => True

/-- A machine whose instructions, offers and answers are sound. -/
structure Sound (m : Machine) : Prop where
  agenda : ∀ i ∈ m.agenda, i.Sound m
  offers : ∀ {d : DialogId} {o : Offer}, m.dialogs[d]? = some o → Offered m o
  pending : ∀ d ∈ m.desk.pending, d < m.dialogs.length
  views : ∀ {stack}, m.terminal = some stack → ∀ v ∈ stack.views,
    ∃ o : Offer, Offered m o ∧ v.dialog = o.dialog
  values : ∀ {c : CallId} {call : Call} {code}, m.calls[c]? = some call →
    call.handoff.value = some code → m.Answerable c code

/-! ### Growth keeps soundness -/

/-- No call is taken back. -/
lemma Grows.calls_length {m m' : Machine} (h : m.Grows m') : m.calls.length ≤ m'.calls.length := by
  by_contra hlt
  have hget : m.calls[m'.calls.length]? = some m.calls[m'.calls.length] := by simp
  obtain ⟨call', hc', -⟩ := h.calls hget
  simp at hc'

/-- No dialog is taken off the record. -/
lemma Grows.dialogs_length {m m' : Machine} (h : m.Grows m') : m.dialogs.length ≤ m'.dialogs.length := by
  by_contra hlt
  have hget : m.dialogs[m'.dialogs.length]? = some m.dialogs[m'.dialogs.length] := by simp
  have hd' := h.dialogs hget
  simp at hd'

/-- A call has its context on a later machine, too. -/
lemma Grows.in {m m' : Machine} (h : m.Grows m') {context c} (hc : m.In context c) : m'.In context c := by
  obtain ⟨call, hc, hx⟩ := hc
  obtain ⟨call', hc', hcont⟩ := h.calls hc
  exact ⟨call', hc', hcont.context.trans hx⟩

/-- A code that the layout of a call's dialog has it has on a later machine, too. -/
lemma Grows.answerable {m m' : Machine} (h : m.Grows m') {c code} (hc : m.Answerable c code) :
    m'.Answerable c code := by
  obtain ⟨call, slot, hc, hl⟩ := hc
  obtain ⟨call', hc', hcont⟩ := h.calls hc
  exact ⟨call', slot, hc', hcont.spec ▸ hl⟩

/-- A dialog belongs to its call on a later machine, too. -/
lemma Grows.caller? {m m' : Machine} (h : m.Grows m') {d c} (hd : m.caller? d = some c) :
    m'.caller? d = some c := by
  obtain ⟨o, ho, hc⟩ := Option.bind_eq_some_iff.1 hd
  exact Option.bind_eq_some_iff.2 ⟨o, h.dialogs ho, hc⟩

/-- Whom a dialog on record belongs to does not change. -/
lemma Grows.caller?_before {m m' : Machine} (h : m.Grows m') {d : DialogId} (hd : d < m.dialogs.length) :
    m'.caller? d = m.caller? d := by
  have hget := List.getElem?_eq_getElem hd
  simp [Machine.caller?, h.dialogs hget, hget]

/-- A call that was there before had the context then that it has on a later machine. -/
lemma Grows.in_before {m m' : Machine} (h : m.Grows m') {x c} (hc : c < m.calls.length)
    (hx : m'.In x c) : m.In x c := by
  have hget := List.getElem?_eq_getElem hc
  obtain ⟨call, hcall, rfl⟩ := hx
  exact ⟨_, hget, (h.continues hget hcall).context.symm⟩

/-- A call that goes on has the same dialog to offer. -/
lemma Call.Continues.offer {call call' : Call} (h : call.Continues call') (c : CallId) :
    call'.offer c = call.offer c := by
  simp only [Call.offer, h.context, h.spec]

/-- What is offered may be so on a later machine. -/
lemma Grows.offered {m m' : Machine} (h : m.Grows m') {o} (ho : Offered m o) : Offered m' o := by
  cases ho with
  | program => exact .program
  | @call c call hc =>
    obtain ⟨call', hc', hcont⟩ := h.calls hc
    rw [← hcont.offer c]
    exact .call hc'

/-- An instruction that speaks of calls and dialogs as they are does so on a later machine. -/
lemma Grows.sound {m m' : Machine} (h : m.Grows m') {i : Instr} (hi : i.Sound m) : i.Sound m' := by
  cases i with
  | activate | create | collect | deactivate | resolve => exact Nat.lt_of_lt_of_le hi h.calls_length
  | schedule | beginWait | await | release | nest | nestLeft => exact h.in hi
  | complete => exact h.answerable hi
  | present | accept | exhibit | choose | keep | pressTaken | putBack =>
    exact Nat.lt_of_lt_of_le hi h.dialogs_length
  | schedulePress | pressChosen =>
    obtain ⟨o, hd, hs⟩ := hi
    exact ⟨o, h.dialogs hd, hs⟩
  | conclude =>
    obtain ⟨o, ho, hv⟩ := hi
    exact ⟨o, h.offered ho, hv⟩
  | op | pump | returned | wakeLoop | sleepUntil | takePending | wakeCall | report => trivial

/-- The answer `code` is recorded for a call. -/
def Recorded (m : Machine) (c : CallId) (code : Nat) : Prop :=
  ∃ call, m.calls[c]? = some call ∧ call.handoff.value = some code

/-- A recorded answer stays recorded. -/
lemma Grows.recorded {m m' : Machine} (h : m.Grows m') {c code} (hc : m.Recorded c code) :
    m'.Recorded c code := by
  obtain ⟨call, hc, hv⟩ := hc
  obtain ⟨call', hc', hcont⟩ := h.calls hc
  exact ⟨call', hc', hcont.value hv⟩

/-! ### What is known of a call, read off the call -/

/-- The context of a call is the one that it is made in. -/
lemma In.context_eq {m : Machine} {x c call} (h : m.In x c) (hc : m.calls[c]? = some call) :
    call.context = x := by
  obtain ⟨call', hc', hx⟩ := h
  cases hc.symm.trans hc'
  exact hx

/-- A code that a call can be answered with is in the layout of its dialog. -/
lemma Answerable.mem_layout {m : Machine} {c code call} (h : m.Answerable c code)
    (hc : m.calls[c]? = some call) : ∃ slot, (slot, code) ∈ Slot.layout call.spec.actions.length := by
  obtain ⟨call', slot, hc', hl⟩ := h
  cases hc.symm.trans hc'
  exact ⟨slot, hl⟩

/-- The answer that is recorded for a call is the value of its handoff. -/
lemma Recorded.value_eq {m : Machine} {c code call} (h : m.Recorded c code) (hc : m.calls[c]? = some call) :
    call.handoff.value = some code := by
  obtain ⟨call', hc', hv⟩ := h
  cases hc.symm.trans hc'
  exact hv

/-- A call that a sound instruction needs is there. -/
lemma Instr.Sound.call {m : Machine} {i : Instr} {c : CallId} (h : i.Sound m) (hi : i.call? = some c) :
    ∃ call, m.calls[c]? = some call := by
  cases i with
  | activate | create | collect | deactivate | resolve =>
    cases hi
    exact ⟨_, List.getElem?_eq_getElem h⟩
  | beginWait | await =>
    cases hi
    obtain ⟨call, hc, -⟩ := h
    exact ⟨call, hc⟩
  | complete =>
    cases hi
    obtain ⟨call, -, hc, -⟩ := h
    exact ⟨call, hc⟩
  | _ => cases hi

/-- The dialog that a sound instruction is about is on record. -/
lemma Instr.Sound.offer {m : Machine} {i : Instr} {d : DialogId} (h : i.Sound m) (hi : i.offer? = some d) :
    ∃ o, m.dialogs[d]? = some o := by
  cases i with
  | present | accept | exhibit | choose | keep | pressTaken =>
    cases hi
    exact ⟨_, List.getElem?_eq_getElem h⟩
  | schedulePress | pressChosen =>
    cases hi
    obtain ⟨o, ho, -⟩ := h
    exact ⟨o, ho⟩
  | _ => cases hi

/-- A sound instruction never misses its call. -/
lemma Instr.Sound.call_ne_none {m : Machine} {i : Instr} {c : CallId} (h : i.Sound m)
    (hi : i.call? = some c) : m.calls[c]? ≠ none := by
  obtain ⟨call, hc⟩ := h.call hi
  simp [hc]

/-- A sound instruction never misses its dialog. -/
lemma Instr.Sound.offer_ne_none {m : Machine} {i : Instr} {d : DialogId} (h : i.Sound m)
    (hi : i.offer? = some d) : m.dialogs[d]? ≠ none := by
  obtain ⟨o, ho⟩ := h.offer hi
  simp [ho]

/-! ### What instructions leave and hand on is sound -/

/-- A program speaks of no call, so its instructions are sound. -/
lemma load_sound {m : Machine} {body : List Op} {j} (hj : j ∈ load body) : j.Sound m := by
  obtain ⟨o, -, rfl⟩ := List.mem_map.1 hj
  trivial

/-- The dialog of a call belongs to it, and to it alone. -/
lemma Offered.of_call {m : Machine} {o c} (ho : Offered m o) (hc : o.origin.call? = some c) :
    ∃ call, m.calls[c]? = some call ∧ o = call.offer c := by
  cases ho with
  | program => cases hc
  | @call c' call hcall =>
    have hcc : c' = c := by
      unfold Call.offer at hc
      cases hx : call.context <;> simpa [hx, Origin.call?] using hc
    subst hcc
    exact ⟨call, hcall, rfl⟩

/-- Dialogs belong to calls that there are. -/
lemma Sound.caller_lt {m : Machine} (hm : m.Sound) {d : DialogId} {c : CallId} (hd : m.caller? d = some c) :
    c < m.calls.length := by
  obtain ⟨o, ho, hc⟩ := Option.bind_eq_some_iff.1 hd
  obtain ⟨call, hcall, -⟩ := (hm.offers ho).of_call hc
  exact (List.getElem?_eq_some_iff.1 hcall).1

/-- The context of a call shows in the origin of its offer. -/
lemma Call.offer_origin (call : Call) (c : CallId) :
    (call.context = .uiThread ∧ (call.offer c).origin = .nested c) ∨
    (call.context = .worker ∧ (call.offer c).origin = .posted c) := by
  unfold Call.offer
  cases call.context with
  | uiThread => exact .inl ⟨rfl, rfl⟩
  | worker => exact .inr ⟨rfl, rfl⟩

/-- The dialog of a call cannot be dismissed. -/
lemma Call.offer_cancelable (call : Call) (c : CallId) : (call.offer c).dialog.cancelable = false := by
  unfold Call.offer
  cases call.context with
  | uiThread => exact call.spec.dialog_cancelable _
  | worker => exact call.spec.dialog_cancelable _

/-- What a button of a call's dialog does: it answers the call, and ends its nested run if it has one. -/
lemma Call.offer_press {call : Call} {c slot reaction} (h : (call.offer c).dialog.press slot = .ok reaction) :
    ∃ code, (slot, code) ∈ Slot.layout call.spec.actions.length ∧
      reaction = .answer c code (call.context = .uiThread) := by
  unfold Call.offer at h
  cases hx : call.context with
  | uiThread =>
    rw [hx] at h
    obtain ⟨code, hl, hr⟩ := call.spec.dialog_press _ h
    exact ⟨code, hl, by simpa using hr⟩
  | worker =>
    rw [hx] at h
    obtain ⟨code, hl, hr⟩ := call.spec.dialog_press _ h
    exact ⟨code, hl, by simpa using hr⟩

/-- A button of a program's own dialog runs a program. -/
lemma programOffer_press {d : Dialog (List Op)} {slot reaction}
    (h : (programOffer d).dialog.press slot = .ok reaction) :
    ∃ b ∈ d.buttons, reaction = .script b.action := by
  unfold Dialog.press at h
  split at h
  · next b hb =>
    cases h
    obtain ⟨b', hb', rfl⟩ := List.mem_map.1 (List.mem_of_find?_eq_some hb)
    exact ⟨b', hb', rfl⟩
  · cases h

/-- The handler of a button answers the call that the dialog belongs to. -/
lemma Sound.caller_of_complete {m : Machine} (hm : m.Sound) {d : DialogId} {o : Offer} {slot reaction}
    {c : CallId} {code} (ho : m.dialogs[d]? = some o) (hr : o.dialog.press slot = .ok reaction)
    (hj : .complete c code ∈ reaction.code) : m.caller? d = some c := by
  obtain ⟨stops, rfl⟩ : ∃ stops, reaction = .answer c code stops := by simpa using hj
  cases hm.offers ho with
  | program =>
    obtain ⟨b, -, hb⟩ := programOffer_press hr
    cases hb
  | @call c' call hc =>
    obtain ⟨code', -, hb⟩ := Call.offer_press hr
    cases hb
    rcases call.offer_origin c with ⟨-, he⟩ | ⟨-, he⟩ <;> simp [Machine.caller?, ho, he, Origin.call?]

/-- The handler of an offered dialog's button is sound. -/
lemma reaction_sound {m : Machine} {o slot reaction} (ho : Offered m o)
    (hr : o.dialog.press slot = .ok reaction) : ∀ j ∈ reaction.code, j.Sound m := by
  intro j hj
  cases ho with
  | program =>
    obtain ⟨b, -, rfl⟩ := programOffer_press hr
    exact load_sound hj
  | @call c call hc =>
    obtain ⟨code, hl, rfl⟩ := Call.offer_press hr
    simp only [Reaction.code, List.mem_cons] at hj
    rcases hj with rfl | hj
    · exact ⟨call, slot, hc, hl⟩
    · split at hj
      · obtain rfl := List.mem_singleton.1 hj
        trivial
      · cases hj

/-- What follows an accepted offer is sound. -/
lemma accepted_sound {m : Machine} {o} (ho : Offered m o) : ∀ j ∈ o.origin.accepted, j.Sound m := by
  intro j hj
  cases ho with
  | program => cases hj
  | @call c call hc =>
    rcases call.offer_origin c with ⟨hx, he⟩ | ⟨hx, he⟩
    · rw [he] at hj
      obtain rfl := List.mem_singleton.1 hj
      exact ⟨call, hc, hx⟩
    · rw [he] at hj
      cases hj

/-- What follows a refused offer is sound. -/
lemma refused_sound {m : Machine} {o e} (ho : Offered m o) : ∀ j ∈ o.origin.refused e, j.Sound m := by
  intro j hj
  cases ho with
  | program => cases hj
  | @call c call hc =>
    have hlt : c < m.calls.length := (List.getElem?_eq_some_iff.1 hc).1
    rcases call.offer_origin c with ⟨hx, he⟩ | ⟨hx, he⟩
    · rw [he] at hj
      simp only [Origin.refused, List.mem_cons, List.not_mem_nil, or_false] at hj
      rcases hj with rfl | rfl
      · trivial
      · exact hlt
    · rw [he] at hj
      simp only [Origin.refused, List.mem_cons, List.not_mem_nil, or_false] at hj
      rcases hj with rfl | rfl | rfl
      · trivial
      · exact ⟨call, hc, hx⟩
      · trivial

/-- What a key closes was open, and a key opens nothing. -/
lemma route_views {α : Type} (stack : Terminal.Stack α) (k : Terminal.Key) :
    (∀ view slot, (stack.route k).1 = .closed view slot → ∃ v ∈ stack.views, view.dialog = v.dialog) ∧
    ∀ v ∈ (stack.route k).2.views, ∃ v' ∈ stack.views, v.dialog = v'.dialog := by
  have hr := stack.routes k
  generalize (stack.route k).1 = routed, (stack.route k).2 = after at hr ⊢
  cases hr with
  | nothing | ignored => exact ⟨nofun, fun w hw => ⟨w, hw, rfl⟩⟩
  | activated | dismissed =>
    refine ⟨fun view slot h => ?_, fun w hw => ⟨w, List.mem_append_left _ hw, rfl⟩⟩
    cases h
    exact ⟨_, List.mem_append_right _ (List.mem_singleton_self _), rfl⟩
  | moved =>
    refine ⟨nofun, fun w hw => ?_⟩
    rcases List.mem_append.1 hw with hw | hw
    · exact ⟨w, List.mem_append_left _ hw, rfl⟩
    · obtain rfl := List.mem_singleton.1 hw
      exact ⟨_, List.mem_append_right _ (List.mem_singleton_self _), rfl⟩

/-- The reaction to a closed view is one of its dialog's buttons. -/
lemma conclude_press {α : Type} {view : Terminal.View α} {slot action}
    (h : (view.conclude slot).1 = some action) : ∃ s, view.dialog.press s = .ok action := by
  unfold Terminal.View.conclude at h
  split at h
  · cases h
  · next s =>
    split at h
    · next a ha =>
      cases h
      exact ⟨s, ha⟩
    · cases h

/-- Asking for a prompt adds the new call to the calls. -/
lemma Fires.asks {m m₁ : Machine} {t p ticket next sent} {q : ActivePrompt}
    (hf : Fires m t (.op (.ask p ticket)) next sent m₁) (hq : m.prompts[p]? = some q) :
    m₁.calls = m.calls ++ [m.newCall t p q ticket] := by
  cases hf with
  | ask hq' =>
    rw [hq] at hq'
    cases hq'
    rfl
  | askUnknown hn =>
    rw [hq] at hn
    cases hn
  | post ho _ => cases ho
  | postClosed ho _ => cases ho
  | noCall hi _ => cases hi
  | noOffer hi _ => cases hi

/-- An operation that offers a dialog, and the creation of a call's dialog, put a new dialog on record. -/
lemma Fires.offers {m m₁ : Machine} {t i next sent} (hf : Fires m t i next sent m₁)
    (hi : (∃ d, i = .op (.offer d)) ∨ ∃ (c : CallId) (call : Call), i = .create c ∧ m.calls[c]? = some call) :
    m.dialogs.length < m₁.dialogs.length := by
  rcases hi with ⟨d, rfl⟩ | ⟨c, call, rfl, hc⟩
  · cases hf with
    | offer => simp
    | post ho _ => cases ho
    | postClosed ho _ => cases ho
    | noCall hi _ => cases hi
    | noOffer hi _ => cases hi
  · cases hf with
    | create _ => simp
    | noCall hi hn =>
      cases hi
      rw [hc] at hn
      cases hn
    | noOffer hi _ => cases hi

/-- What an instruction leaves and hands on is sound. -/
lemma Fires.new_sound {m m₁ : Machine} {t i next sent j} (hf : Fires m t i next sent m₁) (hm : m.Sound)
    (hi : i.Sound m) (hj : j ∈ next ∨ j ∈ sent) : j.Sound m₁ := by
  -- all but new calls and new offers was there before
  have old : j.Sound m → j.Sound m₁ := hf.grows.sound
  cases hf.leads hj with
  | activate hq => simp [Instr.Sound, hf.asks hq]
  | ask hq _ => simp [Instr.Sound, hf.asks hq]
  | askOff hq hu => exact ⟨_, by rw [hf.asks hq]; exact List.getElem?_concat_length, by simp [newCall, hu]⟩
  | create =>
    obtain ⟨call, hc, -⟩ := hi
    exact old (List.getElem?_eq_some_iff.1 hc).1
  | closed _ =>
    obtain ⟨call, hc, -⟩ := hi
    exact old (List.getElem?_eq_some_iff.1 hc).1
  | nestCollect =>
    obtain ⟨call, hc, -⟩ := hi
    exact old (List.getElem?_eq_some_iff.1 hc).1
  | ready hc _ | interrupted hc _ _ | swallowed hc _ _ | timedOut hc _ | collected hc =>
    exact old (List.getElem?_eq_some_iff.1 hc).1
  | beginWait | await _ | awaitSleep _ _ | nestLeft | resolve | accept _ | exhibit _ _ | choose _ | keep _ _
  | pressChosen _ _ | putBack _ _ => exact old hi
  | offered => exact hf.offers (.inl ⟨_, rfl⟩)
  | created hc => exact hf.offers (.inr ⟨_, _, rfl, hc⟩)
  | instant ho _ hs => exact old ⟨_, ho, hs⟩
  | schedulePress ho _ hs => exact old ⟨_, ho, hs⟩
  | pressTaken hd => exact old (hm.pending _ (List.mem_of_getElem? hd))
  | accepted _ ho hj => exact old (accepted_sound (hm.offers ho) j hj)
  | refused _ ho _ hj => exact old (refused_sound (hm.offers ho) j hj)
  | pressed _ ho hr hj => exact old (reaction_sound (hm.offers ho) hr j hj)
  | conclude ht hr =>
    obtain ⟨v, hv, hd⟩ := (route_views _ _).1 _ _ (congrArg Prod.fst hr)
    obtain ⟨o, ho, hvo⟩ := hm.views ht v hv
    exact old ⟨o, ho, hd.trans hvo⟩
  | concluded hr hj =>
    obtain ⟨o, ho, hv⟩ := hi
    obtain ⟨s, hs⟩ := conclude_press hr
    exact old (reaction_sound ho (hv ▸ hs) j hj)
  | _ => trivial

/-! ### Recorded outcomes -/

/-- A recorded outcome that is an action has the recorded code. -/
lemma Call.recorded_action {call : Call} (h : call.recorded.isAction = true) :
    call.handoff.value = some call.recorded.code := by
  unfold Call.recorded at h ⊢
  split at h
  · next code hv =>
    rw [hv]
    unfold Outcome.ofCode at h ⊢
    split at h
    · cases h
    · next hle =>
      rw [if_neg hle]
      split at h <;> first | rfl | cases h
  · cases h

/-- What is recorded for a call is an action, or nothing is recorded. -/
lemma Sound.recorded {m : Machine} (hm : m.Sound) {c : CallId} {call : Call} (hc : m.calls[c]? = some call) :
    (call.recorded.isAction = true ∧ call.handoff.value = some call.recorded.code) ∨
      (call.recorded = .noAction ∧ call.handoff.value = none) := by
  cases hv : call.handoff.value with
  | none => exact .inr ⟨by simp [Call.recorded, hv], rfl⟩
  | some code =>
    obtain ⟨slot, hl⟩ := (hm.values hc hv).mem_layout hc
    obtain ⟨haction, hcode⟩ := Slot.outcome_of_layout hl
    have hrec : call.recorded = .ofCode code call.spec.actions.length := by simp [Call.recorded, hv]
    rw [hrec, hcode]
    exact .inl ⟨haction, rfl⟩

/-! ### Soundness along runs -/

/-- The open dialogs of a terminal are offered ones, also after a firing. -/
lemma Fires.views {m m₁ : Machine} {t i next sent stack} (hf : Fires m t i next sent m₁) (hm : m.Sound)
    (hs : m₁.terminal = some stack) : ∀ v ∈ stack.views, ∃ o : Offer, Offered m o ∧ v.dialog = o.dialog := by
  cases hf with
  | keyClosed ht hr =>
    cases hs
    intro v hv
    obtain ⟨v', hv', hd⟩ := (route_views _ _).2 v (by rw [hr]; exact hv)
    obtain ⟨o, ho, hvo⟩ := hm.views ht v' hv'
    exact ⟨o, ho, hd.trans hvo⟩
  | key ht hn =>
    cases hs
    intro v hv
    obtain ⟨v', hv', hd⟩ := (route_views _ _).2 v hv
    obtain ⟨o, ho, hvo⟩ := hm.views ht v' hv'
    exact ⟨o, ho, hd.trans hvo⟩
  | @presentOpen d o stack' ho ht =>
    simp only [tellProgram_eq, Option.some.injEq] at hs
    subst hs
    intro v hv
    rcases List.mem_append.1 hv with hv | hv
    · exact hm.views ht v hv
    · obtain rfl := List.mem_singleton.1 hv
      exact ⟨o, hm.offers ho, rfl⟩
  | _ => exact hm.views (by first | exact hs | simpa [note_eq, tellProgram_eq, enqueue, emit] using hs)

/-- An instruction keeps a machine sound. -/
lemma Fires.sound {m m₁ : Machine} {t i rest next sent} (hf : Fires m t i next sent m₁)
    (ht : m.codes[t]? = some (i :: rest)) (hm : m.Sound) : (m₁.goto t (next ++ rest)).Sound := by
  have hi : i.Sound m := hm.agenda i (mem_agenda_of_code ht (List.mem_cons_self ..))
  have hg₁ : m₁.Grows (m₁.goto t (next ++ rest)) := grows_goto ..
  have hg : m.Grows (m₁.goto t (next ++ rest)) := hf.grows.trans hg₁
  constructor
  case agenda =>
    intro j hj
    rcases hf.mem_agenda ht hj with hj | hj
    · exact hg.sound (hm.agenda j hj)
    · exact hg₁.sound (hf.new_sound hm hi hj)
  case offers =>
    intro d o hd
    rcases hf.offer_before hd with hd | ⟨-, ⟨d', -, rfl⟩ | ⟨c, call, -, hc, rfl⟩⟩
    · exact hg.offered (hm.offers hd)
    · exact .program
    · exact hg.offered (.call hc)
  case pending =>
    intro d hd
    apply Nat.lt_of_lt_of_le _ hg.dialogs_length
    have hd : d ∈ m₁.desk.pending := hd
    obtain he | ⟨d', rfl, he⟩ | ⟨_, _, _, _, -, -, -, he⟩ | ⟨place, d', rfl, he⟩ | ⟨_, _, -, -, -, he⟩ :=
      hf.pending
    · exact hm.pending d (he ▸ hd)
    · rw [he] at hd
      rcases List.mem_append.1 hd with hd | hd
      · exact hm.pending d hd
      · obtain rfl := List.mem_singleton.1 hd
        exact hi
    · exact hm.pending d ((List.eraseIdx_sublist ..).subset (he ▸ hd))
    · rw [he] at hd
      rcases List.eq_or_mem_of_mem_insertIdx hd with rfl | hd
      · exact hi
      · exact hm.pending d hd
    · exact hm.pending d (List.dropLast_subset _ (he ▸ hd))
  case views =>
    intro stack hs v hv
    obtain ⟨o, ho, hvo⟩ := hf.views hm hs v hv
    exact ⟨o, hg.offered ho, hvo⟩
  case values =>
    -- only `complete` records an answer, and it was sound
    intro c call code hc hv
    apply hg.answerable
    obtain ⟨old, hold, rfl | ⟨f, hch, rfl⟩⟩ | ⟨p, ticket, q, -, -, -, rfl⟩ := hf.call_before hc
    · exact hm.values hold hv
    · cases hch with
      | complete hc' hnone =>
        rw [hold] at hc'
        cases hc'
        simp only [Handoff.complete, hnone, Option.some.injEq] at hv
        subst hv
        exact hi
      | _ => exact hm.values hold hv
    · cases hv

/-- Every move keeps a machine sound. -/
lemma step_sound {m : Machine} (mv : Move) (hm : m.Sound) : (m.step mv).Sound := by
  rcases (steps m mv).fires_or_quiet with ⟨t, i, rest, next, sent, m₁, -, ht, hf, he⟩ | hq
  · rw [he]
    exact hf.sound ht hm
  · have hg := hq.grows
    constructor
    · exact fun j hj => hg.sound (hm.agenda j (hq.agenda.subset hj))
    · exact fun hd => hg.offered (hm.offers (hq.dialogs ▸ hd))
    · intro d hd
      rw [hq.dialogs]
      exact hm.pending d (hq.desk ▸ hd)
    · intro stack hs v hv
      obtain ⟨o, ho, hvo⟩ := hm.views (hq.terminal ▸ hs) v hv
      exact ⟨o, hg.offered ho, hvo⟩
    · exact fun hc hv => hg.answerable (hm.values (hq.calls ▸ hc) hv)

/-- A machine on which nothing was asked or offered yet: its threads and tasks hold programs. -/
structure Fresh (m : Machine) : Prop where
  codes : ∀ code ∈ m.codes, ∃ body, code = load body
  awake : ∀ th ∈ m.threads, th.asleep = false
  queue : ∀ task ∈ m.loop.queue, ∃ body, task = load body
  calls : m.calls = []
  dialogs : m.dialogs = []
  pending : m.desk.pending = []
  views : ∀ {stack}, m.terminal = some stack → stack.views = []
  history : m.history = #[]
  active : ∀ q ∈ m.prompts, q.active = none

/-- Only operations of programs are on the agenda of a fresh machine. -/
lemma Fresh.agenda {m : Machine} (hm : m.Fresh) {i} (hi : i ∈ m.agenda) : ∃ o, i = .op o := by
  rcases mem_agenda_iff.1 hi with ⟨t, code, ht, hi⟩ | ⟨task, htask, hi⟩
  · obtain ⟨body, rfl⟩ := hm.codes code (List.mem_of_getElem? ht)
    obtain ⟨o, -, rfl⟩ := mem_load.1 hi
    exact ⟨o, rfl⟩
  · obtain ⟨body, rfl⟩ := hm.queue task htask
    obtain ⟨o, -, rfl⟩ := mem_load.1 hi
    exact ⟨o, rfl⟩

/-- A fresh machine is sound, as there are no calls and no dialogs to speak of. -/
lemma Fresh.sound {m : Machine} (hm : m.Fresh) : m.Sound where
  agenda i hi := by
    obtain ⟨o, rfl⟩ := hm.agenda hi
    trivial
  offers hd := by simp [hm.dialogs] at hd
  pending d hd := by simp [hm.pending] at hd
  views hs v hv := by simp [hm.views hs] at hv
  values hc _ := by simp [hm.calls] at hc

/-- A run keeps a machine sound. -/
lemma play_sound {m : Machine} (hm : m.Sound) (moves : List Move) : (m.play moves).Sound :=
  play_induction hm (fun _ mv h => step_sound mv h) moves

/-- A headless machine that starts programs on threads of their own, with the given prompts and responder. -/
def start (programs : List (List Op)) (prompts : List Prompt) (responder : Responder) : Machine where
  threads := programs.map fun body => ⟨"", load body, false, false⟩
  desk := { responder }
  prompts := prompts.map fun prompt => { prompt }

/-- A machine that starts programs is fresh. -/
lemma start_fresh (programs : List (List Op)) (prompts : List Prompt) (responder : Responder) :
    (start programs prompts responder).Fresh where
  codes code h := by
    obtain ⟨th, hth, rfl⟩ := List.mem_map.1 h
    obtain ⟨body, -, rfl⟩ := List.mem_map.1 hth
    exact ⟨body, rfl⟩
  awake th h := by
    obtain ⟨body, -, rfl⟩ := List.mem_map.1 h
    rfl
  queue task h := by cases h
  calls := rfl
  dialogs := rfl
  pending := rfl
  views h := by cases h
  history := rfl
  active q h := by
    obtain ⟨p, -, rfl⟩ := List.mem_map.1 h
    rfl

/-- A fresh machine stays fresh if a thread owns its loop from the start, with the programs of some tasks queued. -/
lemma Fresh.withLoop {m : Machine} (hm : m.Fresh) (ui : ThreadId) (bodies : List (List Op)) :
    { m with loop := { owner := some ui, queue := bodies.map load } }.Fresh where
  codes := hm.codes
  awake := hm.awake
  queue task h := by
    obtain ⟨body, -, rfl⟩ := List.mem_map.1 h
    exact ⟨body, rfl⟩
  calls := hm.calls
  dialogs := hm.dialogs
  pending := hm.pending
  views := hm.views
  history := hm.history
  active := hm.active

/-- What a user may be asked: a question with two answers. -/
def saveSpec : Spec := ⟨"Save", "Save the file?", .question, ["Yes", "No"], by decide, by decide⟩

/-! ### The headless toolkit -/

/-- A machine without a terminal, on which no dialog of a terminal is being closed. -/
structure Headless (m : Machine) : Prop where
  terminal : m.terminal = none
  conclude : ∀ view slot, .conclude view slot ∉ m.agenda

/-- An instruction brings no terminal to a machine that has none. -/
lemma Fires.terminal {m m₁ : Machine} {t i next sent} (h : Fires m t i next sent m₁)
    (hm : m.terminal = none) : m₁.terminal = none := by
  cases h with
  | keyClosed ht _ => simp [hm] at ht
  | key ht _ => simp [hm] at ht
  | presentOpen _ ht => simp [hm] at ht
  | _ => first | exact hm | simp [note_eq, tellProgram_eq, enqueue, emit, hm]

/-- Every move keeps a machine headless. -/
lemma step_headless {m : Machine} (mv : Move) (hm : m.Headless) : (m.step mv).Headless := by
  rcases (steps m mv).fires_or_quiet with ⟨t, i, rest, next, sent, m₁, -, ht, hf, he⟩ | hq
  · rw [he]
    refine ⟨hf.terminal hm.terminal, fun view slot hj => ?_⟩
    rcases hf.mem_agenda ht hj with hj | hj
    · exact hm.conclude view slot hj
    · cases hf.leads hj with
      | conclude hs _ => simp [hm.terminal] at hs
      | concluded _ hr => simp at hr
      | _ => simp_all
  · exact ⟨by rw [hq.terminal, hm.terminal], fun view slot hj => hm.conclude view slot (hq.agenda.subset hj)⟩

/-- A fresh machine without a terminal is headless. -/
lemma Fresh.headless {m : Machine} (hm : m.Fresh) (h : m.terminal = none) : m.Headless := by
  refine ⟨h, fun view slot hi => ?_⟩
  obtain ⟨o, ho⟩ := hm.agenda hi
  cases ho

end MessageBox.Machine

import MessageBox.Proofs.Machine.Caller

/-!
# No waiter is stranded

A call that waits off the UI thread is woken through its dialog. The duty to wake it moves from the task that
creates the dialog to the pending list, or to the press that a responder chose, and back when a press misses;
whoever gives it up has left a permit (`Supported`, `Fires.hands_on`). The instructions that have the duty are
tasks in the queue or the next instruction of a thread that runs the loop (`Orderly`). So a call that waits
without a permit has somebody who is going to wake it (`no_stranded_waiter`).
-/

namespace MessageBox.Machine

/-- An instruction has the duty to wake a call, or to hand this duty on. -/
def Carries (m : Machine) (c : CallId) : Instr → Prop
  | .create c' | .complete c' _ | .release c' => c' = c
  | .present d | .accept d | .exhibit d | .choose d | .schedulePress d _ | .keep d | .pressTaken _ d _
  | .putBack _ d | .pressChosen d _ => m.caller? d = some c
  | _ => False

/-- An instruction about the dialog of a call has the duty to wake the call. -/
lemma carries_of_offer {m : Machine} {i : Instr} {d : DialogId} {c : CallId} (hi : i.offer? = some d)
    (hd : m.caller? d = some c) : Carries m c i := by
  cases i with
  | present | accept | exhibit | choose | schedulePress | keep | pressTaken | pressChosen =>
    cases hi
    exact hd
  | _ => cases hi

/-- An instruction has its duty on a later machine, too. -/
lemma Grows.carries {m m' : Machine} (h : m.Grows m') {c i} (hi : Carries m c i) : Carries m' c i := by
  cases i with
  | present | accept | exhibit | choose | schedulePress | keep | pressTaken | putBack | pressChosen =>
    exact h.caller? hi
  | _ => exact hi

/-- Somebody is going to wake the call, or has left a permit for it. -/
def Supported (m : Machine) (c : CallId) : Prop :=
  .schedule c ∈ m.agenda ∨ (∃ i ∈ m.agenda, Carries m c i) ∨ (∃ d ∈ m.desk.pending, m.caller? d = some c) ∨
    ∃ call, m.calls[c]? = some call ∧ 0 < call.handoff.permits

/-! ### The duty is handed on -/

/-- Where a slot has a button, pressing it works. -/
lemma press_of_hasSlot {α : Type} {d : Dialog α} {slot : Slot} (h : d.hasSlot slot = true) :
    ∃ a, d.press slot = .ok a := by
  rcases d.press_cases slot with ⟨b, -, -, hb⟩ | ⟨hlacks, -⟩
  · exact ⟨_, hb⟩
  · rw [h] at hlacks
    cases hlacks

/-- A press is only chosen where there is a button. -/
lemma Instr.Sound.press_ne_error {m : Machine} {d : DialogId} {slot : Slot} {o : Offer} {e}
    (h : (Instr.pressChosen d slot).Sound m) (ho : m.dialogs[d]? = some o) :
    o.dialog.press slot ≠ .error e := by
  obtain ⟨o', ho', hs⟩ := h
  cases ho.symm.trans ho'
  obtain ⟨a, ha⟩ := press_of_hasSlot hs
  simp [ha]

/-- A press of a call's dialog leads to an answer to the call. -/
lemma Sound.complete_of_press {m : Machine} (hm : m.Sound) {d : DialogId} {o : Offer} {slot reaction}
    {c : CallId} (hd : m.caller? d = some c) (ho : m.dialogs[d]? = some o)
    (hr : o.dialog.press slot = .ok reaction) : ∃ code, .complete c code ∈ reaction.code := by
  have hcall : o.origin.call? = some c := by simpa [Machine.caller?, ho] using hd
  obtain ⟨call, -, rfl⟩ := (hm.offers ho).of_call hcall
  obtain ⟨code, -, rfl⟩ := Call.offer_press hr
  exact ⟨code, List.mem_cons_self ..⟩

/-- A toolkit that refuses the dialog of a call off the UI thread has the call released. -/
lemma Sound.release_of_refused {m : Machine} (hm : m.Sound) {d : DialogId} {o : Offer} {c : CallId}
    (ho : m.dialogs[d]? = some o) (hd : m.caller? d = some c) (hc : m.In .worker c) (e : ToolkitFailure) :
    .release c ∈ o.origin.refused e := by
  rw [hm.posted_of_worker ho hd hc]
  simp

/-- A presented dialog is handed to the toolkit or pressed. -/
lemma carries_presented {m : Machine} {d : DialogId} {o : Offer} {c : CallId} (hd : m.caller? d = some c) :
    ∃ j ∈ m.presented d o, Carries m c j := by
  unfold presented
  split
  · exact ⟨_, List.mem_singleton_self _, hd⟩
  · split
    · exact ⟨_, List.mem_cons_self .., hd⟩
    · exact ⟨_, List.mem_singleton_self _, hd⟩

/-- An instruction that has the duty to wake a call hands it on, or leaves a permit. -/
lemma Fires.hands_on {m m₁ : Machine} {t i next sent} {c : CallId} (hf : Fires m t i next sent m₁)
    (hm : m.Sound) (hterm : m.terminal = none) (hi : i.Sound m) (hw : m.In .worker c) (hc : Carries m c i)
    (hkept : ∀ {call : Call}, m.calls[c]? = some call → call.handoff.value.isSome = true →
      0 < call.handoff.permits) :
    (∃ j, (j ∈ next ∨ j ∈ sent) ∧ Carries m₁ c j) ∨ (∃ d ∈ m₁.desk.pending, m₁.caller? d = some c) ∨
      ∃ call, m₁.calls[c]? = some call ∧ 0 < call.handoff.permits := by
  have hg := hf.grows
  cases hf with
  | noCall hi' hn => exact absurd hn (hi.call_ne_none hi')
  | noOffer hi' hn => exact absurd hn (hi.offer_ne_none hi')
  | @create c' call hcall =>
    obtain rfl : c' = c := hc
    refine .inl ⟨_, .inl (List.mem_singleton_self _), ?_⟩
    rcases call.offer_origin c' with ⟨-, ho⟩ | ⟨-, ho⟩ <;> simp [Carries, Machine.caller?, ho, Origin.call?]
  | presentOpen _ ht => simp [hterm] at ht
  | presentProgram _ _ _ => exact .inl ⟨_, .inl (List.mem_singleton_self _), hc⟩
  | presentInterrupt _ _ _ _ _ _ =>
    obtain ⟨j, hj, hjc⟩ := carries_presented hc
    exact .inl ⟨j, .inl (List.mem_cons_of_mem _ hj), hg.carries hjc⟩
  | presentIgnored _ _ _ _ _ _ =>
    obtain ⟨j, hj, hjc⟩ := carries_presented hc
    exact .inl ⟨j, .inl hj, hg.carries hjc⟩
  | present _ _ _ _ =>
    obtain ⟨j, hj, hjc⟩ := carries_presented hc
    exact .inl ⟨j, .inl hj, hg.carries hjc⟩
  | acceptFailed ho _ =>
    exact .inl ⟨.release c, .inl (hm.release_of_refused ho hc hw _), rfl⟩
  | accept _ _ => exact .inl ⟨_, .inl (List.mem_singleton_self _), hc⟩
  | exhibit _ => exact .inl ⟨_, .inl (List.mem_singleton_self _), hc⟩
  | chooseNone _ _ => exact .inl ⟨_, .inl (List.mem_singleton_self _), hc⟩
  | choose _ _ _ => exact .inl ⟨_, .inl (List.mem_singleton_self _), hc⟩
  | chooseMissing _ _ _ => exact .inl ⟨_, .inl (List.mem_singleton_self _), hc⟩
  | schedulePress _ _ => exact .inl ⟨_, .inr (List.mem_singleton_self _), hg.caller? hc⟩
  | schedulePressClosed ho _ =>
    exact .inl ⟨.release c, .inl (hm.release_of_refused ho hc hw _), rfl⟩
  | @keep d o ho =>
    refine .inr (.inl ⟨d, ?_, hg.caller? hc⟩)
    simp [tellProgram_eq]
  | pressTaken ho hr =>
    obtain ⟨code, hcode⟩ := hm.complete_of_press hc ho hr
    exact .inl ⟨_, .inl hcode, rfl⟩
  | pressTakenMissing _ _ => exact .inl ⟨_, .inl (List.mem_singleton_self _), hc⟩
  | @putBack place d =>
    refine .inr (.inl ⟨d, ?_, hc⟩)
    exact List.mem_insertIdx (Nat.min_le_right ..) |>.2 (.inl rfl)
  | pressChosen ho hr =>
    obtain ⟨code, hcode⟩ := hm.complete_of_press hc ho hr
    exact .inl ⟨_, .inl hcode, rfl⟩
  | pressChosenMissing ho hr =>
    exact absurd hr (hi.press_ne_error ho)
  | @complete c' code call hcall hv =>
    obtain rfl : c' = c := hc
    refine .inr (.inr ⟨_, modifyCall_self hcall _, ?_⟩)
    simp [Handoff.complete, hv]
  | @completeAgain c' code call hcall hv =>
    obtain rfl : c' = c := hc
    exact .inr (.inr ⟨call, hcall, hkept hcall hv⟩)
  | @release c' =>
    obtain rfl : c' = c := hc
    obtain ⟨call, hcall, -⟩ := hw
    exact .inr (.inr ⟨_, modifyCall_self hcall _, Nat.succ_pos _⟩)
  | _ => exact False.elim hc

/-- A pending dialog stays pending or is taken to be pressed: prompts' dialogs cannot be dismissed. -/
lemma Fires.pending_of_mem {m m₁ : Machine} {t i next sent d} {c : CallId} (hf : Fires m t i next sent m₁)
    (hm : m.Sound) (hd : d ∈ m.desk.pending) (hc : m.caller? d = some c) :
    d ∈ m₁.desk.pending ∨ ∃ place slot, .pressTaken place d slot ∈ next := by
  obtain he | ⟨d', -, he⟩ | ⟨index, slot, place, d', -, hd', hnext, he⟩ | ⟨place, d', -, he⟩ |
      ⟨last, o, hlast, ho, hcancel, he⟩ := hf.pending
  · exact .inl (he ▸ hd)
  · exact .inl (he ▸ List.mem_append_left _ hd)
  · obtain ⟨k, hk⟩ := List.mem_iff_getElem?.1 hd
    by_cases hkp : k = place
    · subst hkp
      rw [hk] at hd'
      cases hd'
      exact .inr ⟨k, slot, hnext ▸ List.mem_singleton_self _⟩
    · left
      rw [he]
      exact List.mem_eraseIdx_iff_getElem?.2 ⟨k, hkp, hk⟩
  · left
    rw [he]
    exact (List.mem_insertIdx (Nat.min_le_right ..)).2 (.inr hd)
  · left
    rw [he]
    have hne : d ≠ last := by
      -- what is dismissed can be cancelled, and prompts' dialogs cannot
      rintro rfl
      have hcall : o.origin.call? = some c := by simpa [Machine.caller?, ho] using hc
      obtain ⟨call, -, rfl⟩ := (hm.offers ho).of_call hcall
      rw [call.offer_cancelable c] at hcancel
      cases hcancel
    exact List.mem_dropLast_of_mem_of_ne_getLast? hd (by simpa [hlast] using hne)

/-- Whoever waits for a call has somebody to wake it, or a permit. -/
def Unstranded (m : Machine) : Prop :=
  ∀ {c : CallId} {i}, i ∈ m.agenda → i.waits c = true → m.Supported c

/-- A permit stays until the wait is over. -/
lemma Fires.permit {m m₁ : Machine} {t i rest next sent j} {c : CallId} {call : Call}
    (hf : Fires m t i next sent m₁) (ht : m.codes[t]? = some (i :: rest)) (hw : m.In .worker c)
    (hs : (m₁.goto t (next ++ rest)).Single) (hj : j ∈ (m₁.goto t (next ++ rest)).agenda)
    (hjw : j.waits c = true) (hc : m.calls[c]? = some call) (hp : 0 < call.handoff.permits) :
    ∃ call, m₁.calls[c]? = some call ∧ 0 < call.handoff.permits := by
  rcases hf.call_after hc with hc' | ⟨f, hch, hc'⟩
  · exact ⟨call, hc', hp⟩
  · refine ⟨f call, hc', ?_⟩
    cases hch with
    | take hc'' hl =>
      rw [hf.take_ends ht hc'' hl hw hs hj] at hjw
      cases hjw
    | complete _ _ =>
      simp only [Handoff.complete]
      split
      · exact hp
      · exact Nat.succ_pos _
    | release => exact Nat.succ_pos _
    | interrupt _ => exact hp
    | interruptOnShow _ _ _ _ _ _ => exact hp
    | clear _ _ => exact hp
    | resolve _ => exact hp

/-- A call that is scheduled has a task made for it, or its wait is over before it began. -/
lemma Fires.schedules {m m₁ : Machine} {t next sent} {c : CallId}
    (hf : Fires m t (.schedule c) next sent m₁) :
    (.create c ∈ next ∨ .create c ∈ sent) ∨ .deactivate c .noAction ∈ next := by
  cases hf with
  | scheduleInline _ => exact .inl (.inl (List.mem_cons_self ..))
  | schedule _ _ => exact .inl (.inr (List.mem_singleton_self _))
  | scheduleClosed _ _ => exact .inr (List.mem_cons_of_mem _ (List.mem_singleton_self _))
  | noCall hi _ => cases hi
  | noOffer hi _ => cases hi

/-- An instruction strands no waiter: the duty that it has is handed on to what it leaves, to a pending dialog or to a
permit. -/
lemma Fires.unstranded {m m₁ : Machine} {t i rest next sent} (hf : Fires m t i next sent m₁)
    (ht : m.codes[t]? = some (i :: rest)) (hm : m.Sound) (hterm : m.terminal = none) (hk : m.Kept)
    (hs : (m₁.goto t (next ++ rest)).Single) (h : m.Unstranded) :
    (m₁.goto t (next ++ rest)).Unstranded := by
  intro c j hj hjw
  have hi : i.Sound m := hm.agenda i (mem_agenda_of_code ht (List.mem_cons_self ..))
  have hg₁ : m₁.Grows (m₁.goto t (next ++ rest)) := grows_goto ..
  have hg : m.Grows (m₁.goto t (next ++ rest)) := hf.grows.trans hg₁
  rcases hf.waits_before ht hj hjw with ⟨k, hkm, hkw⟩ | ⟨-, rfl⟩
  · have hw := (hm.agenda k hkm).in_worker hkw
    rcases h hkm hkw with hsched | ⟨k', hk', hcarries⟩ | ⟨d, hd, hcaller⟩ | ⟨call, hc, hp⟩
    · rcases hf.agenda_of_mem ht hsched with hsched | rfl
      · exact .inl hsched
      · rcases hf.schedules with hnew | hend
        · exact .inr (.inl ⟨_, hf.agenda_of_new ht hnew, rfl⟩)
        · -- the call fails, so nothing waits for it any more
          have hmem := hf.agenda_of_new ht (.inl hend)
          have hp : (Instr.deactivate c .noAction).pursues c = true := by simp [Instr.pursues]
          obtain rfl := hs.unique (hg.in hw) hj hmem (Instr.pursues_of_waits hjw) hp
          cases hjw
    · rcases hf.agenda_of_mem ht hk' with hk' | rfl
      · exact .inr (.inl ⟨k', hk', hg.carries hcarries⟩)
      · have hkept : ∀ {call : Call}, m.calls[c]? = some call → call.handoff.value.isSome = true →
            0 < call.handoff.permits := fun hc => hk hc hkm hkw
        rcases hf.hands_on hm hterm hi hw hcarries hkept with ⟨j', hj', hc⟩ | ⟨d, hd, hc⟩ | hp
        · exact .inr (.inl ⟨j', hf.agenda_of_new ht hj', hg₁.carries hc⟩)
        · exact .inr (.inr (.inl ⟨d, hd, hg₁.caller? hc⟩))
        · exact .inr (.inr (.inr hp))
    · rcases hf.pending_of_mem hm hd hcaller with hd | ⟨place, slot, hnext⟩
      · exact .inr (.inr (.inl ⟨d, hd, hg.caller? hcaller⟩))
      · exact .inr (.inl ⟨_, hf.agenda_of_new ht (.inl hnext), hg.caller? hcaller⟩)
    · exact .inr (.inr (.inr (hf.permit ht hw hs hj hjw hc hp)))
  · exact .inl hj

/-! ### Where the duty lies -/

/-- An instruction that a task of the loop executes for a call off the UI thread. -/
def Duty (m : Machine) (i : Instr) : Prop :=
  (∃ c, m.In .worker c ∧ Carries m c i) ∨ ∃ index slot, i = .takePending index slot

/-- The duties lie in tasks of their own in the queue, or come next on a thread that runs the loop, at most
behind the report of a failure; and the thread that runs the loop owns it. -/
structure Orderly (m : Machine) : Prop where
  codes : ∀ {t : ThreadId} (pre : List Instr) {post i}, m.codes[t]? = some (pre ++ i :: post) → Duty m i →
    (∃ token, .pump token ∈ post) ∧ (pre = [] ∨ ∃ e, pre = [.report e])
  queue : ∀ {task i}, task ∈ m.loop.queue → i ∈ task → Duty m i →
    task = [i] ∧ ((∃ c, i = .create c) ∨ (∃ index slot, i = .takePending index slot) ∨
      ∃ d slot, i = .pressChosen d slot)
  pumps : ∀ {t : ThreadId} {code token}, m.codes[t]? = some code → .pump token ∈ code →
    m.loop.owner = some t

/-- A duty of a later machine that was on the agenda before was a duty before. -/
lemma Grows.duty_before {m m' : Machine} (h : m.Grows m') (hm : m.Sound) {i : Instr} (hi : i.Sound m)
    (hd : Duty m' i) : Duty m i := by
  rcases hd with ⟨c, hw, hc⟩ | htake
  · refine .inl ⟨c, ?_⟩
    cases i with
    | create c' =>
      obtain rfl : c' = c := hc
      exact ⟨h.in_before hi hw, rfl⟩
    | complete c' code =>
      obtain rfl : c' = c := hc
      obtain ⟨call, slot, hcall, -⟩ := hi
      exact ⟨h.in_before (List.getElem?_eq_some_iff.1 hcall).1 hw, rfl⟩
    | release c' =>
      obtain rfl : c' = c := hc
      exact ⟨hi, rfl⟩
    | present d | accept d | exhibit d | choose d | keep d | pressTaken _ d _ | putBack _ d =>
      have hcaller : m.caller? d = some c := (h.caller?_before hi).symm.trans hc
      exact ⟨h.in_before (hm.caller_lt hcaller) hw, hcaller⟩
    | schedulePress d slot | pressChosen d slot =>
      obtain ⟨o, ho, -⟩ := hi
      have hcaller : m.caller? d = some c :=
        (h.caller?_before (List.getElem?_eq_some_iff.1 ho).1).symm.trans hc
      exact ⟨h.in_before (hm.caller_lt hcaller) hw, hcaller⟩
    | _ => exact False.elim hc
  · exact .inr htake

/-- What an instruction leaves to its own thread is a duty only if the instruction was one. -/
lemma Fires.duty_of_next {m m₁ : Machine} {t i next sent j} (hf : Fires m t i next sent m₁) (hm : m.Sound)
    (hi : i.Sound m) (hview : ∀ view slot, i ≠ .conclude view slot) (hov : m.overrides = {})
    (hj : j ∈ next) (hd : Duty m₁ j) : Duty m i := by
  have hg := hf.grows
  -- an instruction about the dialog of a call that was there before was a duty
  have old : ∀ {d c}, i.offer? = some d → m₁.In .worker c → m₁.caller? d = some c → Duty m i := by
    intro d c ho hw hc
    obtain ⟨o, hget⟩ := hi.offer ho
    have hlt := (List.getElem?_eq_some_iff.1 hget).1
    have hcaller : m.caller? d = some c := (hg.caller?_before hlt).symm.trans hc
    exact .inl ⟨c, hg.in_before (hm.caller_lt hcaller) hw, carries_of_offer ho hcaller⟩
  rcases hd with ⟨c, hw, hc⟩ | ⟨index, slot, rfl⟩
  · cases j with
    | create c' =>
      obtain rfl : c' = c := hc
      cases hf.leads (.inl hj) with
      | ask _ hu =>
        -- a call on the UI thread creates its dialog itself
        cases hf with
        | ask _ =>
          obtain ⟨call, hcall, hx⟩ := hw
          simp only [emit, List.getElem?_concat_length, Option.some.injEq] at hcall
          subst hcall
          simp [newCall, hu] at hx
        | _ => simp_all
      | create => cases hf <;> simp_all [Instr.call?, Instr.offer?]
      | _ => simp_all
    | complete c' code =>
      obtain rfl : c' = c := hc
      cases hf.leads (.inl hj) with
      | @pressed _ d slot o reaction _ hp ho hr hj =>
        have hcaller := hg.caller? (hm.caller_of_complete ho hr hj)
        exact old (Instr.offer?_of_press hp) hw hcaller
      | concluded _ _ => exact absurd rfl (hview _ _)
      | _ => simp_all
    | release c' =>
      obtain rfl : c' = c := hc
      cases hf.leads (.inl hj) with
      | @refused _ d o e _ ho hget _ hr =>
        have horigin : o.origin = .posted c' := by simpa using hr
        have hcaller : m.caller? d = some c' := by simp [Machine.caller?, hget, horigin, Origin.call?]
        exact old ho hw (hg.caller? hcaller)
      | _ => simp_all
    | present d =>
      cases hf.leads (.inl hj) with
      | offered =>
        cases hf with
        | offer => simp [Carries, Machine.caller?, programOffer, Origin.call?] at hc
        | _ => simp_all
      | @created c' call hcall =>
        cases hf with
        | create hcall' =>
          rw [hcall] at hcall'
          cases hcall'
          have hcaller : (call.offer c').origin.call? = some c := by
            simpa [Carries, Machine.caller?] using hc
          have hcc : c' = c := by
            rcases call.offer_origin c' with ⟨-, he⟩ | ⟨-, he⟩ <;> simpa [he, Origin.call?] using hcaller
          subst hcc
          exact .inl ⟨c', hg.in_before hi hw, rfl⟩
        | noCall hi' hn =>
          cases hi'
          rw [hcall] at hn
          cases hn
        | noOffer hi' _ => cases hi'
      | _ => simp_all
    | accept d =>
      cases hf.leads (.inl hj) with
      | accept _ => exact old rfl hw hc
      | _ => simp_all
    | exhibit d =>
      cases hf.leads (.inl hj) with
      | exhibit _ _ => exact old rfl hw hc
      | _ => simp_all
    | choose d =>
      cases hf.leads (.inl hj) with
      | choose _ => exact old rfl hw hc
      | _ => simp_all
    | schedulePress d slot =>
      cases hf.leads (.inl hj) with
      | schedulePress _ _ _ => exact old rfl hw hc
      | _ => simp_all
    | keep d =>
      cases hf.leads (.inl hj) with
      | keep _ _ => exact old rfl hw hc
      | _ => simp_all
    | pressTaken place d slot =>
      cases hf.leads (.inl hj) with
      | pressTaken _ => exact .inr ⟨_, _, rfl⟩
      | _ => simp_all
    | putBack place d =>
      cases hf.leads (.inl hj) with
      | putBack _ _ => exact old rfl hw hc
      | _ => simp_all
    | pressChosen d slot =>
      cases hf.leads (.inl hj) with
      | instant _ _ _ => exact old rfl hw hc
      | pressChosen _ _ => exact old rfl hw hc
      | _ => simp_all
    | _ => exact False.elim hc
  · cases hf.leads (.inl hj) with
    | take => cases hf <;> simp_all [Instr.call?, Instr.offer?]
    | _ => simp_all

/-- Only what carries a duty or takes a pending dialog is an instruction that a task executes for a call. -/
lemma not_duty {m : Machine} {i : Instr} (h : ∀ c, ¬ Carries m c i)
    (ht : ∀ index slot, i ≠ .takePending index slot) : ¬ Duty m i := by
  rintro (⟨c, -, hc⟩ | ⟨index, slot, rfl⟩)
  · exact h c hc
  · exact ht index slot rfl

/-- A list of which only the first element can be a duty has no duty behind others. -/
lemma front_of_tail {m : Machine} {next pre post : List Instr} {j} (h : next = pre ++ j :: post)
    (hd : Duty m j) (htail : ∀ k ∈ next.tail, ¬ Duty m k) : pre = [] := by
  cases pre with
  | nil => rfl
  | cons x pre =>
    subst h
    exact absurd hd (htail j (by simp))

/-- A duty about a dialog is about the dialog of a call off the UI thread. -/
lemma Duty.caller {m : Machine} {i : Instr} {d : DialogId} (h : Duty m i) (hi : i.offer? = some d) :
    ∃ c, m.In .worker c ∧ m.caller? d = some c := by
  rcases h with ⟨c, hw, hc⟩ | ⟨index, slot, rfl⟩
  · refine ⟨c, hw, ?_⟩
    cases i <;> simp_all [Instr.offer?, Carries]
  · cases hi

/-- Behind its first instruction, the code of a pressed button has operations only. -/
lemma reaction_tail {reaction : Reaction} {k : Instr} (hk : k ∈ reaction.code.tail) : ∃ o, k = .op o := by
  cases reaction with
  | script body =>
    obtain ⟨o, -, rfl⟩ := mem_load.1 (List.mem_of_mem_tail hk)
    exact ⟨o, rfl⟩
  | answer c code stops => cases stops <;> simp_all [Reaction.code]

/-- A duty that is left to a thread comes next, or behind the report of a failure. -/
lemma Fires.front {m m₁ : Machine} {t i next sent j pre post} (hf : Fires m t i next sent m₁) (hm : m.Sound)
    (hov : m.overrides = {}) (hi : Duty m i) (hnext : next = pre ++ j :: post) (hd : Duty m₁ j) :
    pre = [] ∨ ∃ e, pre = [Instr.report e] := by
  have refused : ∀ {d : DialogId} {o : Offer} {e}, m.dialogs[d]? = some o → i.offer? = some d →
      next = o.origin.refused e → pre = [] ∨ ∃ e, pre = [Instr.report e] := by
    intro d o e ho hoffer he
    obtain ⟨c, hw, hc⟩ := hi.caller hoffer
    rw [hm.posted_of_worker ho hc hw, hnext] at he
    rcases pre with - | ⟨first, - | ⟨second, - | ⟨third, pre⟩⟩⟩
    · exact .inl rfl
    · simp only [Origin.refused, List.cons_append, List.nil_append, List.cons.injEq] at he
      exact .inr ⟨e, by rw [he.1]⟩
    · simp only [Origin.refused, List.cons_append, List.nil_append, List.cons.injEq] at he
      obtain ⟨-, -, rfl, -⟩ := he
      exact absurd hd (not_duty (fun _ => id) (by simp))
    · simp [Origin.refused] at he
  have alone : (∀ k ∈ next.tail, ¬ Duty m₁ k) → pre = [] ∨ ∃ e, pre = [.report e] :=
    fun htail => .inl (front_of_tail hnext hd htail)
  have presented : ∀ {d o}, next = m.presented d o → pre = [] ∨ ∃ e, pre = [.report e] := by
    intro d o he
    apply alone
    simp [he, Machine.presented, hov]
  have reacts : ∀ {reaction : Reaction}, next = reaction.code → pre = [] ∨ ∃ e, pre = [.report e] := by
    intro reaction he
    apply alone
    intro k hk
    obtain ⟨o, rfl⟩ := reaction_tail (he ▸ hk)
    exact not_duty (fun _ => id) (by simp)
  cases hf with
  | acceptFailed ho _ => exact refused ho rfl rfl
  | schedulePressClosed ho _ => exact refused ho rfl rfl
  | schedulePress _ _ =>
    apply alone
    intro k hk
    obtain ⟨c, -, rfl⟩ := mem_accepted.1 hk
    exact not_duty (fun _ => id) (by simp)
  | keep _ =>
    apply alone
    intro k hk
    obtain ⟨c, -, rfl⟩ := mem_accepted.1 (List.mem_of_mem_tail hk)
    exact not_duty (fun _ => id) (by simp)
  | presentOpen _ _ =>
    apply alone
    intro k hk
    obtain ⟨c, -, rfl⟩ := mem_accepted.1 (List.mem_of_mem_tail hk)
    exact not_duty (fun _ => id) (by simp)
  | presentInterrupt _ _ _ hshow _ _ => simp [hov] at hshow
  | presentIgnored _ _ _ _ _ _ => exact presented rfl
  | present _ _ _ _ => exact presented rfl
  | pressTaken _ _ => exact reacts rfl
  | pressChosen _ _ => exact reacts rfl
  | run _ | ask _ | scheduleInline _ | schedule _ _ | scheduleClosed _ _ | nestFailed _ | nest _ _
  | nestForeign _ _ | conclude => exact absurd hi (not_duty (fun _ => id) (by simp))
  | _ => exact alone (by simp)

/-- Only the owner of the loop runs it. -/
lemma Fires.pump_owner {m m₁ : Machine} {t i next sent token} (hf : Fires m t i next sent m₁)
    (hp : .pump token ∈ next) : i = .pump token ∨ m₁.loop.owner = some t := by
  cases hf.leads (.inl hp) with
  | doze _ _ => exact .inl rfl
  | pump _ =>
    cases hf with
    | run hb =>
      have ho := bind_true hb
      exact .inr (by simpa [emit] using ho)
    | runForeign _ => cases hp
    | post hi _ => cases hi
    | postClosed hi _ => cases hi
    | noCall hi _ => cases hi
    | noOffer hi _ => cases hi
  | nestPump _ _ =>
    cases hf with
    | nest _ hb =>
      have ho := bind_true hb
      exact .inr (by simpa [emit] using ho)
    | nestFailed _ => simp at hp
    | nestForeign _ _ => simp at hp
    | noCall hi _ => cases hi
    | noOffer hi _ => cases hi
  | accepted _ _ hj => simp at hj
  | refused _ _ _ hj => simp at hj
  | pressed _ _ _ hj => simp at hj
  | concluded _ hj => simp at hj

/-- An instruction leaves the duties in tasks of their own, or next on a thread that runs the loop. -/
lemma Fires.orderly {m m₁ : Machine} {t i rest next sent} (hf : Fires m t i next sent m₁)
    (ht : m.codes[t]? = some (i :: rest)) (hm : m.Sound) (hh : m.Headless) (hov : m.overrides = {})
    (h : m.Orderly) : (m₁.goto t (next ++ rest)).Orderly := by
  have himem : i ∈ m.agenda := mem_agenda_of_code ht (List.mem_cons_self ..)
  have hi : i.Sound m := hm.agenda i himem
  have hg₁ : m₁.Grows (m₁.goto t (next ++ rest)) := grows_goto ..
  have hg : m.Grows (m₁.goto t (next ++ rest)) := hf.grows.trans hg₁
  have hview : ∀ view slot, i ≠ .conclude view slot := by
    rintro view slot rfl
    exact hh.conclude view slot himem
  constructor
  case codes =>
    intro u pre post j hu hd
    rcases hf.codes_after ht hu with ⟨rfl, he⟩ | hold | ⟨-, hs⟩
    · -- the duty lies in what the instruction left, or in the code behind it
      have left : ∀ behind, next = pre ++ j :: behind → post = behind ++ rest →
          (∃ token, .pump token ∈ post) ∧ (pre = [] ∨ ∃ e, pre = [.report e]) := by
        rintro behind hnext rfl
        have hdi : Duty m i := hf.duty_of_next hm hi hview hov (by simp [hnext]) hd
        obtain ⟨⟨token, hp⟩, -⟩ := h.codes [] ht hdi
        exact ⟨⟨token, List.mem_append_right _ hp⟩, hf.front hm hov hdi hnext hd⟩
      have behind : ∀ between, pre = next ++ between → rest = between ++ j :: post →
          (∃ token, .pump token ∈ post) ∧ (pre = [] ∨ ∃ e, pre = [.report e]) := by
        rintro between rfl rfl
        have hj : j.Sound m := hm.agenda j (mem_agenda_of_code ht (by simp))
        obtain ⟨hp, hnil | ⟨e, he⟩⟩ := h.codes (i :: between) ht (hg.duty_before hm hj hd)
        · cases hnil
        · cases he
          refine ⟨hp, .inl ?_⟩
          cases hf with
          | report => rfl
          | noCall hi' _ => cases hi'
          | noOffer hi' _ => cases hi'
      rcases List.append_eq_append_iff.1 he with ⟨a, hnext, hpost⟩ | ⟨a, hpre, hrest⟩
      · cases a with
        | nil => exact behind [] (by simp [hnext]) (by simpa using hpost.symm)
        | cons k a =>
          cases hpost
          exact left a hnext rfl
      · exact behind a hpre hrest
    · have hj : j.Sound m := hm.agenda j (mem_agenda_of_code hold (by simp))
      exact h.codes pre hold (hg.duty_before hm hj hd)
    · rcases hs.mem (j := j) (by simp) with ⟨o, rfl⟩ | ⟨time, rfl⟩
      all_goals exact absurd hd (not_duty (fun _ => id) (fun _ _ => nofun))
  case queue =>
    intro task j hq hj hd
    rcases hf.queue_after hq with hq | ⟨-, hp⟩
    · have hsound : j.Sound m :=
        hm.agenda j (List.mem_append_right _ (List.mem_flatten.2 ⟨task, hq, hj⟩))
      exact h.queue hq hj (hg.duty_before hm hsound hd)
    · cases hp with
      | @program o task ho =>
        cases o <;> cases ho
        · obtain ⟨o, -, rfl⟩ := mem_load.1 hj
          exact absurd hd (not_duty (fun _ => id) (fun _ _ => nofun))
        · obtain rfl := List.mem_singleton.1 hj
          exact ⟨rfl, .inr (.inl ⟨_, _, rfl⟩)⟩
      | create =>
        obtain rfl := List.mem_singleton.1 hj
        exact ⟨rfl, .inl ⟨_, rfl⟩⟩
      | press =>
        obtain rfl := List.mem_singleton.1 hj
        exact ⟨rfl, .inr (.inr ⟨_, _, rfl⟩)⟩
  case pumps =>
    intro u code token hu hp
    rcases hf.codes_after ht hu with ⟨rfl, rfl⟩ | hold | ⟨-, hs⟩
    · rcases List.mem_append.1 hp with hp | hp
      · rcases hf.pump_owner hp with rfl | ho
        · exact hg.owner (h.pumps ht (List.mem_cons_self ..))
        · exact ho
      · exact hg.owner (h.pumps ht (List.mem_cons_of_mem _ hp))
    · exact hg.owner (h.pumps hold hp)
    · rcases hs.mem hp with ⟨o, ho⟩ | ⟨time, ho⟩ <;> cases ho

/-- Taking a task off the queue leaves the duties in order: the thread that takes it runs the loop. -/
lemma Orderly.takes {m : Machine} {t token rest task queue} (h : m.Orderly)
    (ht : m.codes[t]? = some (.pump token :: rest)) (hq : m.loop.queue = task :: queue) :
    ((m.taken t task queue).goto t (task ++ .pump token :: rest)).Orderly := by
  have htask : task ∈ m.loop.queue := hq ▸ List.mem_cons_self ..
  have ht' : (m.taken t task queue).codes[t]? = some (.pump token :: rest) := ht
  constructor
  case codes =>
    intro u pre post j hu hd
    have hd : Duty m j := hd
    by_cases hut : t = u
    · subst hut
      rw [codes_goto_self ht'] at hu
      simp only [Option.some.injEq] at hu
      have hpump : ¬ Duty m (.pump token) := not_duty (fun _ => id) (fun _ _ => nofun)
      rcases List.append_eq_append_iff.1 hu with ⟨a, rfl, hrest⟩ | ⟨a, rfl, hpost⟩
      · -- behind the run there is no duty, for the run stood before it
        cases a with
        | nil =>
          cases hrest
          exact absurd hd hpump
        | cons k a =>
          cases hrest
          obtain ⟨-, hnil | ⟨e, he⟩⟩ := h.codes (.pump token :: a) ht hd
          · cases hnil
          · cases he
      · cases a with
        | nil =>
          cases hpost
          exact absurd hd hpump
        | cons k a =>
          cases hpost
          have hsingle := (h.queue htask (by simp) hd).1
          obtain ⟨rfl, -⟩ : pre = [] ∧ a = [] := by cases pre <;> simp_all
          exact ⟨⟨token, by simp⟩, .inl rfl⟩
    · rw [codes_goto_other hut] at hu
      exact h.codes pre hu hd
  case queue =>
    intro task' j hq' hj hd
    exact h.queue (hq ▸ List.mem_cons_of_mem _ hq') hj hd
  case pumps =>
    intro u code token' hu hp
    by_cases hut : t = u
    · subst hut
      exact h.pumps ht (List.mem_cons_self ..)
    · rw [codes_goto_other hut] at hu
      exact h.pumps hu hp

/-- A thread that panics has no duty. -/
lemma Orderly.not_duty_panic {m : Machine} {t : ThreadId} {rest : List Instr} {i} (h : m.Orderly)
    (ht : m.codes[t]? = some (.op .panic :: rest)) (hi : i ∈ .op .panic :: rest) : ¬ Duty m i := by
  intro hd
  rcases List.mem_cons.1 hi with rfl | hi
  · exact absurd hd (not_duty (fun _ => id) (fun _ _ => nofun))
  · obtain ⟨between, behind, rfl⟩ := List.append_of_mem hi
    obtain ⟨-, hnil | ⟨e, he⟩⟩ := h.codes (.op .panic :: between) ht hd
    · cases hnil
    · cases he

/-- A panic leaves the duties in order, as none is behind the panic on its thread. -/
lemma Orderly.panics {m : Machine} {t rest} (h : m.Orderly) (ht : m.codes[t]? = some (.op .panic :: rest)) :
    (m.panic t rest).Orderly := by
  obtain ⟨threads, depth, history, he, -⟩ := panic_eq m t rest
  have hlt : t < m.codes.length := (List.getElem?_eq_some_iff.1 ht).1
  have hsub := (caught_sublist rest).subset
  have hduty : ∀ {i}, Duty (m.panic t rest) i → Duty m i := by
    intro i hd
    rw [he] at hd
    exact hd
  constructor
  case codes =>
    intro u pre post j hu hd
    rw [codes_panic] at hu
    by_cases hut : t = u
    · subst hut
      rw [List.getElem?_set_self hlt, Option.some.injEq] at hu
      have hj : j ∈ caught rest := by simp [hu]
      exact absurd (hduty hd) (h.not_duty_panic ht (hsub hj))
    · rw [List.getElem?_set_ne hut] at hu
      exact h.codes pre hu (hduty hd)
  case queue =>
    intro task j hq hj hd
    have hq : task ∈ m.loop.queue := by simpa [he] using hq
    exact h.queue hq hj (hduty hd)
  case pumps =>
    intro u code token hu hp
    have howner : (m.panic t rest).loop.owner = m.loop.owner := by rw [he]
    rw [howner]
    rw [codes_panic] at hu
    by_cases hut : t = u
    · subst hut
      rw [List.getElem?_set_self hlt] at hu
      cases hu
      exact h.pumps ht (hsub hp)
    · rw [List.getElem?_set_ne hut] at hu
      exact h.pumps hu hp

/-- Every move leaves the duties in order. -/
lemma step_orderly {m : Machine} (mv : Move) (hm : m.Sound) (hh : m.Headless) (hov : m.overrides = {})
    (h : m.Orderly) : (m.step mv).Orderly := by
  have hs := steps m mv
  generalize m.step mv = m' at hs
  cases hs with
  | stuck _ => exact h
  | fires ht hcode _ hf => exact hf.orderly (hcode ▸ codes_getElem? ht) hm hh hov h
  | takes ht hcode _ _ hq => exact h.takes (hcode ▸ codes_getElem? ht) hq
  | panics ht hcode _ => exact h.panics (hcode ▸ codes_getElem? ht)
  | @rouse t =>
    constructor
    · intro u pre post i hu hd
      rw [codes_rouse] at hu
      exact h.codes pre hu hd
    · exact h.queue
    · intro u code token hu hp
      rw [codes_rouse] at hu
      exact h.pumps hu hp
  | pass => exact ⟨h.codes, h.queue, h.pumps⟩

/-! ### No stranded waiter -/

/-- What a run of a headless machine keeps about its waiters. -/
structure Waits (m : Machine) : Prop where
  sound : m.Sound
  headless : m.Headless
  overrides : m.overrides = {}
  single : m.Single
  kept : m.Kept
  orderly : m.Orderly
  unstranded : m.Unstranded

/-- A quiet move strands no waiter. -/
lemma Waits.quiet {m m' : Machine} (h : m.Waits) (hq : Quiet m m') : m'.Unstranded := by
  intro c j hj hjw
  have hg := hq.grows
  have hjm : j ∈ m.agenda := hq.agenda.subset hj
  have hw := (h.sound.agenda j hjm).in_worker hjw
  rcases h.unstranded hjm hjw with hsched | ⟨k, hk, hc⟩ | ⟨d, hd, hc⟩ | ⟨call, hc, hp⟩
  · have hsp : (Instr.schedule c).pursues c = true := by simp [Instr.pursues]
    obtain rfl := h.single.unique hw hjm hsched (Instr.pursues_of_waits hjw) hsp
    exact .inl hj
  · -- a panic drops code of its own thread, which has no duty then
    rcases hq.keeps k hk with hk | ⟨t, rest, ht, hk⟩
    · exact .inr (.inl ⟨k, hk, hg.carries hc⟩)
    · exact absurd (.inl ⟨c, hw, hc⟩) (h.orderly.not_duty_panic ht hk)
  · exact .inr (.inr (.inl ⟨d, hq.desk ▸ hd, hg.caller? hc⟩))
  · exact .inr (.inr (.inr ⟨call, hq.calls ▸ hc, hp⟩))

/-- Every move keeps what is known of waiters. -/
lemma step_waits {m : Machine} (mv : Move) (h : m.Waits) : (m.step mv).Waits := by
  have hs := step_single mv h.sound h.single
  refine ⟨step_sound mv h.sound, step_headless mv h.headless, ?_, hs, step_kept mv h.sound hs h.kept,
    step_orderly mv h.sound h.headless h.overrides h.orderly, ?_⟩
  all_goals rcases (steps m mv).fires_or_quiet with ⟨t, i, rest, next, sent, m₁, -, ht, hf, he⟩ | hq
  · rw [he, ← h.overrides]
    exact hf.overrides
  · rw [hq.overrides, h.overrides]
  · rw [he] at hs ⊢
    exact hf.unstranded ht h.sound h.headless.terminal h.kept hs h.unstranded
  · exact h.quiet hq

/-- On a fresh headless machine without overrides nobody waits yet. -/
lemma Fresh.waits {m : Machine} (hm : m.Fresh) (hterm : m.terminal = none) (hov : m.overrides = {}) :
    m.Waits where
  sound := hm.sound
  headless := hm.headless hterm
  overrides := hov
  single := (play_single_kept hm.sound hm.calls []).1
  kept := (play_single_kept hm.sound hm.calls []).2
  orderly := by
    have hops : ∀ {i}, i ∈ m.agenda → ¬ Duty m i ∧ ∀ token, i ≠ .pump token := by
      intro i hi
      obtain ⟨o, rfl⟩ := hm.agenda hi
      exact ⟨not_duty (fun _ => id) (fun _ _ => nofun), fun _ => nofun⟩
    constructor
    · intro t pre post i ht hd
      exact absurd hd (hops (mem_agenda_of_code ht (by simp))).1
    · intro task i htask hi hd
      exact absurd hd (hops (List.mem_append_right _ (List.mem_flatten.2 ⟨task, htask, hi⟩))).1
    · intro t code token ht hp
      exact absurd rfl ((hops (mem_agenda_of_code ht hp)).2 token)
  unstranded := by
    intro c i hi hw
    obtain ⟨o, rfl⟩ := hm.agenda hi
    cases hw

/-- An instruction of the task that creates the dialog of a call. -/
def Creates (m : Machine) (c : CallId) : Instr → Prop
  | .create c' | .release c' => c' = c
  | .present d | .accept d | .exhibit d | .choose d | .schedulePress d _ | .keep d => m.caller? d = some c
  | _ => False

/-- An instruction of a task that presses a button of a call's dialog. -/
def Presses (m : Machine) (c : CallId) : Instr → Prop
  | .complete c' _ => c' = c
  | .pressTaken _ d _ | .putBack _ d | .pressChosen d _ => m.caller? d = some c
  | _ => False

/-- An instruction with a duty belongs to the task that creates the dialog of its call, or to one that presses a button
of it. -/
lemma Carries.creates_or_presses {m : Machine} {c : CallId} {i : Instr} (h : Carries m c i) :
    Creates m c i ∨ Presses m c i := by
  cases i with
  | create | release | present | accept | exhibit | choose | schedulePress | keep => exact .inl h
  | complete | pressTaken | putBack | pressChosen => exact .inr h
  | _ => exact False.elim h

/-- The thread that owns the loop executes, in a task of a live run, an instruction as described. -/
def Executing (m : Machine) (p : Instr → Prop) : Prop :=
  ∃ t pre i post token, m.codes[t]? = some (pre ++ i :: post) ∧ (pre = [] ∨ ∃ e, pre = [.report e]) ∧ p i ∧
    .pump token ∈ post ∧ m.loop.owner = some t

/-- What is still going to wake a call that waits. -/
inductive Pledged (m : Machine) (c : CallId) : Prop where
  /-- The task that creates its dialog is in the queue. -/
  | creation :
    [.create c] ∈ m.loop.queue →
    Pledged m c
  /-- This task is being executed. -/
  | creating :
    m.Executing (m.Creates c) →
    Pledged m c
  /-- Its dialog is pending. -/
  | pending {d} :
    d ∈ m.desk.pending →
    m.caller? d = some c →
    Pledged m c
  /-- The press of a button of its dialog is in the queue. -/
  | press {d slot} :
    [.pressChosen d slot] ∈ m.loop.queue →
    m.caller? d = some c →
    Pledged m c
  /-- A button of its dialog is being pressed. -/
  | pressing :
    m.Executing (m.Presses c) →
    Pledged m c

/-- In every state that the threads of a headless machine can reach, whatever they do and in whatever order,
a call that waits off the UI thread without a permit is going to be woken: the task that creates its dialog
is queued or being executed, or its dialog is pending, or a press of it is queued or being executed. -/
theorem no_stranded_waiter {m : Machine} (hm : m.Fresh) (hheadless : m.terminal = none)
    (hplain : m.overrides = {}) (moves : List Move) {t : ThreadId} {c : CallId} {deadline : Option Nat}
    {rest : List Instr} {call : Call} (ht : (m.play moves).codes[t]? = some (.await c deadline :: rest))
    (hc : (m.play moves).calls[c]? = some call) (hpermits : call.handoff.permits = 0) :
    (m.play moves).Pledged c := by
  have h : (m.play moves).Waits :=
    play_induction (hm.waits hheadless hplain) (fun _ mv h => step_waits mv h) moves
  have hmem := mem_agenda_of_code ht (List.mem_cons_self ..)
  have haw : (Instr.await c deadline).waits c = true := by simp [Instr.waits]
  have hw := (h.sound.agenda _ hmem).in_worker haw
  rcases h.unstranded hmem haw with hsched | ⟨i, hi, hcarries⟩ | ⟨d, hd, hcaller⟩ | ⟨call', hc', hp⟩
  · -- a call that waits is scheduled already
    have hsp : (Instr.schedule c).pursues c = true := by simp [Instr.pursues]
    cases h.single.unique hw hmem hsched (Instr.pursues_of_waits haw) hsp
  · have hduty : Duty (m.play moves) i := .inl ⟨c, hw, hcarries⟩
    rcases mem_agenda_iff.1 hi with ⟨u, code, hu, hi⟩ | ⟨task, htask, hi⟩
    · obtain ⟨pre, post, rfl⟩ := List.append_of_mem hi
      obtain ⟨⟨token, hpump⟩, hpre⟩ := h.orderly.codes pre hu hduty
      have howner := h.orderly.pumps hu (List.mem_append_right _ (List.mem_cons_of_mem _ hpump))
      rcases hcarries.creates_or_presses with hi | hi
      · exact .creating ⟨u, pre, i, post, token, hu, hpre, hi, hpump, howner⟩
      · exact .pressing ⟨u, pre, i, post, token, hu, hpre, hi, hpump, howner⟩
    · obtain ⟨rfl, ⟨c', rfl⟩ | ⟨index, slot, rfl⟩ | ⟨d, slot, rfl⟩⟩ := h.orderly.queue htask hi hduty
      · obtain rfl : c' = c := hcarries
        exact .creation htask
      · exact False.elim hcarries
      · exact .press htask hcarries
  · exact .pending hd hcaller
  · rw [hc] at hc'
    cases hc'
    omega

/-- A worker asks beside a thread that pumps the loop, and nobody answers. -/
def oneWorker : Machine :=
  start [[.run .ui false], [.ask 0 (.caller 0)]]
    [{ spec := saveSpec }] .manual

/-- A worker that waits for a dialog nobody has pressed is going to be woken. -/
theorem no_stranded_waiter_oneWorker :
    (oneWorker.play (List.replicate 5 (.exec 1) ++ List.replicate 8 (.exec 0))).Pledged 0 := by
  have hcode : (oneWorker.play (List.replicate 5 (.exec 1) ++ List.replicate 8 (.exec 0))).codes[1]? =
      some [.await 0 none] := by cbv
  have hcall : (oneWorker.play (List.replicate 5 (.exec 1) ++ List.replicate 8 (.exec 0))).calls[0]? =
      some {
        prompt := 0
        spec := saveSpec
        options := {}
        context := .worker
        ticket := .caller 0 } := by cbv
  have hfresh : oneWorker.Fresh := start_fresh ..
  exact no_stranded_waiter hfresh rfl rfl _ hcode hcall rfl

end MessageBox.Machine

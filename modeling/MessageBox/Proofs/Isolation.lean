import MessageBox.Proofs.Machine.Sound

/-!
# Calls do not answer each other

A call that returns an action has offered one dialog (`made_le_one`), and the handler of that action's
button ran before the call returned (`Traced`). A handler of another call's dialog changes neither the
handoff nor the exit token of a call (`Handler.step`). The two together are `call_isolation`.
-/

namespace MessageBox.Machine

/-! ### One dialog for each call -/

/-- Whether an instruction is going to make the dialog of a call. -/
def Instr.makes (c : CallId) : Instr → Bool
  | .schedule c' | .create c' => c' == c
  | _ => false

/-- Whether an offer was made for a call. -/
def Offer.isOf (c : CallId) (o : Offer) : Bool := o.origin.call? == some c

/-- How many dialogs a call has and is going to have. -/
def made (m : Machine) (c : CallId) : Nat :=
  m.agenda.countP (Instr.makes c) + m.dialogs.countP (Offer.isOf c)

/-- Nobody makes a dialog for a call that is yet to come. -/
lemma Sound.made_new {m : Machine} (hm : m.Sound) : m.made m.calls.length = 0 := by
  have hagenda : m.agenda.countP (Instr.makes m.calls.length) = 0 := by
    rw [List.countP_eq_zero]
    intro i hi hmakes
    have hs := hm.agenda i hi
    cases i with
    | schedule c =>
      obtain rfl : c = m.calls.length := by simpa [Instr.makes] using hmakes
      obtain ⟨call, hc, -⟩ := hs
      simp at hc
    | create c =>
      obtain rfl : c = m.calls.length := by simpa [Instr.makes] using hmakes
      exact absurd hs (Nat.lt_irrefl _)
    | _ => cases hmakes
  have hdialogs : m.dialogs.countP (Offer.isOf m.calls.length) = 0 := by
    rw [List.countP_eq_zero]
    intro o ho hof
    obtain ⟨d, hd⟩ := List.mem_iff_getElem?.1 ho
    obtain ⟨call, hc, -⟩ := (hm.offers hd).of_call (by simpa [Offer.isOf] using hof)
    simp at hc
  simp [made, hagenda, hdialogs]

/-- The making of a dialog is left behind by the start of a call and by handing it to a task, and by nothing
else. -/
lemma Leads.makes {m : Machine} {t i j} {c : CallId} (h : Leads m t i j) (hc : j.makes c = true) :
    i = .schedule c ∨ c = m.calls.length ∧ ∃ p ticket, i = .op (.ask p ticket) := by
  cases j with
  | schedule c' =>
    obtain rfl : c' = c := by simpa [Instr.makes] using hc
    cases h with
    | askOff _ _ => exact .inr ⟨rfl, _, _, rfl⟩
    | _ => simp_all
  | create c' =>
    obtain rfl : c' = c := by simpa [Instr.makes] using hc
    cases h with
    | ask _ _ => exact .inr ⟨rfl, _, _, rfl⟩
    | create => exact .inl rfl
    | _ => simp_all
  | _ => cases hc

/-- An instruction that makes the dialog of a call gives way to it, and only the start of a call adds one to
those that the call is going to have. -/
lemma Fires.makes {m m₁ : Machine} {t i next sent} (h : Fires m t i next sent m₁) (c : CallId) :
    next.countP (Instr.makes c) + sent.countP (Instr.makes c) + m₁.dialogs.countP (Offer.isOf c) ≤
      [i].countP (Instr.makes c) + m.dialogs.countP (Offer.isOf c) +
        if c = m.calls.length then 1 else 0 := by
  by_cases hex : ∃ j, (j ∈ next ∨ j ∈ sent) ∧ j.makes c = true
  · obtain ⟨j, hj, hc⟩ := hex
    obtain rfl | ⟨rfl, p, ticket, rfl⟩ := (h.leads hj).makes hc
    · cases h with
      | scheduleInline _ => simp [Instr.makes]
      | schedule _ _ => simp [Instr.makes, enqueue, emit]
      | scheduleClosed _ _ =>
        simp [Instr.makes]
        omega
      | _ => simp_all [Instr.call?, Instr.offer?]
    · cases h with
      | ask hq =>
        cases hx : (m.newCall t _ _ _).context
        all_goals
          simp [Instr.makes, Context.first, emit]
          omega
      | askUnknown _ => simp at hj
      | _ => simp_all [Op.task?, Instr.call?, Instr.offer?]
  · obtain ⟨hnext, hsent⟩ := countP_eq_zero_of_not hex
    rw [hnext, hsent]
    obtain hd | ⟨d, rfl, hd⟩ | ⟨c', call, rfl, hc, hd⟩ := h.dialogs
    · rw [hd]
      omega
    · have hof : (programOffer d).isOf c = false := rfl
      simp [hd, hof]
      omega
    · have hof : (call.offer c').isOf c = Instr.makes c (.create c') := by
        rcases call.offer_origin c' with ⟨-, ho⟩ | ⟨-, ho⟩ <;>
          simp [Offer.isOf, ho, Origin.call?, Instr.makes]
      simp [hd, hof]
      omega

/-- Every move keeps a call from having two dialogs, made or yet to be made. -/
lemma step_made {m : Machine} (mv : Move) (hm : m.Sound) {c : CallId} (h : m.made c ≤ 1) :
    (m.step mv).made c ≤ 1 := by
  rcases (steps m mv).fires_or_quiet with ⟨t, i, rest, next, sent, m₁, -, ht, hf, he⟩ | hq
  · have hcount := hf.countP ht (Instr.makes c)
    have hmakes := hf.makes c
    have hmade : (m₁.goto t (next ++ rest)).made c ≤ m.made c + if c = m.calls.length then 1 else 0 := by
      have hdialogs : (m₁.goto t (next ++ rest)).dialogs = m₁.dialogs := rfl
      unfold made
      rw [hdialogs]
      omega
    rw [he]
    split at hmade
    · next hlen =>
      -- a call that starts has no dialog yet
      rw [hlen, hm.made_new] at hmade
      rw [hlen]
      exact hmade
    · omega
  · have hagenda := hq.agenda.countP_le (Instr.makes c)
    unfold made at h ⊢
    rw [hq.dialogs]
    omega

/-- In every run of a fresh machine a call makes at most one dialog. -/
lemma Fresh.made_le_one {m : Machine} (hm : m.Fresh) (moves : List Move) (c : CallId) :
    (m.play moves).made c ≤ 1 := by
  have hagenda : m.agenda.countP (Instr.makes c) = 0 := by
    rw [List.countP_eq_zero]
    intro i hi
    obtain ⟨o, rfl⟩ := hm.agenda hi
    simp [Instr.makes]
  have hstart : m.Sound ∧ m.made c ≤ 1 := ⟨hm.sound, by simp [made, hagenda, hm.dialogs]⟩
  exact (play_induction (P := fun m => m.Sound ∧ m.made c ≤ 1) hstart
    (fun _ mv h => ⟨step_sound mv h.1, step_made mv h.1 h.2⟩) moves).2

/-- A call that makes one dialog at most has one dialog. -/
lemma caller?_unique {m : Machine} {c : CallId} (h : m.made c ≤ 1) {d d' : DialogId}
    (hd : m.caller? d = some c) (hd' : m.caller? d' = some c) : d = d' := by
  obtain ⟨o, ho, hc⟩ := Option.bind_eq_some_iff.1 hd
  obtain ⟨o', ho', hc'⟩ := Option.bind_eq_some_iff.1 hd'
  have hle : m.dialogs.countP (Offer.isOf c) ≤ 1 := Nat.le_trans (Nat.le_add_left ..) h
  exact eq_of_countP_le_one hle ho ho' (by simp [Offer.isOf, hc]) (by simp [Offer.isOf, hc'])

/-! ### The handler of the answer has run -/

/-- Before event `j`, a button of a call's own dialog was pressed that answers the call with `code`. -/
def ChosenBefore (m : Machine) (j : Nat) (c : CallId) (code : Nat) : Prop :=
  ∃ i t d slot o stops, i < j ∧ m.history[i]? = some (t, .pressed d slot) ∧ m.dialogs[d]? = some o ∧
    o.origin.call? = some c ∧ o.dialog.press slot = .ok (.answer c code stops)

/-- What was chosen before an event was so before later events. -/
lemma Grows.chosenBefore {m m' : Machine} (h : m.Grows m') {j j' c code} (hj : j ≤ j')
    (hc : m.ChosenBefore j c code) : m'.ChosenBefore j' c code := by
  obtain ⟨i, t, d, slot, o, stops, hi, he, hd, ho, hp⟩ := hc
  exact ⟨i, t, d, slot, o, stops, Nat.lt_of_lt_of_le hi hj, h.event he, h.dialogs hd, ho, hp⟩

/-- The history does not get shorter. -/
lemma Grows.history_size {m m' : Machine} (h : m.Grows m') : m.history.size ≤ m'.history.size := by
  simpa using h.history.length_le

/-- Every answer that is on its way to a call, recorded or returned was chosen before. -/
structure Traced (m : Machine) : Prop where
  completes : ∀ {c code}, .complete c code ∈ m.agenda → m.ChosenBefore m.history.size c code
  values : ∀ {c code}, m.Recorded c code → m.ChosenBefore m.history.size c code
  verdicts : ∀ {c o}, .deactivate c o ∈ m.agenda ∨ .resolve c o ∈ m.agenda → o.isAction = true →
    m.Recorded c o.code
  resolved : ∀ {j : Nat} {t c ticket o}, m.history[j]? = some (t, .resolved c ticket o) → o.isAction = true →
    m.Recorded c o.code ∧ m.ChosenBefore j c o.code

/-- A press is noted before its handler goes on. -/
lemma Fires.press {m m₁ : Machine} {t i next sent d slot o reaction} (h : Fires m t i next sent m₁)
    (hi : i.press? = some (d, slot)) (ho : m.dialogs[d]? = some o)
    (hr : o.dialog.press slot = .ok reaction) : m₁.history = m.history.push (t, .pressed d slot) := by
  cases h with
  | pressTaken _ _ => cases hi; rfl
  | pressChosen _ _ => cases hi; rfl
  | pressTakenMissing ho' hr' | pressChosenMissing ho' hr' =>
    cases hi
    rw [ho] at ho'
    cases ho'
    rw [hr] at hr'
    cases hr'
  | @noOffer i d' hd hn => cases i <;> simp_all [Instr.press?, Instr.offer?]
  | @noCall i c hc hn => cases i <;> simp_all [Instr.press?, Instr.call?]
  | _ => cases hi

/-- An answer on its way to a call comes from a press that the history has just noted. -/
lemma Fires.completes {m m₁ : Machine} {t i next sent c code} (hf : Fires m t i next sent m₁) (hm : m.Sound)
    (hh : ∀ view slot, i ≠ .conclude view slot) (hj : .complete c code ∈ next ∨ .complete c code ∈ sent) :
    m₁.ChosenBefore m₁.history.size c code := by
  cases hf.leads hj with
  | @pressed i d slot o reaction j hi ho hr hj =>
    have hcall : o.origin.call? = some c := by
      simpa [Machine.caller?, ho] using hm.caller_of_complete ho hr hj
    obtain ⟨stops, rfl⟩ : ∃ stops, reaction = .answer c code stops := by simpa using hj
    have hpress := hf.press hi ho hr
    refine ⟨m.history.size, t, d, slot, o, stops, ?_, ?_, hf.grows.dialogs ho, hcall, hr⟩
    · simp [hpress]
    · simp [hpress]
  | concluded _ _ => exact absurd rfl (hh _ _)
  | accepted _ _ hj => simp at hj
  | refused _ _ _ hj => simp at hj

/-- A verdict that is an action reads the recorded answer. -/
lemma Leads.verdict {m : Machine} {t i c o} (h : Leads m t i (.deactivate c o)) (ho : o.isAction = true) :
    m.Recorded c o.code := by
  cases h with
  | ready hc _ => exact ⟨_, hc, Call.recorded_action ho⟩
  | collected hc => exact ⟨_, hc, Call.recorded_action ho⟩
  | refused _ _ _ hj =>
    obtain ⟨-, rfl⟩ : _ ∧ o = .noAction := by simpa using hj
    cases ho
  | pressed _ _ _ hj => simp at hj
  | concluded _ hj => simp at hj
  | accepted _ _ hj => simp at hj
  | _ => cases ho

/-- An instruction keeps every answer traced to a press. -/
lemma Fires.traced {m m₁ : Machine} {t i rest next sent} (hf : Fires m t i next sent m₁)
    (ht : m.codes[t]? = some (i :: rest)) (hm : m.Sound) (hh : m.Headless) (h : m.Traced) :
    (m₁.goto t (next ++ rest)).Traced := by
  have hi : i ∈ m.agenda := mem_agenda_of_code ht (List.mem_cons_self ..)
  have hg₁ : m₁.Grows (m₁.goto t (next ++ rest)) := grows_goto ..
  have hg : m.Grows (m₁.goto t (next ++ rest)) := hf.grows.trans hg₁
  have hsize := hg.history_size
  constructor
  case completes =>
    intro c code hj
    rcases hf.mem_agenda ht hj with hj | hj
    · exact hg.chosenBefore hsize (h.completes hj)
    · refine hg₁.chosenBefore (Nat.le_refl _) (hf.completes hm ?_ hj)
      rintro view slot rfl
      exact hh.conclude view slot hi
  case values =>
    -- only `complete` records an answer, and brings one that was chosen
    rintro c code ⟨call, hc, hv⟩
    apply hg.chosenBefore hsize
    obtain ⟨old, hold, rfl | ⟨f, hch, rfl⟩⟩ | ⟨p, ticket, q, -, -, -, rfl⟩ := hf.call_before hc
    · exact h.values ⟨_, hold, hv⟩
    · cases hch with
      | complete hc' hnone =>
        rw [hold] at hc'
        cases hc'
        simp only [Handoff.complete, hnone, Option.some.injEq] at hv
        subst hv
        exact h.completes hi
      | _ => exact h.values ⟨old, hold, hv⟩
    · cases hv
  case verdicts =>
    -- a verdict that is an action was read off the handoff, or was a verdict before
    intro c o hj ho
    apply hg.recorded
    rcases hj with hj | hj
    · rcases hf.mem_agenda ht hj with hj | hj
      · exact h.verdicts (.inl hj) ho
      · exact (hf.leads hj).verdict ho
    · rcases hf.mem_agenda ht hj with hj | hj
      · exact h.verdicts (.inr hj) ho
      · obtain rfl := (hf.leads hj).of_resolve
        exact h.verdicts (.inl hi) ho
  case resolved =>
    intro j t' c ticket o hj ho
    rcases hf.resolved hj with hj | ⟨rfl, rfl⟩
    · obtain ⟨hrec, hch⟩ := h.resolved hj ho
      exact ⟨hg.recorded hrec, hg.chosenBefore (Nat.le_refl _) hch⟩
    · have hrec := h.verdicts (.inr hi) ho
      exact ⟨hg.recorded hrec, hg.chosenBefore (Nat.le_refl _) (h.values hrec)⟩

/-- Every move keeps every answer traced to a press. -/
lemma step_traced {m : Machine} (mv : Move) (hm : m.Sound) (hh : m.Headless) (h : m.Traced) :
    (m.step mv).Traced := by
  rcases (steps m mv).fires_or_quiet with ⟨t, i, rest, next, sent, m₁, -, ht, hf, he⟩ | hq
  · rw [he]
    exact hf.traced ht hm hh h
  · have hg := hq.grows
    have hsize := hg.history_size
    have hrec : ∀ {c code}, (m.step mv).Recorded c code → m.Recorded c code := by
      rintro c code ⟨call, hc, hv⟩
      exact ⟨call, hq.calls ▸ hc, hv⟩
    constructor
    · exact fun hj => hg.chosenBefore hsize (h.completes (hq.agenda.subset hj))
    · exact fun hv => hg.chosenBefore hsize (h.values (hrec hv))
    · exact fun hj ho => hg.recorded (h.verdicts (hj.imp (hq.agenda.subset ·) (hq.agenda.subset ·)) ho)
    · intro j t c ticket o hj ho
      have hold : m.history[j]? = some (t, .resolved c ticket o) := by
        rcases hq.history with he | ⟨t', e, he, hkind⟩
        · rwa [he] at hj
        · rw [he, resolved_push] at hj
          · exact hj
          · rcases hkind with ⟨task, rfl⟩ | ⟨token, depth, rfl⟩ <;> simp
      obtain ⟨hr, hch⟩ := h.resolved hold ho
      exact ⟨hg.recorded hr, hg.chosenBefore (Nat.le_refl _) hch⟩

/-- In a run of a headless machine, every answer is traced to a press. -/
lemma Fresh.traced {m : Machine} (hm : m.Fresh) (hh : m.terminal = none) (moves : List Move) :
    (m.play moves).Traced := by
  have hstart : m.Traced := by
    constructor
    · intro c code hi
      obtain ⟨o, ho⟩ := hm.agenda hi
      cases ho
    · rintro c code ⟨call, hc, -⟩
      simp [hm.calls] at hc
    · rintro c o (hi | hi) -
      all_goals
        obtain ⟨o, ho⟩ := hm.agenda hi
        cases ho
    · intro j t c ticket o hj
      simp [hm.history] at hj
  exact (play_induction (P := fun m => m.Sound ∧ m.Headless ∧ m.Traced) ⟨hm.sound, hm.headless hh, hstart⟩
    (fun _ mv h => ⟨step_sound mv h.1, step_headless mv h.2.1, step_traced mv h.1 h.2.1 h.2.2⟩) moves).2.2

/-! ### The handler of another call -/

/-- What is left to do of the activation of a dialog that belongs to call `c`: the press itself, then what
its handler does. -/
inductive Handler (m : Machine) (c : CallId) : List Instr → Prop where
  | press {i d slot} :
    i.press? = some (d, slot) →
    m.caller? d = some c →
    Handler m c [i]
  | putBack {place d} :
    Handler m c [.putBack place d]
  | complete {code more} :
    Handler m c more →
    Handler m c (.complete c code :: more)
  | wakeCall {more} :
    Handler m c more →
    Handler m c (.wakeCall c :: more)
  | signal :
    Handler m c [.op (.signal (.call c))]
  | wakeLoop :
    Handler m c [.wakeLoop]
  | done :
    Handler m c []

/-- What is left to do of an activation is so on a later machine. -/
lemma Grows.handler {m m' : Machine} (h : m.Grows m') {c code} (hc : Handler m c code) :
    Handler m' c code := by
  induction hc with
  | press hi hd => exact .press hi (h.caller? hd)
  | putBack => exact .putBack
  | complete _ ih => exact .complete ih
  | wakeCall _ ih => exact .wakeCall ih
  | signal => exact .signal
  | wakeLoop => exact .wakeLoop
  | done => exact .done

/-- The handoff, the outcome and the exit token of a call are untouched. -/
def Untouched (m m' : Machine) (c : CallId) : Prop :=
  m'.calls[c]? = m.calls[c]? ∧ (.call c ∈ m'.loop.signalled ↔ .call c ∈ m.loop.signalled)

/-- The handler of a call's button answers that call. -/
lemma Sound.handler {m : Machine} (hm : m.Sound) {d o slot reaction c} (hd : m.caller? d = some c)
    (ho : m.dialogs[d]? = some o) (hr : o.dialog.press slot = .ok reaction) :
    Handler m c reaction.code := by
  have hc : o.origin.call? = some c := by simpa [Machine.caller?, ho] using hd
  obtain ⟨call, -, rfl⟩ := (hm.offers ho).of_call hc
  obtain ⟨code, -, rfl⟩ := Call.offer_press hr
  apply Handler.complete
  split
  · exact .signal
  · exact .done

/-- A step of a handler goes on with the handler and touches no other call. -/
lemma Fires.handler {m m₁ : Machine} {t i next sent more c} (hf : Fires m t i next sent m₁) (hm : m.Sound)
    (h : Handler m c (i :: more)) :
    Handler m₁ c (next ++ more) ∧ ∀ c', c' ≠ c → m.Untouched m₁ c' := by
  have hg := hf.grows
  have same : m₁.calls = m.calls → m₁.loop.signalled = m.loop.signalled → ∀ c', c' ≠ c → m.Untouched m₁ c' :=
    fun hcalls hs c' _ => ⟨by rw [hcalls], by rw [hs]⟩
  cases h with
  | @press _ d slot hi hd =>
    rw [List.append_nil]
    cases hf with
    | pressTaken ho hr =>
      cases hi
      exact ⟨hg.handler (hm.handler hd ho hr), same rfl rfl⟩
    | pressTakenMissing _ _ =>
      cases hi
      exact ⟨.putBack, same rfl rfl⟩
    | pressChosen ho hr =>
      cases hi
      exact ⟨hg.handler (hm.handler hd ho hr), same rfl rfl⟩
    | pressChosenMissing _ _ =>
      cases hi
      exact ⟨.done, same rfl rfl⟩
    | noOffer _ _ => exact ⟨.done, same rfl rfl⟩
    | noCall _ _ => exact ⟨.done, same rfl rfl⟩
    | _ => cases hi
  | putBack =>
    cases hf with
    | putBack => exact ⟨.done, same rfl rfl⟩
    | noOffer hi _ => cases hi
    | noCall hi _ => cases hi
  | complete hmore =>
    cases hf with
    | complete _ _ =>
      refine ⟨.wakeCall (hg.handler hmore), fun c' hc' => ⟨?_, Iff.rfl⟩⟩
      simp [modifyCall, Ne.symm hc']
    | completeAgain _ _ => exact ⟨hg.handler hmore, same rfl rfl⟩
    | noCall _ _ => exact ⟨hg.handler hmore, same rfl rfl⟩
    | noOffer hi _ => cases hi
  | wakeCall hmore =>
    cases hf with
    | wakeCall => exact ⟨hg.handler hmore, same rfl rfl⟩
    | noCall hi _ => cases hi
    | noOffer hi _ => cases hi
  | signal =>
    cases hf with
    | signal =>
      refine ⟨.wakeLoop, fun c' hc' => ⟨rfl, ?_⟩⟩
      simp [Loop.signal, hc']
    | post hi _ => cases hi
    | postClosed hi _ => cases hi
    | noCall hi _ => cases hi
    | noOffer hi _ => cases hi
  | wakeLoop =>
    cases hf with
    | wakeLoop => exact ⟨.done, same rfl rfl⟩
    | noCall hi _ => cases hi
    | noOffer hi _ => cases hi

/-- A thread in a handler goes on with the handler, and touches no other call. -/
lemma step_handler {m : Machine} {t : ThreadId} {frame rest : List Instr} {c : CallId} (hm : m.Sound)
    (ht : m.codes[t]? = some (frame ++ rest)) (h : Handler m c frame) (hne : frame ≠ []) :
    (∃ frame', (m.step (.exec t)).codes[t]? = some (frame' ++ rest) ∧ Handler (m.step (.exec t)) c frame') ∧
      ∀ c', c' ≠ c → m.Untouched (m.step (.exec t)) c' := by
  obtain ⟨i, more, rfl⟩ := List.exists_cons_of_ne_nil hne
  have hcode : ∀ {th : Thread}, m.threads[t]? = some th → th.code = i :: (more ++ rest) := by
    intro th hth
    rw [codes_getElem? hth] at ht
    simpa using ht
  have hs := steps m (.exec t)
  generalize m.step (.exec t) = m' at hs
  cases hs with
  | stuck _ => exact ⟨⟨_, ht, h⟩, fun _ _ => ⟨rfl, Iff.rfl⟩⟩
  | @fires t th j rest' next sent m₁ hth hj _ hf =>
    rw [hcode hth] at hj
    cases hj
    obtain ⟨hnext, hother⟩ := hf.handler hm h
    refine ⟨⟨next ++ more, ?_, (grows_goto ..).handler hnext⟩, hother⟩
    rw [codes_goto_self (hf.code ht), List.append_assoc]
  | takes hth hj _ _ _ =>
    rw [hcode hth] at hj
    cases hj
    cases h with
    | press hi _ => cases hi
  | panics hth hj _ =>
    rw [hcode hth] at hj
    cases hj
    cases h with
    | press hi _ => cases hi

/-- Until its activation is over, a thread is in the handler. -/
lemma play_handler {m : Machine} {t : ThreadId} {frame rest : List Instr} {c : CallId} (hm : m.Sound)
    (ht : m.codes[t]? = some (frame ++ rest)) (h : Handler m c frame) (moves : List Move)
    (hlive : ∀ before, before <+: moves → (m.play before).codes[t]? ≠ some rest) :
    ∃ frame', (m.play moves).codes[t]? = some (frame' ++ rest) ∧ Handler (m.play moves) c frame' ∧
      frame' ≠ [] := by
  have nonempty : ∀ {before frame'}, before <+: moves →
      (m.play before).codes[t]? = some (frame' ++ rest) → frame' ≠ [] := by
    rintro before frame' hpre hcodes rfl
    exact hlive before hpre hcodes
  induction moves using List.reverseRecOn with
  | nil => exact ⟨frame, ht, h, nonempty List.prefix_rfl ht⟩
  | append_singleton moves mv ih =>
    have hpre : moves <+: moves ++ [mv] := List.prefix_append ..
    obtain ⟨frame', hcodes, hframe, hne⟩ := ih (fun before hb => hlive before (hb.trans hpre))
      (fun hb => nonempty (hb.trans hpre))
    have hplay := play_concat m moves mv
    by_cases hmv : mv = .exec t
    · subst hmv
      have hs : (m.play moves).Sound := play_sound hm moves
      obtain ⟨⟨frame'', hcodes', hframe'⟩, -⟩ := step_handler hs hcodes hframe hne
      rw [← hplay] at hcodes' hframe'
      exact ⟨frame'', hcodes', hframe', nonempty List.prefix_rfl hcodes'⟩
    · have hcodes' := codes_step_other hmv hcodes
      have hframe' := (step_grows (m.play moves) mv).handler hframe
      rw [← hplay] at hcodes' hframe'
      exact ⟨frame', hcodes', hframe', nonempty List.prefix_rfl hcodes'⟩

/-! ### Isolation -/

/-- The action `o` is one of call `c`'s own: it has the code `k` with `1 ≤ k ≤ n` for the `n` actions of the
call's specification, the call has made one dialog, and before event `j` the handler of that dialog's button
for the `k`-th action ran, which answers call `c` with `k`. -/
def OwnAction (m : Machine) (j : Nat) (c : CallId) (o : Outcome) : Prop :=
  ∃ call d offer slot stops i t, m.calls[c]? = some call ∧
    1 ≤ o.code ∧ o.code ≤ call.spec.actions.length ∧
    (∀ d', m.caller? d' = some c ↔ d' = d) ∧ m.dialogs[d]? = some offer ∧
    (Slot.layout call.spec.actions.length)[o.code - 1]? = some (slot, o.code) ∧
    offer.dialog.press slot = .ok (.answer c o.code stops) ∧
    i < j ∧ m.history[i]? = some (t, .pressed d slot)

/-- A choice among the buttons of a call's one dialog is an action of its own. -/
lemma ChosenBefore.ownAction {m : Machine} {j c o} (h : m.ChosenBefore j c o.code) (hm : m.Sound)
    (hmade : m.made c ≤ 1) : m.OwnAction j c o := by
  obtain ⟨i, t, d, slot, offer, stops, hi, he, hd, hcall, hp⟩ := h
  obtain ⟨call, hc, rfl⟩ := (hm.offers hd).of_call hcall
  obtain ⟨code, hl, hcode⟩ := Call.offer_press hp
  cases hcode
  obtain ⟨h1, hn, -, hlayout⟩ := Slot.layout_mem hl
  have hcaller : m.caller? d = some c := Option.bind_eq_some_iff.2 ⟨_, hd, hcall⟩
  refine ⟨call, d, _, slot, _, i, t, hc, h1, hn, fun d' => ⟨fun hd' => ?_, fun hd' => ?_⟩, hd, hlayout, hp,
    hi, he⟩
  · exact caller?_unique hmade hd' hcaller
  · rw [hd', hcaller]

/-- Whatever the threads of a headless machine do, in whatever order: a call that returns an action returns
one of its own, whose handler ran before; and from the press of a button of a dialog of another call until
the pressing thread is done with it, no step of that thread touches the call. -/
theorem call_isolation {m : Machine} (hm : m.Fresh) (hheadless : m.terminal = none) (moves : List Move) :
    (∀ {j : Nat} {t c ticket o}, (m.play moves).history[j]? = some (t, .resolved c ticket o) →
      o.isAction = true → (m.play moves).OwnAction j c o) ∧
    ∀ {t : ThreadId} {i : Instr} {rest d slot other c}, (m.play moves).codes[t]? = some (i :: rest) →
      i.press? = some (d, slot) → (m.play moves).caller? d = some other → c ≠ other →
      ∀ more, (∀ before, before <+: more → ((m.play moves).play before).codes[t]? ≠ some rest) →
        ((m.play moves).play more).Untouched (((m.play moves).play more).step (.exec t)) c := by
  have hsound := play_sound hm.sound moves
  constructor
  · intro j t c ticket o hj ho
    obtain ⟨-, hchosen⟩ := (hm.traced hheadless moves).resolved hj ho
    exact hchosen.ownAction hsound (hm.made_le_one moves c)
  · intro t i rest d slot other c ht hi hd hc more hlive
    have hcodes : (m.play moves).codes[t]? = some ([i] ++ rest) := ht
    obtain ⟨frame, hframe, hhandler, hne⟩ := play_handler hsound hcodes (.press hi hd) more hlive
    have hsound' : ((m.play moves).play more).Sound := by
      rw [← play_append]
      exact play_sound hm.sound _
    exact (step_handler hsound' hframe hhandler hne).2 c hc

/-- Two workers ask beside a thread that pumps the loop, and a responder says no. -/
def twoWorkers : Machine :=
  let prompt : Prompt := { spec := saveSpec }
  start [[.run .ui false], [.ask 0 (.caller 0)], [.ask 1 (.caller 1)]] [prompt, prompt] (.press .negative)

/-- Both workers have asked, and the press of the first one's dialog is next. -/
def beforePress : List Move :=
  List.replicate 4 (.exec 1) ++ List.replicate 3 (.exec 2) ++ List.replicate 18 (.exec 0)

/-- The press is over and the first worker has returned. -/
def afterReturn : List Move := beforePress ++ List.replicate 5 (.exec 0) ++ List.replicate 5 (.exec 1)

/-- The first worker returns the action its dialog was pressed for, and the second one's call is untouched
by that dialog's handler. -/
theorem call_isolation_twoWorkers :
    (twoWorkers.play afterReturn).OwnAction 15 0 .action2 ∧
      ((twoWorkers.play beforePress).play [.exec 0]).Untouched
        (((twoWorkers.play beforePress).play [.exec 0]).step (.exec 0)) 1 := by
  have hresolved : (twoWorkers.play afterReturn).history[15]? =
      some (1, .resolved 0 (.caller 0) .action2) := by cbv
  have hcode : (twoWorkers.play beforePress).codes[0]? =
      some [.pressChosen 0 .negative, .pump .ui, .returned .ui false] := by cbv
  have hcaller : (twoWorkers.play beforePress).caller? 0 = some 0 := by cbv
  have hfresh : twoWorkers.Fresh := start_fresh ..
  refine ⟨(call_isolation hfresh rfl afterReturn).1 hresolved rfl,
    (call_isolation hfresh rfl beforePress).2 hcode rfl hcaller (by decide) [.exec 0] ?_⟩
  have hnext : ((twoWorkers.play beforePress).play [.exec 0]).codes[0]? =
      some [.complete 0 2, .pump .ui, .returned .ui false] := by cbv
  intro before hpre
  rcases List.prefix_cons_iff.1 hpre with rfl | ⟨more, rfl, hmore⟩
  · rw [play_nil, hcode]
    simp
  · obtain rfl := List.prefix_nil.1 hmore
    rw [hnext]
    simp

end MessageBox.Machine

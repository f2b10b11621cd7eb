import MessageBox.Proofs.Confinement
import MessageBox.Proofs.Races
import MessageBox.Proofs.Releases

/-!
# Failing toolkit steps

A call fails when the task that creates its dialog is not accepted, or when its dialog is not shown (`Fails`).
It fails once (`Fresh.fails_once`), and a call that has failed is not answered (`Fresh.failed_unanswered`).

The failure is reported by the thread on which it happened, at once, and only then the call ends or is released
(`Telling`, `Fresh.telling`). So whoever releases a call without an answer has stored the text of its failure
before (`Fresh.stored_of_release`), and a permit without an answer comes from there (`Fresh.stored_of_permit`).
-/

namespace MessageBox.Machine

/-- A toolkit step of a call fails with this instruction: the task that creates its dialog is not accepted, or
showing the dialog uses up an injected failure, or the press that the responder chose is not accepted. -/
def FailsWith (m : Machine) (c : CallId) (e : ToolkitFailure) : Instr → Prop
  | .schedule c' => c' = c ∧ m.loop.closed = true ∧ e = .closed
  | .accept d => m.caller? d = some c ∧ m.desk.failNext = some e
  | .schedulePress d _ => m.caller? d = some c ∧ m.loop.closed = true ∧ e = .closed
  | _ => False

/-- A toolkit step of a call fails. -/
def Fails (c : CallId) (e : ToolkitFailure) (m : Machine) (mv : Move) : Prop :=
  ∃ i, m.Executes mv i ∧ m.FailsWith c e i

/-- What a failed step leaves to its thread: the failure is reported, and then the call ends, or whoever waits
for it is released. -/
inductive Aftermath (c : CallId) (e : ToolkitFailure) : List Instr → Prop where
  | ends : Aftermath c e [.report e, .deactivate c .noAction]
  | releases : Aftermath c e [.report e, .release c, .wakeCall c]

/-- Whether an instruction reports a failure, or releases a call without an answer. -/
def Instr.tells : Instr → Bool
  | .report _ | .release _ => true
  | _ => false

/-! ### One failing step -/

/-- A move executes one instruction. -/
lemma Executes.unique {m : Machine} {mv : Move} {i j : Instr} (hi : m.Executes mv i) (hj : m.Executes mv j) :
    i = j :=
  Option.some.inj (hi.executed?.symm.trans hj.executed?)

/-- An instruction fails a call with one failure. -/
lemma FailsWith.unique {m : Machine} {c : CallId} {e e' : ToolkitFailure} {i : Instr} (h : m.FailsWith c e i)
    (h' : m.FailsWith c e' i) : e = e' := by
  cases i with
  | schedule => exact h.2.2.trans h'.2.2.symm
  | accept => exact Option.some.inj (h.2.symm.trans h'.2)
  | schedulePress => exact h.2.2.trans h'.2.2.symm
  | _ => exact h.elim

/-- The refusal of a call's dialog leaves what a failed step of the call leaves. -/
lemma Origin.aftermath {origin : Origin} {c : CallId} (h : origin.call? = some c) (e : ToolkitFailure) :
    Aftermath c e (origin.refused e) := by
  cases origin with
  | program => cases h
  | nested =>
    cases h
    exact .ends
  | posted =>
    cases h
    exact .releases

/-- A failing step is reported at once. -/
lemma Fires.aftermath {m m₁ : Machine} {t i next sent} {c : CallId} {e : ToolkitFailure}
    (hf : Fires m t i next sent m₁) (hov : m.overrides = {}) (h : m.FailsWith c e i) :
    sent = [] ∧ Aftermath c e next := by
  have refused : ∀ {d : DialogId} {o : Offer}, m.dialogs[d]? = some o → m.caller? d = some c →
      Aftermath c e (o.origin.refused e) := by
    intro d o ho hd
    exact Origin.aftermath (by simpa [Machine.caller?, ho] using hd) e
  cases i with
  | schedule c' =>
    obtain ⟨rfl, hc, rfl⟩ := h
    cases hf with
    | scheduleInline hi => simp [hov] at hi
    | schedule _ ho => simp [hc] at ho
    | scheduleClosed _ _ => exact ⟨rfl, .ends⟩
    | noCall hi _ => cases hi
    | noOffer hi _ => cases hi
  | accept d =>
    obtain ⟨hd, he⟩ := h
    cases hf with
    | acceptFailed ho he' =>
      obtain rfl := Option.some.inj (he.symm.trans he')
      exact ⟨rfl, refused ho hd⟩
    | accept _ hn => simp [he] at hn
    | noCall hi _ => cases hi
    | noOffer hi hn =>
      cases hi
      simp [Machine.caller?, hn] at hd
  | schedulePress d slot =>
    obtain ⟨hd, hc, rfl⟩ := h
    cases hf with
    | schedulePressClosed ho _ => exact ⟨rfl, refused ho hd⟩
    | schedulePress _ ho => simp [hc] at ho
    | noCall hi _ => cases hi
    | noOffer hi hn =>
      cases hi
      simp [Machine.caller?, hn] at hd
  | _ => exact h.elim

/-- A loaded program reports nothing and releases nobody. -/
lemma tells_load {body : List Op} : ∀ j ∈ load body, j.tells = false := by
  intro j hj
  obtain ⟨o, -, rfl⟩ := mem_load.1 hj
  rfl

/-- A handler reports nothing and releases nobody. -/
lemma tells_reaction {reaction : Reaction} : ∀ j ∈ reaction.code, j.tells = false := by
  intro j hj
  rcases mem_reaction.1 hj with ⟨body, -, o, -, rfl⟩ | ⟨c, code, stops, -, rfl | ⟨-, rfl⟩⟩ <;> rfl

/-- What follows an accepted offer reports nothing and releases nobody. -/
lemma tells_accepted {origin : Origin} : ∀ j ∈ origin.accepted, j.tells = false := by
  intro j hj
  obtain ⟨c, -, rfl⟩ := mem_accepted.1 hj
  rfl

/-- Nothing is reported and nobody is released but after a failing step. -/
lemma Fires.tells {m m₁ : Machine} {t i next sent} (hf : Fires m t i next sent m₁) (hm : m.Bare)
    (howner : ∀ c, i = .nest c → m.loop.owner = some t) :
    (∀ j ∈ next ++ sent, j.tells = false) ∨ ∃ c e, m.FailsWith c e i ∧ sent = [] ∧ Aftermath c e next := by
  have refused : ∀ {d : DialogId} {o : Offer} {e}, m.dialogs[d]? = some o →
      (∀ c, m.caller? d = some c → m.FailsWith c e i) →
      (∀ j ∈ o.origin.refused e ++ [], j.tells = false) ∨
        ∃ c e', m.FailsWith c e' i ∧ ([] : List Instr) = [] ∧ Aftermath c e' (o.origin.refused e) := by
    intro d o e ho hfails
    cases hc : o.origin.call? with
    | none =>
      left
      cases horigin : o.origin with
      | program => exact fun j hj => nomatch hj
      | nested => simp [horigin, Origin.call?] at hc
      | posted => simp [horigin, Origin.call?] at hc
    | some c => exact .inr ⟨c, e, hfails c (by simp [Machine.caller?, ho, hc]), rfl, Origin.aftermath hc e⟩
  cases hf with
  | scheduleClosed _ hc => exact .inr ⟨_, _, ⟨rfl, hc, rfl⟩, rfl, .ends⟩
  | acceptFailed ho he => exact refused ho fun c hc => ⟨hc, he⟩
  | schedulePressClosed ho hcl => exact refused ho fun c hc => ⟨hc, hcl, rfl⟩
  | nestFailed hn => simp [hm.overrides] at hn
  | nestForeign _ hb =>
    rw [Loop.bind_own fun u hu => Option.some.inj (hu.symm.trans (howner _ rfl))] at hb
    cases hb
  | @post o task ho _ =>
    left
    cases o with
    | post body =>
      cases ho
      intro j hj
      rcases List.mem_append.1 hj with hj | hj
      · obtain rfl := List.mem_singleton.1 hj
        rfl
      · exact tells_load j hj
    | press =>
      cases ho
      simp [Instr.tells]
    | _ => cases ho
  | fork | later =>
    left
    intro j hj
    simp only [List.mem_append, List.mem_cons, List.not_mem_nil, or_false, false_or] at hj
    rcases hj with rfl | hj
    · rfl
    · exact tells_load j hj
  | @ask p ticket q _ => left; cases (m.newCall t p q ticket).context <;> simp [Context.first, Instr.tells]
  | awaitInterrupted _ _ => left; split <;> simp [Instr.tells]
  | pressTaken _ _ | pressChosen _ _ =>
    left
    rw [List.append_nil]
    exact tells_reaction
  | keep _ | presentOpen _ _ =>
    left
    rw [List.append_nil]
    exact tells_accepted
  | schedulePress _ _ =>
    left
    intro j hj
    simp only [List.mem_append, List.mem_cons, List.not_mem_nil, or_false] at hj
    rcases hj with (rfl | hj) | rfl
    · rfl
    · exact tells_accepted j hj
    · rfl
  | present _ _ _ _ | presentIgnored _ _ _ _ _ _ | presentInterrupt _ _ _ _ _ _ =>
    left
    simp [hm.presented, Instr.tells]
  | @conclude view slot =>
    left
    cases (view.conclude slot).1 with
    | none => simp
    | some reaction =>
      rw [List.append_nil]
      exact tells_reaction
  | _ => exact .inl (by simp [Instr.tells])

/-! ### A call fails once -/

/-- A call that has begun does not become able to make another dialog. -/
lemma step_made_le {m : Machine} (mv : Move) {c : CallId} (hc : c < m.calls.length) :
    (m.step mv).made c ≤ m.made c := by
  rcases (steps m mv).fires_or_quiet with ⟨t, i, rest, next, sent, m₁, -, ht, hf, he⟩ | hq
  · have hcount := hf.countP ht (Instr.makes c)
    have hmakes := hf.makes c
    rw [if_neg (Nat.ne_of_lt hc)] at hmakes
    have hdialogs : (m₁.goto t (next ++ rest)).dialogs = m₁.dialogs := rfl
    rw [he]
    unfold made
    rw [hdialogs]
    omega
  · have hagenda := hq.agenda.countP_le (Instr.makes c)
    unfold made
    rw [hq.dialogs]
    omega

/-- A call whose dialog is on record has made one. -/
lemma made_pos_of_caller {m : Machine} {c : CallId} {d : DialogId} (hd : m.caller? d = some c) :
    0 < m.dialogs.countP (Offer.isOf c) := by
  obtain ⟨o, ho, hc⟩ := Option.bind_eq_some_iff.1 hd
  exact List.countP_pos_iff.2 ⟨o, List.mem_of_getElem? ho, by simp [Offer.isOf, hc]⟩

/-- A call whose task is about to be posted is going to make a dialog. -/
lemma made_pos_of_schedule {m : Machine} {c : CallId} (h : .schedule c ∈ m.agenda) :
    0 < m.agenda.countP (Instr.makes c) :=
  List.countP_pos_iff.2 ⟨_, h, by simp [Instr.makes]⟩

/-- A task that is not accepted takes with it what could have made a dialog. -/
lemma made_of_unscheduled {m : Machine} {mv : Move} {c : CallId} (hov : m.overrides = {})
    (hx : m.Executes mv (.schedule c)) (hclosed : m.loop.closed = true) (hone : m.made c ≤ 1) :
    (m.step mv).made c = 0 := by
  have hpos := made_pos_of_schedule hx.mem_agenda
  obtain ⟨t, rest, next, sent, m₁, ht, hf, he⟩ := hx.fires (by simp [execInstr]) nofun nofun
  have hcount := hf.countP ht (Instr.makes c)
  rw [he]
  cases hf with
  | scheduleInline hi => simp [hov] at hi
  | schedule _ ho => simp [hclosed] at ho
  | scheduleClosed _ _ =>
    have hdialogs : ∀ code, (m.goto t code).dialogs = m.dialogs := fun _ => rfl
    have hnext : [.report .closed, .deactivate c .noAction].countP (Instr.makes c) = 0 := rfl
    have hself : [.schedule c].countP (Instr.makes c) = 1 := by simp [Instr.makes]
    unfold made at hone ⊢
    rw [hnext, hself, List.countP_nil] at hcount
    rw [hdialogs]
    omega
  | noCall hi _ => cases hi
  | noOffer hi _ => cases hi

/-- How a call that has failed stands: no dialog is going to be made for it, or its dialog was refused. -/
lemma Fresh.failed {m : Machine} (hm : m.Fresh) (hterm : m.terminal = none) (hov : m.overrides = {})
    {moves : List Move} {c : CallId} {e : ToolkitFailure} (h : Happens m moves (Fails c e)) :
    c < (m.play moves).calls.length ∧ ((m.play moves).made c = 0 ∨
      ∃ d, (m.play moves).caller? d = some c ∧ 0 < m.tally (Instr.turnsDown d) moves) := by
  induction moves using List.reverseRecOn with
  | nil =>
    obtain ⟨before, mv, hpre, -⟩ := h
    simp at hpre
  | append_singleton moves mv ih =>
    have hgrows := step_grows (m.play moves) mv
    have hbare := (play_trusty (hm.trusty hterm hov) moves).bare
    rw [play_concat]
    rcases happens_concat.1 h with h | ⟨i, hx, hi⟩
    · obtain ⟨hc, hstands⟩ := ih h
      refine ⟨Nat.lt_of_lt_of_le hc hgrows.calls_length, hstands.imp (fun hzero => ?_) ?_⟩
      · have := step_made_le (m := m.play moves) mv hc
        omega
      · rintro ⟨d, hd, hpos⟩
        exact ⟨d, hgrows.caller? hd, by rw [tally_concat]; omega⟩
    · have refused : ∀ d, (m.play moves).caller? d = some c → i.turnsDown d (m.play moves) = true →
          c < ((m.play moves).step mv).calls.length ∧ (((m.play moves).step mv).made c = 0 ∨
            ∃ d, ((m.play moves).step mv).caller? d = some c ∧
              0 < m.tally (Instr.turnsDown d) (moves ++ [mv])) := by
        intro d hd hdown
        have hlt := Nat.lt_of_lt_of_le (hbare.sound.caller_lt hd) hgrows.calls_length
        refine ⟨hlt, .inr ⟨d, hgrows.caller? hd, ?_⟩⟩
        rw [tally_concat, hx.executed?]
        simp [hdown]
      cases i with
      | schedule c' =>
        obtain ⟨rfl, hclosed, -⟩ := hi
        have hw : (m.play moves).In .worker c' := hbare.sound.agenda _ hx.mem_agenda
        refine ⟨Nat.lt_of_lt_of_le hw.lt hgrows.calls_length, .inl ?_⟩
        exact made_of_unscheduled hbare.overrides hx hclosed (hm.made_le_one moves c')
      | accept d => exact refused d hi.1 (by simp [Instr.turnsDown, hi.2])
      | schedulePress d slot => exact refused d hi.1 (by simp [Instr.turnsDown, hi.2.1])
      | _ => exact hi.elim

/-- A call that has failed does not fail again. -/
lemma Fresh.fails_no_more {m : Machine} (hm : m.Fresh) (hterm : m.terminal = none) (hov : m.overrides = {})
    {moves : List Move} {mv : Move} {c : CallId} {e e' : ToolkitFailure} (h : Happens m moves (Fails c e)) :
    ¬ Fails c e' (m.play moves) mv := by
  rintro ⟨i, hx, hi⟩
  have hone := hm.made_le_one moves c
  obtain ⟨-, hzero | ⟨d, hd, hpos⟩⟩ := hm.failed hterm hov h
  · -- what fails is there, or has been made
    unfold made at hzero
    cases i with
    | schedule c' =>
      obtain ⟨rfl, -⟩ := hi
      have := made_pos_of_schedule hx.mem_agenda
      omega
    | accept d | schedulePress d slot =>
      have := made_pos_of_caller hi.1
      omega
    | _ => exact hi.elim
  · have again : ∀ d', (m.play moves).caller? d' = some c → i.turnsDown d' (m.play moves) = false := by
      intro d' hd'
      obtain rfl := caller?_unique hone hd hd'
      by_contra hdown
      have honce := hm.decided_once hterm hov (moves ++ [mv]) d
      rw [tally_concat, tally_concat, hx.executed?] at honce
      simp only [Bool.not_eq_false] at hdown
      simp [hdown] at honce
      omega
    cases i with
    | schedule c' =>
      obtain ⟨rfl, -⟩ := hi
      have := made_pos_of_schedule hx.mem_agenda
      have := made_pos_of_caller hd
      unfold made at hone
      omega
    | accept d' => simpa [Instr.turnsDown, hi.2] using again d' hi.1
    | schedulePress d' slot => simpa [Instr.turnsDown, hi.2.1] using again d' hi.1
    | _ => exact hi.elim

/-- A call fails with one failure. -/
lemma Fresh.fails_once {m : Machine} (hm : m.Fresh) (hterm : m.terminal = none) (hov : m.overrides = {})
    {moves : List Move} {c : CallId} {e e' : ToolkitFailure} (h : Happens m moves (Fails c e))
    (h' : Happens m moves (Fails c e')) : e = e' := by
  induction moves using List.reverseRecOn with
  | nil =>
    obtain ⟨before, mv, hpre, -⟩ := h
    simp at hpre
  | append_singleton moves mv ih =>
    rcases happens_concat.1 h with h | hnow <;> rcases happens_concat.1 h' with h' | hnow'
    · exact ih h h'
    · exact absurd hnow' (hm.fails_no_more hterm hov h)
    · exact absurd hnow (hm.fails_no_more hterm hov h')
    · obtain ⟨i, hx, hi⟩ := hnow
      obtain ⟨i', hx', hi'⟩ := hnow'
      obtain rfl := hx.unique hx'
      exact hi.unique hi'

/-- A button of an answered call's dialog was pressed. -/
lemma Fresh.answered_activated {m : Machine} (hm : m.Fresh) (hterm : m.terminal = none) {moves : List Move}
    {c : CallId} {code : Nat} (h : (m.play moves).Recorded c code) :
    ∃ d, (m.play moves).caller? d = some c ∧ 0 < (m.play moves).deeds.countP (Event.activates d) := by
  obtain ⟨i, t, d, slot, o, stops, -, hpressed, ho, hcaller, -⟩ := (hm.traced hterm moves).values h
  have hdeed : Event.pressed d slot ∈ (m.play moves).deeds :=
    List.mem_filter.2 ⟨List.mem_map_of_mem (Array.mem_def.1 (Array.mem_of_getElem? hpressed)), rfl⟩
  exact ⟨d, by simp [Machine.caller?, ho, hcaller],
    List.countP_pos_iff.2 ⟨_, hdeed, by simp [Event.activates]⟩⟩

/-- A call whose dialog was refused is not answered. -/
lemma Fresh.refused_unanswered {m : Machine} (hm : m.Fresh) (hterm : m.terminal = none) (hov : m.overrides = {})
    {moves : List Move} {c : CallId} {d : DialogId} (hd : (m.play moves).caller? d = some c)
    (hrefused : 0 < m.tally (Instr.turnsDown d) moves) (code : Nat) : ¬ (m.play moves).Recorded c code := by
  intro hrecorded
  obtain ⟨d', hd', hactivated⟩ := hm.answered_activated hterm hrecorded
  obtain rfl := caller?_unique (hm.made_le_one moves c) hd hd'
  have hended := hm.ended_le_one hterm hov moves d
  unfold ended at hended
  omega

/-- A call that has failed is not answered. -/
lemma Fresh.failed_unanswered {m : Machine} (hm : m.Fresh) (hterm : m.terminal = none) (hov : m.overrides = {})
    {moves : List Move} {c : CallId} {e : ToolkitFailure} (h : Happens m moves (Fails c e)) (code : Nat) :
    ¬ (m.play moves).Recorded c code := by
  obtain ⟨-, hzero | ⟨d, hd, hrefused⟩⟩ := hm.failed hterm hov h
  · intro hrecorded
    obtain ⟨d, hd, -⟩ := hm.answered_activated hterm hrecorded
    have hmade := made_pos_of_caller hd
    unfold made at hzero
    omega
  · exact hm.refused_unanswered hterm hov hd hrefused code

/-! ### Failures are reported at once -/

/-- The text of a call's failure was stored: the call failed, and then the failure was reported. -/
def Stored (m : Machine) (moves : List Move) (c : CallId) (e : ToolkitFailure) : Prop :=
  ∃ early store, early ++ [store] <+: moves ∧ Happens m early (Fails c e) ∧
    (m.play early).Executes store (.report e) ∧ (m.play (early ++ [store])).lastError = e.message

/-- A failure that was stored has been so ever after. -/
lemma Stored.later {m : Machine} {early moves : List Move} {c : CallId} {e : ToolkitFailure}
    (h : Stored m early c e) (hpre : early <+: moves) : Stored m moves c e := by
  obtain ⟨before, store, hbefore, h⟩ := h
  exact ⟨before, store, hbefore.trans hpre, h⟩

/-- What has happened has happened ever after. -/
lemma Happens.later {m : Machine} {early moves : List Move} {P : Machine → Move → Prop}
    (h : Happens m early P) (hpre : early <+: moves) : Happens m moves P := by
  obtain ⟨before, mv, hbefore, hP⟩ := h
  exact ⟨before, mv, hbefore.trans hpre, hP⟩

/-- A failure is stored only for a call that has failed with it. -/
lemma Stored.fails {m : Machine} {moves : List Move} {c : CallId} {e : ToolkitFailure} (h : Stored m moves c e) :
    Happens m moves (Fails c e) := by
  obtain ⟨early, store, hpre, hfails, -⟩ := h
  exact hfails.later ((List.prefix_append ..).trans hpre)

/-- Code that reports nothing and releases nobody without an answer. -/
def Silent (code : List Instr) : Prop := ∀ i ∈ code, i.tells = false

/-- Silent code on top of silent code is silent. -/
lemma Silent.append {top below : List Instr} (ht : Silent top) (hb : Silent below) : Silent (top ++ below) :=
  fun i hi => (List.mem_append.1 hi).elim (ht i) (hb i)

/-- Code that reports failures and releases calls only in front, and in the order in which that has to be done. -/
inductive Telling (m : Machine) (moves : List Move) : List Instr → Prop where
  | silent {code} :
    Silent code →
    Telling m moves code
  | ends {c e rest} :
    Happens m moves (Fails c e) →
    Silent rest →
    Telling m moves (.report e :: .deactivate c .noAction :: rest)
  | refused {c e rest} :
    Happens m moves (Fails c e) →
    Silent rest →
    Telling m moves (.report e :: .release c :: .wakeCall c :: rest)
  | stored {c e rest} :
    Stored m moves c e →
    Silent rest →
    Telling m moves (.release c :: .wakeCall c :: rest)

/-- Telling code has its reasons after one more move, too. -/
lemma Telling.concat {m : Machine} {moves : List Move} {code : List Instr} (h : Telling m moves code)
    (mv : Move) : Telling m (moves ++ [mv]) code := by
  cases h with
  | silent hs => exact .silent hs
  | ends hfails hs => exact .ends hfails.concat hs
  | refused hfails hs => exact .refused hfails.concat hs
  | stored hstored hs => exact .stored (hstored.later (List.prefix_append ..)) hs

/-- Only a report and a release have more to tell behind them. -/
lemma Telling.silent_of_head {m : Machine} {moves : List Move} {i : Instr} {rest : List Instr}
    (h : Telling m moves (i :: rest)) (hi : i.tells = false) : Silent (i :: rest) := by
  cases h with
  | silent hs => exact hs
  | ends | refused | stored => cases hi

/-- Silent code is silent behind its next instruction. -/
lemma Silent.tail {i : Instr} {rest : List Instr} (h : Silent (i :: rest)) : Silent rest :=
  fun j hj => h j (List.mem_cons_of_mem _ hj)

/-- What a failed step leaves tells of the failure, on top of silent code. -/
lemma Aftermath.telling {m : Machine} {moves : List Move} {c : CallId} {e : ToolkitFailure}
    {next rest : List Instr} (h : Aftermath c e next) (hfails : Happens m moves (Fails c e)) (hs : Silent rest) :
    Telling m moves (next ++ rest) := by
  cases h with
  | ends => exact .ends hfails hs
  | releases => exact .refused hfails hs

/-- A firing keeps the order of reports and releases. -/
lemma Telling.fires {m m₁ : Machine} {moves : List Move} {mv : Move} {t i rest next sent}
    (h : Telling m moves (i :: rest)) (hx : (m.play moves).Executes mv i)
    (hf : Fires (m.play moves) t i next sent m₁) (he : (m.play moves).step mv = m₁.goto t (next ++ rest))
    (hbare : (m.play moves).Bare) (howner : ∀ c, i = .nest c → (m.play moves).loop.owner = some t) :
    Telling m (moves ++ [mv]) (next ++ rest) ∧ Telling m (moves ++ [mv]) sent := by
  cases h with
  | silent hs =>
    rcases hf.tells hbare howner with hquiet | ⟨c, e, hfails, rfl, hafter⟩
    · exact ⟨.silent (.append (fun j hj => hquiet j (List.mem_append_left _ hj)) hs.tail),
        .silent fun j hj => hquiet j (List.mem_append_right _ hj)⟩
    · exact ⟨hafter.telling (happens_concat.2 (.inr ⟨i, hx, hfails⟩)) hs.tail, .silent nofun⟩
  | @ends c e rest hfails hs =>
    cases hf with
    | report =>
      refine ⟨.silent fun j hj => ?_, .silent nofun⟩
      rcases List.mem_cons.1 hj with rfl | hj
      · rfl
      · exact hs j hj
    | noCall hi _ => cases hi
    | noOffer hi _ => cases hi
  | @refused c e rest hfails hs =>
    cases hf with
    | report =>
      refine ⟨.stored ⟨moves, mv, List.prefix_rfl, hfails, hx, ?_⟩ hs, .silent nofun⟩
      rw [play_concat, he]
      rfl
    | noCall hi _ => cases hi
    | noOffer hi _ => cases hi
  | @stored c e rest hstored hs =>
    cases hf with
    | release =>
      refine ⟨.silent fun j hj => ?_, .silent nofun⟩
      rcases List.mem_cons.1 hj with rfl | hj
      · rfl
      · exact hs j hj
    | noCall hi _ => cases hi
    | noOffer hi _ => cases hi

/-- In every run failures are reported at once, and before anybody is released. -/
lemma Fresh.telling {m : Machine} (hm : m.Fresh) (hterm : m.terminal = none) (hov : m.overrides = {})
    (moves : List Move) :
    ∀ code ∈ (m.play moves).codes ++ (m.play moves).loop.queue, Telling m moves code := by
  induction moves using List.reverseRecOn with
  | nil =>
    intro code hcode
    refine .silent fun i hi => ?_
    obtain ⟨o, rfl⟩ := hm.agenda (mem_agenda_of_mem hcode hi)
    rfl
  | append_singleton moves mv ih =>
    have hbare := (play_trusty (hm.trusty hterm hov) moves).bare
    have howned := play_owned (hm.owned (by rw [hov]) (by rw [hov])) moves
    rw [play_concat]
    refine step_throughout mv ih (fun h => h.concat mv) ?_ ?_ ?_
    · intro t i rest next sent m₁ hx ht hf he
      refine (ih _ (List.mem_append_left _ (List.mem_of_getElem? ht))).fires hx hf he hbare fun c hi => ?_
      exact howned.confined ht (List.mem_cons_self ..) (by rw [hi]; rfl)
    · intro token rest task hpump htask
      have hs := hpump.silent_of_head rfl
      cases htask with
      | silent htask => exact .silent (htask.append hs)
      | ends hfails h => exact .ends hfails.concat (h.append hs)
      | refused hfails h => exact .refused hfails.concat (h.append hs)
      | stored hstored h => exact .stored (hstored.later (List.prefix_append ..)) (h.append hs)
    · intro rest hpanic
      have hs := hpanic.silent_of_head rfl
      exact .silent fun j hj => hs j ((caught_sublist rest).subset hj)

/-- Who releases a call without an answer has stored the text of its failure before. -/
lemma Fresh.stored_of_release {m : Machine} (hm : m.Fresh) (hterm : m.terminal = none) (hov : m.overrides = {})
    {moves : List Move} {mv : Move} {c : CallId} (hx : (m.play moves).Executes mv (.release c)) :
    ∃ e, Stored m moves c e := by
  obtain ⟨t, th, rest, -, hth, hcode, -⟩ := hx
  have ht : (m.play moves).codes[t]? = some (.release c :: rest) := hcode ▸ codes_getElem? hth
  cases hm.telling hterm hov moves _ (List.mem_append_left _ (List.mem_of_getElem? ht)) with
  | silent hs => cases hs _ (List.mem_cons_self ..)
  | stored hstored _ => exact ⟨_, hstored⟩

/-- A permit without an answer comes from a release. -/
lemma Fresh.released_of_permit {m : Machine} (hm : m.Fresh) {moves : List Move} {c : CallId} {call : Call}
    (hc : (m.play moves).calls[c]? = some call) (hvalue : call.handoff.value = none)
    (hpermits : 0 < call.handoff.permits) : Happens m moves fun s mv => s.Executes mv (.release c) := by
  induction moves using List.reverseRecOn generalizing call with
  | nil => simp [play_nil, hm.calls] at hc
  | append_singleton moves mv ih =>
    rw [play_concat] at hc
    rcases (steps (m.play moves) mv).fires_or_quiet with ⟨t, i, rest, next, sent, m₁, hx, ht, hf, he⟩ | hq
    · rw [he] at hc
      obtain ⟨old, hold, rfl | ⟨f, hchange, rfl⟩⟩ | ⟨p, ticket, q, -, -, -, rfl⟩ := hf.call_before hc
      · exact (ih hold hvalue hpermits).concat
      · cases hchange with
        | interrupt | interruptOnShow | clear | resolve => exact (ih hold hvalue hpermits).concat
        | take => exact (ih hold hvalue (Nat.lt_of_lt_of_le hpermits (Nat.sub_le ..))).concat
        | complete hcall hnone =>
          obtain rfl := Option.some.inj (hold.symm.trans hcall)
          simp [Handoff.complete, hnone] at hvalue
        | release => exact happens_concat.2 (.inr hx)
      · simp [newCall] at hpermits
    · exact (ih (hq.calls ▸ hc) hvalue hpermits).concat

/-- So the text of the call's failure was stored before it. -/
lemma Fresh.stored_of_permit {m : Machine} (hm : m.Fresh) (hterm : m.terminal = none) (hov : m.overrides = {})
    {moves : List Move} {c : CallId} {call : Call} (hc : (m.play moves).calls[c]? = some call)
    (hvalue : call.handoff.value = none) (hpermits : 0 < call.handoff.permits) : ∃ e, Stored m moves c e := by
  obtain ⟨before, mv, hpre, hx⟩ := hm.released_of_permit hc hvalue hpermits
  obtain ⟨e, hstored⟩ := hm.stored_of_release hterm hov hx
  exact ⟨e, hstored.later ((List.prefix_append ..).trans hpre)⟩

end MessageBox.Machine

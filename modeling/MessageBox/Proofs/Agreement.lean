import MessageBox.Proofs.Machine.Sleepers
import MessageBox.Proofs.Waiters

/-!
# The two ways to show a prompt agree

A call on the UI thread pumps the loop until its token is signalled, a call on another thread waits for a
permit. On a machine that a UI thread serves (`Manned`) both return what the responder presses, and no
interleaving ends before all calls have returned (`paths_agree`). The proof follows a call that has not
returned to the instruction its thread goes on with (`Pursued`), and a nested run to the press that ends it
(`Stopping`); a machine without a thread that can go on has neither.
-/

namespace MessageBox.Machine

/-! ### A call that has not returned goes on -/

/-- With this instruction the thread that makes a call goes on with it. -/
def Proceeds (m : Machine) (c : CallId) (i : Instr) : Prop :=
  i.pursues c = true ∨ m.In .uiThread c ∧ (i = .nest c ∨ Creates m c i)

/-- An instruction with which a call goes on is one on a later machine, too. -/
lemma Grows.proceeds {m m' : Machine} (h : m.Grows m') {c i} (hi : Proceeds m c i) : Proceeds m' c i := by
  rcases hi with hp | ⟨hu, hn | hc⟩
  · exact .inl hp
  · exact .inr ⟨h.in hu, .inl hn⟩
  · refine .inr ⟨h.in hu, .inr ?_⟩
    cases i with
    | present | accept | exhibit | choose | schedulePress | keep => exact h.caller? hc
    | _ => exact hc

/-- The thread of every call that has not returned is going on with it. -/
def Pursued (m : Machine) : Prop :=
  ∀ {c : CallId} {call : Call}, m.calls[c]? = some call → call.outcome = none → ∃ i ∈ m.agenda, Proceeds m c i

/-- A step of a call's thread leaves another one, or the call has returned. -/
lemma Fires.pursues_on {m m₁ : Machine} {t i next sent} {c : CallId} (hf : Fires m t i next sent m₁)
    (hi : i.Sound m) (hp : i.pursues c = true) :
    (∃ j ∈ next, j.pursues c = true) ∨ ∃ o, m₁.returned? c = some o := by
  cases hf with
  | noCall hi' hn => exact absurd hn (hi.call_ne_none hi')
  | noOffer hi' hn => exact absurd hn (hi.offer_ne_none hi')
  | scheduleInline _ => exact .inl ⟨_, List.mem_cons_of_mem _ (List.mem_singleton_self _), hp⟩
  | schedule _ _ => exact .inl ⟨_, List.mem_cons_of_mem _ (List.mem_singleton_self _), hp⟩
  | scheduleClosed _ _ => exact .inl ⟨_, List.mem_cons_of_mem _ (List.mem_singleton_self _), hp⟩
  | awaitInterrupted _ _ =>
    refine .inl ⟨_, List.mem_singleton_self _, ?_⟩
    split
    · exact hp
    · exact hp
  | @resolve c' outcome call hc =>
    obtain rfl : c' = c := by simpa [Instr.pursues] using hp
    exact .inr ⟨outcome, by simp [Machine.returned?, emit, modifyCall, hc]⟩
  | beginWait _ | awaitReady _ _ | awaitTimedOut _ _ | awaitSleep _ _ | collect _ | deactivate _ =>
    exact .inl ⟨_, List.mem_singleton_self _, hp⟩
  | _ => cases hp

/-- Running the loop inside a call leaves its outcome to be collected. -/
lemma Fires.nests_on {m m₁ : Machine} {t next sent} {c : CallId} (hf : Fires m t (.nest c) next sent m₁) :
    .collect c ∈ next := by
  cases hf with
  | nestFailed _ => simp
  | nest _ _ => simp
  | nestForeign _ _ => simp
  | noCall hi _ => cases hi
  | noOffer hi _ => cases hi

/-- A call on the UI thread goes on to its nested run, or fails. -/
lemma Fires.creates_on {m m₁ : Machine} {t i next sent} {c : CallId} (hf : Fires m t i next sent m₁)
    (hm : m.Sound) (hi : i.Sound m) (hu : m.In .uiThread c) (hc : Creates m c i) :
    ∃ j ∈ next, Proceeds m₁ c j := by
  have hg := hf.grows
  have hu₁ := hg.in hu
  have same : ∀ {j}, Creates m c j → Proceeds m₁ c j := fun hj => hg.proceeds (.inr ⟨hu, .inr hj⟩)
  -- the call goes on to its nested run where the toolkit takes its dialog, and fails where it does not
  have accepted : ∀ {d : DialogId} {o : Offer}, m.dialogs[d]? = some o → m.caller? d = some c →
      .nest c ∈ o.origin.accepted := by
    intro d o ho hd
    exact mem_accepted.2 ⟨c, hm.nested_of_ui ho hd hu, rfl⟩
  have refused : ∀ {d : DialogId} {o : Offer} {e}, m.dialogs[d]? = some o → m.caller? d = some c →
      .deactivate c .noAction ∈ o.origin.refused e := by
    intro d o e ho hd
    exact mem_refused.2 (.inl ⟨c, hm.nested_of_ui ho hd hu, .inr rfl⟩)
  have failed : Proceeds m₁ c (.deactivate c .noAction) := .inl (by simp [Instr.pursues])
  have presented : ∀ {d : DialogId} {o : Offer}, m.dialogs[d]? = some o → m.caller? d = some c →
      ∃ j ∈ m.presented d o, Proceeds m₁ c j := by
    intro d o ho hd
    unfold Machine.presented
    split
    · exact ⟨.accept d, List.mem_singleton_self _, same hd⟩
    · split
      · exact ⟨.nest c, List.mem_cons_of_mem _ (accepted ho hd), .inr ⟨hu₁, .inl rfl⟩⟩
      · exact ⟨.accept d, List.mem_singleton_self _, same hd⟩
  cases hf with
  | noCall hi' hn => exact absurd hn (hi.call_ne_none hi')
  | noOffer hi' hn => exact absurd hn (hi.offer_ne_none hi')
  | @create c' call hcall =>
    obtain rfl : c' = c := hc
    refine ⟨_, List.mem_singleton_self _, .inr ⟨hu₁, .inr ?_⟩⟩
    rcases call.offer_origin c' with ⟨-, ho⟩ | ⟨-, ho⟩ <;> simp [Creates, Machine.caller?, ho, Origin.call?]
  | release => cases hu.unique (hc ▸ hi)
  | presentOpen ho _ => exact ⟨.nest c, accepted ho hc, .inr ⟨hu₁, .inl rfl⟩⟩
  | presentProgram _ _ _ => exact ⟨_, List.mem_singleton_self _, same hc⟩
  | presentInterrupt ho _ _ _ _ _ =>
    obtain ⟨j, hj, hp⟩ := presented ho hc
    exact ⟨j, List.mem_cons_of_mem _ hj, hp⟩
  | presentIgnored ho _ _ _ _ _ => exact presented ho hc
  | present ho _ _ _ => exact presented ho hc
  | acceptFailed ho _ => exact ⟨_, refused ho hc, failed⟩
  | accept _ _ => exact ⟨_, List.mem_singleton_self _, same hc⟩
  | exhibit _ => exact ⟨_, List.mem_singleton_self _, same hc⟩
  | chooseNone _ _ => exact ⟨_, List.mem_singleton_self _, same hc⟩
  | choose _ _ _ => exact ⟨_, List.mem_singleton_self _, same hc⟩
  | chooseMissing _ _ _ => exact ⟨_, List.mem_singleton_self _, same hc⟩
  | schedulePress ho _ => exact ⟨.nest c, List.mem_cons_of_mem _ (accepted ho hc), .inr ⟨hu₁, .inl rfl⟩⟩
  | schedulePressClosed ho _ => exact ⟨_, refused ho hc, failed⟩
  | keep ho => exact ⟨.nest c, accepted ho hc, .inr ⟨hu₁, .inl rfl⟩⟩
  | _ => exact False.elim hc

/-- An instruction with which a call goes on leaves another one, or the call has returned. -/
lemma Fires.proceeds {m m₁ : Machine} {t i next sent} {c : CallId} (hf : Fires m t i next sent m₁)
    (hm : m.Sound) (hi : i.Sound m) (hp : Proceeds m c i) :
    (∃ j ∈ next, Proceeds m₁ c j) ∨ ∃ o, m₁.returned? c = some o := by
  rcases hp with hp | ⟨hu, rfl | hc⟩
  · exact (hf.pursues_on hi hp).imp_left fun ⟨j, hj, hp⟩ => ⟨j, hj, .inl hp⟩
  · exact .inl ⟨_, hf.nests_on, .inl (by simp [Instr.pursues])⟩
  · exact .inl (hf.creates_on hm hi hu hc)

/-- A call that starts goes on with one of the instructions that its start leaves. -/
lemma Fires.starts {m m₁ : Machine} {t p ticket next sent} {q : ActivePrompt}
    (hf : Fires m t (.op (.ask p ticket)) next sent m₁) (hq : m.prompts[p]? = some q) :
    ∃ j ∈ next, Proceeds m₁ m.calls.length j := by
  cases hf with
  | ask hq' =>
    refine ⟨_, List.mem_cons_of_mem _ (List.mem_singleton_self _), ?_⟩
    cases hx : (m.newCall t p _ ticket).context with
    | uiThread => exact .inr ⟨⟨_, List.getElem?_concat_length, hx⟩, .inr rfl⟩
    | worker => exact .inl (by simp [Context.first, Instr.pursues])
  | askUnknown hn =>
    rw [hq] at hn
    cases hn
  | post ho _ => cases ho
  | postClosed ho _ => cases ho
  | noCall hi _ => cases hi
  | noOffer hi _ => cases hi

/-- Every move without a panic leaves the threads of all calls going on. -/
lemma step_pursued {m : Machine} (mv : Move) (hm : m.Sound)
    (hcalm : ∀ {t : ThreadId} {rest}, m.codes[t]? ≠ some (.op .panic :: rest)) (h : m.Pursued) :
    (m.step mv).Pursued := by
  intro c call hc hnone
  rcases (steps m mv).fires_or_quiet with ⟨t, i, rest, next, sent, m₁, -, ht, hf, he⟩ | hq
  · have hi : i.Sound m := hm.agenda i (mem_agenda_of_code ht (List.mem_cons_self ..))
    have hg₁ : m₁.Grows (m₁.goto t (next ++ rest)) := grows_goto ..
    rw [he] at hc ⊢
    have hc : m₁.calls[c]? = some call := hc
    have new : (∃ j ∈ next, Proceeds m₁ c j) →
        ∃ i ∈ (m₁.goto t (next ++ rest)).agenda, Proceeds (m₁.goto t (next ++ rest)) c i :=
      fun ⟨j, hj, hp⟩ => ⟨j, hf.agenda_of_new ht (.inl hj), hg₁.proceeds hp⟩
    obtain ⟨old, hold, -⟩ | ⟨p, ticket, q, rfl, hq, rfl, rfl⟩ := hf.call_before hc
    · have hreturned : m₁.returned? c = none := by simp [Machine.returned?, hc, hnone]
      have hold' : old.outcome = none := by
        rcases hf.returned? c with hr | ⟨o, -, -, -, hr⟩
        · rw [hr] at hreturned
          simpa [Machine.returned?, hold] using hreturned
        · rw [hreturned] at hr
          cases hr
      obtain ⟨j, hj, hp⟩ := h hold hold'
      rcases hf.agenda_of_mem ht hj with hj | rfl
      · exact ⟨j, hj, (hf.grows.trans hg₁).proceeds hp⟩
      · rcases hf.proceeds hm hi hp with hnext | ⟨o, hr⟩
        · exact new hnext
        · rw [hreturned] at hr
          cases hr
    · exact new (hf.starts hq)
  · obtain ⟨j, hj, hp⟩ := h (hq.calls ▸ hc) hnone
    rcases hq.keeps j hj with hj | ⟨t, rest, ht, -⟩
    · exact ⟨j, hj, hq.grows.proceeds hp⟩
    · exact absurd ht hcalm

/-! ### A nested run is ended -/

/-- This instruction ends the nested run of a call, or presses the button that does. -/
def Stops (m : Machine) (c : CallId) (i : Instr) : Prop :=
  i = .op (.signal (.call c)) ∨ ∃ d slot, i = .pressChosen d slot ∧ m.caller? d = some c

/-- An instruction that ends the nested run of a call is one on a later machine, too. -/
lemma Grows.stops {m m' : Machine} (h : m.Grows m') {c i} (hi : Stops m c i) : Stops m' c i := by
  rcases hi with hi | ⟨d, slot, hi, hd⟩
  · exact .inl hi
  · exact .inr ⟨d, slot, hi, h.caller? hd⟩

/-- This instruction is the nested run of a call, or its start. -/
def Nests (c : CallId) (i : Instr) : Prop := i = .nest c ∨ i = .pump (.call c)

/-- Somebody ends every nested run, or has done so. -/
def Stopping (m : Machine) : Prop :=
  ∀ {c : CallId} {i}, i ∈ m.agenda → Nests c i →
    m.In .uiThread c ∧ (.call c ∈ m.loop.signalled ∨ ∃ j ∈ m.agenda, Stops m c j)

section Stopping

variable {m m₁ : Machine} {u t : ThreadId} {r : Responder} {i : Instr} {rest next sent : List Instr}

/-- Where a nested run comes from: from its start, or from the offer of the call's dialog, together with the
press that ends it. -/
lemma Fires.nests (hf : Fires m t i next sent m₁) (ht : m.codes[t]? = some (i :: rest)) (hm : m.Sound)
    (h : m.Staffed u r) {c : CallId} {j : Instr} (hj : j ∈ next ∨ j ∈ sent) (hn : Nests c j) :
    Nests c i ∨ m.In .uiThread c ∧ ∃ k ∈ sent, Stops m c k := by
  rcases hn with rfl | rfl
  · right
    cases hf.leads hj with
    | @accepted _ d o _ hoffer ho haccepted =>
      have horigin : o.origin = .nested c := by simpa using haccepted
      have hcaller : m.caller? d = some c := by simp [Machine.caller?, ho, horigin, Origin.call?]
      cases hf with
      | schedulePress _ _ =>
        cases hoffer
        exact ⟨hm.in_nested ho horigin, _, List.mem_singleton_self _, .inr ⟨_, _, rfl, hcaller⟩⟩
      | keep ho' =>
        -- the responder presses a button of every prompt's dialog
        cases hoffer
        obtain ⟨front, hfront⟩ := h.front ht rfl
        cases hfront with
        | keep hd =>
          cases horigin.symm.trans (hd.origin_eq ho)
      | presentOpen _ hopen => simp [h.terminal] at hopen
      | presentInterrupt _ _ _ hshow _ _ => simp [h.overrides] at hshow
      | presentIgnored _ _ _ hshow _ _ => simp [h.overrides] at hshow
      | present _ _ _ _ => simp [h.overrides] at hj
      | acceptFailed _ hfail => simp [h.failNext] at hfail
      | schedulePressClosed _ hclosed => simp [h.opened] at hclosed
      | post _ _ | ask _ | awaitInterrupted _ _ | conclude => cases hoffer
      | _ => simp at hj
    | _ => simp_all
  · left
    cases hf.leads hj with
    | doze _ _ => exact .inr rfl
    | nestPump _ _ => exact .inl rfl
    | pump _ =>
      rcases h.op ht with ho | ⟨c, ho, -⟩ | ho <;> cases ho
    | _ => simp_all

/-- What ends the nested run of a call has done so, or leaves something that will. -/
lemma Fires.stops (hf : Fires m t i next sent m₁) (hm : m.Sound) (hi : i.Sound m) {c : CallId}
    (hu : m.In .uiThread c) (hs : Stops m c i) :
    .call c ∈ m₁.loop.signalled ∨ .op (.signal (.call c)) ∈ next := by
  rcases hs with rfl | ⟨d, slot, rfl, hd⟩
  · cases hf with
    | signal => exact .inl (List.mem_cons_self ..)
    | post ho _ => cases ho
    | postClosed ho _ => cases ho
    | noCall hi' _ => cases hi'
    | noOffer hi' _ => cases hi'
  · obtain ⟨o, ho, hslot⟩ := hi
    obtain ⟨reaction, hr⟩ := press_of_hasSlot hslot
    have horigin : o.origin.call? = some c := by simpa [Machine.caller?, ho] using hd
    obtain ⟨call, hcall, rfl⟩ := (hm.offers ho).of_call horigin
    have hx : call.context = .uiThread := hu.context_eq hcall
    cases hf with
    | pressChosen ho' hr' =>
      rw [ho] at ho'
      cases ho'
      obtain ⟨code, -, rfl⟩ := Call.offer_press hr'
      exact .inr (by simp [Reaction.code, hx])
    | pressChosenMissing ho' hr' =>
      rw [ho] at ho'
      cases ho'
      rw [hr] at hr'
      cases hr'
    | noCall hi' _ => cases hi'
    | noOffer hi' hn =>
      cases hi'
      rw [ho] at hn
      cases hn

/-- Every move of a staffed machine leaves somebody to end each nested run. -/
lemma step_stopping (mv : Move) (hm : m.Sound) (h : m.Staffed u r) (hs : m.Stopping) :
    (m.step mv).Stopping := by
  intro c j hj hn
  rcases (steps m mv).fires_or_quiet with ⟨t, i, rest, next, sent, m₁, -, ht, hf, he⟩ | hq
  · have hi : i.Sound m := hm.agenda i (mem_agenda_of_code ht (List.mem_cons_self ..))
    have hg : m.Grows (m₁.goto t (next ++ rest)) := hf.grows.trans (grows_goto ..)
    rw [he] at hj ⊢
    -- a nested run that was there before is still ended by what ended it then
    have old : ∀ {k}, k ∈ m.agenda → Nests c k → (m₁.goto t (next ++ rest)).In .uiThread c ∧
        (.call c ∈ (m₁.goto t (next ++ rest)).loop.signalled ∨
          ∃ j ∈ (m₁.goto t (next ++ rest)).agenda, Stops (m₁.goto t (next ++ rest)) c j) := by
      intro k hk hkn
      obtain ⟨hu, hends⟩ := hs hk hkn
      refine ⟨hg.in hu, ?_⟩
      rcases hends with hsignalled | ⟨l, hl, hstops⟩
      · exact .inl (hg.signalled hsignalled)
      · rcases hf.agenda_of_mem ht hl with hl | rfl
        · exact .inr ⟨l, hl, hg.stops hstops⟩
        · rcases hf.stops hm hi hu hstops with hsignalled | hnext
          · exact .inl hsignalled
          · exact .inr ⟨_, hf.agenda_of_new ht (.inl hnext), .inl rfl⟩
    rcases hf.mem_agenda ht hj with hj | hj
    · exact old hj hn
    · rcases hf.nests ht hm h hj hn with hi | ⟨hu, k, hk, hstops⟩
      · exact old (mem_agenda_of_code ht (List.mem_cons_self ..)) hi
      · exact ⟨hg.in hu, .inr ⟨k, hf.agenda_of_new ht (.inr hk), hg.stops hstops⟩⟩
  · obtain ⟨hu, hends⟩ := hs (hq.agenda.subset hj) hn
    refine ⟨hq.grows.in hu, ?_⟩
    rcases hends with hsignalled | ⟨k, hk, hstops⟩
    · exact .inl (hq.grows.signalled hsignalled)
    · rcases hq.keeps k hk with hk | ⟨t, rest, ht, -⟩
      · exact .inr ⟨k, hk, hq.grows.stops hstops⟩
      · exact absurd ht h.calm

end Stopping

/-! ### Where no thread can go on -/

/-- Only a wait for time, for a thread or for a call keeps a thread that is awake from going on. -/
lemma execInstr_none {m : Machine} {t rest i} (h : m.execInstr t rest i = none) :
    (∃ time, i = .sleepUntil time) ∨ ∃ o, i = .op o ∧ ∀ token, o ≠ .signal token := by
  cases i with
  | op o =>
    refine .inr ⟨o, rfl, ?_⟩
    rintro token rfl
    cases h
  | sleepUntil time => exact .inl ⟨time, rfl⟩
  | _ => cases h

/-- What can be left on the agenda where no thread can go on. -/
def Instr.Rests : Instr → Prop
  | .op o => ∀ c, o ≠ .signal (.call c)
  | .pump _ | .returned _ _ | .nestLeft _ | .collect _ | .await _ _ | .sleepUntil _ => True
  | _ => False

/-- What a thread comes back to can be left on the agenda. -/
lemma Below.rests {m : Machine} {u t code} (h : Below m u t code) : ∀ i ∈ code, i.Rests := by
  induction h with
  | done _ => simp
  | start _ => simp [Instr.Rests]
  | base _ => simp [Instr.Rests]
  | op ho _ ih =>
    intro i hi
    rcases List.mem_cons.1 hi with rfl | hi
    · rintro c rfl
      cases ho
    · exact ih i hi
  | nested _ _ _ ih => simpa [Instr.Rests] using ih
  | left _ _ _ _ ih => simpa [Instr.Rests] using ih
  | collect _ _ _ _ ih => simpa [Instr.Rests] using ih

/-- What a thread comes back to has no wait of a call in it. -/
lemma Below.not_await {m : Machine} {u t code c deadline} (h : Below m u t code) :
    .await c deadline ∉ code := by
  induction h <;> simp_all

/-- Only the UI thread comes back to nested runs. -/
lemma Below.of_collect {m : Machine} {u t code c} (h : Below m u t code) (hc : .collect c ∈ code) :
    t = u := by
  induction h with
  | done _ => cases hc
  | start ht => exact ht
  | base ht => exact ht
  | op _ _ ih => exact ih (by simpa using hc)
  | nested ht _ _ _ => exact ht
  | left ht _ _ _ _ => exact ht
  | collect ht _ _ _ _ => exact ht

/-- What a run of a machine served by a UI thread keeps. -/
structure Attended (m : Machine) (u : ThreadId) (r : Responder) : Prop where
  waits : m.Waits
  staffed : m.Staffed u r
  pursued : m.Pursued
  stopping : m.Stopping
  watched : m.Watched

/-- No thread can go on, and no task is left to be taken. -/
structure Stalled (m : Machine) : Prop where
  queue : m.loop.queue = []
  threads : ∀ t, m.exec t = none

/-- A program on a thread cannot go on: it waits for a thread or for a call. -/
def Blocked (m : Machine) (t : ThreadId) : Prop :=
  m.exec t = none ∧ ∃ o rest, m.codes[t]? = some (.op o :: rest)

section Stalled

variable {m : Machine} {u t : ThreadId} {r : Responder}

/-- The next instruction of a thread that cannot go on is one in which it sleeps, or another wait. -/
lemma Attended.head (h : m.Attended u r) (hstalled : m.Stalled) {i : Instr} {rest : List Instr}
    (ht : m.codes[t]? = some (i :: rest)) :
    Watch m (i :: rest) ∨ (∃ time, i = .sleepUntil time) ∨ ∃ o, i = .op o ∧ ∀ token, o ≠ .signal token := by
  rw [codes, List.getElem?_map] at ht
  obtain ⟨⟨name, code, asleep, panicked⟩, hth, rfl⟩ := Option.map_eq_some_iff.1 ht
  cases asleep with
  | true => exact .inl (h.watched hth rfl)
  | false =>
    have hnone := hstalled.threads t
    rw [exec, hth] at hnone
    exact .inr (execInstr_none hnone)

/-- What a thread that cannot go on does at the moment: nothing, or a wait off the UI thread. -/
lemma Attended.front (h : m.Attended u r) (hstalled : m.Stalled) {front below : List Instr}
    (ht : m.codes[t]? = some (front ++ below)) (hfront : Front m u r t front) :
    front = [] ∨ t ≠ u ∧ ((∃ c, front = [.await c none]) ∨ ∃ time, front = [.sleepUntil time]) := by
  cases front with
  | nil => exact .inl rfl
  | cons i front =>
    right
    rcases h.head hstalled ht with hw | ⟨time, rfl⟩ | ⟨o, rfl, ho⟩
    · cases hw with
      | loop _ => cases hfront
      | call _ =>
        cases hfront with
        | await hu _ => exact ⟨hu, .inl ⟨_, rfl⟩⟩
    · cases hfront with
      | sleepUntil hu => exact ⟨hu, .inr ⟨_, rfl⟩⟩
    · cases hfront with
      | stop _ _ => exact absurd rfl (ho _)

/-- Where no thread can go on, nothing is left on the agenda but what rests there. -/
lemma Attended.rests (h : m.Attended u r) (hstalled : m.Stalled) {i : Instr} (hi : i ∈ m.agenda) :
    i.Rests := by
  rcases mem_agenda_iff.1 hi with ⟨t, code, ht, hi⟩ | ⟨task, htask, -⟩
  · obtain ⟨front, below, rfl, hfront, hb⟩ := h.staffed.codes ht
    rcases List.mem_append.1 hi with hi | hi
    · rcases h.front hstalled ht hfront with rfl | ⟨-, ⟨c, rfl⟩ | ⟨time, rfl⟩⟩
      · cases hi
      · obtain rfl := List.mem_singleton.1 hi
        trivial
      · obtain rfl := List.mem_singleton.1 hi
        trivial
    · exact hb.rests i hi
  · rw [hstalled.queue] at htask
    cases htask

/-- Where no thread can go on, nobody waits for a call. -/
lemma Attended.not_await (h : m.Attended u r) (hstalled : m.Stalled) {c : CallId} {deadline : Option Nat} :
    .await c deadline ∉ m.agenda := by
  intro hi
  have hwaits : (Instr.await c deadline).waits c = true := by simp [Instr.waits]
  rcases mem_agenda_iff.1 hi with ⟨t, code, ht, hmem⟩ | ⟨task, htask, -⟩
  · obtain ⟨front, below, rfl, hfront, hb⟩ := h.staffed.codes ht
    rcases List.mem_append.1 hmem with hmem | hmem
    · rcases h.front hstalled ht hfront with rfl | ⟨-, ⟨c', rfl⟩ | ⟨time, rfl⟩⟩
      · cases hmem
      · cases List.mem_singleton.1 hmem
        rcases h.head hstalled ht with hw | ⟨time, ht⟩ | ⟨o, ho, -⟩
        · cases hw with
          | call hw =>
            -- a call that waits has a permit, and so somebody to notify it
            rcases h.waits.unstranded hi hwaits with hs | ⟨j, hj, hc⟩ | ⟨d, hd, hc⟩ | ⟨call, hc, hp⟩
            · exact h.rests hstalled hs
            · have hr := h.rests hstalled hj
              cases j <;> first | exact hr | exact hc
            · obtain ⟨o, ho, horigin⟩ := h.staffed.pending d hd
              simp [Machine.caller?, ho, horigin, Origin.call?] at hc
            · exact h.rests hstalled (hw hc hp)
        · cases ht
        · cases ho
      · cases List.mem_singleton.1 hmem
    · exact hb.not_await hmem
  · rw [hstalled.queue] at htask
    cases htask

/-- Where no thread can go on and no program blocks the UI thread, there is no nested run. -/
lemma Attended.not_collect (h : m.Attended u r) (hstalled : m.Stalled) (hends : ¬ m.Blocked u) {c : CallId} :
    .collect c ∉ m.agenda := by
  intro hi
  rcases mem_agenda_iff.1 hi with ⟨t, code, ht, hmem⟩ | ⟨task, htask, -⟩
  · obtain ⟨front, below, rfl, hfront, hb⟩ := h.staffed.codes ht
    rcases h.front hstalled ht hfront with rfl | ⟨hu, hfront⟩
    · rw [List.nil_append] at ht hmem
      obtain rfl := hb.of_collect hmem
      cases hb with
      | done _ => cases hmem
      | start _ => simp at hmem
      | base _ => simp at hmem
      | op _ _ => exact hends ⟨hstalled.threads _, _, _, ht⟩
      | nested _ _ _ =>
        rcases h.head hstalled ht with hw | ⟨time, he⟩ | ⟨o, he, -⟩
        · cases hw with
          | loop hw =>
            -- the nested run sleeps, but somebody has ended it or is about to
            have hmem := mem_agenda_of_code ht (List.mem_cons_self ..)
            rcases (h.stopping hmem (.inr rfl)).2 with hs | ⟨j, hj, rfl | ⟨d, slot, rfl, -⟩⟩
            · exact h.rests hstalled (hw hs)
            · exact h.rests hstalled hj _ rfl
            · exact h.rests hstalled hj
        · cases he
        · cases he
      | left _ _ _ _ =>
        rcases h.head hstalled ht with hw | ⟨time, he⟩ | ⟨o, he, -⟩
        · cases hw
        · cases he
        · cases he
      | collect _ _ _ _ =>
        rcases h.head hstalled ht with hw | ⟨time, he⟩ | ⟨o, he, -⟩
        · cases hw
        · cases he
        · cases he
    · have hbelow : .collect c ∈ below := by
        rcases hfront with ⟨c', rfl⟩ | ⟨time, rfl⟩ <;> simpa using hmem
      exact hu (hb.of_collect hbelow)
  · rw [hstalled.queue] at htask
    cases htask

/-- Where no thread can go on and no program blocks the UI thread, all calls have returned. -/
lemma Attended.returned (h : m.Attended u r) (hstalled : m.Stalled) (hends : ¬ m.Blocked u) {c : CallId}
    {call : Call} (hc : m.calls[c]? = some call) : ∃ o, call.outcome = some o := by
  cases hnone : call.outcome with
  | some o => exact ⟨o, rfl⟩
  | none =>
    obtain ⟨i, hi, hp | ⟨-, rfl | hcreates⟩⟩ := h.pursued hc hnone
    · have hr := h.rests hstalled hi
      cases i with
      | await c' deadline => exact absurd hi (h.not_await hstalled)
      | collect c' => exact absurd hi (h.not_collect hstalled hends)
      | schedule | beginWait | deactivate | resolve => exact False.elim hr
      | _ => cases hp
    · exact False.elim (h.rests hstalled hi)
    · have hr := h.rests hstalled hi
      cases i <;> first | exact False.elim hr | exact False.elim hcreates

end Stalled

/-! ### Agreement -/

/-- The responder presses a button that the dialog of a specification has. -/
def Responder.Names (r : Responder) (spec : Spec) : Prop :=
  ∃ slot, r.choose (spec.dialog id) = some slot ∧ (spec.dialog id).hasSlot slot = true

/-- A responder that names a button of a specification answers it. -/
lemma Responder.Names.answers {r : Responder} {spec : Spec} (h : r.Names spec) :
    ∃ code, r.Answers spec code := by
  obtain ⟨slot, hchoose, hslot⟩ := h
  obtain ⟨b, hb, he⟩ := List.any_eq_true.1 hslot
  obtain ⟨code, hcode, -⟩ := spec.dialog_button id hb
  have hb : b.slot = slot := by simpa using he
  exact ⟨code, slot, hchoose, hb ▸ hcode⟩

/-- A headless machine as its UI thread starts: thread `u` owns the loop and is about to run it, the other
threads and the tasks hold tame programs, and the responder names a button of every prompt's dialog. -/
structure Manned (m : Machine) (u : ThreadId) (r : Responder) : Prop where
  fresh : m.Fresh
  terminal : m.terminal = none
  overrides : m.overrides = {}
  ui : m.codes[u]? = some (load [.run .ui false])
  owner : m.loop.owner = some u
  opened : m.loop.closed = false
  signalled : ∀ token ∈ m.loop.signalled, ∃ name, token = .named name
  responder : m.desk.responder = r
  failNext : m.desk.failNext = none
  prompts : ∀ q ∈ m.prompts, q.prompt.options.waitLimit = none ∧ r.Names q.prompt.spec
  programs : ∀ {t : ThreadId} {code : List Instr} {o}, t ≠ u → m.codes[t]? = some code → .op o ∈ code → o.Tame
  tasks : ∀ {task : Task} {o}, task ∈ m.loop.queue → .op o ∈ task → o.Tame

/-- A machine as its UI thread starts is staffed. -/
lemma Manned.staffed {m : Machine} {u r} (h : m.Manned u r) : m.Staffed u r where
  present := (List.getElem?_eq_some_iff.1 h.ui).1
  owner := h.owner
  opened := h.opened
  responder := h.responder
  failNext := h.failNext
  terminal := h.terminal
  overrides := h.overrides
  prompts hq := (h.prompts _ (List.mem_of_getElem? hq)).imp_right Responder.Names.answers
  calls hc := by simp [h.fresh.calls] at hc
  signalled token hs := .inl (h.signalled token hs)
  scripts hd := by simp [h.fresh.dialogs] at hd
  pending d hd := by simp [h.fresh.pending] at hd
  codes {t code} ht := by
    obtain ⟨body, rfl⟩ := h.fresh.codes code (List.mem_of_getElem? ht)
    by_cases hu : t = u
    · subst hu
      rw [h.ui] at ht
      rw [← Option.some.inj ht]
      exact .below (.start rfl)
    · have hbody : ∀ o ∈ body, Op.Tame o := fun o ho => h.programs hu ht (mem_load.2 ⟨o, ho, rfl⟩)
      have hbelow : Below m u t (load body ++ []) := .load hbody (.done hu)
      exact .below (by simpa using hbelow)
  queue task hq := by
    obtain ⟨body, rfl⟩ := h.fresh.queue task hq
    exact .program fun o ho => h.tasks hq (mem_load.2 ⟨o, ho, rfl⟩)

/-- A machine as its UI thread starts is attended. -/
lemma Manned.attended {m : Machine} {u r} (h : m.Manned u r) : m.Attended u r where
  waits := h.fresh.waits h.terminal h.overrides
  staffed := h.staffed
  pursued hc := by simp [h.fresh.calls] at hc
  stopping hi hn := by
    obtain ⟨o, rfl⟩ := h.fresh.agenda hi
    rcases hn with hn | hn <;> cases hn
  watched ht hs := by
    rw [h.fresh.awake _ (List.mem_of_getElem? ht)] at hs
    cases hs

/-- Every move keeps a machine attended. -/
lemma step_attended {m : Machine} {u r} (mv : Move) (h : m.Attended u r) : (m.step mv).Attended u r := by
  exact ⟨step_waits mv h.waits, step_staffed mv h.waits.sound h.staffed,
    step_pursued mv h.waits.sound h.staffed.calm h.pursued,
    step_stopping mv h.waits.sound h.staffed h.stopping, step_watched mv h.staffed h.watched⟩

/-- The outcome that the responder gives to a specification: the action whose code the layout gives to the
slot it chooses. -/
def Responder.Decides (r : Responder) (spec : Spec) (o : Outcome) : Prop :=
  ∃ slot code, r.choose (spec.dialog id) = some slot ∧ (slot, code) ∈ Slot.layout spec.actions.length ∧
    o.isAction = true ∧ o.code = code

/-- Every call on a machine that a UI thread serves, on that thread or on another and in whatever order the
threads move, returns the action of the slot that the responder chooses, so that calls with one specification
return one outcome; and where no task is left, no thread can go on and no program blocks the UI thread, every
call has returned. -/
theorem paths_agree {m : Machine} {u : ThreadId} {r : Responder} (hm : m.Manned u r) (moves : List Move) :
    (∀ {c : CallId} {call : Call} {o}, (m.play moves).calls[c]? = some call → call.outcome = some o →
      r.Decides call.spec o) ∧
    (∀ {c c' : CallId} {call call' : Call} {o o'}, (m.play moves).calls[c]? = some call →
      (m.play moves).calls[c']? = some call' → call.spec = call'.spec → call.outcome = some o →
      call'.outcome = some o' → o = o') ∧
    ((m.play moves).Stalled → ¬ (m.play moves).Blocked u →
      ∀ {c : CallId} {call : Call}, (m.play moves).calls[c]? = some call → ∃ o, call.outcome = some o) := by
  have h : (m.play moves).Attended u r :=
    play_induction (P := fun m => m.Attended u r) hm.attended (fun _ mv h => step_attended mv h) moves
  refine ⟨fun {c call o} hc ho => ?_, fun {c c' call call' o o'} hc hc' hspec ho ho' => ?_, ?_⟩
  · obtain ⟨code, ⟨slot, hchoose, hl⟩, rfl⟩ := (h.staffed.calls hc).outcome ho
    exact ⟨slot, code, hchoose, hl, Slot.outcome_of_layout hl⟩
  · obtain ⟨code, ⟨slot, hchoose, hl⟩, rfl⟩ := (h.staffed.calls hc).outcome ho
    obtain ⟨code', ⟨slot', hchoose', hl'⟩, rfl⟩ := (h.staffed.calls hc').outcome ho'
    rw [← hspec] at hchoose' hl' ⊢
    rw [hchoose] at hchoose'
    cases hchoose'
    rw [Slot.layout_code_unique hl hl']
  · exact fun hstalled hends _ _ hc => h.returned hstalled hends hc

/-- Two tasks ask on the UI thread, the second one inside the nested run of the first, and a worker asks
beside them. -/
def threeCallers : Machine :=
  { start [[.run .ui false], [.ask 0 (.caller 0)]]
      [{ spec := saveSpec }] (.press .negative) with
    loop := { owner := some 0, queue := [load [.ask 0 (.caller 1)], load [.ask 0 (.caller 2)]] } }

/-- The worker waits until the UI thread has worked off its tasks. -/
def workedOff : List Move :=
  List.replicate 5 (.exec 1) ++ List.replicate 58 (.exec 0) ++ List.replicate 3 (.exec 1)

/-- The machine of the three callers is as its UI thread starts, and every dialog has the button that the responder
presses. -/
lemma threeCallers_manned : threeCallers.Manned 0 (.press .negative) where
  fresh := (start_fresh ..).withLoop 0 [[.ask 0 (.caller 1)], [.ask 0 (.caller 2)]]
  terminal := rfl
  overrides := rfl
  ui := rfl
  owner := rfl
  opened := rfl
  signalled := nofun
  responder := rfl
  failNext := rfl
  prompts q hq := by
    obtain rfl := List.mem_singleton.1 hq
    exact ⟨rfl, .negative, rfl, by decide⟩
  programs {t code o} ht hcode ho := by
    rcases t with - | - | t
    · exact absurd rfl ht
    · cases hcode
      obtain rfl : .ask 0 (.caller 0) = o := by simpa using ho
      exact .ask
    · cases hcode
  tasks {task o} htask ho := by
    simp only [threeCallers, List.mem_cons, List.not_mem_nil, or_false] at htask
    obtain rfl | rfl := htask
    all_goals
      obtain rfl := by simpa using ho
      exact .ask

/-- Where all of them have come to rest, the three have returned what the responder presses. -/
theorem paths_agree_threeCallers :
    (threeCallers.play workedOff).calls.length = 3 ∧
      ∀ {c : CallId} {call : Call}, (threeCallers.play workedOff).calls[c]? = some call →
        ∃ o, call.outcome = some o ∧ (Responder.press .negative).Decides call.spec o := by
  obtain ⟨hdecides, -, hreturned⟩ := paths_agree threeCallers_manned workedOff
  have hthreads : (threeCallers.play workedOff).threads =
      [⟨"", [.pump .ui, .returned .ui false], true, false⟩, ⟨"", [], false, false⟩] := by cbv
  have hstalled : (threeCallers.play workedOff).Stalled := by
    refine ⟨by cbv, fun t => ?_⟩
    rcases t with - | - | t <;> simp [exec, hthreads]
  have hends : ¬ (threeCallers.play workedOff).Blocked 0 := by
    rintro ⟨-, o, rest, hop⟩
    simp [codes, hthreads] at hop
  refine ⟨by cbv, fun hc => ?_⟩
  obtain ⟨o, ho⟩ := hreturned hstalled hends hc
  exact ⟨o, ho, hdecides hc ho⟩

end MessageBox.Machine

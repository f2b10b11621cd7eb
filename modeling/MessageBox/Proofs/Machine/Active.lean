import MessageBox.Proofs.Machine.Phases

/-!
# The call that an interruption reaches

An interruption of a prompt reaches the call that is registered as its active one. A call is registered before
anything else happens to it (`Heralded`), and it is not registered any longer when it returns, so whichever call
is registered is in progress (`Registered`). Nothing is said about calls that overlap: the later one is registered
in the place of the earlier one, and whichever of them ends first leaves the prompt without a registered call.
-/

namespace MessageBox.Machine

/-- A call of a prompt has started and has not returned. -/
def InProgress (m : Machine) (p : PromptId) (c : CallId) : Prop :=
  ∃ call, m.calls[c]? = some call ∧ call.prompt = p ∧ call.outcome = none

/-! ### Registration comes first -/

/-- Whether an instruction makes a call the active one of its prompt. -/
def Instr.activates : Instr → Bool
  | .activate _ => true
  | _ => false

/-- The first step of a call does not register it. -/
lemma Context.first_activates (c : CallId) (x : Context) : (x.first c).activates = false := by
  cases x <;> rfl

/-- Code that registers no call, or a call on its very start, before the call's own first step. -/
inductive Heralds (m : Machine) : List Instr → Prop where
  | none {code} :
    (∀ j ∈ code, j.activates = false) →
    Heralds m code
  | start {c : CallId} {call : Call} {rest} :
    m.calls[c]? = some call →
    (∀ j ∈ rest, j.activates = false) →
    Heralds m (.activate c :: call.context.first c :: rest)

/-- Behind the next instruction, no code registers a call. -/
lemma Heralds.tail {m : Machine} {i rest} (h : Heralds m (i :: rest)) : ∀ j ∈ rest, j.activates = false := by
  cases h with
  | none h => exact fun j hj => h j (List.mem_cons_of_mem _ hj)
  | @start c call rest _ h =>
    intro j hj
    rcases List.mem_cons.1 hj with rfl | hj
    · exact Context.first_activates ..
    · exact h j hj

/-- A call that is about to be registered on its very start is so on a later machine. -/
lemma Grows.heralds {m m' : Machine} (h : m.Grows m') {code} (hc : Heralds m code) : Heralds m' code := by
  cases hc with
  | none hn => exact .none hn
  | start hcall hn =>
    obtain ⟨call', hcall', hcont⟩ := h.calls hcall
    rw [← hcont.context]
    exact .start hcall' hn

/-- Calls are registered on their very start only. -/
structure Heralded (m : Machine) : Prop where
  codes : ∀ {t : ThreadId} {code}, m.codes[t]? = some code → Heralds m code
  queue : ∀ task ∈ m.loop.queue, ∀ j ∈ task, j.activates = false

/-- A registration comes from the start of a call. -/
lemma Fires.activates {m m₁ : Machine} {t i next sent j} (hf : Fires m t i next sent m₁)
    (hj : j ∈ next ∨ j ∈ sent) (ha : j.activates = true) :
    sent = [] ∧ ∃ c call, m₁.calls[c]? = some call ∧ next = [.activate c, call.context.first c] := by
  cases j with
  | activate c =>
    cases hf.leads hj with
    | activate hq =>
      cases hf with
      | ask _ => exact ⟨rfl, _, _, List.getElem?_concat_length, rfl⟩
      | askUnknown hn =>
        rw [hq] at hn
        cases hn
      | post ho _ | postClosed ho _ => cases ho
      | noCall hi _ | noOffer hi _ => cases hi
    | _ => simp_all
  | _ => cases ha

/-- Every move leaves registrations to the very start of calls. -/
lemma step_heralded {m : Machine} (mv : Move) (h : m.Heralded) : (m.step mv).Heralded := by
  have hg := step_grows m mv
  have hs := steps m mv
  generalize m.step mv = m' at hs hg
  -- code that other threads leave alone
  have kept : ∀ {u : ThreadId} {code}, m.codes[u]? = some code → Heralds m' code :=
    fun hu => hg.heralds (h.codes hu)
  cases hs with
  | stuck _ => exact h
  | @fires t th i rest next sent m₁ hth hcode _ hf =>
    have ht : m.codes[t]? = some (i :: rest) := hcode ▸ codes_getElem? hth
    have hrest := (h.codes ht).tail
    constructor
    case codes =>
      intro u code hu
      rcases hf.codes_after ht hu with ⟨rfl, rfl⟩ | hold | ⟨-, hspawn⟩
      · by_cases hex : ∃ j ∈ next, j.activates = true
        · obtain ⟨j, hj, ha⟩ := hex
          obtain ⟨-, c, call, hcall, rfl⟩ := hf.activates (.inl hj) ha
          exact .start hcall hrest
        · refine .none fun j hj => ?_
          rcases List.mem_append.1 hj with hj | hj
          · exact Bool.eq_false_iff.2 fun ha => hex ⟨j, hj, ha⟩
          · exact hrest j hj
      · exact kept hold
      · refine .none fun j hj => ?_
        rcases hspawn.mem hj with ⟨o, rfl⟩ | ⟨time, rfl⟩ <;> rfl
    case queue =>
      intro task htask j hj
      rcases hf.queue_after htask with hold | ⟨rfl, -⟩
      · exact h.queue task hold j hj
      · refine Bool.eq_false_iff.2 fun ha => ?_
        obtain ⟨rfl, -⟩ := hf.activates (.inr hj) ha
        cases hj
  | @takes t th token rest task queue hth hcode _ _ hq =>
    have ht : m.codes[t]? = some (.pump token :: rest) := hcode ▸ codes_getElem? hth
    have hrest := (h.codes ht).tail
    have htask : ∀ task' ∈ task :: queue, ∀ j ∈ task', j.activates = false := hq ▸ h.queue
    constructor
    case codes =>
      intro u code hu
      by_cases htu : t = u
      · subst htu
        rw [codes_goto_self (m := m.taken t task queue) ht] at hu
        cases hu
        refine .none fun j hj => ?_
        simp only [List.mem_append, List.mem_cons] at hj
        rcases hj with hj | rfl | hj
        · exact htask task (List.mem_cons_self ..) j hj
        · rfl
        · exact hrest j hj
      · rw [codes_goto_other htu] at hu
        exact kept hu
    case queue => exact fun task' h' => htask task' (List.mem_cons_of_mem _ h')
  | @panics t th rest hth hcode _ =>
    have ht : m.codes[t]? = some (.op .panic :: rest) := hcode ▸ codes_getElem? hth
    have hrest := (h.codes ht).tail
    obtain ⟨threads, depth, history, he, -⟩ := panic_eq m t rest
    constructor
    case codes =>
      intro u code hu
      rw [codes_panic] at hu
      by_cases htu : t = u
      · subst htu
        rw [List.getElem?_set_self (List.getElem?_eq_some_iff.1 ht).1] at hu
        cases hu
        refine .none fun j hj => ?_
        rcases List.mem_cons.1 ((caught_sublist rest).subset hj) with rfl | hj
        · rfl
        · exact hrest j hj
      · rw [List.getElem?_set_ne htu] at hu
        exact kept hu
    case queue =>
      rw [he]
      exact h.queue
  | rouse => exact ⟨fun hu => kept (codes_rouse m _ ▸ hu), h.queue⟩
  | pass => exact ⟨kept, h.queue⟩

/-- On a fresh machine no call is about to be registered. -/
lemma Fresh.heralded {m : Machine} (hm : m.Fresh) : m.Heralded where
  codes {t code} ht := by
    obtain ⟨body, rfl⟩ := hm.codes code (List.mem_of_getElem? ht)
    refine .none fun j hj => ?_
    obtain ⟨o, -, rfl⟩ := mem_load.1 hj
    rfl
  queue task htask j hj := by
    obtain ⟨body, rfl⟩ := hm.queue task htask
    obtain ⟨o, -, rfl⟩ := mem_load.1 hj
    rfl

/-! ### Whoever is registered is in progress -/

/-- Registering a call for a prompt changes whom interruptions of this prompt reach, and of no other one. -/
lemma reach_setActive (m : Machine) (p q : PromptId) (active : Option CallId) :
    (m.setActive q active).reach p = if q = p then m.prompts[p]?.bind fun _ => active else m.reach p := by
  simp only [reach, setActive, List.getElem?_modify]
  split
  · cases m.prompts[p]? <;> rfl
  · cases m.prompts[p]? <;> rfl

/-- A registered call was registered before, and none of its prompt has ended just now, or it is registered
just now. -/
lemma Fires.reach {m m₁ : Machine} {t i next sent} {p : PromptId} {c : CallId}
    (hf : Fires m t i next sent m₁) (hr : m₁.reach p = some c) :
    (m.reach p = some c ∧ ∀ d o call, i = .deactivate d o → m.calls[d]? = some call → call.prompt ≠ p) ∨
      ∃ call, i = .activate c ∧ m.calls[c]? = some call ∧ call.prompt = p := by
  cases hf with
  | @activate c' call hcall =>
    rw [reach_setActive] at hr
    split at hr
    · next hp =>
      obtain ⟨_, -, he⟩ := Option.bind_eq_some_iff.1 hr
      cases he
      exact .inr ⟨call, rfl, hcall, hp⟩
    · exact .inl ⟨hr, by simp⟩
  | @deactivate c' o call hcall =>
    rw [reach_setActive] at hr
    split at hr
    · simp at hr
    · next hp =>
      refine .inl ⟨hr, fun d o' call' he hcall' => ?_⟩
      cases he
      rw [hcall] at hcall'
      cases hcall'
      exact hp
  | noCall hi hn =>
    refine .inl ⟨hr, fun d o call he hcall => ?_⟩
    subst he
    cases hi
    rw [hn] at hcall
    cases hcall
  | noOffer hi _ => exact .inl ⟨hr, fun d o call he _ => by subst he; cases hi⟩
  | _ => exact .inl ⟨by first | exact hr | simpa [Machine.reach, note_eq, tellProgram_eq, enqueue, emit] using hr,
      by simp⟩

/-- Whichever call is registered for a prompt is one of its calls, and neither has it returned nor is it about
to. -/
def Registered (m : Machine) : Prop :=
  ∀ {p : PromptId} {c : CallId}, m.reach p = some c →
    m.InProgress p c ∧ ∀ o, .resolve c o ∉ m.agenda

/-- A call in progress has no outcome yet. -/
lemma InProgress.returned {m : Machine} {p c} (h : m.InProgress p c) : m.returned? c = none := by
  obtain ⟨call, hc, -, ho⟩ := h
  simp [returned?, hc, ho]

/-- A call stays in progress until it has an outcome. -/
lemma Grows.inProgress {m m' : Machine} (h : m.Grows m') {p c} (hc : m.InProgress p c)
    (hr : m'.returned? c = none) : m'.InProgress p c := by
  obtain ⟨call, hcall, hp, -⟩ := hc
  obtain ⟨call', hcall', hcont⟩ := h.calls hcall
  refine ⟨call', hcall', hcont.prompt.trans hp, ?_⟩
  simpa [returned?, hcall'] using hr

/-- Who goes on with a call on the UI thread is one instruction. -/
lemma Sole.unique {m : Machine} (h : m.Sole) {c : CallId} (hc : m.In .uiThread c) {i j : Instr}
    (hi : i ∈ m.agenda) (hj : j ∈ m.agenda) (his : i.serves m c = true) (hjs : j.serves m c = true) :
    i = j := by
  obtain ⟨a, ha⟩ := List.mem_iff_getElem?.1 hi
  obtain ⟨b, hb⟩ := List.mem_iff_getElem?.1 hj
  have hle : m.agenda.countP (Instr.serves m c) ≤ 1 := Nat.le_trans (Nat.le_add_right ..) (h c hc)
  have hab := eq_of_countP_le_one hle ha hb his hjs
  subst hab
  rw [ha] at hb
  cases hb
  rfl

/-- What is known of calls and their registration. -/
structure Ordered (m : Machine) : Prop where
  sound : m.Sound
  single : m.Single
  sole : m.Sole
  heralded : m.Heralded
  registered : m.Registered

/-- A call whose first step is still to come has not returned, and is not about to. -/
lemma Ordered.first {m : Machine} (hm : m.Ordered) {c : CallId} {call : Call} (hc : m.calls[c]? = some call)
    (hfirst : call.context.first c ∈ m.agenda) : m.returned? c = none ∧ ∀ o, .resolve c o ∉ m.agenda := by
  cases hx : call.context with
  | uiThread =>
    rw [hx] at hfirst
    have hui : m.In .uiThread c := ⟨call, hc, hx⟩
    have hs : (Context.uiThread.first c).serves m c = true := by
      simp [Context.first, Instr.serves, Instr.offers]
    refine ⟨hm.sole.not_returned hui hfirst hs, fun o ho => ?_⟩
    cases hm.sole.unique hui hfirst ho hs (by simp [Instr.serves])
  | worker =>
    rw [hx] at hfirst
    have hw : m.In .worker c := ⟨call, hc, hx⟩
    have hp : (Context.worker.first c).pursues c = true := by simp [Context.first, Instr.pursues]
    refine ⟨hm.single.not_returned hw hfirst hp, fun o ho => ?_⟩
    cases hm.single.unique hw hfirst ho hp (by simp [Instr.pursues])

/-- Every move keeps the registered calls among those in progress. -/
lemma step_registered {m : Machine} (mv : Move) (hm : m.Ordered) : (m.step mv).Registered := by
  intro p c hr
  have hg := step_grows m mv
  rcases (steps m mv).fires_or_quiet with ⟨t, i, rest, next, sent, m₁, -, ht, hf, he⟩ | hq
  · rw [he] at hr hg ⊢
    rcases hf.reach hr with ⟨hreach, hend⟩ | ⟨call, rfl, hcall, rfl⟩
    · obtain ⟨hin, hresolve⟩ := hm.registered hreach
      have hmem : i ∈ m.agenda := mem_agenda_of_code ht (List.mem_cons_self ..)
      constructor
      · refine hg.inProgress hin ?_
        show m₁.returned? c = none
        obtain hsame | ⟨o, rfl, -, -, -⟩ := hf.returned? c
        · rw [hsame, hin.returned]
        · exact absurd hmem (hresolve o)
      · intro o ho
        rcases hf.mem_agenda ht ho with ho | ho
        · exact hresolve o ho
        · -- the call would have ended, and its prompt would be left without a registered call
          obtain ⟨call, hcall, hp, -⟩ := hin
          exact hend c o call (hf.leads ho).of_resolve hcall hp
    · -- the call's first step comes next on the thread
      have hfirst : call.context.first c ∈ m.agenda := by
        have hher := hm.heralded.codes ht
        cases hher with
        | none hn => cases hn _ (List.mem_cons_self ..)
        | start hcall' _ =>
          rw [hcall] at hcall'
          cases hcall'
          exact mem_agenda_of_code ht (by simp)
      obtain ⟨hnot, hresolve⟩ := hm.first hcall hfirst
      have hin : m.InProgress call.prompt c := ⟨call, hcall, rfl, by simpa [returned?, hcall] using hnot⟩
      constructor
      · refine hg.inProgress hin ?_
        show m₁.returned? c = none
        obtain hsame | ⟨o, h, -⟩ := hf.returned? c
        · rw [hsame, hnot]
        · cases h
      · intro o ho
        rcases hf.mem_agenda ht ho with ho | ho
        · exact hresolve o ho
        · cases (hf.leads ho).of_resolve
  · obtain ⟨hin, hresolve⟩ := hm.registered (p := p) (c := c) (by simpa [reach, hq.prompts] using hr)
    refine ⟨hg.inProgress hin ?_, fun o ho => hresolve o (hq.agenda.subset ho)⟩
    rw [← hin.returned]
    simp [returned?, hq.calls]

/-- Every move keeps what is known of calls and their registration. -/
lemma step_ordered {m : Machine} (mv : Move) (hm : m.Ordered) : (m.step mv).Ordered where
  sound := step_sound mv hm.sound
  single := step_single mv hm.sound hm.single
  sole := step_sole mv hm.sound hm.sole
  heralded := step_heralded mv hm.heralded
  registered := step_registered mv hm

/-- On a fresh machine no call is registered, as there are none. -/
lemma Fresh.ordered {m : Machine} (hm : m.Fresh) : m.Ordered where
  sound := hm.sound
  single c := by
    rintro ⟨call, hc, -⟩
    simp [hm.calls] at hc
  sole c := by
    rintro ⟨call, hc, -⟩
    simp [hm.calls] at hc
  heralded := hm.heralded
  registered {p c} hr := by
    obtain ⟨q, hq, he⟩ := Option.bind_eq_some_iff.1 hr
    rw [hm.active q (List.mem_of_getElem? hq)] at he
    cases he

end MessageBox.Machine

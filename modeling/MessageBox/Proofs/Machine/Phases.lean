import MessageBox.Proofs.Machine.Activations
import MessageBox.Proofs.Machine.UiCalls

/-!
# The course of a call on the UI thread

A call on the UI thread goes through its phases on the control stack of the thread that asked, above the code
that its caller left there (`Serving`): it offers its dialog, and when the toolkit has taken it, it runs the
loop, reads its handoff and returns. Only while it runs the loop is there anything on top of it. A move takes
the call to its next phase, or the call returns to that code (`Serving.step`), unless a task panics.

Meanwhile the history notes that the nested run is entered and left, each once (`entries`, `exits`).
-/

namespace MessageBox.Machine

/-! ### Nested runs in the history -/

/-- Whether an event tells of the nested run of a call. -/
def Event.ofNest : Event → Bool
  | .nestEntered _ | .nestLeft _ => true
  | _ => false

/-- What was told of nested runs, oldest first. -/
def nestings (m : Machine) : List Event := (m.history.toList.map Prod.snd).filter Event.ofNest

/-- Whether a call enters its nested run in an event. -/
def Event.enters (c : CallId) : Event → Bool
  | .nestEntered c' => c' == c
  | _ => false

/-- Whether a call leaves its nested run in an event. -/
def Event.leaves (c : CallId) : Event → Bool
  | .nestLeft c' => c' == c
  | _ => false

/-- How often a call has entered its nested run. -/
def entries (m : Machine) (c : CallId) : Nat := m.nestings.countP (Event.enters c)

/-- How often a call has left its nested run. -/
def exits (m : Machine) (c : CallId) : Nat := m.nestings.countP (Event.leaves c)

/-- What an instruction tells of nested runs. -/
def Instr.nesting : Instr → List Event
  | .nest c => [.nestEntered c]
  | .nestLeft c => [.nestLeft c]
  | _ => []

/-- An instruction adds to what was told of nested runs what it tells itself. -/
lemma Fires.nestings {m m₁ : Machine} {t i next sent} (h : Fires m t i next sent m₁) :
    m₁.nestings = m.nestings ++ i.nesting := by
  have none : i.nesting = [] → m₁.nestings = m.nestings → m₁.nestings = m.nestings ++ i.nesting := by
    intro hi he
    rw [hi, he, List.append_nil]
  cases h with
  | @noCall i c hi _ => exact none (by cases i <;> first | rfl | cases hi) rfl
  | @noOffer i d hi _ => exact none (by cases i <;> first | rfl | cases hi) rfl
  | nestFailed _ | nestForeign _ _ | nestLeft =>
    simp [Machine.nestings, emit, Event.ofNest, Instr.nesting]
  | nest _ _ => simp [Machine.nestings, emit, Event.ofNest, Instr.nesting, List.filter_cons]
  | keyClosed _ _ | key _ _ | conclude => exact none rfl (told_note _ _ _ fun _ => rfl)
  | acceptFailed _ _ | keep _ | schedulePressClosed _ _ =>
    exact none rfl (told_tellProgram _ _ _ _ fun _ => rfl)
  | presentOpen _ _ | schedulePress _ _ =>
    refine none rfl ((told_tellProgram _ _ _ _ fun _ => rfl).trans ?_)
    simp [Machine.nestings, emit, enqueue, Event.ofNest]
  | _ => exact none rfl (by first | rfl | simp [Machine.nestings, emit, enqueue, modifyCall, Event.ofNest])

/-- A call enters its nested run as often as the instruction tells. -/
lemma Fires.entries {m m₁ : Machine} {t i next sent} (hf : Fires m t i next sent m₁) (c : CallId) :
    m₁.entries c = m.entries c + i.nesting.countP (Event.enters c) := by
  rw [Machine.entries, hf.nestings, List.countP_append, Machine.entries]

/-- A call leaves its nested run as often as the instruction tells. -/
lemma Fires.exits {m m₁ : Machine} {t i next sent} (hf : Fires m t i next sent m₁) (c : CallId) :
    m₁.exits c = m.exits c + i.nesting.countP (Event.leaves c) := by
  rw [Machine.exits, hf.nestings, List.countP_append, Machine.exits]

/-- A quiet move tells nothing of nested runs. -/
lemma Quiet.nestings {m m' : Machine} (h : Quiet m m') : m'.nestings = m.nestings := by
  rcases h.history with he | ⟨t, e, he, ⟨task, rfl⟩ | ⟨token, depth, rfl⟩⟩
  · rw [Machine.nestings, he, Machine.nestings]
  · simp [Machine.nestings, he, Event.ofNest]
  · simp [Machine.nestings, he, Event.ofNest]

/-- Whatever a move tells of nested runs, its instruction tells. -/
lemma step_nestings (m : Machine) (mv : Move) :
    (m.step mv).nestings = m.nestings ∨
      ∃ t i rest, mv = .exec t ∧ m.codes[t]? = some (i :: rest) ∧
        (m.step mv).nestings = m.nestings ++ i.nesting := by
  rcases (steps m mv).fires_or_quiet with ⟨_, i, _, _, _, m₁, ⟨t, th, rest, rfl, hth, hcode, -⟩, -, hf, he⟩ | hq
  · exact .inr ⟨t, i, rest, rfl, hcode ▸ codes_getElem? hth, he ▸ hf.nestings⟩
  · exact .inl hq.nestings

/-- How often a call has left its nested run never decreases. -/
lemma Grows.exits {m m' : Machine} (h : m.Grows m') (c : CallId) : m.exits c ≤ m'.exits c :=
  (((h.history.map Prod.snd).filter Event.ofNest).sublist).countP_le

/-- Whether an instruction leaves the nested run of a call. -/
def Instr.leaves (c : CallId) : Instr → Bool
  | .nestLeft c' => c' == c
  | _ => false

/-- An instruction that leaves the nested run of a call tells so once, and no other instruction does. -/
lemma Instr.nesting_leaves (i : Instr) (c : CallId) :
    i.nesting.countP (Event.leaves c) = [i].countP (Instr.leaves c) := by
  cases i <;> rfl

/-- A call that enters its nested run is going to leave it, and no other. -/
lemma Fires.leaves {m m₁ : Machine} {t i next sent} (hf : Fires m t i next sent m₁) (c : CallId) :
    next.countP (Instr.leaves c) + sent.countP (Instr.leaves c) ≤ i.nesting.countP (Event.enters c) := by
  by_cases hex : ∃ j, (j ∈ next ∨ j ∈ sent) ∧ j.leaves c = true
  · obtain ⟨j, hj, hl⟩ := hex
    cases j with
    | nestLeft c' =>
      obtain rfl : c' = c := by simpa [Instr.leaves] using hl
      cases hf.leads hj with
      | nestLeft =>
        cases hf with
        | nestFailed _ | nest _ _ | nestForeign _ _ => simp [Instr.leaves, Instr.nesting, Event.enters]
        | noCall h _ => cases h
        | noOffer h _ => cases h
      | _ => simp_all
    | _ => cases hl
  · obtain ⟨hnext, hsent⟩ := countP_eq_zero_of_not hex
    rw [hnext, hsent]
    exact Nat.zero_le _

/-- Whoever is going to leave a nested run or has left it has entered it, and calls that are yet to come have
not. -/
def Entered (m : Machine) : Prop :=
  ∀ c, m.agenda.countP (Instr.leaves c) + m.exits c ≤ m.entries c ∧ (m.calls.length ≤ c → m.entries c = 0)

/-- Every move keeps that nested runs are entered before they are left. -/
lemma step_entered {m : Machine} (mv : Move) (hm : m.Sound) (h : m.Entered) : (m.step mv).Entered := by
  intro c
  obtain ⟨hle, hnew⟩ := h c
  rcases (steps m mv).fires_or_quiet with ⟨t, i, rest, next, sent, m₁, -, ht, hf, he⟩ | hq
  · have hcount := hf.countP ht (Instr.leaves c)
    have hleaves := hf.leaves c
    have hnesting := i.nesting_leaves c
    have hentries : (m₁.goto t (next ++ rest)).entries c = _ := hf.entries c
    have hexits : (m₁.goto t (next ++ rest)).exits c = _ := hf.exits c
    rw [he, hentries, hexits]
    refine ⟨by omega, fun hc => ?_⟩
    have hlt : m.calls.length ≤ (m₁.goto t (next ++ rest)).calls.length := hf.grows.calls_length
    rw [hnew (Nat.le_trans hlt hc), Nat.zero_add]
    -- whoever enters is there
    cases i with
    | nest c' =>
      obtain ⟨call, hcall, -⟩ := hm.agenda _ (mem_agenda_of_code ht (List.mem_cons_self ..))
      have hc' : c' < m.calls.length := (List.getElem?_eq_some_iff.1 hcall).1
      have hne : c' ≠ c := Nat.ne_of_lt (Nat.lt_of_lt_of_le hc' (Nat.le_trans hlt hc))
      simp [Instr.nesting, Event.enters, hne]
    | _ => rfl
  · have hagenda := hq.agenda.countP_le (Instr.leaves c)
    rw [entries, exits, hq.nestings, hq.calls]
    exact ⟨Nat.le_trans (Nat.add_le_add_right hagenda _) hle, hnew⟩

/-- On a fresh machine no nested run was entered, and nobody is about to leave one. -/
lemma Fresh.entered {m : Machine} (hm : m.Fresh) : m.Entered := by
  intro c
  have hnestings : m.nestings = [] := by simp [Machine.nestings, hm.history]
  have hagenda : m.agenda.countP (Instr.leaves c) = 0 := by
    refine List.countP_eq_zero.2 fun i hi hl => ?_
    obtain ⟨o, rfl⟩ := hm.agenda hi
    cases hl
  simp [entries, exits, hnestings, hagenda]

/-! ### Who goes on with a call -/

/-- Who goes on with a call goes on with it on one thread. -/
lemma Sole.thread {m : Machine} (h : m.Sole) {c : CallId} (hu : m.In .uiThread c) {t u : ThreadId}
    {i j code code'} (ht : m.codes[t]? = some code) (hi : i ∈ code) (his : i.serves m c = true)
    (hcode : m.codes[u]? = some code') (hj : j ∈ code') (hjs : j.serves m c = true) : t = u := by
  by_contra hne
  have hperm := (flatten_set_perm ht []).countP_eq (Instr.serves m c)
  simp only [List.countP_append, List.countP_nil] at hperm
  have hcode' : (m.codes.set t [])[u]? = some code' := by rw [List.getElem?_set_ne hne, hcode]
  have hother : 0 < (m.codes.set t []).flatten.countP (Instr.serves m c) :=
    List.countP_pos_iff.2 ⟨j, List.mem_flatten.2 ⟨code', List.mem_of_getElem? hcode', hj⟩, hjs⟩
  have hthis : 0 < code.countP (Instr.serves m c) := List.countP_pos_iff.2 ⟨i, hi, his⟩
  have hone := h c hu
  rw [agenda, List.countP_append] at hone
  omega

/-- A thread goes on with a call with one instruction of its code. -/
lemma Sole.apart {m : Machine} (h : m.Sole) {c : CallId} (hu : m.In .uiThread c) {u : ThreadId}
    {i j : Instr} {above below} (hcode : m.codes[u]? = some (above ++ below)) (hi : i ∈ above)
    (his : i.serves m c = true) (hj : j ∈ below) : j.serves m c = false := by
  by_contra hjs
  simp only [Bool.not_eq_false] at hjs
  have hperm := (flatten_set_perm hcode []).countP_eq (Instr.serves m c)
  simp only [List.countP_append, List.countP_nil] at hperm
  have habove : 0 < above.countP (Instr.serves m c) := List.countP_pos_iff.2 ⟨i, hi, his⟩
  have hbelow : 0 < below.countP (Instr.serves m c) := List.countP_pos_iff.2 ⟨j, hj, hjs⟩
  have hone := h c hu
  rw [agenda, List.countP_append] at hone
  omega

/-- A call that somebody goes on with has not returned. -/
lemma Sole.not_returned {m : Machine} (h : m.Sole) {c : CallId} (hu : m.In .uiThread c) {i}
    (hi : i ∈ m.agenda) (his : i.serves m c = true) : m.returned? c = none := by
  have hone := h c hu
  have hpos : 0 < m.agenda.countP (Instr.serves m c) := List.countP_pos_iff.2 ⟨i, hi, his⟩
  cases hr : m.returned? c with
  | none => rfl
  | some o =>
    rw [hr] at hone
    simp only [Option.isSome_some, if_true] at hone
    omega

/-- What a call has returned stays. -/
lemma Sole.returned {m : Machine} (h : m.Sole) {c : CallId} (hu : m.In .uiThread c) {o : Outcome}
    (hr : m.returned? c = some o) (mv : Move) : (m.step mv).returned? c = some o := by
  rcases (steps m mv).fires_or_quiet with ⟨t, i, rest, next, sent, m₁, -, ht, hf, he⟩ | hq
  · rw [he]
    show m₁.returned? c = some o
    obtain hsame | ⟨o', rfl, -, -, -⟩ := hf.returned? c
    · rw [hsame, hr]
    · have hnone := h.not_returned hu (mem_agenda_of_code ht (List.mem_cons_self ..)) (by simp [Instr.serves])
      rw [hnone] at hr
      cases hr
  · rw [← hr]
    simp [returned?, hq.calls]

/-! ### Presses -/

/-- Whether an instruction is part of a press of a dialog. -/
def Instr.ofPress : Instr → Bool
  | .takePending _ _ | .pressTaken _ _ _ | .putBack _ _ | .pressChosen _ _ => true
  | _ => false

/-- Dialogs are pressed on the UI thread. -/
def PressedByOwner (m : Machine) : Prop :=
  ∀ {t : ThreadId} {code i}, m.codes[t]? = some code → i ∈ code → i.ofPress = true → m.loop.owner = some t

/-- A press goes on from a press, or begins as a task. -/
lemma Fires.ofPress {m m₁ : Machine} {t i next sent j} (hf : Fires m t i next sent m₁)
    (hov : m.overrides = {}) (hj : j ∈ next) (hp : j.ofPress = true) : i.ofPress = true := by
  cases j with
  | takePending index slot =>
    cases hf.leads (.inl hj) with
    | take =>
      cases hf with
      | post _ _ => simp at hj
      | postClosed _ _ => simp at hj
      | noCall h _ => cases h
      | noOffer h _ => cases h
    | _ => simp_all
  | pressTaken place d slot =>
    cases hf.leads (.inl hj) with
    | pressTaken _ => rfl
    | _ => simp_all
  | putBack place d =>
    cases hf.leads (.inl hj) with
    | putBack _ _ => rfl
    | _ => simp_all
  | pressChosen d slot =>
    cases hf.leads (.inl hj) with
    | pressChosen _ _ =>
      cases hf with
      | schedulePress _ _ => simp at hj
      | schedulePressClosed _ _ => simp at hj
      | noCall h _ => cases h
      | noOffer _ _ => simp at hj
    | instant _ h _ => simp [hov] at h
    | _ => simp_all
  | _ => cases hp

/-- Every move keeps presses on the UI thread. -/
lemma step_pressedByOwner {m : Machine} (mv : Move) (hov : m.overrides = {}) (hm : m.Tidy)
    (h : m.PressedByOwner) : (m.step mv).PressedByOwner := by
  intro u code j hu hj hp
  apply (step_grows m mv).owner
  rcases mem_code_step hu hj with ⟨old, hold, hj⟩ | ⟨i, rest, next, sent, m₁, -, -, ht, hf, -, hnext⟩ |
    ⟨token, rest, ht, -⟩ | ⟨o, rfl⟩ | ⟨time, rfl⟩
  · exact h hold hj hp
  · exact h ht (List.mem_cons_self ..) (hf.ofPress hov hnext hp)
  · exact hm.owner ht (List.mem_cons_self ..) rfl
  · cases hp
  · cases hp

/-! ### Machines on which calls nest -/

/-- A headless machine without overrides: calls on its UI thread are in one place at a time, and so are their
dialogs, which are pressed on the UI thread. -/
structure Modal (m : Machine) : Prop where
  bare : m.Bare
  tidy : m.Tidy
  sole : m.Sole
  once : m.Once
  entered : m.Entered
  pressed : m.PressedByOwner

/-- Every move keeps a machine modal. -/
lemma step_modal {m : Machine} (mv : Move) (hm : m.Modal) : (m.step mv).Modal where
  bare := step_bare mv hm.bare
  tidy := step_tidy mv hm.tidy
  sole := step_sole mv hm.bare.sound hm.sole
  once := step_once mv hm.bare hm.once
  entered := step_entered mv hm.bare.sound hm.entered
  pressed := step_pressedByOwner mv hm.bare.overrides hm.tidy hm.pressed

/-- A run keeps a machine modal. -/
lemma play_modal {m : Machine} (hm : m.Modal) (moves : List Move) : (m.play moves).Modal :=
  play_induction hm (fun _ mv h => step_modal mv h) moves

/-- A fresh headless machine without overrides is modal. -/
lemma Fresh.modal {m : Machine} (hm : m.Fresh) (hterm : m.terminal = none) (hov : m.overrides = {}) :
    m.Modal where
  bare := hm.bare hterm hov
  tidy := hm.tidy
  sole c hu := by
    obtain ⟨call, hcall, -⟩ := hu
    simp [hm.calls] at hcall
  once c hu := by
    obtain ⟨call, hcall, -⟩ := hu
    simp [hm.calls] at hcall
  entered := hm.entered
  pressed ht hi hp := by
    obtain ⟨o, rfl⟩ := hm.agenda (mem_agenda_of_code ht hi)
    cases hp

/-! ### Phases -/

/-- What is left to do for a call on the UI thread, but for the run of the loop; the flag tells whether the
toolkit has taken its dialog. -/
inductive Phase (m : Machine) (c : CallId) : Bool → List Instr → Prop where
  | asked :
    m.entries c = 0 →
    Phase m c false [.activate c, .create c]
  | offering {i} :
    i.offers m c = true →
    m.entries c = 0 →
    Phase m c false [i]
  | refused {e} :
    Phase m c false [.report e, .deactivate c .noAction]
  | waking :
    m.entries c = 0 →
    Phase m c true [.wakeLoop, .nest c]
  | nesting :
    m.entries c = 0 →
    Phase m c true [.nest c]
  | left :
    m.entries c = 1 →
    Phase m c true [.nestLeft c, .collect c]
  | collecting :
    m.entries c = 1 →
    1 ≤ m.exits c →
    Phase m c true [.collect c]
  | deactivating {taken o} :
    (taken = true → m.entries c = 1 ∧ 1 ≤ m.exits c) →
    Phase m c taken [.deactivate c o]
  | resolving {taken o} :
    (taken = true → m.entries c = 1 ∧ 1 ≤ m.exits c) →
    Phase m c taken [.resolve c o]

/-- Where a call stands on its thread: at a phase, or running the loop with `top` on top. -/
inductive Course (m : Machine) (u : ThreadId) (c : CallId) (rest : List Instr) : Bool → Prop where
  | phase {taken frame} :
    Phase m c taken frame →
    m.codes[u]? = some (frame ++ rest) →
    Course m u c rest taken
  | pumping {top} :
    m.entries c = 1 →
    m.Runs u (.call c) (.nestLeft c :: .collect c :: rest) top →
    Course m u c rest true

/-- Thread `u`, which owns the loop, has call `c` to serve, and `rest` is what its caller left. -/
structure Serving (m : Machine) (u : ThreadId) (c : CallId) (rest : List Instr) (taken : Bool) : Prop where
  ui : m.In .uiThread c
  owner : m.loop.owner = some u
  course : Course m u c rest taken

/-- A call has returned; if the toolkit had taken its dialog, it has entered its nested run once and left it. -/
structure Served (m : Machine) (c : CallId) (taken : Bool) : Prop where
  ui : m.In .uiThread c
  returned : (m.returned? c).isSome = true
  nested : taken = true → m.entries c = 1 ∧ 1 ≤ m.exits c

/-- A task of the loop panics. -/
def TaskPanics (m : Machine) (mv : Move) : Prop :=
  ∃ t rest token, mv = .exec t ∧ m.codes[t]? = some (.op .panic :: rest) ∧ .pump token ∈ rest

/-- In every phase some instruction goes on with the call. -/
lemma Phase.serves {m : Machine} {c : CallId} {taken frame} (h : Phase m c taken frame) :
    ∃ i ∈ frame, i.serves m c = true := by
  cases h with
  | asked _ => exact ⟨.create c, by simp, by simp [Instr.serves, Instr.offers]⟩
  | offering ho _ => exact ⟨_, List.mem_singleton_self _, Instr.serves_of_offers ho⟩
  | refused => exact ⟨.deactivate c .noAction, by simp, by simp [Instr.serves]⟩
  | waking _ => exact ⟨.nest c, by simp, by simp [Instr.serves]⟩
  | left _ => exact ⟨.collect c, by simp, by simp [Instr.serves]⟩
  | nesting _ | collecting _ _ | deactivating _ | resolving _ =>
    exact ⟨_, List.mem_singleton_self _, by simp [Instr.serves]⟩

/-- What its thread has left for a call, and what is below it. -/
lemma Course.code {m : Machine} {u c rest taken} (h : Course m u c rest taken) :
    ∃ above, m.codes[u]? = some (above ++ rest) ∧ ∃ i ∈ above, i.serves m c = true := by
  cases h with
  | @phase _ frame hs hcode => exact ⟨frame, hcode, hs.serves⟩
  | @pumping top _ hruns =>
    refine ⟨top ++ [Instr.pump (.call c), .nestLeft c, .collect c], ?_, .collect c, by simp, by simp [Instr.serves]⟩
    rw [hruns]
    simp

/-- A phase stays what it is while the call neither enters its nested run nor does anything else. -/
lemma Phase.grows {m m' : Machine} {c : CallId} {taken frame} (h : Phase m c taken frame) (hg : m.Grows m')
    (hs : ∀ i ∈ frame, i.Sound m) (he : m'.entries c = m.entries c) : Phase m' c taken frame := by
  have hx := hg.exits c
  cases h with
  | asked h => exact .asked (he ▸ h)
  | offering ho h => exact .offering (hg.offers (hs _ (List.mem_singleton_self _)) c ▸ ho) (he ▸ h)
  | refused => exact .refused
  | waking h => exact .waking (he ▸ h)
  | nesting h => exact .nesting (he ▸ h)
  | left h => exact .left (he ▸ h)
  | collecting h h' => exact .collecting (he ▸ h) (Nat.le_trans h' hx)
  | deactivating h => exact .deactivating fun ht => ⟨he ▸ (h ht).1, Nat.le_trans (h ht).2 hx⟩
  | resolving h => exact .resolving fun ht => ⟨he ▸ (h ht).1, Nat.le_trans (h ht).2 hx⟩

/-- A phase is one whatever code a thread has. -/
lemma Phase.goto {m : Machine} {c : CallId} {taken frame} (h : Phase m c taken frame) (t : ThreadId)
    (code : List Instr) : Phase (m.goto t code) c taken frame := by
  cases h with
  | asked h => exact .asked h
  | @offering i ho h =>
    have ho' : i.offers (m.goto t code) c = true := by cases i <;> exact ho
    exact .offering ho' h
  | refused => exact .refused
  | waking h => exact .waking h
  | nesting h => exact .nesting h
  | left h => exact .left h
  | collecting h h' => exact .collecting h h'
  | deactivating h => exact .deactivating h
  | resolving h => exact .resolving h

/-! ### From phase to phase -/

/-- A call enters its nested run by the instruction for that only. -/
lemma step_entries (m : Machine) (mv : Move) (c : CallId) :
    (m.step mv).entries c = m.entries c ∨ ∃ t rest, mv = .exec t ∧ m.codes[t]? = some (.nest c :: rest) := by
  rcases step_nestings m mv with he | ⟨t, i, rest, rfl, ht, he⟩
  · exact .inl (by rw [entries, he, entries])
  · rw [entries, he, List.countP_append]
    cases i with
    | nest c' =>
      by_cases hc : c' = c
      · exact .inr ⟨t, rest, rfl, hc ▸ ht⟩
      · exact .inl (by simp [Instr.nesting, Event.enters, hc, entries])
    | _ => exact .inl rfl

/-- What an instruction of a call does: it leaves the next phase, or starts the run of the loop, or the call
returns. -/
lemma Phase.fires {m m₁ : Machine} {u : ThreadId} {c : CallId} {taken i behind next sent}
    (h : Phase m c taken (i :: behind)) (hf : Fires m u i next sent m₁) (hm : m.Bare) (hi : i.Sound m)
    (hu : m.In .uiThread c) (howner : m.loop.owner = some u) :
    (∃ taken', (taken = true → taken' = true) ∧ Phase m₁ c taken' (next ++ behind)) ∨
    (taken = true ∧ behind = [] ∧ next = [.pump (.call c), .nestLeft c, .collect c] ∧ m₁.entries c = 1) ∨
    (behind = [] ∧ next = [] ∧ (m₁.returned? c).isSome = true ∧
      (taken = true → m₁.entries c = 1 ∧ 1 ≤ m₁.exits c)) := by
  have hentries := hf.entries c
  have hexits := hf.exits c
  cases h with
  | asked h0 =>
    cases hf with
    | activate _ => exact .inl ⟨false, id, .offering (by simp [Instr.offers]) (hentries.trans h0)⟩
    | noCall h hn => exact absurd hn (hi.call_ne_none h)
    | noOffer h _ => cases h
  | offering ho h0 =>
    have hnone : m₁.entries c = 0 := by
      rw [hentries, h0]
      cases i <;> first | rfl | cases ho
    cases hf.offering hm hi hu ho with
    | goesOn hj _ _ => exact .inl ⟨false, id, .offering hj hnone⟩
    | kept _ _ => exact .inl ⟨true, fun _ => rfl, .nesting hnone⟩
    | scheduled _ _ => exact .inl ⟨true, fun _ => rfl, .waking hnone⟩
    | refused _ _ => exact .inl ⟨false, id, .refused⟩
  | refused =>
    cases hf with
    | report => exact .inl ⟨false, id, .deactivating (by simp)⟩
    | noCall h _ => cases h
    | noOffer h _ => cases h
  | waking h0 =>
    cases hf with
    | wakeLoop => exact .inl ⟨true, id, .nesting (hentries.trans h0)⟩
    | noCall h _ => cases h
    | noOffer h _ => cases h
  | nesting h0 =>
    have hone : m₁.entries c = 1 := by
      rw [hentries, h0]
      simp [Instr.nesting, Event.enters]
    cases hf with
    | nest _ _ => exact .inr (.inl ⟨rfl, rfl, rfl, hone⟩)
    | nestFailed h => simp [hm.overrides] at h
    | nestForeign _ hb => simp [Loop.bind, howner] at hb
    | noCall h _ => cases h
    | noOffer h _ => cases h
  | left h1 =>
    have hleft : 1 ≤ m₁.exits c := by
      rw [hexits]
      simp [Instr.nesting, Event.leaves]
    cases hf with
    | nestLeft => exact .inl ⟨true, id, .collecting (hentries.trans h1) hleft⟩
    | noCall h _ => cases h
    | noOffer h _ => cases h
  | collecting h1 hx =>
    cases hf with
    | collect _ => exact .inl ⟨true, id, .deactivating fun _ => ⟨h1, hx⟩⟩
    | noCall h hn => exact absurd hn (hi.call_ne_none h)
    | noOffer h _ => cases h
  | deactivating hn =>
    cases hf with
    | deactivate _ => exact .inl ⟨taken, id, .resolving hn⟩
    | noCall h hn => exact absurd hn (hi.call_ne_none h)
    | noOffer h _ => cases h
  | resolving hn =>
    cases hf with
    | resolve hcall =>
      exact .inr (.inr ⟨rfl, rfl, by simp [Machine.returned?, modifyCall, emit, hcall],
        fun ht => ⟨hentries.trans (hn ht).1, hexits ▸ (hn ht).2⟩⟩)
    | noCall h hn => exact absurd hn (hi.call_ne_none h)
    | noOffer h _ => cases h

/-- While a call is served, it does not enter its nested run but by the next instruction of its thread. -/
lemma Serving.entries {m : Machine} {u c rest taken} (h : Serving m u c rest taken) (hm : m.Sole) (mv : Move)
    (hhead : mv = .exec u → ∀ behind, m.codes[u]? ≠ some (.nest c :: behind)) :
    (m.step mv).entries c = m.entries c := by
  rcases step_entries m mv c with he | ⟨t, behind, rfl, ht⟩
  · exact he
  · obtain ⟨above, hcode, i, hi, his⟩ := h.course.code
    have hnest : (Instr.nest c).serves m c = true := by simp [Instr.serves]
    obtain rfl := hm.thread h.ui ht (List.mem_cons_self ..) hnest hcode (List.mem_append_left _ hi) his
    exact absurd ht (hhead rfl behind)

/-- A move of another thread leaves a call at its phase. -/
lemma Serving.other {m : Machine} {u c rest taken} (h : Serving m u c rest taken) (hm : m.Modal) {mv : Move}
    (hmv : mv ≠ .exec u) : Serving (m.step mv) u c rest taken := by
  have hg := step_grows m mv
  have hentries := h.entries hm.sole mv fun he => absurd he hmv
  refine ⟨hg.in h.ui, hg.owner h.owner, ?_⟩
  cases h.course with
  | phase hs hcode =>
    refine .phase (hs.grows hg (fun i hi => ?_) hentries) (codes_step_other hmv hcode)
    exact hm.bare.sound.agenda i (mem_agenda_of_code hcode (List.mem_append_left _ hi))
  | pumping h1 hruns => exact .pumping (hentries.trans h1) (codes_step_other hmv hruns)

/-- A move leaves a call at its phase, or takes it to the next one, or the call returns to what its caller
left. -/
lemma Serving.step {m : Machine} {u c rest taken} (h : Serving m u c rest taken) (hm : m.Modal) (mv : Move)
    (hcalm : ¬ TaskPanics m mv) :
    (∃ taken', (taken = true → taken' = true) ∧ Serving (m.step mv) u c rest taken') ∨
      (m.step mv).codes[u]? = some rest ∧ Served (m.step mv) c taken := by
  by_cases hmv : mv = .exec u
  case neg => exact .inl ⟨taken, id, h.other hm hmv⟩
  subst hmv
  have hg := step_grows m (.exec u)
  have hui := hg.in h.ui
  have howner := hg.owner h.owner
  cases h.course with
  | @pumping top h1 hruns =>
    have hentries : (m.step (.exec u)).entries c = 1 := by
      rw [h.entries hm.sole, h1]
      rintro - behind hcode
      -- the call would go on with two instructions of the thread
      have hruns : m.codes[u]? = some (top ++ .pump (.call c) :: .nestLeft c :: .collect c :: rest) := hruns
      cases top with
      | nil =>
        rw [hcode] at hruns
        cases hruns
      | cons i top =>
        rw [hcode] at hruns
        cases hruns
        have hcode : m.codes[u]? = some ([.nest c] ++ _) := hcode
        have hcollect := hm.sole.apart h.ui hcode (List.mem_singleton_self _) (by simp [Instr.serves])
          (j := .collect c) (by simp)
        simp [Instr.serves] at hcollect
    rcases step_runs hruns (.exec u) with ⟨top', hruns'⟩ | hret | hunw
    · exact .inl ⟨true, id, hui, howner, .pumping hentries hruns'⟩
    · exact .inl ⟨true, id, hui, howner, .phase (.left hentries) hret.after⟩
    · obtain ⟨-, ⟨behind, hpanic, -⟩, -⟩ := hunw
      exact absurd ⟨u, _, .call c, rfl, hpanic, by simp⟩ hcalm
  | @phase _ frame hs hcode =>
    obtain ⟨i, behind, rfl⟩ : ∃ i behind, frame = i :: behind := by cases hs <;> exact ⟨_, _, rfl⟩
    have hsound : i.Sound m := hm.bare.sound.agenda i (mem_agenda_of_code hcode (by simp))
    have hhead : m.codes[u]? = some (i :: (behind ++ rest)) := hcode
    rcases step_exec hhead with he | ⟨next, sent, m₁, hf, he⟩ | ⟨_, _, _, rfl, -⟩ | ⟨rfl, -⟩
    · exact .inl ⟨taken, id, by rw [he]; exact h⟩
    · have hafter : (m.step (.exec u)).codes[u]? = some (next ++ (behind ++ rest)) :=
        he ▸ codes_goto_self (hf.code hcode) _
      rcases hs.fires hf hm.bare hsound h.ui h.owner with
        ⟨taken', ht, hs'⟩ | ⟨rfl, rfl, rfl, h1⟩ | ⟨rfl, rfl, hr, hn⟩
      · have hphase : Phase (m.step (.exec u)) c taken' (next ++ behind) := he ▸ hs'.goto ..
        exact .inl ⟨taken', ht, hui, howner, .phase hphase (by rw [hafter, List.append_assoc])⟩
      · have hruns : (m.step (.exec u)).Runs u (.call c) (.nestLeft c :: .collect c :: rest) [] := hafter
        exact .inl ⟨true, id, hui, howner, .pumping (he ▸ h1) hruns⟩
      · exact .inr ⟨hafter, hui, he ▸ hr, fun ht => he ▸ hn ht⟩
    · cases hs with | offering ho _ => cases ho
    · cases hs with | offering ho _ => cases ho

/-! ### The whole course -/

/-- A call that has returned neither enters its nested run again nor leaves it. -/
lemma Served.step {m : Machine} {c taken} (h : Served m c taken) (hm : m.Sole) (mv : Move) :
    Served (m.step mv) c taken := by
  have hentries : (m.step mv).entries c = m.entries c := by
    rcases step_entries m mv c with he | ⟨t, behind, rfl, ht⟩
    · exact he
    · -- the call would go on although it has returned
      have hret := h.returned
      have hmem : .nest c ∈ m.agenda := mem_agenda_of_code ht (List.mem_cons_self ..)
      have hnone := hm.not_returned h.ui hmem (by simp [Instr.serves])
      rw [hnone] at hret
      cases hret
  obtain ⟨o, hr⟩ := Option.isSome_iff_exists.1 h.returned
  refine ⟨(step_grows m mv).in h.ui, by rw [hm.returned h.ui hr mv]; rfl, fun ht => ?_⟩
  exact ⟨hentries.trans (h.nested ht).1, Nat.le_trans (h.nested ht).2 ((step_grows m mv).exits c)⟩

/-- Over a run without panicking tasks, a call is served until it has returned. -/
lemma Serving.play {m : Machine} {u c rest taken} (h : Serving m u c rest taken) (hm : m.Modal)
    {more : List Move} (hcalm : ¬ Happens m more TaskPanics) :
    (∃ taken', (taken = true → taken' = true) ∧ Serving (m.play more) u c rest taken') ∨
      Served (m.play more) c taken := by
  induction more using List.reverseRecOn with
  | nil => exact .inl ⟨taken, id, h⟩
  | append_singleton more mv ih =>
    rw [happens_concat, not_or] at hcalm
    rw [play_concat]
    rcases ih hcalm.1 with ⟨taken', ht, hs⟩ | hs
    · rcases hs.step (play_modal hm more) mv hcalm.2 with ⟨taken'', ht', hs'⟩ | ⟨-, hd⟩
      · exact .inl ⟨taken'', fun h => ht' (ht h), hs'⟩
      · exact .inr ⟨hd.ui, hd.returned, fun h => hd.nested (ht h)⟩
    · exact .inr (hs.step (play_modal hm more).sole mv)

/-- In this move a thread starts a call on the UI thread. -/
def Asks (u : ThreadId) (c : CallId) (m : Machine) (mv : Move) : Prop :=
  mv = .exec u ∧ c = m.calls.length ∧ (m.step mv).In .uiThread c

/-- A call on the UI thread is started by asking on that thread. -/
lemma Fires.asks_ui {m m₁ : Machine} {t i next sent} (hf : Fires m t i next sent m₁)
    (hnew : m₁.In .uiThread m.calls.length) :
    (∃ prompt ticket, i = .op (.ask prompt ticket)) ∧ m.isUiThread t = true ∧
      next = [.activate m.calls.length, .create m.calls.length] := by
  obtain ⟨call, hcall, hcontext⟩ := hnew
  obtain ⟨old, hold, -⟩ | ⟨prompt, ticket, q, rfl, hq, -, rfl⟩ := hf.call_before hcall
  · simp at hold
  · have hui : m.isUiThread t = true := by
      cases hi : m.isUiThread t with
      | true => rfl
      | false => simp [newCall, hi] at hcontext
    refine ⟨⟨prompt, ticket, rfl⟩, hui, ?_⟩
    cases hf with
    | ask _ => simp [newCall, hui, Context.first]
    | askUnknown hn =>
      rw [hq] at hn
      cases hn
    | post h _ | postClosed h _ => cases h
    | noCall h _ | noOffer h _ => cases h

/-- A call that starts is served from then on, above the code behind the operation that asks. -/
lemma Asks.serving {m : Machine} {u c mv} (h : Asks u c m mv) (hm : m.Modal) :
    m.loop.owner = some u ∧ ∃ prompt ticket rest, m.codes[u]? = some (.op (.ask prompt ticket) :: rest) ∧
      Serving (m.step mv) u c rest false := by
  obtain ⟨rfl, rfl, hui⟩ := h
  have new : (m.step (.exec u)).calls ≠ m.calls := by
    intro he
    obtain ⟨call, hcall, -⟩ := hui
    simp [he] at hcall
  have hs := steps m (.exec u)
  generalize m.step (.exec u) = m' at hs hui new
  cases hs with
  | stuck _ => exact absurd rfl new
  | @fires _ th i rest next sent m₁ hth hcode _ hf =>
    have ht : m.codes[u]? = some (i :: rest) := hcode ▸ codes_getElem? hth
    obtain ⟨⟨prompt, ticket, rfl⟩, hthread, rfl⟩ := hf.asks_ui hui
    have howner : m.loop.owner = some u := by
      simpa [isUiThread, hm.bare.overrides] using hthread
    refine ⟨howner, prompt, ticket, rest, ht, hui, hf.grows.owner howner, ?_⟩
    have hentries : m₁.entries m.calls.length = 0 :=
      (hf.entries _).trans ((hm.entered m.calls.length).2 (Nat.le_refl _))
    have hphase : Phase m₁ m.calls.length false [.activate m.calls.length, .create m.calls.length] :=
      .asked hentries
    exact .phase (hphase.goto ..) (codes_goto_self (hf.code ht) _)
  | takes => exact absurd rfl new
  | panics =>
    obtain ⟨_, _, _, he, -⟩ := panic_eq m u _
    exact absurd (by rw [he]) new

/-- A call that was not there before has just started. -/
lemma asks_of_new {m : Machine} {c mv} (hold : ¬ m.In .uiThread c) (hu : (m.step mv).In .uiThread c) :
    ∃ u, Asks u c m mv := by
  rcases (steps m mv).fires_or_quiet with ⟨_, i, _, _, _, m₁, ⟨u, th, rest, rfl, -, -, -⟩, -, hf, he⟩ | hq
  · have hu₁ : m₁.In .uiThread c := by
      rw [he] at hu
      exact hu
    rcases hf.in_before hu₁ with h | rfl
    · exact absurd h hold
    · exact ⟨u, rfl, rfl, hu⟩
  · exact absurd (by simpa [In, hq.calls] using hu) hold

/-- In every run without panicking tasks, a call on the UI thread is being served or has returned. -/
lemma play_serving {m : Machine} (hm : m.Modal) (hcalls : m.calls = []) {moves : List Move}
    (hcalm : ¬ Happens m moves TaskPanics) {c : CallId} (hu : (m.play moves).In .uiThread c) :
    (∃ u rest taken, Serving (m.play moves) u c rest taken) ∨ Served (m.play moves) c false := by
  induction moves using List.reverseRecOn with
  | nil =>
    obtain ⟨call, hcall, -⟩ := hu
    simp [play_nil, hcalls] at hcall
  | append_singleton moves mv ih =>
    rw [happens_concat, not_or] at hcalm
    rw [play_concat] at hu ⊢
    have hm' := play_modal hm moves
    -- a call that is there now was there before, or this move has started it
    by_cases hold : (m.play moves).In .uiThread c
    · rcases ih hcalm.1 hold with ⟨u, rest, taken, hs⟩ | hs
      · rcases hs.step hm' mv hcalm.2 with ⟨taken', -, hs'⟩ | ⟨-, hd⟩
        · exact .inl ⟨u, rest, taken', hs'⟩
        · exact .inr ⟨hd.ui, hd.returned, by simp⟩
      · exact .inr (hs.step hm'.sole mv)
    · obtain ⟨u, hasks⟩ := asks_of_new hold hu
      obtain ⟨-, -, -, rest, -, hs⟩ := hasks.serving hm'
      exact .inl ⟨u, rest, false, hs⟩

/-- The toolkit takes the dialog of a call. -/
def Takes (c : CallId) (m : Machine) (mv : Move) : Prop := ∃ i, m.Executes mv i ∧ TakesDialog m c i

/-- A call whose dialog the toolkit is deciding about is offering it. -/
lemma Serving.offering {m : Machine} {u c rest taken} (h : Serving m u c rest taken) (hm : m.Modal)
    {t : ThreadId} {i behind} (ht : m.codes[t]? = some (i :: behind)) (hi : i.offers m c = true) :
    t = u ∧ behind = rest ∧ m.entries c = 0 := by
  have his := Instr.serves_of_offers hi
  obtain ⟨above, hcode, j, hj, hjs⟩ := h.course.code
  obtain rfl := hm.sole.thread h.ui ht (List.mem_cons_self ..) his hcode (List.mem_append_left _ hj) hjs
  refine ⟨rfl, ?_⟩
  cases h.course with
  | phase hs hcode =>
    rw [ht] at hcode
    cases hs with
    | offering _ h0 =>
      cases hcode
      exact ⟨rfl, h0⟩
    | _ =>
      cases hcode
      cases hi
  | @pumping top _ hruns =>
    rw [Runs, ht] at hruns
    cases top with
    | nil =>
      cases hruns
      cases hi
    | cons k top =>
      cases hruns
      -- the call would go on with two instructions of the thread
      have ht : m.codes[t]? = some ([i] ++ _) := ht
      have hcollect := hm.sole.apart h.ui ht (List.mem_singleton_self _) his (j := .collect c) (by simp)
      simp [Instr.serves] at hcollect

/-- A call whose dialog the toolkit takes goes on to its nested run. -/
lemma Serving.takes {m : Machine} {u c rest taken mv} (h : Serving m u c rest taken) (hm : m.Modal)
    (ht : Takes c m mv) : Serving (m.step mv) u c rest true := by
  obtain ⟨i, hexec, htakes⟩ := ht
  obtain ⟨t, behind, next, sent, m₁, hcode, hf, he⟩ : ∃ t behind next sent m₁,
      m.codes[t]? = some (i :: behind) ∧ Fires m t i next sent m₁ ∧ m.step mv = m₁.goto t (next ++ behind) := by
    obtain ⟨d, -, rfl | ⟨slot, rfl, -⟩⟩ := htakes <;>
      exact hexec.fires (by simp [execInstr]) (by simp) (by simp)
  obtain ⟨rfl, rfl, h0⟩ := h.offering hm hcode htakes.offers
  have hg := step_grows m mv
  refine ⟨hg.in h.ui, hg.owner h.owner, ?_⟩
  have hentries : m₁.entries c = 0 := by
    rw [hf.entries, h0]
    have ho := htakes.offers
    cases i <;> first | rfl | cases ho
  have hi : i.Sound m := hm.bare.sound.agenda i (mem_agenda_of_code hcode (List.mem_cons_self ..))
  rw [he]
  cases hf.offering hm.bare hi h.ui htakes.offers with
  | goesOn _ hn _ => exact absurd htakes hn
  | kept _ _ =>
    have hphase : Phase m₁ c true [.nest c] := .nesting hentries
    exact .phase (hphase.goto ..) (codes_goto_self (hf.code hcode) _)
  | scheduled _ _ =>
    have hphase : Phase m₁ c true [.wakeLoop, .nest c] := .waking hentries
    exact .phase (hphase.goto ..) (codes_goto_self (hf.code hcode) _)
  | refused hn _ => exact absurd htakes hn

end MessageBox.Machine

import MessageBox.Proofs.Machine.Activations

/-!
# Thread confinement

The loop belongs to the first thread that binds or runs it, for good. What tasks do, what is done with the
dialogs of calls and what presses run stands in the code of that thread only (`Confined`): a call offers its
dialog itself if its thread owns the loop, and has a task do so otherwise. The whole is `thread_confinement`.
-/

namespace MessageBox.Machine

/-- Whether an instruction is for the owner of the loop only: it is part of a run, creates the dialog of a call
or deals with it, starts a nested run, or is part of a press. -/
def Instr.confined (m : Machine) : Instr → Bool
  | .pump _ | .returned _ _ | .create _ | .nest _ => true
  | .present d | .accept d | .exhibit d | .choose d | .schedulePress d _ | .keep d => (m.caller? d).isSome
  | .takePending _ _ | .pressTaken _ _ _ | .putBack _ _ | .pressChosen _ _ => true
  | _ => false

/-- Confined instructions are in the code of the owner only. -/
def Confined (m : Machine) : Prop :=
  ∀ {t : ThreadId} {code i}, m.codes[t]? = some code → i ∈ code → i.confined m = true → m.loop.owner = some t

/-- Whether an event tells of a task or a handler that was started. -/
def Event.ofOwner : Event → Bool
  | .started _ | .pressed _ _ => true
  | _ => false

/-- Tasks and handlers were started on the thread of the owner. -/
def StartedByOwner (m : Machine) : Prop :=
  ∀ {t : ThreadId} {e}, (t, e) ∈ m.history.toList → e.ofOwner = true → m.loop.owner = some t

/-! ### Where confined instructions come from -/

/-- An instruction of a run is for the owner only. -/
lemma Instr.confined_of_ofRun {m : Machine} {i : Instr} (hi : i.ofRun = true) : i.confined m = true := by
  cases i <;> first | rfl | cases hi

/-- A press is for the owner only. -/
lemma Instr.confined_of_press {m : Machine} {i : Instr} {d : DialogId} {slot : Slot}
    (hi : i.press? = some (d, slot)) : i.confined m = true := by
  cases i <;> first | rfl | cases hi

/-- Dealing with the dialog of a call is for the owner only. -/
lemma Instr.confined_of_offer {m : Machine} {i : Instr} {d : DialogId} (hi : i.offer? = some d)
    (hd : (m.caller? d).isSome = true) : i.confined m = true := by
  cases i <;> cases hi <;> first | rfl | exact hd

/-- Without an override, the UI thread is the owner of the loop. -/
lemma owner_of_isUiThread {m : Machine} {t : ThreadId} (hui : m.overrides.uiThread = none)
    (ht : m.isUiThread t = true) : m.loop.owner = some t := by
  simpa [isUiThread, hui] using ht

/-- Which call a dialog belongs to stays as it is. -/
lemma Grows.caller?_isSome {m m' : Machine} (h : m.Grows m') {d : DialogId} {o : Offer}
    (ho : m.dialogs[d]? = some o) (hd : (m'.caller? d).isSome = true) : (m.caller? d).isSome = true := by
  rwa [← h.caller?_before (List.getElem?_eq_some_iff.1 ho).1]

/-- A dialog that no program has offered belongs to a call. -/
lemma caller?_isSome_of_origin {m : Machine} {d : DialogId} {o : Offer} (ho : m.dialogs[d]? = some o)
    (hn : o.origin ≠ .program) : (m.caller? d).isSome = true := by
  rw [caller?, ho]
  show o.origin.call?.isSome = true
  cases horigin : o.origin with
  | program => exact absurd horigin hn
  | nested c => rfl
  | posted c => rfl

/-- Nothing in a handler is for the owner only. -/
lemma reaction_not_confined {m : Machine} {reaction : Reaction} {j : Instr} (hj : j ∈ reaction.code) :
    j.confined m = false := by
  rcases mem_reaction.1 hj with ⟨body, -, o, -, rfl⟩ | ⟨c, code, stops, -, rfl | ⟨-, rfl⟩⟩
  all_goals rfl

/-- Nothing that follows a refused offer is for the owner only. -/
lemma refused_not_confined {m : Machine} {origin : Origin} {e : ToolkitFailure} {j : Instr}
    (hj : j ∈ origin.refused e) : j.confined m = false := by
  rcases mem_refused.1 hj with ⟨c, -, rfl | rfl⟩ | ⟨c, -, rfl | rfl | rfl⟩
  all_goals rfl

/-- A confined instruction is left by a confined one, or by the owner. -/
lemma Fires.confined {m m₁ : Machine} {t i next sent j} (hf : Fires m t i next sent m₁)
    (hui : m.overrides.uiThread = none) (hinline : m.overrides.inlineTasks = false) (hj : j ∈ next)
    (hc : j.confined m₁ = true) : i.confined m = true ∨ m₁.loop.owner = some t := by
  -- a run is started by the owner, and goes on as one
  have ofRun : j.ofRun = true → i.confined m = true ∨ m₁.loop.owner = some t := by
    intro hr
    obtain ⟨events, hl, -⟩ := hf.loopStep
    rcases hl.next with hplain | howner | hi
    · rw [hplain j hj] at hr
      cases hr
    · exact .inr howner
    · exact .inl (Instr.confined_of_ofRun hi)
  cases hf.leads (.inl hj) with
  | pump _ | returned _ | doze _ _ | nestPump _ _ => exact ofRun rfl
  | ask _ hu => exact .inr (hf.grows.owner (owner_of_isUiThread hui hu))
  | create =>
    -- elsewhere it is a task that creates the dialog
    cases hf with
    | scheduleInline hi =>
      rw [hinline] at hi
      cases hi
    | schedule _ _ => simp at hj
    | scheduleClosed _ _ => simp at hj
    | noCall hi _ => cases hi
    | noOffer hi _ => cases hi
  | offered =>
    -- a program's own dialog belongs to no call
    cases hf with
    | offer => simp [Instr.confined, caller?, programOffer, Origin.call?] at hc
    | post ho _ => cases ho
    | postClosed ho _ => cases ho
    | noCall hi _ => cases hi
    | noOffer hi _ => cases hi
  | created _ => exact .inl rfl
  | accept ho => exact .inl (hf.grows.caller?_isSome ho hc)
  | exhibit ho _ => exact .inl (hf.grows.caller?_isSome ho hc)
  | choose ho => exact .inl (hf.grows.caller?_isSome ho hc)
  | schedulePress ho _ _ => exact .inl (hf.grows.caller?_isSome ho hc)
  | keep ho _ => exact .inl (hf.grows.caller?_isSome ho hc)
  | take =>
    -- what presses a pending dialog is a task
    cases hf with
    | post _ _ => simp at hj
    | postClosed _ _ => simp at hj
    | noCall h _ => cases h
    | noOffer h _ => cases h
  | pressTaken _ => exact .inl rfl
  | putBack _ _ => exact .inl rfl
  | pressChosen _ _ =>
    cases hf with
    | schedulePress _ _ => simp at hj
    | schedulePressClosed _ _ => simp at hj
    | noCall h _ => cases h
    | noOffer _ _ => simp at hj
  | @instant d _ _ ho _ _ =>
    -- only the dialogs of calls are pressed at once
    apply Or.inl
    show (m.caller? d).isSome = true
    cases hf with
    | presentOpen _ _ => simp at hj
    | presentProgram _ _ _ => simp at hj
    | presentInterrupt ho' _ hn _ _ _ => exact caller?_isSome_of_origin ho' hn
    | presentIgnored ho' _ hn _ _ _ => exact caller?_isSome_of_origin ho' hn
    | present ho' _ hn _ => exact caller?_isSome_of_origin ho' hn
    | noCall h _ => cases h
    | noOffer _ _ => simp at hj
  | accepted hi ho hj' =>
    obtain ⟨c, horigin, -⟩ := mem_accepted.1 hj'
    exact .inl (Instr.confined_of_offer hi (caller?_isSome_of_origin ho (by simp [horigin])))
  | refused _ _ _ hj' =>
    rw [refused_not_confined hj'] at hc
    cases hc
  | pressed _ _ _ hj' =>
    rw [reaction_not_confined hj'] at hc
    cases hc
  | concluded _ hj' =>
    rw [reaction_not_confined hj'] at hc
    cases hc
  | _ => cases hc

/-- A sound instruction that is for the owner only on a later machine was so before. -/
lemma Grows.confined_before {m m' : Machine} (h : m.Grows m') {i : Instr} (hi : i.Sound m)
    (hc : i.confined m' = true) : i.confined m = true := by
  cases i with
  | present d | accept d | exhibit d | choose d | keep d =>
    have hd : d < m.dialogs.length := hi
    rwa [Instr.confined, ← h.caller?_before hd]
  | schedulePress d slot =>
    obtain ⟨o, ho, -⟩ := hi
    exact h.caller?_isSome ho hc
  | _ => exact hc

/-- Every move keeps confined instructions in the code of the owner. -/
lemma step_confined {m : Machine} (mv : Move) (hui : m.overrides.uiThread = none)
    (hinline : m.overrides.inlineTasks = false) (hsound : m.Sound) (hm : m.Tidy) (h : m.Confined) :
    (m.step mv).Confined := by
  intro u code j hu hj hc
  have hg := step_grows m mv
  rcases mem_code_step hu hj with ⟨old, hold, hj⟩ | ⟨i, rest, next, sent, m₁, -, -, ht, hf, he, hnext⟩ |
    ⟨token, rest, ht, -⟩ | ⟨o, rfl⟩ | ⟨time, rfl⟩
  · -- what was there before was confined before
    have hbefore := hg.confined_before (hsound.agenda j (mem_agenda_of_code hold hj)) hc
    exact hg.owner (h hold hj hbefore)
  · rw [he] at hc
    rcases hf.confined hui hinline hnext hc with hi | howner
    · exact hg.owner (h ht (List.mem_cons_self ..) hi)
    · exact he ▸ howner
  · exact hg.owner (hm.owner ht (List.mem_cons_self ..) rfl)
  · cases hc
  · cases hc

/-! ### What is told of tasks and handlers -/

/-- Another event leaves the starts of tasks and handlers in the history as they are. -/
lemma mem_push_ofOwner {history : Array (ThreadId × Event)} {t t' : ThreadId} {e e' : Event}
    (ho : e.ofOwner = true) (hn : e'.ofOwner = false) :
    (t', e) ∈ (history.push (t, e')).toList ↔ (t', e) ∈ history.toList := by
  rw [Array.toList_push, List.mem_append, List.mem_singleton]
  constructor
  · rintro (he | he)
    · exact he
    · cases he
      rw [ho] at hn
      cases hn
  · exact .inl

/-- Records of the log leave the starts of tasks and handlers in the history as they are. -/
lemma mem_note_ofOwner {m : Machine} {t t' : ThreadId} {e : Event} (records : List Log.Record)
    (ho : e.ofOwner = true) : (t', e) ∈ (m.note t records).history.toList ↔ (t', e) ∈ m.history.toList := by
  induction records generalizing m with
  | nil => rfl
  | cons r records ih =>
    have hstep : m.note t (r :: records) = (m.emit t (.logged r)).note t records := rfl
    rw [hstep, ih]
    exact mem_push_ofOwner ho rfl

/-- What a program is told about its offer leaves the starts of tasks and handlers in the history as they are. -/
lemma mem_tellProgram_ofOwner {m : Machine} {t t' : ThreadId} {e : Event} (origin : Origin)
    (failure : Option ToolkitFailure) (ho : e.ofOwner = true) :
    (t', e) ∈ (m.tellProgram t origin failure).history.toList ↔ (t', e) ∈ m.history.toList := by
  cases origin with
  | program => exact mem_push_ofOwner ho rfl
  | nested | posted => rfl

/-- A firing starts a handler only by a press. -/
lemma Fires.ofOwner {m m₁ : Machine} {t t' i next sent e} (hf : Fires m t i next sent m₁)
    (he : (t', e) ∈ m₁.history.toList) (ho : e.ofOwner = true) :
    (t', e) ∈ m.history.toList ∨ t' = t ∧ i.confined m = true := by
  cases hf with
  | pressTaken _ _ =>
    rcases List.mem_append.1 (Array.toList_push .. ▸ he) with he | he
    · exact .inl he
    · cases List.mem_singleton.1 he
      exact .inr ⟨rfl, rfl⟩
  | pressChosen _ _ =>
    rcases List.mem_append.1 (Array.toList_push .. ▸ he) with he | he
    · exact .inl he
    · cases List.mem_singleton.1 he
      exact .inr ⟨rfl, rfl⟩
  | acceptFailed _ _ =>
    have he := (mem_tellProgram_ofOwner _ _ ho).1 he
    exact .inl he
  | keep _ =>
    have he := (mem_tellProgram_ofOwner _ _ ho).1 he
    exact .inl he
  | schedulePress _ _ =>
    have he := (mem_tellProgram_ofOwner _ _ ho).1 he
    exact .inl ((mem_push_ofOwner ho rfl).1 he)
  | schedulePressClosed _ _ =>
    have he := (mem_tellProgram_ofOwner _ _ ho).1 he
    exact .inl he
  | presentOpen _ _ =>
    have he := (mem_tellProgram_ofOwner _ _ ho).1 he
    exact .inl ((mem_push_ofOwner ho rfl).1 he)
  | keyClosed _ _ => exact .inl ((mem_note_ofOwner _ ho).1 he)
  | key _ _ => exact .inl ((mem_note_ofOwner _ ho).1 he)
  | conclude => exact .inl ((mem_note_ofOwner _ ho).1 he)
  | _ =>
    apply Or.inl
    first
    | exact he
    | exact (mem_push_ofOwner ho rfl).1 he
    | exact (mem_push_ofOwner ho rfl).1 ((mem_push_ofOwner ho rfl).1 he)

/-- Every move has tasks and handlers started on the thread of the owner only. -/
lemma step_startedByOwner {m : Machine} (mv : Move) (hm : m.Tidy) (hc : m.Confined) (h : m.StartedByOwner) :
    (m.step mv).StartedByOwner := by
  intro u e he ho
  have hg := step_grows m mv
  have hs := steps m mv
  generalize m.step mv = m' at hs hg he
  apply hg.owner
  cases hs with
  | stuck _ => exact h he ho
  | @fires t th i rest next sent m₁ hth hcode _ hf =>
    have ht : m.codes[t]? = some (i :: rest) := hcode ▸ codes_getElem? hth
    rcases hf.ofOwner he ho with hold | ⟨rfl, hi⟩
    · exact h hold ho
    · exact hc ht (List.mem_cons_self ..) hi
  | @takes t th token rest task queue hth hcode _ _ _ =>
    have ht : m.codes[t]? = some (.pump token :: rest) := hcode ▸ codes_getElem? hth
    rcases List.mem_append.1 (Array.toList_push .. ▸ he) with hold | hnew
    · exact h hold ho
    · cases List.mem_singleton.1 hnew
      exact hm.owner ht (List.mem_cons_self ..) rfl
  | @panics t th rest _ _ _ =>
    obtain ⟨threads, depth, history, he', hh⟩ := panic_eq m t rest
    rw [he'] at he
    rcases hh with rfl | ⟨token, depth, rfl⟩
    · exact h he ho
    · exact h ((mem_push_ofOwner ho rfl).1 he) ho
  | rouse => exact h he ho
  | pass => exact h he ho

/-! ### Machines whose toolkit leaves threads to the loop -/

/-- Moves do not change the overrides. -/
lemma step_overrides (m : Machine) (mv : Move) : (m.step mv).overrides = m.overrides := by
  rcases (steps m mv).fires_or_quiet with ⟨t, i, rest, next, sent, m₁, -, -, hf, he⟩ | hq
  · rw [he]
    exact hf.overrides
  · exact hq.overrides

/-- A machine whose toolkit asks the loop which thread is the UI thread and gives it the tasks for that thread,
and on which the owner alone does what is confined to it. -/
structure Owned (m : Machine) : Prop where
  uiThread : m.overrides.uiThread = none
  inlineTasks : m.overrides.inlineTasks = false
  sound : m.Sound
  tidy : m.Tidy
  confined : m.Confined
  started : m.StartedByOwner

/-- Every move keeps what is confined to the owner with the owner. -/
lemma step_owned {m : Machine} (mv : Move) (h : m.Owned) : (m.step mv).Owned where
  uiThread := by rw [step_overrides, h.uiThread]
  inlineTasks := by rw [step_overrides, h.inlineTasks]
  sound := step_sound mv h.sound
  tidy := step_tidy mv h.tidy
  confined := step_confined mv h.uiThread h.inlineTasks h.sound h.tidy h.confined
  started := step_startedByOwner mv h.tidy h.confined h.started

/-- A run keeps what is confined to the owner with the owner. -/
lemma play_owned {m : Machine} (h : m.Owned) (moves : List Move) : (m.play moves).Owned :=
  play_induction h (fun _ mv h => step_owned mv h) moves

/-- On a fresh machine nothing is there yet that is confined to the owner. -/
lemma Fresh.owned {m : Machine} (hm : m.Fresh) (hui : m.overrides.uiThread = none)
    (hinline : m.overrides.inlineTasks = false) : m.Owned where
  uiThread := hui
  inlineTasks := hinline
  sound := hm.sound
  tidy := hm.tidy
  confined ht hi hc := by
    obtain ⟨o, rfl⟩ := hm.agenda (mem_agenda_of_code ht hi)
    cases hc
  started he _ := by simp [hm.history] at he

/-! ### Runs on foreign threads and on the owner's, and presses -/

/-- A loop that another thread owns is not bound, and stays as it is. -/
lemma Loop.bind_foreign {l : Loop} {t u : ThreadId} (hu : l.owner = some u) (hut : u ≠ t) :
    l.bind t = (false, l) := by
  have hne : (u == t) = false := beq_eq_false_iff_ne.2 hut
  simp only [Loop.bind, hu, hne]

/-- A loop that nobody else owns is bound. -/
lemma Loop.bind_own {l : Loop} {t : ThreadId} (hu : ∀ u, l.owner = some u → u = t) :
    l.bind t = (true, { l with owner := some t }) := by
  obtain ⟨queue, closed, owner, depth, signalled⟩ := l
  cases owner with
  | none => rfl
  | some u =>
    obtain rfl := hu u rfl
    simp [Loop.bind]

/-- A run on another thread than the owner's is refused, and nothing else happens. -/
lemma step_run_foreign {m : Machine} {t u : ThreadId} {th token rethrow rest} (ht : m.threads[t]? = some th)
    (hcode : th.code = .op (.run token rethrow) :: rest) (hawake : th.asleep = false)
    (hu : m.loop.owner = some u) (hut : u ≠ t) :
    m.step (.exec t) = (m.emit t (.ran token (.refused .foreign) m.loop.depth)).goto t rest := by
  rw [step_awake ht hcode hawake]
  simp [execInstr, execOp, Machine.run, Loop.bind_foreign hu hut]

/-- A run on a thread that may own the loop makes it the owner, and is live. -/
lemma step_run_own {m : Machine} {t : ThreadId} {th token rethrow rest} (ht : m.threads[t]? = some th)
    (hcode : th.code = .op (.run token rethrow) :: rest) (hawake : th.asleep = false)
    (hu : ∀ u, m.loop.owner = some u → u = t) :
    (m.step (.exec t)).loop.owner = some t ∧
      (m.step (.exec t)).Runs t token (.returned token rethrow :: rest) [] := by
  have hstep : m.step (.exec t) =
      m.enter t { m.loop with owner := some t } (.pump token :: .returned token rethrow :: rest) := by
    rw [step_awake ht hcode hawake]
    simp [execInstr, execOp, Machine.run, Loop.bind_own hu]
  have hcodes : m.codes[t]? = some (.op (.run token rethrow) :: rest) := hcode ▸ codes_getElem? ht
  rw [hstep]
  refine ⟨rfl, ?_⟩
  exact codes_goto_self (m := ({ m with loop := _ }).emit t _) hcodes _

/-- A press goes on with what the handler of the button has to do. -/
lemma step_press {m : Machine} {t : ThreadId} {th i rest d slot o reaction} (ht : m.threads[t]? = some th)
    (hcode : th.code = i :: rest) (hawake : th.asleep = false) (hi : i.press? = some (d, slot))
    (ho : m.dialogs[d]? = some o) (hr : o.dialog.press slot = .ok reaction) :
    (m.step (.exec t)).codes[t]? = some (reaction.code ++ rest) := by
  have hcodes : m.codes[t]? = some (i :: rest) := hcode ▸ codes_getElem? ht
  have hstep : m.step (.exec t) = (m.emit t (.pressed d slot)).goto t (reaction.code ++ rest) := by
    rw [step_awake ht hcode hawake]
    cases i <;> cases hi <;> simp [execInstr, withOffer, ho, pressDialog, hr]
  rw [hstep]
  exact codes_goto_self (m := m.emit t _) hcodes _

/-! ### Only the owner -/

/-- Whatever threads bind, run, post, signal, ask and press, on a toolkit that asks the loop which thread is the
UI thread and gives it the tasks for that thread: a loop that has an owner keeps it. Tasks are started by the
owner, and whatever stands on top of a run stands in its code. A run on another thread fails, is over and leaves
the loop as it was, while a run on the owner's thread, or on any before there is an owner, starts and makes
that thread the owner. The dialog of a call is created and offered by the owner, whoever made the call, and so
is its nested run; and it is the owner that presses buttons and goes on with their handlers. -/
theorem thread_confinement {m : Machine} (hm : m.Fresh) (hui : m.overrides.uiThread = none)
    (hinline : m.overrides.inlineTasks = false) (moves : List Move) :
    (∀ u more, (m.play moves).loop.owner = some u → (m.play (moves ++ more)).loop.owner = some u) ∧
    (∀ t task, (t, .started task) ∈ (m.play moves).history.toList → (m.play moves).loop.owner = some t) ∧
    (∀ t token below top, (m.play moves).Runs t token below top → (m.play moves).loop.owner = some t) ∧
    (∀ (t : ThreadId) th token rethrow rest, (m.play moves).threads[t]? = some th →
      th.code = .op (.run token rethrow) :: rest → th.asleep = false →
      (∀ u, (m.play moves).loop.owner = some u → u ≠ t →
        (m.play (moves ++ [.exec t])).loop = (m.play moves).loop ∧
        (m.play (moves ++ [.exec t])).codes[t]? = some rest ∧
        (m.play (moves ++ [.exec t])).history = (m.play moves).history.push
          (t, .ran token (.refused (.unavailable "dispatch loop is owned by another thread"))
            (m.play moves).loop.depth)) ∧
      ((∀ u, (m.play moves).loop.owner = some u → u = t) →
        (m.play (moves ++ [.exec t])).loop.owner = some t ∧
        (m.play (moves ++ [.exec t])).Runs t token (.returned token rethrow :: rest) [])) ∧
    (∀ (t : ThreadId) c rest, (m.play moves).codes[t]? = some (.create c :: rest) ∨
      (m.play moves).codes[t]? = some (.nest c :: rest) → (m.play moves).loop.owner = some t) ∧
    (∀ (t : ThreadId) d c rest, (m.play moves).codes[t]? = some (.present d :: rest) →
      (m.play moves).caller? d = some c → (m.play moves).loop.owner = some t) ∧
    (∀ t d slot, (t, .pressed d slot) ∈ (m.play moves).history.toList →
      (m.play moves).loop.owner = some t) ∧
    (∀ (t : ThreadId) th i rest d slot, (m.play moves).threads[t]? = some th → th.code = i :: rest →
      i.press? = some (d, slot) → (m.play moves).loop.owner = some t ∧
      ∀ o reaction, th.asleep = false → (m.play moves).dialogs[d]? = some o →
        o.dialog.press slot = .ok reaction →
        (m.play (moves ++ [.exec t])).codes[t]? = some (reaction.code ++ rest)) := by
  have h := play_owned (hm.owned hui hinline) moves
  refine ⟨fun u more hu => ?_, fun t task he => h.started he rfl, fun t token below top hr => hr.owner h.tidy,
    fun t th token rethrow rest ht hcode hawake => ⟨fun u hu hut => ?_, fun hu => ?_⟩,
    fun t c rest ht => ?_, fun t d c rest ht hd => ?_, fun t d slot he => h.started he rfl,
    fun t th i rest d slot ht hcode hi => ⟨?_, fun o reaction hawake ho hr => ?_⟩⟩
  · rw [play_append]
    exact (play_grows ..).owner hu
  · rw [play_concat, step_run_foreign ht hcode hawake hu hut]
    exact ⟨rfl, codes_goto_self (m := (m.play moves).emit t _) (codes_getElem? ht) _, rfl⟩
  · rw [play_concat]
    exact step_run_own ht hcode hawake hu
  · rcases ht with ht | ht
    · exact h.confined ht (List.mem_cons_self ..) rfl
    · exact h.confined ht (List.mem_cons_self ..) rfl
  · apply h.confined ht (List.mem_cons_self ..)
    simp [Instr.confined, hd]
  · apply h.confined (codes_getElem? ht) (hcode ▸ List.mem_cons_self ..)
    exact Instr.confined_of_press hi
  · rw [play_concat]
    exact step_press ht hcode hawake hi ho hr

/-- A worker asks, and another thread tries to run the loop that is already taken. -/
def lateRun : Machine :=
  start [[.run .ui false], [.ask 0 (.caller 0)], [.run (.named "late") false]]
    [{ spec := saveSpec }] (.press .negative)

/-- The dialog of the worker's call is about to be offered. -/
def beforeOffer : List Move := List.replicate 4 (.exec 1) ++ List.replicate 3 (.exec 0)

/-- The first thread offers the worker's dialog, and the last one's run is refused. -/
theorem thread_confinement_lateRun :
    (lateRun.play beforeOffer).loop.owner = some 0 ∧
      (lateRun.play (beforeOffer ++ [.exec 2])).loop = (lateRun.play beforeOffer).loop ∧
      (lateRun.play (beforeOffer ++ [.exec 2])).codes[2]? = some [] := by
  have hpresent : (lateRun.play beforeOffer).codes[0]? =
      some [.present 0, .pump .ui, .returned .ui false] := by cbv
  have hcaller : (lateRun.play beforeOffer).caller? 0 = some 0 := by cbv
  have hlate : (lateRun.play beforeOffer).threads[2]? =
      some ⟨"", [.op (.run (.named "late") false)], false, false⟩ := by cbv
  obtain ⟨-, -, -, hrun, -, hoffer, -, -⟩ :=
    thread_confinement (m := lateRun) (start_fresh ..) rfl rfl beforeOffer
  have howner := hoffer 0 0 0 _ hpresent hcaller
  obtain ⟨hloop, hcode, -⟩ := (hrun 2 _ _ _ _ hlate rfl rfl).1 0 howner (by decide)
  exact ⟨howner, hloop, hcode⟩

end MessageBox.Machine

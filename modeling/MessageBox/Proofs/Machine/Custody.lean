import MessageBox.Proofs.Machine.Loop
import MessageBox.Proofs.Machine.UiCalls
import MessageBox.Proofs.Waiters

/-!
# Dialogs in custody

On a headless machine without overrides, a dialog passes through the hands of a caller who shows it, of the
pending list, and of press tasks. `DialogStep` says once what an instruction does to it, and `Fires.dialogStep`
that nothing else happens. Whoever has a dialog in hand comes next on its thread or in its task (`InFront`), so
that a panic drops none.

Along a run, dialogs are balanced (`Fresh.custody`): a dialog that was offered is still being shown, or was
refused once, or was accepted once; and one that was accepted is pending, held, activated or dismissed, once.
-/

namespace MessageBox.Machine

open scoped List

/-! ### The instructions of a run -/

/-- The instruction that a move executes. -/
def executed? (m : Machine) : Move → Option Instr
  | .exec t => m.threads[t]?.bind fun th => if th.asleep then none else th.code.head?
  | _ => none

/-- How many moves of a run execute an instruction that `p` picks out, given the machine that the move
finds. -/
def tally (p : Machine → Instr → Bool) : Machine → List Move → Nat
  | _, [] => 0
  | m, mv :: moves => (m.executed? mv).toList.countP (p m) + tally p (m.step mv) moves

/-- What a run executes is counted in its first part and from there on. -/
lemma tally_append (p : Machine → Instr → Bool) (m : Machine) (moves more : List Move) :
    m.tally p (moves ++ more) = m.tally p moves + (m.play moves).tally p more := by
  induction moves generalizing m with
  | nil => simp [tally, play_nil]
  | cons mv moves ih =>
    have hplay : m.play (mv :: moves) = (m.step mv).play moves := rfl
    rw [List.cons_append, tally, tally, hplay, ih, Nat.add_assoc]

/-- The last move of a run counts where it finds the machine. -/
lemma tally_concat (p : Machine → Instr → Bool) (m : Machine) (moves : List Move) (mv : Move) :
    m.tally p (moves ++ [mv]) =
      m.tally p moves + ((m.play moves).executed? mv).toList.countP (p (m.play moves)) := by
  rw [tally_append]
  rfl

/-- What a move executes is the instruction that is computed for it. -/
lemma Executes.executed? {m : Machine} {mv : Move} {i : Instr} (h : m.Executes mv i) :
    m.executed? mv = some i := by
  obtain ⟨t, th, rest, rfl, ht, hcode, hawake⟩ := h
  simp [Machine.executed?, ht, hcode, hawake]

/-- The instruction that is computed for a move is what it executes. -/
lemma executes_of_executed? {m : Machine} {mv : Move} {i : Instr} (h : m.executed? mv = some i) :
    m.Executes mv i := by
  cases mv with
  | exec t =>
    obtain ⟨th, ht, hth⟩ := Option.bind_eq_some_iff.1 h
    split at hth
    · cases hth
    · next hawake =>
      obtain ⟨rest, hcode⟩ := List.head?_eq_some_iff.1 hth
      exact ⟨t, th, rest, rfl, ht, hcode, by simpa using hawake⟩
  | rouse t => cases h
  | pass ms => cases h

/-- What is counted over a run happens in it. -/
lemma tally_pos_iff {p : Machine → Instr → Bool} {m : Machine} {moves : List Move} :
    0 < m.tally p moves ↔ Happens m moves fun s mv => ∃ i, s.Executes mv i ∧ p s i = true := by
  induction moves using List.reverseRecOn with
  | nil =>
    refine ⟨fun h => absurd h (Nat.lt_irrefl 0), ?_⟩
    rintro ⟨before, mv, hpre, -⟩
    simp at hpre
  | append_singleton moves mv ih =>
    rw [tally_concat, happens_concat, ← ih, Nat.add_pos_iff_pos_or_pos]
    refine or_congr_right ⟨fun h => ?_, ?_⟩
    · obtain ⟨i, hi, hp⟩ := List.countP_pos_iff.1 h
      exact ⟨i, executes_of_executed? (Option.mem_toList.1 hi), hp⟩
    · rintro ⟨i, hi, hp⟩
      exact List.countP_pos_iff.2 ⟨i, Option.mem_toList.2 hi.executed?, hp⟩

/-! ### Who has a dialog in hand -/

/-- The dialog that an instruction has in hand. -/
def Instr.dialog? : Instr → Option DialogId
  | .putBack _ d => some d
  | i => i.offer?

/-- Whether an instruction is a step of showing a dialog, before the toolkit has decided about it. -/
def Instr.shows (d : DialogId) : Instr → Bool
  | .present d' | .accept d' | .exhibit d' | .choose d' | .schedulePress d' _ | .keep d' => d' == d
  | _ => false

/-- Whether an instruction is a step of a press task that holds a dialog. -/
def Instr.holds (d : DialogId) : Instr → Bool
  | .pressTaken _ d' _ | .putBack _ d' | .pressChosen d' _ => d' == d
  | _ => false

/-- Whether the toolkit accepts a dialog with this instruction: it keeps the dialog, or posts its press. -/
def Instr.takesUp (d : DialogId) (m : Machine) : Instr → Bool
  | .keep d' => d' == d
  | .schedulePress d' _ => d' == d && !m.loop.closed
  | _ => false

/-- Whether the toolkit refuses a dialog with this instruction: a failure was injected, or the loop is closed to
the press. -/
def Instr.turnsDown (d : DialogId) (m : Machine) : Instr → Bool
  | .accept d' => d' == d && m.desk.failNext.isSome
  | .schedulePress d' _ => d' == d && m.loop.closed
  | _ => false

/-- Whether an instruction settles a call, with an answer or without. -/
def Instr.settles (c : CallId) : Instr → Bool
  | .complete c' _ | .release c' => c' == c
  | _ => false

/-- Whether an instruction has no dialog in hand and settles no call. -/
def Instr.apart : Instr → Bool
  | .complete _ _ | .release _ => false
  | i => i.dialog?.isNone

/-- What is apart from dialogs and answers has no dialog in hand. -/
lemma Instr.dialog?_of_apart {i : Instr} (h : i.apart = true) : i.dialog? = none := by
  cases i <;> first | rfl | cases h

/-- What is apart from dialogs and answers settles no call. -/
lemma Instr.settles_of_apart {i : Instr} (h : i.apart = true) (c : CallId) : i.settles c = false := by
  cases i <;> first | rfl | cases h

/-- Loaded programs are apart from dialogs and answers. -/
lemma apart_load (body : List Op) : (load body).all Instr.apart = true := by
  refine List.all_eq_true.2 fun j hj => ?_
  obtain ⟨o, -, rfl⟩ := mem_load.1 hj
  rfl

/-- The task that an operation posts is apart from dialogs and answers. -/
lemma apart_of_task {o : Op} {task : Task} (h : Op.task? o = some task) : task.all Instr.apart = true := by
  cases o with
  | post body =>
    cases h
    exact apart_load body
  | press index slot =>
    cases h
    rfl
  | _ => cases h

/-- A step of showing a dialog has it in hand. -/
lemma Instr.dialog?_of_shows {i : Instr} {d : DialogId} (h : i.shows d = true) : i.dialog? ≠ none := by
  cases i <;> simp_all [Instr.shows, Instr.dialog?, Instr.offer?]

/-- A step of a press task that holds a dialog has it in hand. -/
lemma Instr.dialog?_of_holds {i : Instr} {d : DialogId} (h : i.holds d = true) : i.dialog? ≠ none := by
  cases i <;> simp_all [Instr.holds, Instr.dialog?, Instr.offer?]

/-- What only instructions with a dialog in hand are, no other is. -/
lemma Instr.eq_false_of_no_dialog {p : Instr → Bool} {i : Instr} (hp : ∀ i, p i = true → i.dialog? ≠ none)
    (h : i.dialog? = none) : p i = false := by
  by_contra hi
  exact hp i (by simpa using hi) h

/-- Code without dialogs counts for nothing. -/
lemma countP_no_dialog {p : Instr → Bool} {code : List Instr} (hp : ∀ i, p i = true → i.dialog? ≠ none)
    (h : ∀ i ∈ code, i.dialog? = none) : code.countP p = 0 :=
  List.countP_eq_zero.2 fun i hi hpi => hp i hpi (h i hi)

/-! ### Presses and dismissals in the history -/

/-- Whether an event tells of a press or of a dismissal. -/
def Event.ofDialog : Event → Bool
  | .pressed _ _ | .dismissed (some _) => true
  | _ => false

/-- The presses and dismissals so far, oldest first. -/
def deeds (m : Machine) : List Event := (m.history.toList.map Prod.snd).filter Event.ofDialog

/-- Whether a handler of a dialog is started in an event. -/
def Event.activates (d : DialogId) : Event → Bool
  | .pressed d' _ => d' == d
  | _ => false

/-- Whether a dialog is dismissed in an event. -/
def Event.dismisses (d : DialogId) : Event → Bool
  | .dismissed (some d') => d' == d
  | _ => false

/-- A quiet move presses and dismisses nothing. -/
lemma Quiet.deeds {m m' : Machine} (h : Quiet m m') : m'.deeds = m.deeds := by
  rcases h.history with he | ⟨t, e, he, ⟨task, rfl⟩ | ⟨token, depth, rfl⟩⟩
  · rw [Machine.deeds, he, Machine.deeds]
  · simp [Machine.deeds, he, Event.ofDialog]
  · simp [Machine.deeds, he, Event.ofDialog]

/-- An event is among the presses and dismissals if it is one of them. -/
lemma deeds_emit (m : Machine) (t : ThreadId) (e : Event) :
    (m.emit t e).deeds = m.deeds ++ [e].filter Event.ofDialog := by
  simp [deeds, emit]

/-- An event that is no press and no dismissal is not among these. -/
lemma deeds_emit_other {m : Machine} {t : ThreadId} {e : Event} (h : e.ofDialog = false) :
    (m.emit t e).deeds = m.deeds := by
  simp [deeds_emit, h]

/-- What a program is told about its offer is neither a press nor a dismissal. -/
lemma deeds_tellProgram (m : Machine) (t : ThreadId) (origin : Origin) (failure : Option ToolkitFailure) :
    (m.tellProgram t origin failure).deeds = m.deeds :=
  told_tellProgram m t origin failure fun _ => rfl

/-- Presses and dismissals are never taken back. -/
lemma Grows.deeds {m m' : Machine} (h : m.Grows m') : m.deeds <+: m'.deeds :=
  (h.history.map Prod.snd).filter Event.ofDialog

/-! ### What an instruction does to dialogs -/

/-- What an instruction does to dialogs: the code it leaves, what it hands on, the offers and the pending dialogs
after it, and the presses and dismissals it tells of. -/
inductive DialogStep (m : Machine) :
    Instr → List Instr → List Instr → List Offer → List DialogId → List Event → Prop where
  | offer {i o} :
    i.dialog? = none →
    DialogStep m i [.present m.dialogs.length] [] (m.dialogs ++ [o]) m.desk.pending []
  | present {d} :
    DialogStep m (.present d) [.accept d] [] m.dialogs m.desk.pending []
  | fail {d o e} :
    m.dialogs[d]? = some o →
    m.desk.failNext = some e →
    DialogStep m (.accept d) (o.origin.refused e) [] m.dialogs m.desk.pending []
  | accept {d} :
    m.desk.failNext = none →
    DialogStep m (.accept d) [.exhibit d] [] m.dialogs m.desk.pending []
  | exhibit {d} :
    DialogStep m (.exhibit d) [.choose d] [] m.dialogs m.desk.pending []
  | chooseNone {d} :
    DialogStep m (.choose d) [.keep d] [] m.dialogs m.desk.pending []
  | choose {d slot} :
    DialogStep m (.choose d) [.schedulePress d slot] [] m.dialogs m.desk.pending []
  | schedule {d slot o} :
    m.dialogs[d]? = some o →
    m.loop.closed = false →
    DialogStep m (.schedulePress d slot) (.wakeLoop :: o.origin.accepted) [.pressChosen d slot] m.dialogs
      m.desk.pending []
  | closed {d slot o} :
    m.dialogs[d]? = some o →
    m.loop.closed = true →
    DialogStep m (.schedulePress d slot) (o.origin.refused .closed) [] m.dialogs m.desk.pending []
  | keep {d o} :
    m.dialogs[d]? = some o →
    DialogStep m (.keep d) o.origin.accepted [] m.dialogs (m.desk.pending ++ [d]) []
  | take {index slot place d} :
    m.desk.pending[place]? = some d →
    DialogStep m (.takePending index slot) [.pressTaken place d slot] [] m.dialogs
      (m.desk.pending.eraseIdx place) []
  | press {i d slot o reaction} :
    i.press? = some (d, slot) →
    m.dialogs[d]? = some o →
    o.dialog.press slot = .ok reaction →
    DialogStep m i reaction.code [] m.dialogs m.desk.pending [.pressed d slot]
  | miss {place d slot} :
    DialogStep m (.pressTaken place d slot) [.putBack place d] [] m.dialogs m.desk.pending []
  | putBack {place d} :
    DialogStep m (.putBack place d) [] [] m.dialogs
      (m.desk.pending.insertIdx (min place m.desk.pending.length) d) []
  | dismiss {d o} :
    m.desk.pending.getLast? = some d →
    m.dialogs[d]? = some o →
    o.dialog.cancelable = true →
    DialogStep m (.op .dismiss) [] [] m.dialogs m.desk.pending.dropLast [.dismissed (some d)]
  | other {i next sent} :
    i.dialog? = none →
    (next ++ sent).all Instr.apart = true →
    DialogStep m i next sent m.dialogs m.desk.pending []

/-- Without overrides, a dialog that a prompt has offered goes to the toolkit. -/
lemma Bare.presented {m : Machine} (hm : m.Bare) (d : DialogId) (o : Offer) :
    m.presented d o = [.accept d] := by
  simp [Machine.presented, hm.overrides]

/-- Whatever fires, does to dialogs what `DialogStep` says. -/
lemma Fires.dialogStep {m m₁ : Machine} {t i rest next sent} (hf : Fires m t i next sent m₁)
    (ht : m.codes[t]? = some (i :: rest)) (hm : m.Bare) :
    ∃ events, DialogStep m i next sent m₁.dialogs m₁.desk.pending events ∧
      m₁.deeds = m.deeds ++ events := by
  have himem : i ∈ m.agenda := mem_agenda_of_code ht (List.mem_cons_self ..)
  have hi : i.Sound m := hm.sound.agenda i himem
  -- the step is given by its offers, its pending dialogs and its events
  have as : ∀ {dialogs pending events}, DialogStep m i next sent dialogs pending events →
      m₁.dialogs = dialogs → m₁.desk.pending = pending → m₁.deeds = m.deeds ++ events →
      ∃ events, DialogStep m i next sent m₁.dialogs m₁.desk.pending events ∧
        m₁.deeds = m.deeds ++ events := by
    rintro _ _ events h rfl rfl hdeeds
    exact ⟨events, h, hdeeds⟩
  have other : i.dialog? = none → (next ++ sent).all Instr.apart = true →
      m₁.dialogs = m.dialogs → m₁.desk.pending = m.desk.pending → m₁.deeds = m.deeds →
      ∃ events, DialogStep m i next sent m₁.dialogs m₁.desk.pending events ∧
        m₁.deeds = m.deeds ++ events :=
    fun hi hnew hdialogs hpending hdeeds =>
      as (.other hi hnew) hdialogs hpending (hdeeds.trans (List.append_nil _).symm)
  cases hf with
  | noCall hi' hn => exact absurd hn (hi.call_ne_none hi')
  | noOffer hi' hn => exact absurd hn (hi.offer_ne_none hi')
  | offer => exact as (.offer rfl) rfl rfl (List.append_nil _).symm
  | create _ => exact as (.offer rfl) rfl rfl (List.append_nil _).symm
  | presentOpen _ hs => simp [hm.headless.terminal] at hs
  | presentProgram _ _ _ => exact as .present rfl rfl (List.append_nil _).symm
  | presentInterrupt _ _ _ hshow _ _ => simp [hm.overrides] at hshow
  | presentIgnored _ _ _ hshow _ _ => simp [hm.overrides] at hshow
  | @present d o _ _ _ _ =>
    rw [hm.presented d o] at as ⊢
    exact as .present rfl rfl (List.append_nil _).symm
  | acceptFailed ho he =>
    refine as (.fail ho he) (by simp [tellProgram_eq]) (by simp [tellProgram_eq]) ?_
    rw [deeds_tellProgram, List.append_nil]
    rfl
  | accept _ he => exact as (.accept he) rfl rfl (List.append_nil _).symm
  | exhibit _ => exact as .exhibit rfl rfl (List.append_nil _).symm
  | chooseNone _ _ => exact as .chooseNone rfl rfl (List.append_nil _).symm
  | choose _ _ _ => exact as .choose rfl rfl (deeds_emit ..)
  | chooseMissing _ _ _ => exact as .chooseNone rfl rfl (deeds_emit ..)
  | schedulePress ho hc =>
    refine as (.schedule ho hc) (by simp [tellProgram_eq, enqueue, emit])
      (by simp [tellProgram_eq, enqueue, emit]) ?_
    rw [deeds_tellProgram]
    exact deeds_emit ..
  | schedulePressClosed ho hc =>
    refine as (.closed ho hc) (by simp [tellProgram_eq]) (by simp [tellProgram_eq]) ?_
    rw [deeds_tellProgram, List.append_nil]
  | keep ho =>
    refine as (.keep ho) (by simp [tellProgram_eq]) (by simp [tellProgram_eq]) ?_
    rw [deeds_tellProgram, List.append_nil]
    rfl
  | takePending _ hd => exact as (.take hd) rfl rfl (List.append_nil _).symm
  | pressTaken ho hr | pressChosen ho hr => exact as (.press rfl ho hr) rfl rfl (deeds_emit ..)
  | pressTakenMissing _ _ => exact as .miss rfl rfl (deeds_emit ..)
  | putBack => exact as .putBack rfl rfl (List.append_nil _).symm
  | pressChosenMissing ho hr =>
    exact absurd hr (hi.press_ne_error ho)
  | dismiss hl ho hc => exact as (.dismiss hl ho hc) rfl rfl (deeds_emit ..)
  | conclude => exact absurd himem (hm.headless.conclude _ _)
  | keyClosed hs _ => simp [hm.headless.terminal] at hs
  | key hs _ => simp [hm.headless.terminal] at hs
  | post ho _ =>
    have htask := apart_of_task ho
    exact other rfl htask rfl rfl ((deeds_emit_other rfl).trans (deeds_emit_other rfl))
  | fork => exact other rfl (apart_load _) rfl rfl rfl
  | later => exact other rfl (apart_load _) rfl rfl rfl
  | @ask p ticket q _ =>
    refine other rfl ?_ rfl rfl (deeds_emit_other rfl)
    cases (m.newCall t p q ticket).context <;> rfl
  | awaitInterrupted _ _ =>
    refine other rfl ?_ rfl rfl (deeds_emit_other rfl)
    split <;> rfl
  | nest _ _ | dismissRefused _ _ _ =>
    exact other rfl rfl rfl rfl ((deeds_emit_other rfl).trans (deeds_emit_other rfl))
  | _ => exact other rfl rfl rfl rfl (by first | rfl | exact deeds_emit_other rfl)

/-! ### A dialog in hand comes next -/

/-- Only the next instruction of a thread and the first one of a task may have a dialog in hand. -/
def InFront (m : Machine) : Prop := ∀ code ∈ m.codes ++ m.loop.queue, ∀ i ∈ code.tail, i.dialog? = none

/-- What follows an accepted offer has no dialog in hand. -/
lemma no_dialog_accepted {origin : Origin} {j : Instr} (hj : j ∈ origin.accepted) : j.dialog? = none := by
  obtain ⟨c, -, rfl⟩ := mem_accepted.1 hj
  rfl

/-- What follows a refused offer has no dialog in hand. -/
lemma no_dialog_refused {origin : Origin} {e : ToolkitFailure} {j : Instr} (hj : j ∈ origin.refused e) :
    j.dialog? = none := by
  rcases mem_refused.1 hj with ⟨c, -, rfl | rfl⟩ | ⟨c, -, rfl | rfl | rfl⟩ <;> rfl

/-- A handler has no dialog in hand. -/
lemma no_dialog_reaction {reaction : Reaction} {j : Instr} (hj : j ∈ reaction.code) : j.dialog? = none := by
  rcases mem_reaction.1 hj with ⟨body, -, o, -, rfl⟩ | ⟨c, code, stops, -, rfl | ⟨-, rfl⟩⟩ <;> rfl

/-- What an instruction leaves and hands on has a dialog in hand at most in front. -/
lemma DialogStep.front {m : Machine} {i next sent dialogs pending events}
    (h : DialogStep m i next sent dialogs pending events) :
    ∀ code ∈ [next, sent], ∀ j ∈ code.tail, j.dialog? = none := by
  intro code hcode j hj
  simp only [List.mem_cons, List.not_mem_nil, or_false] at hcode
  cases h with
  | other _ hnew =>
    apply Instr.dialog?_of_apart
    apply List.all_eq_true.1 hnew
    rcases hcode with rfl | rfl
    · exact List.mem_append_left _ (List.mem_of_mem_tail hj)
    · exact List.mem_append_right _ (List.mem_of_mem_tail hj)
  | schedule _ _ =>
    rcases hcode with rfl | rfl
    · exact no_dialog_accepted hj
    · cases hj
  | keep _ =>
    rcases hcode with rfl | rfl
    · exact no_dialog_accepted (List.mem_of_mem_tail hj)
    · cases hj
  | fail _ _ | closed _ _ =>
    rcases hcode with rfl | rfl
    · exact no_dialog_refused (List.mem_of_mem_tail hj)
    · cases hj
  | press _ _ _ =>
    rcases hcode with rfl | rfl
    · exact no_dialog_reaction (List.mem_of_mem_tail hj)
    · cases hj
  | _ => rcases hcode with rfl | rfl <;> cases hj

/-- What stands behind the first instruction stands behind it on top, or below. -/
lemma mem_tail_append {top below : List Instr} {j : Instr} (h : j ∈ (top ++ below).tail) :
    j ∈ top.tail ∨ j ∈ below := by
  cases top with
  | nil => exact .inr (List.mem_of_mem_tail h)
  | cons i top => exact List.mem_append.1 h

/-- Giving one thread other code keeps dialogs in front, if the code has one in hand at most in front. -/
lemma InFront.set {m m' : Machine} (h : m.InFront) {t : ThreadId} {new : List Instr}
    (hcodes : m'.codes = m.codes.set t new) (hqueue : ∀ task ∈ m'.loop.queue, task ∈ m.loop.queue)
    (hnew : ∀ j ∈ new.tail, j.dialog? = none) : m'.InFront := by
  intro code hcode
  rw [hcodes] at hcode
  rcases List.mem_append.1 hcode with hcode | hcode
  · rcases List.mem_or_eq_of_mem_set hcode with hcode | rfl
    · exact h code (List.mem_append_left _ hcode)
    · exact hnew
  · exact h code (List.mem_append_right _ (hqueue code hcode))

/-- Behind the next instruction of a thread there is no dialog in hand. -/
lemma InFront.behind {m : Machine} (h : m.InFront) {t : ThreadId} {i rest}
    (ht : m.codes[t]? = some (i :: rest)) : ∀ j ∈ rest, j.dialog? = none :=
  h _ (List.mem_append_left _ (List.mem_of_getElem? ht))

/-- An instruction leaves dialogs in hand only where they come next. -/
lemma Fires.inFront {m m₁ : Machine} {t i rest next sent} (hf : Fires m t i next sent m₁)
    (ht : m.codes[t]? = some (i :: rest)) (hm : m.Bare) (h : m.InFront) :
    (m₁.goto t (next ++ rest)).InFront := by
  obtain ⟨events, hstep, -⟩ := hf.dialogStep ht hm
  have h₁ : m₁.InFront := by
    intro code hcode
    rcases List.mem_append.1 hcode with hcode | hcode
    · obtain ⟨hc, -⟩ | ⟨hc, -⟩ | ⟨hc, -⟩ := hf.placement
      · exact h code (List.mem_append_left _ (hc ▸ hcode))
      · rw [hc] at hcode
        rcases List.mem_append.1 hcode with hcode | hcode
        · exact h code (List.mem_append_left _ hcode)
        · exact hstep.front code (List.mem_cons_of_mem _ hcode)
      · exact h code (List.mem_append_left _ (hc ▸ hcode))
    · rcases hf.queue_after hcode with hcode | ⟨rfl, -⟩
      · exact h code (List.mem_append_right _ hcode)
      · exact hstep.front code (by simp)
  refine h₁.set (codes_goto ..) (fun _ htask => htask) fun j hj => ?_
  rcases mem_tail_append hj with hj | hj
  · exact hstep.front next (by simp) j hj
  · exact h.behind ht j hj

/-- A thread that panics has no dialog in hand. -/
lemma InFront.panic {m : Machine} (h : m.InFront) {t : ThreadId} {rest}
    (ht : m.codes[t]? = some (.op .panic :: rest)) :
    ∀ i ∈ .op .panic :: rest, i.dialog? = none := by
  intro i hi
  rcases List.mem_cons.1 hi with rfl | hi
  · rfl
  · exact h.behind ht i hi

/-- Every move leaves dialogs in hand only where they come next. -/
lemma step_inFront {m : Machine} (mv : Move) (hm : m.Bare) (h : m.InFront) : (m.step mv).InFront := by
  have hs := steps m mv
  generalize m.step mv = m' at hs
  cases hs with
  | stuck _ => exact h
  | fires hth hcode _ hf => exact hf.inFront (hcode ▸ codes_getElem? hth) hm h
  | @takes t th token rest task queue hth hcode _ _ hq =>
    have ht : m.codes[t]? = some (.pump token :: rest) := hcode ▸ codes_getElem? hth
    have htask : task ∈ m.loop.queue := hq ▸ List.mem_cons_self ..
    refine h.set (codes_goto ..) (fun task htask => hq ▸ List.mem_cons_of_mem _ htask) fun j hj => ?_
    rcases mem_tail_append hj with hj | hj
    · exact h task (List.mem_append_right _ htask) j hj
    · rcases List.mem_cons.1 hj with rfl | hj
      · rfl
      · exact h.behind ht j hj
  | @panics t th rest hth hcode _ =>
    have ht : m.codes[t]? = some (.op .panic :: rest) := hcode ▸ codes_getElem? hth
    refine h.set (codes_panic ..) (fun task htask => ?_) fun j hj => ?_
    · rwa [loop_panic] at htask
    · exact h.panic ht j ((caught_sublist rest).subset (List.mem_of_mem_tail hj))
  | @rouse t =>
    intro code hcode
    rw [codes_rouse] at hcode
    exact h code hcode
  | pass => exact h

/-- What a panic drops has no dialog in hand. -/
lemma InFront.countP_panic {m : Machine} (h : m.InFront) {t : ThreadId} {rest}
    (ht : m.codes[t]? = some (.op .panic :: rest)) {p : Instr → Bool}
    (hp : ∀ i, p i = true → i.dialog? ≠ none) : (m.panic t rest).agenda.countP p = m.agenda.countP p := by
  have hperm := (flatten_set_perm ht (caught rest)).countP_eq p
  have hdropped : (.op .panic :: rest : List Instr).countP p = 0 := countP_no_dialog hp (h.panic ht)
  have hcaught : (caught rest).countP p = 0 :=
    countP_no_dialog hp fun i hi => h.panic ht i ((caught_sublist rest).subset hi)
  simp only [List.countP_append, hdropped, hcaught, Nat.add_zero] at hperm
  rw [agenda, codes_panic, loop_panic, agenda, List.countP_append, List.countP_append, hperm]

/-- A move fires the instruction it executes; or it is quiet, executes none that has a dialog in hand or settles a
call, and all dialogs stay where they are. -/
lemma InFront.step_cases {m : Machine} (h : m.InFront) (mv : Move) :
    (∃ t i rest next sent m₁, mv = .exec t ∧ m.executed? mv = some i ∧ m.codes[t]? = some (i :: rest) ∧
      Fires m t i next sent m₁ ∧ m.step mv = m₁.goto t (next ++ rest)) ∨
    Quiet m (m.step mv) ∧
      (∀ i, m.executed? mv = some i → i.apart = true) ∧
      ∀ p : Instr → Bool, (∀ i, p i = true → i.dialog? ≠ none) →
        (m.step mv).agenda.countP p = m.agenda.countP p := by
  by_cases hfires : ∃ t i rest next sent m₁, mv = .exec t ∧ m.Executes mv i ∧ m.codes[t]? = some (i :: rest) ∧
      Fires m t i next sent m₁ ∧ m.step mv = m₁.goto t (next ++ rest)
  · obtain ⟨t, i, rest, next, sent, m₁, hmv, hexec, hfired⟩ := hfires
    exact .inl ⟨t, i, rest, next, sent, m₁, hmv, hexec.executed?, hfired⟩
  refine .inr ⟨(steps m mv).fires_at_or_quiet.resolve_left hfires, fun i hi => ?_, fun p hp => ?_⟩
  · cases i with
    | op | pump | sleepUntil => rfl
    | _ =>
      -- nothing else ever has to wait, so it would have fired
      have hexec := executes_of_executed? hi
      obtain ⟨t, rest, next, sent, m₁, hmv, hfired⟩ := hexec.fires_at (fun _ _ => nofun) (fun _ => nofun) nofun
      exact absurd ⟨t, _, rest, next, sent, m₁, hmv, hexec, hfired⟩ hfires
  · have hs := steps m mv
    generalize hm' : m.step mv = m' at hs
    cases hs with
    | stuck _ => rfl
    | @fires t th i rest next sent m₁ hth hcode hawake hf =>
      have hexec : m.Executes (.exec t) i := ⟨t, th, rest, rfl, hth, hcode, hawake⟩
      have ht : m.codes[t]? = some (i :: rest) := hcode ▸ codes_getElem? hth
      exact absurd ⟨t, i, rest, next, sent, m₁, rfl, hexec, ht, hf, hm'⟩ hfires
    | takes hth hcode _ _ hq => exact (agenda_takes (hcode ▸ codes_getElem? hth) hq).countP_eq p
    | panics hth hcode _ => exact h.countP_panic (hcode ▸ codes_getElem? hth) hp
    | rouse =>
      rw [agenda, codes_rouse]
      rfl
    | pass => rfl

/-! ### The balance of dialogs -/

/-- Whether a dialog was offered, as a number. -/
def onRecord (dialogs : List Offer) (d : DialogId) : Nat := if d < dialogs.length then 1 else 0

/-- A new offer brings one dialog on record, the one with the next number. -/
lemma onRecord_concat (dialogs : List Offer) (o : Offer) (d : DialogId) :
    onRecord (dialogs ++ [o]) d = onRecord dialogs d + if dialogs.length = d then 1 else 0 := by
  by_cases h : dialogs.length = d
  · subst h
    simp [onRecord]
  · have hlt : d < (dialogs ++ [o]).length ↔ d < dialogs.length := by
      rw [List.length_append, List.length_singleton, Nat.lt_succ_iff_lt_or_eq]
      exact or_iff_left (Ne.symm h)
    simp only [onRecord, hlt, if_neg h, Nat.add_zero]

/-- How often a dialog is pending, held, activated and dismissed. -/
def placed (m : Machine) (d : DialogId) : Nat :=
  m.desk.pending.count d + m.agenda.countP (Instr.holds d) + m.deeds.countP (Event.activates d) +
    m.deeds.countP (Event.dismisses d)

/-- What has no dialog in hand is no step of showing one. -/
lemma Instr.shows_of_no_dialog {i : Instr} (h : i.dialog? = none) (d : DialogId) : i.shows d = false :=
  Instr.eq_false_of_no_dialog (fun _ => Instr.dialog?_of_shows) h

/-- What has no dialog in hand holds none. -/
lemma Instr.holds_of_no_dialog {i : Instr} (h : i.dialog? = none) (d : DialogId) : i.holds d = false :=
  Instr.eq_false_of_no_dialog (fun _ => Instr.dialog?_of_holds) h

/-- An instruction that presses a button holds the dialog of this button only. -/
lemma Instr.holds_of_press {i : Instr} {d : DialogId} {slot : Slot} (h : i.press? = some (d, slot))
    (d' : DialogId) : i.holds d' = (d == d') := by
  cases i <;> cases h <;> rfl

/-- An instruction that presses a button shows no dialog. -/
lemma Instr.shows_of_press {i : Instr} {d : DialogId} {slot : Slot} (h : i.press? = some (d, slot))
    (d' : DialogId) : i.shows d' = false := by
  cases i <;> first | rfl | cases h

/-- The toolkit decides about dialogs that are being shown. -/
lemma Instr.undecided {i : Instr} {d : DialogId} (h : i.shows d = false) (m : Machine) :
    i.takesUp d m = false ∧ i.turnsDown d m = false := by
  cases i <;> simp_all [Instr.shows, Instr.takesUp, Instr.turnsDown]

/-- An offered dialog is shown until the toolkit accepts or refuses it. -/
lemma DialogStep.shows {m : Machine} {i next sent dialogs pending events}
    (h : DialogStep m i next sent dialogs pending events) (d : DialogId) :
    next.countP (Instr.shows d) + sent.countP (Instr.shows d) +
        ([i].countP (Instr.takesUp d m) + [i].countP (Instr.turnsDown d m)) + onRecord m.dialogs d =
      [i].countP (Instr.shows d) + onRecord dialogs d := by
  have hp : ∀ i, Instr.shows d i = true → i.dialog? ≠ none := fun _ => Instr.dialog?_of_shows
  cases h with
  | offer hi =>
    have hs := Instr.shows_of_no_dialog hi d
    obtain ⟨hup, hdown⟩ := Instr.undecided hs m
    have hnew : Instr.shows d (.present m.dialogs.length) = (m.dialogs.length == d) := rfl
    simp [hs, hup, hdown, hnew, onRecord_concat, Nat.add_comm]
  | fail _ he =>
    rw [countP_no_dialog hp fun j hj => no_dialog_refused hj]
    simp [Instr.shows, Instr.takesUp, Instr.turnsDown, he]
  | accept he => simp [Instr.shows, Instr.takesUp, Instr.turnsDown, he]
  | schedule _ hc =>
    rw [List.countP_cons, countP_no_dialog hp fun j hj => no_dialog_accepted hj]
    simp [Instr.shows, Instr.takesUp, Instr.turnsDown, hc]
  | closed _ hc =>
    rw [countP_no_dialog hp fun j hj => no_dialog_refused hj]
    simp [Instr.shows, Instr.takesUp, Instr.turnsDown, hc]
  | keep _ =>
    rw [countP_no_dialog hp fun j hj => no_dialog_accepted hj]
    simp [Instr.shows, Instr.takesUp, Instr.turnsDown]
  | press hi _ _ =>
    have hs := Instr.shows_of_press hi d
    obtain ⟨hup, hdown⟩ := Instr.undecided hs m
    rw [countP_no_dialog hp fun j hj => no_dialog_reaction hj]
    simp [hs, hup, hdown]
  | other hi hnew =>
    have hs := Instr.shows_of_no_dialog hi d
    obtain ⟨hup, hdown⟩ := Instr.undecided hs m
    rw [← List.countP_append, countP_no_dialog hp fun j hj => Instr.dialog?_of_apart (List.all_eq_true.1 hnew j hj)]
    simp [hs, hup, hdown]
  | _ => simp [Instr.shows, Instr.takesUp, Instr.turnsDown]

/-- An accepted dialog is pending, held, activated or dismissed, and goes from one of these to another. -/
lemma DialogStep.places {m : Machine} {i next sent dialogs pending events}
    (h : DialogStep m i next sent dialogs pending events) (d : DialogId) :
    next.countP (Instr.holds d) + sent.countP (Instr.holds d) + pending.count d +
        (events.countP (Event.activates d) + events.countP (Event.dismisses d)) =
      [i].countP (Instr.holds d) + m.desk.pending.count d + [i].countP (Instr.takesUp d m) := by
  have hp : ∀ i, Instr.holds d i = true → i.dialog? ≠ none := fun _ => Instr.dialog?_of_holds
  cases h with
  | offer hi =>
    have hup := (Instr.undecided (Instr.shows_of_no_dialog hi d) m).1
    have hnew : Instr.holds d (.present m.dialogs.length) = false := rfl
    simp [Instr.holds_of_no_dialog hi d, hup, hnew]
  | fail _ he =>
    rw [countP_no_dialog hp fun j hj => no_dialog_refused hj]
    simp [Instr.holds, Instr.takesUp]
  | schedule _ hc =>
    rw [List.countP_cons, countP_no_dialog hp fun j hj => no_dialog_accepted hj]
    simp [Instr.holds, Instr.takesUp, hc]
    omega
  | closed _ hc =>
    rw [countP_no_dialog hp fun j hj => no_dialog_refused hj]
    simp [Instr.holds, Instr.takesUp, hc]
  | keep _ =>
    rw [countP_no_dialog hp fun j hj => no_dialog_accepted hj]
    simp [Instr.holds, Instr.takesUp, List.count_singleton]
  | @take index slot place d' hd =>
    obtain ⟨hlt, rfl⟩ := List.getElem?_eq_some_iff.1 hd
    have hperm := (List.getElem_cons_eraseIdx_perm hlt).count_eq d
    simp only [List.count_cons, beq_iff_eq] at hperm
    simp [Instr.holds, Instr.takesUp]
    omega
  | press hi _ _ =>
    have hup := (Instr.undecided (Instr.shows_of_press hi d) m).1
    rw [countP_no_dialog hp fun j hj => no_dialog_reaction hj]
    simp [Instr.holds_of_press hi, hup, Event.activates, Event.dismisses]
    omega
  | @putBack place d' =>
    have hperm := (List.perm_insertIdx d' _ (Nat.min_le_right place m.desk.pending.length)).count_eq d
    rw [List.count_cons] at hperm
    simp [Instr.holds, Instr.takesUp, hperm]
    omega
  | @dismiss d' o hl _ _ =>
    have hcount := congrArg (List.count d) (List.dropLast_append_getLast? d' hl)
    simp only [List.count_append, List.count_singleton, beq_iff_eq] at hcount
    simp [Instr.holds, Instr.takesUp, Event.activates, Event.dismisses]
    omega
  | other hi hnew =>
    have hup := (Instr.undecided (Instr.shows_of_no_dialog hi d) m).1
    have hzero := countP_no_dialog hp fun j hj => Instr.dialog?_of_apart (List.all_eq_true.1 hnew j hj)
    rw [List.countP_append] at hzero
    simp [Instr.holds_of_no_dialog hi d, hup, hzero]
  | _ => simp [Instr.holds, Instr.takesUp]

/-- A headless machine without overrides whose dialogs are in front. -/
structure Trusty (m : Machine) : Prop where
  bare : m.Bare
  front : m.InFront

/-- Every move keeps a machine trusty. -/
lemma step_trusty {m : Machine} (mv : Move) (h : m.Trusty) : (m.step mv).Trusty :=
  ⟨step_bare mv h.bare, step_inFront mv h.bare h.front⟩

/-- A fresh headless machine without overrides has no dialog in hand anywhere. -/
lemma Fresh.trusty {m : Machine} (hm : m.Fresh) (hterm : m.terminal = none) (hov : m.overrides = {}) :
    m.Trusty := by
  refine ⟨hm.bare hterm hov, fun code hcode i hi => ?_⟩
  obtain ⟨body, rfl⟩ : ∃ body, code = load body := by
    rcases List.mem_append.1 hcode with hcode | hcode
    · exact hm.codes code hcode
    · exact hm.queue code hcode
  obtain ⟨o, -, rfl⟩ := mem_load.1 (List.mem_of_mem_tail hi)
  rfl

/-- A run keeps a machine trusty. -/
lemma play_trusty {m : Machine} (h : m.Trusty) (moves : List Move) : (m.play moves).Trusty :=
  play_induction h (fun _ mv h => step_trusty mv h) moves

/-- The balance of a move: dialogs that are shown. -/
lemma Trusty.step_shows {m : Machine} (h : m.Trusty) (mv : Move) (d : DialogId) :
    (m.step mv).agenda.countP (Instr.shows d) + ((m.executed? mv).toList.countP (Instr.takesUp d m) +
        (m.executed? mv).toList.countP (Instr.turnsDown d m)) + onRecord m.dialogs d =
      m.agenda.countP (Instr.shows d) + onRecord (m.step mv).dialogs d := by
  rcases h.front.step_cases mv with ⟨t, i, rest, next, sent, m₁, -, hi, ht, hf, he⟩ | ⟨hq, hidle, hcount⟩
  · obtain ⟨events, hstep, -⟩ := hf.dialogStep ht h.bare
    have hagenda := hf.countP ht (Instr.shows d)
    have hshows := hstep.shows d
    have hdialogs : (m₁.goto t (next ++ rest)).dialogs = m₁.dialogs := rfl
    rw [he, hi, hdialogs, Option.toList_some]
    omega
  · rw [hcount _ fun _ => Instr.dialog?_of_shows, hq.dialogs]
    cases hi : m.executed? mv with
    | none => simp
    | some i =>
      obtain ⟨hup, hdown⟩ := Instr.undecided (Instr.shows_of_no_dialog (Instr.dialog?_of_apart (hidle i hi)) d) m
      simp [hup, hdown]

/-- The balance of a move: dialogs that were accepted. -/
lemma Trusty.step_placed {m : Machine} (h : m.Trusty) (mv : Move) (d : DialogId) :
    (m.step mv).placed d = m.placed d + (m.executed? mv).toList.countP (Instr.takesUp d m) := by
  rcases h.front.step_cases mv with ⟨t, i, rest, next, sent, m₁, -, hi, ht, hf, he⟩ | ⟨hq, hidle, hcount⟩
  · obtain ⟨events, hstep, hdeeds⟩ := hf.dialogStep ht h.bare
    have hagenda := hf.countP ht (Instr.holds d)
    have hplaces := hstep.places d
    have hpending : (m₁.goto t (next ++ rest)).desk.pending = m₁.desk.pending := rfl
    have hdeeds : (m₁.goto t (next ++ rest)).deeds = m.deeds ++ events := hdeeds
    rw [he, hi, placed, placed, hpending, hdeeds, List.countP_append, List.countP_append, Option.toList_some]
    omega
  · rw [placed, placed, hcount _ fun _ => Instr.dialog?_of_holds, hq.desk, hq.deeds]
    cases hi : m.executed? mv with
    | none => simp
    | some i => simp [(Instr.undecided (Instr.shows_of_no_dialog (Instr.dialog?_of_apart (hidle i hi)) d) m).1]

/-- The balance of a run, for one dialog. -/
lemma Trusty.play_balance {m : Machine} (h : m.Trusty) (moves : List Move) (d : DialogId) :
    (m.play moves).agenda.countP (Instr.shows d) +
        (m.tally (Instr.takesUp d) moves + m.tally (Instr.turnsDown d) moves) + onRecord m.dialogs d =
      m.agenda.countP (Instr.shows d) + onRecord (m.play moves).dialogs d ∧
    (m.play moves).placed d = m.placed d + m.tally (Instr.takesUp d) moves := by
  induction moves generalizing m with
  | nil => simp [tally, play_nil]
  | cons mv moves ih =>
    have hplay : m.play (mv :: moves) = (m.step mv).play moves := rfl
    have hshows := h.step_shows mv d
    have hplaced := h.step_placed mv d
    obtain ⟨ihshows, ihplaced⟩ := ih (step_trusty mv h)
    simp only [hplay, tally]
    constructor <;> omega

/-- What becomes of a dialog over a run: it is still being shown, or was refused once, or was accepted once; and
one that was accepted is in one place. -/
lemma Fresh.custody {m : Machine} (hm : m.Fresh) (hterm : m.terminal = none) (hov : m.overrides = {})
    (moves : List Move) (d : DialogId) :
    (m.play moves).agenda.countP (Instr.shows d) +
        (m.tally (Instr.takesUp d) moves + m.tally (Instr.turnsDown d) moves) =
      onRecord (m.play moves).dialogs d ∧
    (m.play moves).placed d = m.tally (Instr.takesUp d) moves := by
  have none : ∀ {p : Instr → Bool}, (∀ i, p i = true → i.dialog? ≠ .none) → m.agenda.countP p = 0 := by
    intro p hp
    refine countP_no_dialog hp fun i hi => ?_
    obtain ⟨o, rfl⟩ := hm.agenda hi
    rfl
  have hplaced : m.placed d = 0 := by
    simp [placed, none fun _ => Instr.dialog?_of_holds, hm.pending, deeds, hm.history]
  have hbalance := (hm.trusty hterm hov).play_balance moves d
  simpa [none fun _ => Instr.dialog?_of_shows, hplaced, onRecord, hm.dialogs] using hbalance

/-- A dialog is on record at most once. -/
lemma onRecord_le_one (dialogs : List Offer) (d : DialogId) : onRecord dialogs d ≤ 1 := by
  unfold onRecord
  split <;> simp

/-- A dialog is accepted or refused, and that once. -/
lemma Fresh.decided_once {m : Machine} (hm : m.Fresh) (hterm : m.terminal = none) (hov : m.overrides = {})
    (moves : List Move) (d : DialogId) :
    m.tally (Instr.takesUp d) moves + m.tally (Instr.turnsDown d) moves ≤ 1 := by
  have hshows := (hm.custody hterm hov moves d).1
  have hle := onRecord_le_one (m.play moves).dialogs d
  omega

/-- A dialog that was refused is nowhere, for good. -/
lemma Fresh.refused_nowhere {m : Machine} (hm : m.Fresh) (hterm : m.terminal = none) (hov : m.overrides = {})
    {moves : List Move} {d : DialogId} (h : 0 < m.tally (Instr.turnsDown d) moves) (more : List Move) :
    (m.play (moves ++ more)).placed d = 0 := by
  have honce := hm.decided_once hterm hov (moves ++ more) d
  have hplaced := (hm.custody hterm hov (moves ++ more) d).2
  rw [tally_append (Instr.turnsDown d)] at honce
  omega

end MessageBox.Machine

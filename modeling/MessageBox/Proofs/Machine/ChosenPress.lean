import MessageBox.Proofs.Conservation
import MessageBox.Proofs.Offers

/-!
# The press that a responder has chosen

A responder that chooses a button of a dialog has the press posted as a task of its own (`Ready.posts_press`), and
whoever takes that task starts the handler of the button (`Ready.takes_press`). Whatever other threads do in between,
the press is about to be posted, is posted, was made, or was refused because the loop is closed, and no other press of
the dialog is ever made (`Fresh.chosenPress`). What carries this through a run is the balance of dialogs in custody: a
dialog whose press is on its way is in no other place.
-/

namespace MessageBox.Machine

variable {m : Machine} {t : ThreadId} {d : DialogId} {o : Offer} {slot : Slot} {reaction : Reaction}
  {rest : List Instr} {i : Instr} {moves : List Move} {mv : Move}

/-- Whether an instruction presses a button of a dialog. -/
def Instr.presses (d : DialogId) (i : Instr) : Bool := i.press?.any (·.1 == d)

/-- An instruction comes next on a thread, or is the first one of a queued task. -/
def Impends (m : Machine) (i : Instr) : Prop := ∃ rest, i :: rest ∈ m.codes ++ m.loop.queue

/-- A move starts the handler of a button that a responder has chosen: its thread notes the press and goes on with the
handler. -/
def StartsHandler (m : Machine) (mv : Move) (d : DialogId) (slot : Slot) (reaction : Reaction) : Prop :=
  ∃ t rest, mv = .exec t ∧ m.codes[t]? = some (.pressChosen d slot :: rest) ∧
    m.step mv = (m.emit t (.pressed d slot)).goto t (reaction.code ++ rest)

/-- How often a run presses a dialog. -/
def presses (m : Machine) (d : DialogId) (moves : List Move) : Nat := m.tally (fun _ => Instr.presses d) moves

/-- How far a run has got with the press that a responder has chosen for a dialog. -/
inductive ChosenPress (m : Machine) (moves : List Move) (d : DialogId) (slot : Slot) (reaction : Reaction) :
    Prop where
  /-- The press is about to be posted. -/
  | scheduled :
    (m.play moves).Impends (.schedulePress d slot) →
    m.presses d moves = 0 →
    ChosenPress m moves d slot reaction
  /-- The press waits in its task, or the task was taken and the press comes next. -/
  | posted :
    (m.play moves).Impends (.pressChosen d slot) →
    m.presses d moves = 0 →
    ChosenPress m moves d slot reaction
  /-- The handler was started, and that was the only press. -/
  | started :
    Happens m moves (fun s mv => s.StartsHandler mv d slot reaction) →
    m.presses d moves = 1 →
    ChosenPress m moves d slot reaction
  /-- The loop was closed to the press. -/
  | refused :
    Happens m moves (fun s mv => s.Executes mv (.schedulePress d slot) ∧ s.loop.closed = true) →
    m.presses d moves = 0 →
    ChosenPress m moves d slot reaction

/-! ### A press by threads alone -/

/-- A thread that asks the responder, and runs alone, posts the press that the responder has chosen. -/
lemma Ready.posts_press (h : m.Ready t (.choose d :: rest)) (ho : m.dialogs[d]? = some o)
    (hchoose : m.desk.responder.choose o.dialog = some slot) (hslot : o.dialog.hasSlot slot = true)
    (hopen : m.loop.closed = false) :
    m.alone t 2 =
      (((m.emit t (.pressScheduled d slot o.dialog.title)).enqueue t [.pressChosen d slot]).tellProgram t o.origin
        none).goto t (.wakeLoop :: (o.origin.accepted ++ rest)) := by
  have hlast := h.goto (m.emit t (.pressScheduled d slot o.dialog.title)) rfl (.schedulePress d slot :: rest)
  rw [h.step_choose ho hchoose hslot 1, hlast.step_post ho hopen, enqueue_goto, goesOn_goto]
  rfl

/-- A thread that has taken the task of a press starts the handler of the button. -/
lemma Ready.step_press (h : m.Ready t (.pressChosen d slot :: rest)) (ho : m.dialogs[d]? = some o)
    (hpress : o.dialog.press slot = .ok reaction) :
    m.alone t 1 = (m.emit t (.pressed d slot)).goto t (reaction.code ++ rest) :=
  h.alone_one (by simp [execInstr, withOffer, ho, pressDialog, hpress])

/-- A live run that takes the task of a press, and goes on alone, starts the handler of the button. -/
lemma Ready.takes_press {token : Token} {queue : List Task} (h : m.Ready t (.pump token :: rest))
    (ho : m.dialogs[d]? = some o) (hpress : o.dialog.press slot = .ok reaction)
    (hqueue : m.loop.queue = [.pressChosen d slot] :: queue) (htoken : token ∉ m.loop.signalled) :
    m.alone t 2 =
      ((m.taken t [.pressChosen d slot] queue).emit t (.pressed d slot)).goto t
        (reaction.code ++ .pump token :: rest) := by
  have hnext := h.goto (m.taken t [.pressChosen d slot] queue) rfl (.pressChosen d slot :: .pump token :: rest)
  have htake : m.execInstr t rest (.pump token) =
      some ((m.taken t [.pressChosen d slot] queue).goto t (.pressChosen d slot :: .pump token :: rest)) := by
    simp [execInstr, pump, hqueue, htoken, taken]
  rw [h.alone_succ htake, hnext.step_press ho hpress, emit_goto, goto_goto]

/-! ### Presses and custody -/

/-- A press of a dialog holds the dialog. -/
lemma Instr.holds_of_presses (h : i.presses d = true) : i.holds d = true := by
  cases i with
  | pressTaken | pressChosen => simpa [Instr.presses, Instr.press?, Instr.holds] using h
  | _ => cases h

/-- An instruction with a dialog in hand comes next. -/
lemma InFront.impends (h : m.InFront) (hi : i ∈ m.agenda) (hd : i.dialog? ≠ none) : m.Impends i := by
  rw [agenda, ← List.flatten_append] at hi
  obtain ⟨code, hcode, hi⟩ := List.mem_flatten.1 hi
  cases code with
  | nil => cases hi
  | cons j rest =>
    rcases List.mem_cons.1 hi with rfl | hi
    · exact ⟨rest, hcode⟩
    · exact absurd (h _ hcode i hi) hd

/-- What comes next is on the agenda. -/
lemma Impends.mem_agenda (h : m.Impends i) : i ∈ m.agenda := by
  obtain ⟨rest, hcode⟩ := h
  exact mem_agenda_of_mem hcode (List.mem_cons_self ..)

/-- A quiet move leaves an instruction with a dialog in hand where it comes next. -/
lemma Impends.quiet {m' : Machine} (h : m.Impends i) (hfront : m.InFront) (hfront' : m'.InFront) (hq : Quiet m m')
    (hd : i.dialog? ≠ none) : m'.Impends i := by
  rcases hq.keeps i h.mem_agenda with hi | ⟨t, rest, ht, hi⟩
  · exact hfront'.impends hi hd
  · exact absurd (hfront.panic ht i hi) hd

/-- A handler that was started is told of ever after. -/
lemma Happens.activated (h : Happens m moves (fun s mv => s.StartsHandler mv d slot reaction)) :
    0 < (m.play moves).deeds.countP (Event.activates d) := by
  obtain ⟨before, mv, ⟨later, rfl⟩, t, rest, -, -, hstep⟩ := h
  have hpressed : .pressed d slot ∈ ((m.play before).step mv).deeds := by
    rw [hstep]
    show .pressed d slot ∈ ((m.play before).emit t (.pressed d slot)).deeds
    simp [deeds_emit, Event.ofDialog]
  have hgrows : ((m.play before).step mv).Grows (m.play (before ++ [mv] ++ later)) := by
    rw [play_append, play_concat]
    exact play_grows ..
  exact List.countP_pos_iff.2 ⟨_, hgrows.deeds.subset hpressed, by simp [Event.activates]⟩

/-- A run with one more move presses a dialog once more just if the move does. -/
lemma presses_concat (m : Machine) (d : DialogId) (moves : List Move) (mv : Move) :
    m.presses d (moves ++ [mv]) =
      m.presses d moves + ((m.play moves).executed? mv).toList.countP (Instr.presses d) :=
  tally_concat ..

/-- A move that executes no press of a dialog leaves the number of its presses as it is. -/
lemma presses_idle (h : ∀ i, (m.play moves).executed? mv = some i → i.presses d = false) :
    m.presses d (moves ++ [mv]) = m.presses d moves := by
  rw [presses_concat]
  cases hexec : (m.play moves).executed? mv with
  | none => rfl
  | some i => simp [h i hexec]

/-- A dialog that is held was accepted. -/
lemma placed_pos_of_holds (hi : i ∈ m.agenda) (hholds : i.holds d = true) : 0 < m.placed d := by
  have hpos : 0 < m.agenda.countP (Instr.holds d) := List.countP_pos_iff.2 ⟨i, hi, hholds⟩
  unfold placed
  omega

section Run

variable (hm : m.Fresh) (hterm : m.terminal = none) (hov : m.overrides = {})
include hm hterm hov

/-- A dialog that was never accepted, or was pressed already, is not pressed by the next move. -/
lemma Fresh.presses_same (h : (m.play moves).placed d = 0 ∨ 0 < (m.play moves).deeds.countP (Event.activates d)) :
    m.presses d (moves ++ [mv]) = m.presses d moves := by
  refine presses_idle fun i hexec => ?_
  by_contra hpresses
  have hi : i ∈ (m.play moves).agenda := (executes_of_executed? hexec).mem_agenda
  have hholds : 0 < (m.play moves).agenda.countP (Instr.holds d) :=
    List.countP_pos_iff.2 ⟨i, hi, Instr.holds_of_presses (by simpa using hpresses)⟩
  have hle := hm.placed_le_one hterm hov moves d
  unfold placed at h hle
  omega

/-- A dialog that is being shown is in no place yet. -/
lemma Fresh.placed_of_shows (hi : i ∈ (m.play moves).agenda) (hshows : i.shows d = true) :
    (m.play moves).placed d = 0 := by
  obtain ⟨hdecided, hplaced⟩ := hm.custody hterm hov moves d
  have hpos : 0 < (m.play moves).agenda.countP (Instr.shows d) := List.countP_pos_iff.2 ⟨i, hi, hshows⟩
  have hle := onRecord_le_one (m.play moves).dialogs d
  omega

/-- A dialog that was never accepted was never pressed. -/
lemma Fresh.presses_eq_zero (h : (m.play moves).placed d = 0) : m.presses d moves = 0 := by
  by_contra hne
  obtain ⟨before, mv, ⟨later, rfl⟩, i, hexec, hpresses⟩ := tally_pos_iff.1 (Nat.pos_of_ne_zero hne)
  -- it was held when it was pressed, so it had been accepted by then
  have hheld := placed_pos_of_holds hexec.mem_agenda (Instr.holds_of_presses hpresses)
  rw [(hm.custody hterm hov before d).2] at hheld
  rw [(hm.custody hterm hov _ d).2, List.append_assoc, tally_append] at h
  omega

/-- A dialog whose press was refused is in no place. -/
lemma Fresh.placed_of_refused
    (h : Happens m moves fun s mv => s.Executes mv (.schedulePress d slot) ∧ s.loop.closed = true) :
    (m.play moves).placed d = 0 := by
  obtain ⟨before, mv, hpre, hexec, hclosed⟩ := h
  have hdown : 0 < m.tally (Instr.turnsDown d) moves :=
    tally_pos_iff.2 ⟨before, mv, hpre, _, hexec, by simp [Instr.turnsDown, hclosed]⟩
  have honce := hm.decided_once hterm hov moves d
  rw [(hm.custody hterm hov moves d).2]
  omega

/-- Whoever presses a dialog while a chosen press of it comes next makes that press. -/
lemma Fresh.eq_of_presses (himpends : (m.play moves).Impends (.pressChosen d slot))
    (hi : i ∈ (m.play moves).agenda) (hpresses : i.presses d = true) : i = .pressChosen d slot := by
  have hle : (m.play moves).agenda.countP (Instr.holds d) ≤ 1 := by
    have hplaced := hm.placed_le_one hterm hov moves d
    unfold placed at hplaced
    omega
  obtain ⟨k, hk⟩ := List.mem_iff_getElem?.1 hi
  obtain ⟨l, hl⟩ := List.mem_iff_getElem?.1 himpends.mem_agenda
  have hkl := eq_of_countP_le_one hle hk hl (Instr.holds_of_presses hpresses) (by simp [Instr.holds])
  subst hkl
  exact Option.some.inj (hk.symm.trans hl)

/-! ### The press along a run -/

/-- A dialog in hand stays in front until its instruction is executed. -/
lemma Fresh.impends_step (h : (m.play moves).Impends i) (hd : i.dialog? ≠ none)
    (hidle : (m.play moves).executed? mv ≠ some i) : (m.play (moves ++ [mv])).Impends i := by
  have hfront := (play_trusty (hm.trusty hterm hov) moves).front
  have hfront' : (m.play (moves ++ [mv])).InFront := (play_trusty (hm.trusty hterm hov) _).front
  rw [play_concat] at hfront' ⊢
  rcases hfront.step_cases mv with ⟨t, j, rest, next, sent, m₁, rfl, hexec, ht, hf, he⟩ | ⟨hq, -, -⟩
  · have hne : i ≠ j := by
      rintro rfl
      exact hidle hexec
    have hmem := (hf.agenda_of_mem ht h.mem_agenda).resolve_right hne
    exact hfront'.impends (he ▸ hmem) hd
  · exact h.quiet hfront hfront' hq hd

/-- A press whose time has come to be posted is posted, or refused by a closed loop. -/
lemma Fresh.chosenPress_scheduled (hexec : (m.play moves).Executes mv (.schedulePress d slot))
    (hzero : m.presses d moves = 0) : ChosenPress m (moves ++ [mv]) d slot reaction := by
  obtain ⟨t, rest, next, sent, m₁, ht, hf, he⟩ := hexec.fires (by simp [execInstr]) (by simp) (by simp)
  have hsound := (play_trusty (hm.trusty hterm hov) moves).bare.sound.agenda _ hexec.mem_agenda
  have hfront' : (m.play (moves ++ [mv])).InFront := (play_trusty (hm.trusty hterm hov) _).front
  have hnew : ∀ {j}, j ∈ next ∨ j ∈ sent → j ∈ (m.play (moves ++ [mv])).agenda := by
    intro j hj
    rw [play_concat, he]
    exact hf.agenda_of_new ht hj
  have hzero' : m.presses d (moves ++ [mv]) = 0 := by
    rw [presses_concat, hexec.executed?, hzero]
    rfl
  cases hf with
  | schedulePress _ _ =>
    refine .posted (hfront'.impends ?_ (by simp [Instr.dialog?, Instr.offer?])) hzero'
    exact hnew (.inr (List.mem_singleton_self _))
  | schedulePressClosed _ hclosed => exact .refused (happens_concat.2 (.inr ⟨hexec, hclosed⟩)) hzero'
  | noCall hcall _ => cases hcall
  | noOffer hoffer hn => exact absurd hn (hsound.offer_ne_none hoffer)

/-- A press whose turn has come starts the handler of its button. -/
lemma Fresh.chosenPress_posted (ho : (m.play moves).dialogs[d]? = some o) (hpress : o.dialog.press slot = .ok reaction)
    (hexec : (m.play moves).Executes mv (.pressChosen d slot)) (hzero : m.presses d moves = 0) :
    ChosenPress m (moves ++ [mv]) d slot reaction := by
  obtain ⟨t, rest, next, sent, m₁, hmv, ht, hf, he⟩ := hexec.fires_at (by simp [execInstr]) (by simp) (by simp)
  have hsound := (play_trusty (hm.trusty hterm hov) moves).bare.sound.agenda _ hexec.mem_agenda
  have hone : m.presses d (moves ++ [mv]) = 1 := by
    simp [presses_concat, hexec.executed?, hzero, Instr.presses, Instr.press?]
  cases hf with
  | pressChosen ho' hr =>
    cases ho.symm.trans ho'
    cases hpress.symm.trans hr
    exact .started (happens_concat.2 (.inr ⟨t, rest, hmv, ht, he⟩)) hone
  | pressChosenMissing ho' hr => exact absurd hr (hsound.press_ne_error ho')
  | noCall hcall _ => cases hcall
  | noOffer hoffer hn => exact absurd hn (hsound.offer_ne_none hoffer)

/-- Every move takes a chosen press on, or leaves it as far as it has got. -/
lemma ChosenPress.step (mv : Move) (h : ChosenPress m moves d slot reaction)
    (ho : (m.play moves).dialogs[d]? = some o) (hpress : o.dialog.press slot = .ok reaction) :
    ChosenPress m (moves ++ [mv]) d slot reaction := by
  cases h with
  | scheduled himpends hzero =>
    by_cases hexec : (m.play moves).executed? mv = some (.schedulePress d slot)
    · exact hm.chosenPress_scheduled hterm hov (executes_of_executed? hexec) hzero
    · have hplaced := hm.placed_of_shows hterm hov himpends.mem_agenda (d := d) (by simp [Instr.shows])
      have hstays := hm.impends_step hterm hov himpends (by simp [Instr.dialog?, Instr.offer?]) hexec
      exact .scheduled hstays ((hm.presses_same hterm hov (.inl hplaced)).trans hzero)
  | posted himpends hzero =>
    by_cases hexec : (m.play moves).executed? mv = some (.pressChosen d slot)
    · exact hm.chosenPress_posted hterm hov ho hpress (executes_of_executed? hexec) hzero
    · have hstays := hm.impends_step hterm hov himpends (by simp [Instr.dialog?, Instr.offer?]) hexec
      refine .posted hstays ((presses_idle fun i hi => ?_).trans hzero)
      by_contra hpresses
      obtain rfl := hm.eq_of_presses hterm hov himpends (executes_of_executed? hi).mem_agenda (by simpa using hpresses)
      exact hexec hi
  | started hstarts hone =>
    exact .started (happens_concat.2 (.inl hstarts)) ((hm.presses_same hterm hov (.inr hstarts.activated)).trans hone)
  | refused hrefused hzero =>
    have hplaced := hm.placed_of_refused hterm hov hrefused
    exact .refused (happens_concat.2 (.inl hrefused)) ((hm.presses_same hterm hov (.inl hplaced)).trans hzero)

/-- A responder that chooses a button has its press posted next. -/
lemma Fresh.chosenPress_chosen (ho : (m.play moves).dialogs[d]? = some o)
    (hexec : (m.play moves).Executes mv (.choose d))
    (hchoose : (m.play moves).desk.responder.choose o.dialog = some slot)
    (hpress : o.dialog.press slot = .ok reaction) : ChosenPress m (moves ++ [mv]) d slot reaction := by
  have hfront' : (m.play (moves ++ [mv])).InFront := (play_trusty (hm.trusty hterm hov) _).front
  obtain ⟨t, rest, next, sent, m₁, ht, hf, he⟩ := hexec.fires (by simp [execInstr]) (by simp) (by simp)
  have hscheduled : .schedulePress d slot ∈ next := by
    cases hf with
    | choose ho' hchoose' _ =>
      cases ho.symm.trans ho'
      cases hchoose.symm.trans hchoose'
      exact List.mem_singleton_self _
    | chooseNone ho' hnone =>
      cases ho.symm.trans ho'
      cases hchoose.symm.trans hnone
    | chooseMissing ho' hchoose' hmissing =>
      cases ho.symm.trans ho'
      cases hchoose.symm.trans hchoose'
      cases (hasSlot_of_press hpress).symm.trans hmissing
    | noCall hcall _ => cases hcall
    | noOffer hoffer hn =>
      cases hoffer
      cases ho.symm.trans hn
  have hmem : .schedulePress d slot ∈ (m.play (moves ++ [mv])).agenda := by
    rw [play_concat, he]
    exact hf.agenda_of_new ht (.inl hscheduled)
  refine .scheduled (hfront'.impends hmem (by simp [Instr.dialog?, Instr.offer?])) ?_
  exact hm.presses_eq_zero hterm hov (hm.placed_of_shows hterm hov hmem (by simp [Instr.shows]))

/-- Whatever happens after a responder has chosen a button, the press it has chosen is on its way, was made or was
refused, and it is the only one. -/
lemma Fresh.chosenPress {before later : List Move} (ho : (m.play before).dialogs[d]? = some o)
    (hexec : (m.play before).Executes mv (.choose d))
    (hchoose : (m.play before).desk.responder.choose o.dialog = some slot)
    (hpress : o.dialog.press slot = .ok reaction) : ChosenPress m (before ++ [mv] ++ later) d slot reaction := by
  induction later using List.reverseRecOn with
  | nil => simpa using hm.chosenPress_chosen hterm hov ho hexec hchoose hpress
  | append_singleton later mv' ih =>
    have hlater : (m.play (before ++ [mv] ++ later)).dialogs[d]? = some o := by
      rw [List.append_assoc, play_append]
      exact (play_grows ..).dialogs ho
    rw [← List.append_assoc]
    exact ih.step hm hterm hov mv' hlater hpress

end Run

end MessageBox.Machine

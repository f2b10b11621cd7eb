import MessageBox.Proofs.Machine.Custody

/-!
# Dialogs that the headless toolkit refuses

`Offers` says once what the headless toolkit makes of a dialog, and `Ready.offered` that a thread gets this when it
offers a dialog and runs alone meanwhile. A refused dialog is not pending, and leaves the responder and the loop as
they were; of the failures that are injected, each fails one offer at most (`tally_failing`). But a dialog that is
refused because the loop is closed stays among those that were shown (`refused_offer`).
-/

namespace MessageBox.Machine

variable {m m' : Machine} {t : ThreadId} {i : Instr} {code rest : List Instr} {d : DialogId} {o : Offer}

/-! ### A thread alone -/

/-- A thread that goes to some code and then to other code goes to the latter. -/
@[simp]
lemma goto_goto (m : Machine) (t : ThreadId) (code code' : List Instr) :
    (m.goto t code).goto t code' = m.goto t code' := by
  simp [goto, List.modify_modify_eq, Function.comp_def]

/-- A thread is awake and has this code. -/
def Ready (m : Machine) (t : ThreadId) (code : List Instr) : Prop :=
  ∃ th, m.threads[t]? = some th ∧ th.code = code ∧ th.asleep = false

/-- A thread makes some moves and nothing comes in between. -/
def alone (m : Machine) (t : ThreadId) (n : Nat) : Machine := m.play (List.replicate n (.exec t))

/-- A thread that goes to some code is ready for it, if nothing else happens to the threads. -/
lemma Ready.goto (h : m.Ready t code) (m' : Machine) (hthreads : m'.threads = m.threads) (code' : List Instr) :
    (m'.goto t code').Ready t code' := by
  obtain ⟨th, hth, -, hawake⟩ := h
  exact ⟨{ th with code := code' }, by simp [Machine.goto, hthreads, hth], rfl, hawake⟩

/-- A thread that runs alone executes its next instruction and goes on from there. -/
lemma Ready.alone_succ (h : m.Ready t (i :: rest)) (hexec : m.execInstr t rest i = some m') (n : Nat) :
    m.alone t (n + 1) = m'.alone t n := by
  obtain ⟨⟨name, code, asleep, panicked⟩, hth, rfl, rfl⟩ := h
  have hstep : m.step (.exec t) = m' := by simp [step, exec, hth, hexec]
  rw [alone, List.replicate_succ, ← hstep]
  rfl

/-- A thread that makes one move executes its next instruction. -/
lemma Ready.alone_one (h : m.Ready t (i :: rest)) (hexec : m.execInstr t rest i = some m') : m.alone t 1 = m' :=
  h.alone_succ hexec 0

/-! ### An offer -/

/-- The machine with a dialog among those that were shown. -/
def showing (m : Machine) (o : Offer) : Machine :=
  { m with desk := { m.desk with shown := m.desk.shown ++ [o.dialog.snapshot] } }

/-- The machine with a dialog among the pending ones. -/
def keeping (m : Machine) (d : DialogId) : Machine :=
  { m with desk := { m.desk with pending := m.desk.pending ++ [d] } }

/-- What the headless toolkit makes of a dialog: it refuses the dialog, or accepts it and leaves the thread
something to do, and the machine by then. -/
inductive Offers (m : Machine) (t : ThreadId) (d : DialogId) (o : Offer) :
    Except ToolkitFailure (List Instr) → Machine → Prop where
  | failed {e} :
    m.desk.failNext = some e →
    Offers m t d o (.error e) { m with desk := { m.desk with failNext := none } }
  | kept :
    m.desk.failNext = none →
    m.desk.responder.choose o.dialog = none →
    Offers m t d o (.ok []) ((m.showing o).keeping d)
  | missing {slot} :
    m.desk.failNext = none →
    m.desk.responder.choose o.dialog = some slot →
    o.dialog.hasSlot slot = false →
    Offers m t d o (.ok []) (((m.showing o).emit t (.chosenSlotMissing slot)).keeping d)
  | posted {slot} :
    m.desk.failNext = none →
    m.desk.responder.choose o.dialog = some slot →
    o.dialog.hasSlot slot = true →
    m.loop.closed = false →
    Offers m t d o (.ok [.wakeLoop])
      (((m.showing o).emit t (.pressScheduled d slot o.dialog.title)).enqueue t [.pressChosen d slot])
  | closed {slot} :
    m.desk.failNext = none →
    m.desk.responder.choose o.dialog = some slot →
    o.dialog.hasSlot slot = true →
    m.loop.closed = true →
    Offers m t d o (.error .closed) ((m.showing o).emit t (.pressScheduled d slot o.dialog.title))

/-- How a thread goes on after its offer. -/
def goesOn (m : Machine) (t : ThreadId) (o : Offer) (rest : List Instr) :
    Except ToolkitFailure (List Instr) → Machine
  | .error e => m.refuseDialog t o e rest
  | .ok left => (m.tellProgram t o.origin none).goto t (left ++ (o.origin.accepted ++ rest))

/-- The machine after the offer that a thread is about to make, if nothing comes in between. -/
def offered (m : Machine) (t : ThreadId) : Machine := m.alone t (if m.desk.failNext.isSome then 1 else 4)

section

variable (m : Machine) (t : ThreadId) (code rest : List Instr) (o : Offer)

/-- A dialog may be shown before or after a thread goes on. -/
lemma showing_goto : (m.goto t code).showing o = (m.showing o).goto t code := rfl

/-- A dialog may be kept before or after a thread goes on. -/
lemma keeping_goto (d : DialogId) : (m.goto t code).keeping d = (m.keeping d).goto t code := rfl

/-- An event may be told before or after a thread goes on. -/
lemma emit_goto (e : Event) : (m.goto t code).emit t e = (m.emit t e).goto t code := rfl

/-- A task may be queued before or after a thread goes on. -/
lemma enqueue_goto (task : Task) : (m.goto t code).enqueue t task = (m.enqueue t task).goto t code := rfl

/-- The code that a thread had before does not matter after its offer. -/
lemma goesOn_goto (result : Except ToolkitFailure (List Instr)) :
    (m.goto t code).goesOn t o rest result = m.goesOn t o rest result := by
  have htold : ∀ failure, (m.goto t code).tellProgram t o.origin failure =
      (m.tellProgram t o.origin failure).goto t code := by
    intro failure
    cases o.origin <;> rfl
  cases result <;> simp [goesOn, refuseDialog, htold]

end

/-- Going on tells the result to whoever made the offer, and changes nothing else. -/
lemma goesOn_same (m : Machine) (t : ThreadId) (o : Offer) (rest : List Instr)
    (result : Except ToolkitFailure (List Instr)) :
    (m.goesOn t o rest result).desk = m.desk ∧ (m.goesOn t o rest result).loop = m.loop := by
  cases result <;> simp [goesOn, refuseDialog, tellProgram_eq, goto]

/-! ### The steps of an offer -/

/-- Without an injected failure, a dialog that is to be accepted is going to be shown. -/
lemma Ready.step_accept (h : m.Ready t (.accept d :: rest)) (ho : m.dialogs[d]? = some o)
    (hnone : m.desk.failNext = none) (n : Nat) :
    m.alone t (n + 1) = (m.goto t (.exhibit d :: rest)).alone t n :=
  h.alone_succ (by simp [execInstr, withOffer, ho, accept, hnone]) n

/-- A dialog that is exhibited is among those shown, and the responder is asked next. -/
lemma Ready.step_exhibit (h : m.Ready t (.exhibit d :: rest)) (ho : m.dialogs[d]? = some o) (n : Nat) :
    m.alone t (n + 1) = ((m.showing o).goto t (.choose d :: rest)).alone t n :=
  h.alone_succ (by simp [execInstr, withOffer, ho, showing]) n

/-- A dialog for which the responder chooses no slot is going to be kept. -/
lemma Ready.step_choose_none (h : m.Ready t (.choose d :: rest)) (ho : m.dialogs[d]? = some o)
    (hchoose : m.desk.responder.choose o.dialog = none) (n : Nat) :
    m.alone t (n + 1) = (m.goto t (.keep d :: rest)).alone t n :=
  h.alone_succ (by simp [execInstr, withOffer, ho, choose, hchoose]) n

/-- A dialog that lacks the slot that the responder chooses is going to be kept, and that is told. -/
lemma Ready.step_choose_missing {slot : Slot} (h : m.Ready t (.choose d :: rest)) (ho : m.dialogs[d]? = some o)
    (hchoose : m.desk.responder.choose o.dialog = some slot) (hslot : o.dialog.hasSlot slot = false) (n : Nat) :
    m.alone t (n + 1) = ((m.emit t (.chosenSlotMissing slot)).goto t (.keep d :: rest)).alone t n :=
  h.alone_succ (by simp [execInstr, withOffer, ho, choose, hchoose, hslot]) n

/-- A dialog that has the slot that the responder chooses is going to have it pressed. -/
lemma Ready.step_choose {slot : Slot} (h : m.Ready t (.choose d :: rest)) (ho : m.dialogs[d]? = some o)
    (hchoose : m.desk.responder.choose o.dialog = some slot) (hslot : o.dialog.hasSlot slot = true) (n : Nat) :
    m.alone t (n + 1) =
      ((m.emit t (.pressScheduled d slot o.dialog.title)).goto t (.schedulePress d slot :: rest)).alone t n :=
  h.alone_succ (by simp [execInstr, withOffer, ho, choose, hchoose, hslot]) n

/-- An injected failure is used up and refuses the dialog. -/
lemma Ready.step_fail {e : ToolkitFailure} (h : m.Ready t (.accept d :: rest)) (ho : m.dialogs[d]? = some o)
    (hfail : m.desk.failNext = some e) :
    m.alone t 1 = ({ m with desk := { m.desk with failNext := none } }).goesOn t o rest (.error e) :=
  h.alone_one (by simp [execInstr, withOffer, ho, accept, hfail, goesOn])

/-- A dialog that is kept is among the pending ones, and accepted. -/
lemma Ready.step_keep (h : m.Ready t (.keep d :: rest)) (ho : m.dialogs[d]? = some o) :
    m.alone t 1 = (m.keeping d).goesOn t o rest (.ok []) :=
  h.alone_one (by simp [execInstr, withOffer, ho, acceptDialog, keeping, goesOn])

/-- On an open loop, the press that the responder has chosen is posted, and the dialog is accepted. -/
lemma Ready.step_post {slot : Slot} (h : m.Ready t (.schedulePress d slot :: rest)) (ho : m.dialogs[d]? = some o)
    (hopen : m.loop.closed = false) :
    m.alone t 1 = (m.enqueue t [.pressChosen d slot]).goesOn t o rest (.ok [.wakeLoop]) :=
  h.alone_one (by simp [execInstr, withOffer, ho, schedulePress, Loop.post, hopen, enqueue, goesOn])

/-- On a closed loop, the press that the responder has chosen is not posted, and the dialog is refused. -/
lemma Ready.step_refuse {slot : Slot} (h : m.Ready t (.schedulePress d slot :: rest)) (ho : m.dialogs[d]? = some o)
    (hclosed : m.loop.closed = true) : m.alone t 1 = m.goesOn t o rest (.error .closed) :=
  h.alone_one (by simp [execInstr, withOffer, ho, schedulePress, Loop.post, hclosed, goesOn])

/-- A thread that offers a dialog and runs alone gets what the toolkit makes of it. -/
lemma Ready.offered (h : m.Ready t (.accept d :: rest)) (ho : m.dialogs[d]? = some o) :
    ∃ result m', m.Offers t d o result m' ∧ m.offered t = m'.goesOn t o rest result := by
  unfold Machine.offered
  cases hfail : m.desk.failNext with
  | some e => exact ⟨_, _, .failed hfail, h.step_fail ho hfail⟩
  | none =>
    have hexhibiting := h.goto m rfl (.exhibit d :: rest)
    have hchoosing := h.goto (m.showing o) rfl (.choose d :: rest)
    have hshown : m.alone t 4 = ((m.showing o).goto t (.choose d :: rest)).alone t 2 := by
      rw [h.step_accept ho hfail, hexhibiting.step_exhibit ho, showing_goto, goto_goto]
    simp only [Option.isSome_none, Bool.false_eq_true, if_false, hshown]
    cases hchoose : m.desk.responder.choose o.dialog with
    | none =>
      have hlast := h.goto (m.showing o) rfl (.keep d :: rest)
      refine ⟨_, _, .kept hfail hchoose, ?_⟩
      rw [hchoosing.step_choose_none ho hchoose, goto_goto, hlast.step_keep ho, keeping_goto, goesOn_goto]
    | some slot =>
      cases hslot : o.dialog.hasSlot slot with
      | false =>
        have hlast := h.goto ((m.showing o).emit t (.chosenSlotMissing slot)) rfl (.keep d :: rest)
        refine ⟨_, _, .missing hfail hchoose hslot, ?_⟩
        rw [hchoosing.step_choose_missing ho hchoose hslot, emit_goto, goto_goto, hlast.step_keep ho,
          keeping_goto, goesOn_goto]
      | true =>
        have hlast := h.goto ((m.showing o).emit t (.pressScheduled d slot o.dialog.title)) rfl
          (.schedulePress d slot :: rest)
        have hpress := hchoosing.step_choose ho hchoose hslot 1
        rw [emit_goto, goto_goto] at hpress
        cases hloop : m.loop.closed with
        | false =>
          refine ⟨_, _, .posted hfail hchoose hslot hloop, ?_⟩
          rw [hpress, hlast.step_post ho hloop, enqueue_goto, goesOn_goto]
        | true =>
          refine ⟨_, _, .closed hfail hchoose hslot hloop, ?_⟩
          rw [hpress, hlast.step_refuse ho hloop, goesOn_goto]

/-! ### Injected failures -/

/-- Whether an instruction injects a failure. -/
def Instr.injects : Instr → Bool
  | .op (.failNext _) => true
  | _ => false

/-- Whether an instruction refuses a dialog with the failure that was injected. -/
def Instr.failing (m : Machine) : Instr → Bool
  | .accept d => m.desk.failNext.isSome && m.dialogs[d]?.isSome
  | _ => false

/-- An injected failure stays until it fails an offer or another one takes its place. -/
lemma Fires.same_failNext {m m₁ : Machine} {t i next sent} (h : Fires m t i next sent m₁)
    (hinjects : i.injects = false) (hfailing : i.failing m = false) : m₁.desk.failNext = m.desk.failNext := by
  cases h with
  | failNext => cases hinjects
  | acceptFailed ho hfail => simp [Instr.failing, ho, hfail] at hfailing
  | _ => first | rfl | simp [note_eq, tellProgram_eq, enqueue, emit]

/-- How many failures are injected at the moment. -/
def injected (m : Machine) : Nat := m.desk.failNext.isSome.toNat

/-- An instruction that refuses a dialog with an injected failure uses the failure up. -/
lemma Executes.failing {mv : Move} (h : m.Executes mv i) (hfailing : i.failing m = true) :
    m.injected = 1 ∧ (m.step mv).injected = 0 := by
  cases i with
  | accept d =>
    obtain ⟨hfail, hd⟩ := Bool.and_eq_true_iff.1 hfailing
    obtain ⟨o, ho⟩ := Option.isSome_iff_exists.1 hd
    obtain ⟨e, he⟩ := Option.isSome_iff_exists.1 hfail
    obtain ⟨t, ⟨name, code, asleep, panicked⟩, rest, rfl, hth, rfl, rfl⟩ := h
    have hready : m.Ready t (.accept d :: rest) := ⟨_, hth, rfl, rfl⟩
    have hstep : m.step (.exec t) =
        ({ m with desk := { m.desk with failNext := none } }).goesOn t o rest (.error e) :=
      hready.step_fail ho he
    refine ⟨by simp [injected, he], ?_⟩
    rw [hstep, injected, (goesOn_same ..).1]
    rfl
  | _ => cases hfailing

/-- A move that fails no offer and injects no failure leaves the injected one. -/
lemma step_injected (mv : Move) (h : ∀ i, m.executed? mv = some i → i.injects = false ∧ i.failing m = false) :
    (m.step mv).injected = m.injected := by
  rcases (steps m mv).fires_or_quiet with ⟨t, i, rest, next, sent, m₁, hi, ht, hf, he⟩ | hq
  · obtain ⟨hinjects, hfailing⟩ := h i hi.executed?
    rw [he]
    exact congrArg (fun failure : Option ToolkitFailure => failure.isSome.toNat) (hf.same_failNext hinjects hfailing)
  · rw [injected, hq.desk, injected]

/-- Each injected failure fails one offer at most. -/
lemma tally_failing (m : Machine) (moves : List Move) :
    m.tally Instr.failing moves + (m.play moves).injected ≤
      m.tally (fun _ => Instr.injects) moves + m.injected := by
  induction moves generalizing m with
  | nil => exact Nat.le_of_eq rfl
  | cons mv moves ih =>
    have hplay : m.play (mv :: moves) = (m.step mv).play moves := rfl
    have hrest := ih (m.step mv)
    have hone : (m.step mv).injected ≤ 1 := Bool.toNat_le _
    simp only [tally, hplay]
    cases hi : m.executed? mv with
    | none =>
      have hsame := step_injected mv fun i hi' => by cases hi.symm.trans hi'
      simp only [Option.toList_none, List.countP_nil]
      omega
    | some i =>
      cases hfailing : i.failing m with
      | true =>
        -- the failure is there before the offer and gone after it
        obtain ⟨hbefore, hafter⟩ := (executes_of_executed? hi).failing hfailing
        simp [hfailing]
        omega
      | false =>
        cases hinjects : i.injects with
        | true =>
          -- a failure injected in the place of another one is still one
          simp [hfailing, hinjects]
          omega
        | false =>
          have hsame := step_injected mv fun i' hi' => by
            cases hi.symm.trans hi'
            exact ⟨hinjects, hfailing⟩
          simp [hfailing, hinjects]
          omega

/-! ### Refusals -/

/-- What a refusal leaves as it was, and what it does not. -/
lemma Offers.refused {e : ToolkitFailure} (h : m.Offers t d o (.error e) m') :
    m'.desk.pending = m.desk.pending ∧ m'.desk.responder = m.desk.responder ∧ m'.loop = m.loop ∧
    m'.desk.failNext = none ∧
    (m.desk.failNext = some e ∧ m'.desk.shown = m.desk.shown ∨
      m.desk.failNext = none ∧ e = .closed ∧ m'.desk.shown = m.desk.shown ++ [o.dialog.snapshot]) := by
  cases h with
  | failed hfail => exact ⟨rfl, rfl, rfl, rfl, .inl ⟨hfail, rfl⟩⟩
  | closed hnone => exact ⟨rfl, rfl, rfl, hnone, .inr ⟨hnone, rfl, rfl⟩⟩

/-- The loop is closed to the press that the responder has for a dialog. -/
def ClosedTo (m : Machine) (o : Offer) : Prop :=
  m.loop.closed = true ∧ ∃ slot, m.desk.responder.choose o.dialog = some slot ∧ o.dialog.hasSlot slot = true

/-- The toolkit refuses a dialog just if a failure is injected or the loop is closed to its press. -/
lemma Offers.refused_iff {result : Except ToolkitFailure (List Instr)} (h : m.Offers t d o result m') :
    (∃ e, result = .error e) ↔ m.desk.failNext.isSome = true ∨ m.ClosedTo o := by
  cases h with
  | failed hfail => simp [hfail]
  | kept hnone hchoose => simp [hnone, ClosedTo, hchoose]
  | missing hnone hchoose hslot => simp [hnone, ClosedTo, hchoose, hslot]
  | posted hnone _ _ hopen => simp [hnone, ClosedTo, hopen]
  | closed hnone hchoose hslot hclosed => simp [hnone, ClosedTo, hchoose, hslot, hclosed]

/-- A thread that offers a dialog to the headless toolkit, with nothing in between, is refused if a failure was
injected or the loop is closed to the press that the responder has for the dialog, and accepted otherwise. A refusal
leaves the pending dialogs, the responder and the loop with its queue as they were. An injected failure comes first,
leaves the dialogs that were shown as well, and fails this offer only: whatever happens later, no offer fails by it
unless a failure is injected again. But a dialog refused because the loop is closed is left among those that were
shown. -/
theorem refused_offer (h : m.Ready t (.accept d :: rest)) (ho : m.dialogs[d]? = some o) :
    ∃ (result : Except ToolkitFailure (List Instr)) (before : Machine),
      m.offered t = before.goesOn t o rest result ∧
      ((∃ e, result = .error e) ↔ m.desk.failNext.isSome = true ∨ m.ClosedTo o) ∧
      ∀ e, result = .error e →
        (m.offered t).desk.pending = m.desk.pending ∧
        (m.offered t).desk.responder = m.desk.responder ∧
        (m.offered t).loop = m.loop ∧
        (m.desk.failNext = some e ∧ (m.offered t).desk.shown = m.desk.shown ∨
          m.desk.failNext = none ∧ e = .closed ∧
            (m.offered t).desk.shown = m.desk.shown ++ [o.dialog.snapshot]) ∧
        (m.offered t).desk.failNext = none ∧
        ∀ moves, (m.offered t).tally (fun _ => Instr.injects) moves = 0 →
          (m.offered t).tally Instr.failing moves = 0 := by
  obtain ⟨result, before, hoffers, hgoes⟩ := h.offered ho
  refine ⟨result, before, hgoes, hoffers.refused_iff, ?_⟩
  rintro e rfl
  obtain ⟨hdesk, hloop⟩ := goesOn_same before t o rest (.error e)
  obtain ⟨hpending, hresponder, hsame, hnone, hcause⟩ := hoffers.refused
  have hinjected : (m.offered t).injected = 0 := by
    rw [hgoes, injected, hdesk, hnone]
    rfl
  have hlater : ∀ moves, (m.offered t).tally (fun _ => Instr.injects) moves = 0 →
      (m.offered t).tally Instr.failing moves = 0 := by
    intro moves hinjects
    have hbalance := tally_failing (m.offered t) moves
    omega
  refine ⟨?_, ?_, ?_, ?_, ?_, hlater⟩
  all_goals rw [hgoes]
  · rw [hdesk, hpending]
  · rw [hdesk, hresponder]
  · rw [hloop, hsame]
  · rw [hdesk]
    exact hcause
  · rw [hdesk, hnone]

/-- A question with one answer, offered by a program. -/
def saveOffer : Offer := ⟨.build "Save" "Save the file?" [.button ⟨.positive, "Yes", .script []⟩], .program⟩

/-- A thread that offers a question to a desk with an injected failure. -/
def unlucky : Machine where
  threads := [{ name := "main", code := [.accept 0] }]
  desk := { responder := .press .positive, failNext := some (.render "no display") }
  dialogs := [saveOffer]

/-- The injected failure refuses the question, and is gone. -/
theorem refused_offer_unlucky :
    (∃ (e : ToolkitFailure) (before : Machine), unlucky.offered 0 = before.refuseDialog 0 saveOffer e []) ∧
    (unlucky.offered 0).desk.shown = [] ∧ (unlucky.offered 0).desk.failNext = none := by
  have hready : unlucky.Ready 0 [.accept 0] := ⟨_, rfl, rfl, rfl⟩
  have hoffer : unlucky.dialogs[0]? = some saveOffer := rfl
  obtain ⟨result, before, hgoes, hrefused, hleaves⟩ := refused_offer hready hoffer
  obtain ⟨e, rfl⟩ := hrefused.2 (.inl rfl)
  obtain ⟨-, -, -, ⟨-, hshown⟩ | ⟨habsent, -⟩, hnone, -⟩ := hleaves e rfl
  · exact ⟨⟨e, before, hgoes⟩, hshown, hnone⟩
  · cases habsent

/-- A thread that offers a question when the loop is closed. -/
def tooLate : Machine where
  threads := [{ name := "main", code := [.accept 0] }]
  loop := { closed := true }
  desk := { responder := .press .positive }
  dialogs := [saveOffer]

/-- The question is refused because the loop is closed, and yet it is among those that were shown. -/
theorem tooLate_shown :
    (∃ before : Machine, tooLate.offered 0 = before.refuseDialog 0 saveOffer .closed []) ∧
    tooLate.desk.shown = [] ∧ (tooLate.offered 0).desk.shown = [saveOffer.dialog.snapshot] :=
  ⟨⟨(tooLate.showing saveOffer).emit 0 (.pressScheduled 0 .positive "Save"), rfl⟩, rfl, rfl⟩

end MessageBox.Machine

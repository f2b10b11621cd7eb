import Mathlib.Data.List.InsertIdx
import MessageBox.Proofs.Conservation
import MessageBox.Proofs.ExitTokens
import MessageBox.Proofs.Machine.Showing

/-!
# Pending dialogs in show order

Dialogs become pending in the order in which they are shown. A press takes one out of the list and may put it back
later, while other threads dismiss the last ones; it goes back to its old place, or to the end of a list that has
become shorter, and both are right (`insertIdx_dropLast_sublist`). So the pending dialogs are always among those the
toolkit has accepted, in the order they were shown, whatever the interleaving (`pending_in_show_order`).
-/

namespace MessageBox.Machine

open scoped List

/-! ### Lists with an element put back -/

section Lists

variable {α : Type} {l : List α} {a : α} {k : Nat}

/-- Inserting into the first part of a list leaves the second part alone. -/
lemma insertIdx_append_left {l' : List α} (h : k ≤ l.length) :
    (l ++ l').insertIdx k a = l.insertIdx k a ++ l' := by
  induction l generalizing k with
  | nil =>
    obtain rfl := Nat.le_zero.1 h
    rfl
  | cons b l ih =>
    cases k with
    | zero => rfl
    | succ k => simp [ih (Nat.le_of_succ_le_succ h)]

/-- What is put back goes in front of the same elements, whether the last one is gone by then or not. -/
lemma insertIdx_dropLast_sublist :
    l.dropLast.insertIdx (min k l.dropLast.length) a <+ l.insertIdx (min k l.length) a := by
  rcases l.eq_nil_or_concat with rfl | ⟨front, last, rfl⟩
  · exact List.Sublist.refl _
  · rw [List.concat_eq_append, List.dropLast_concat]
    by_cases hk : k ≤ front.length
    · have hk' : k ≤ (front ++ [last]).length := by simp; omega
      rw [Nat.min_eq_left hk, Nat.min_eq_left hk', insertIdx_append_left hk]
      exact List.sublist_append_left ..
    · have hk' : (front ++ [last]).length ≤ k := by simp; omega
      rw [Nat.min_eq_right (by omega), Nat.min_eq_right hk', List.insertIdx_length_self, List.insertIdx_length_self]
      simp

/-- What was taken out and is put back at once stands where it was. -/
lemma insertIdx_eraseIdx_restores (h : l[k]? = some a) :
    (l.eraseIdx k).insertIdx (min k (l.eraseIdx k).length) a = l := by
  obtain ⟨hk, rfl⟩ := List.getElem?_eq_some_iff.1 h
  have hlength := List.length_eraseIdx_add_one hk
  rw [Nat.min_eq_left (by omega), List.insertIdx_eraseIdx_getElem hk]

end Lists

/-! ### Order -/

/-- The dialogs that a run shows and the toolkit accepts, in the order in which they are shown. -/
def acceptedIn (m : Machine) (moves : List Move) : List DialogId :=
  (m.shownIn moves).filter fun d => 0 < m.tally (Instr.takesUp d) moves

/-- Whether the dialog an instruction has in hand fits in with the dialogs shown and accepted so far: a dialog about
to be accepted was shown last, and one that may be put back has its place in the order. -/
def Instr.Fits (pending shown accepted : List DialogId) : Instr → Prop
  | .choose d | .schedulePress d _ | .keep d => shown.getLast? = some d
  | .pressTaken place d _ | .putBack place d => pending.insertIdx (min place pending.length) d <+ accepted
  | _ => True

/-- An instruction that deals with no dialog fits in with any order. -/
lemma Instr.fits_of_not_engaged {i : Instr} (h : i.engaged = false) (pending shown accepted : List DialogId) :
    i.Fits pending shown accepted := by
  cases i <;> trivial

/-- An instruction fits in with further dialogs that are accepted. -/
lemma Instr.Fits.mono {i : Instr} {pending shown accepted accepted' : List DialogId}
    (h : i.Fits pending shown accepted) (hacc : accepted <+ accepted') : i.Fits pending shown accepted' := by
  cases i <;> first | exact h | exact List.Sublist.trans h hacc

/-- An instruction fits in when the last pending dialog is gone. -/
lemma Instr.Fits.dropLast {i : Instr} {pending shown accepted : List DialogId} (h : i.Fits pending shown accepted) :
    i.Fits pending.dropLast shown accepted := by
  cases i <;> first | exact h | exact insertIdx_dropLast_sublist.trans h

/-- The pending dialogs are accepted ones in their order, and will be so with any dialog in hand. -/
structure InOrder (m : Machine) (shown accepted : List DialogId) : Prop where
  pending : m.desk.pending <+ accepted
  hands : ∀ i ∈ m.agenda, i.Fits m.desk.pending shown accepted

/-- What the owner of the loop does to the pending dialogs keeps their order. -/
lemma DialogStep.inOrder {m : Machine} {i next sent dialogs pending events} {shown accepted accepted' : List DialogId}
    (h : DialogStep m i next sent dialogs pending events) (hp : m.desk.pending <+ accepted)
    (hi : i.Fits m.desk.pending shown accepted) (hacc : accepted <+ accepted')
    (hkeep : ∀ d, i = .keep d → shown.getLast? = some d → accepted ++ [d] <+ accepted') :
    pending <+ accepted' ∧ ∀ j ∈ next, j.Fits pending (shown ++ i.exhibits?.toList) accepted' := by
  -- what has no dialog in hand fits in with anything
  have idle : ∀ {j : Instr}, j.dialog? = none → j.Fits pending (shown ++ i.exhibits?.toList) accepted' := fun hj =>
    Instr.fits_of_not_engaged (Instr.eq_false_of_no_dialog (fun _ => Instr.dialog?_of_engaged) hj) ..
  have hp' := hp.trans hacc
  cases h with
  | offer _ | present | accept _ => exact ⟨hp', fun j hj => by obtain rfl := List.mem_singleton.1 hj; trivial⟩
  | fail _ _ | closed _ _ => exact ⟨hp', fun j hj => idle (no_dialog_refused hj)⟩
  | exhibit =>
    refine ⟨hp', fun j hj => ?_⟩
    obtain rfl := List.mem_singleton.1 hj
    exact List.getLast?_concat ..
  | chooseNone | choose =>
    refine ⟨hp', fun j hj => ?_⟩
    obtain rfl := List.mem_singleton.1 hj
    exact (List.append_nil shown).symm ▸ hi
  | schedule _ _ =>
    refine ⟨hp', fun j hj => ?_⟩
    rcases List.mem_cons.1 hj with rfl | hj
    · trivial
    · exact idle (no_dialog_accepted hj)
  | keep _ => exact ⟨(hp.append_right _).trans (hkeep _ rfl hi), fun j hj => idle (no_dialog_accepted hj)⟩
  | take hd =>
    refine ⟨(List.eraseIdx_sublist ..).trans hp', fun j hj => ?_⟩
    obtain rfl := List.mem_singleton.1 hj
    rw [Instr.Fits, insertIdx_eraseIdx_restores hd]
    exact hp'
  | press _ _ _ => exact ⟨hp', fun j hj => idle (no_dialog_reaction hj)⟩
  | miss =>
    refine ⟨hp', fun j hj => ?_⟩
    obtain rfl := List.mem_singleton.1 hj
    exact List.Sublist.trans hi hacc
  | putBack => exact ⟨List.Sublist.trans hi hacc, nofun⟩
  | dismiss _ _ _ => exact ⟨(List.dropLast_sublist _).trans hp', nofun⟩
  | other _ hnew =>
    exact ⟨hp', fun j hj => idle (Instr.dialog?_of_apart (List.all_eq_true.1 hnew j (List.mem_append_left _ hj)))⟩

/-- A move keeps the order of the pending dialogs, if a dialog that is kept was accepted by that. -/
lemma InOrder.step {m : Machine} {mv : Move} {shown accepted accepted' : List DialogId} (h : m.InOrder shown accepted)
    (hm : m.Tended) (hoffers : m.offersAside mv = false) (hacc : accepted <+ accepted')
    (hkeep : ∀ d, m.executed? mv = some (.keep d) → shown.getLast? = some d → accepted ++ [d] <+ accepted') :
    (m.step mv).InOrder (shown ++ (m.exhibited? mv).toList) accepted' := by
  rcases hm.trusty.front.step_cases mv with ⟨t, i, rest, next, sent, m₁, rfl, hi, ht, hf, he⟩ | ⟨hq, hidle, -⟩
  · obtain ⟨events, hstep, -⟩ := hf.dialogStep ht hm.trusty.bare
    have hafter := hm.step hoffers
    rw [he] at hafter
    rw [he, exhibited?_of_executed hi]
    by_cases howner : m.loop.owner = some t
    · have hfits := h.hands i (mem_agenda_of_code ht (List.mem_cons_self ..))
      obtain ⟨hpending, hnext⟩ := hstep.inOrder h.pending hfits hacc fun d hd => hkeep d (hd ▸ hi)
      refine ⟨hpending, fun j hj => ?_⟩
      by_cases hengaged : j.engaged = true
      · exact hnext j (hm.left hafter hf ht howner hj hengaged)
      · exact Instr.fits_of_not_engaged (by simpa using hengaged) ..
    · -- what is engaged was so before, on the owner's thread
      have hi' : i.exhibits? = none := by
        have hengaged : ¬ i.engaged = true := fun hengaged => howner (hm.code ht (List.mem_cons_self ..) hengaged)
        cases i <;> first | rfl | exact absurd rfl hengaged
      have hold : ∀ j ∈ (m₁.goto t (next ++ rest)).agenda, j.Fits m.desk.pending shown accepted' := by
        intro j hj
        by_cases hengaged : j.engaged = true
        · rcases hf.mem_agenda ht hj with hj | hj
          · exact (h.hands j hj).mono hacc
          · exact absurd (hm.owner hoffers hi ht hstep (List.mem_append.2 hj) hengaged).2 howner
        · exact Instr.fits_of_not_engaged (by simpa using hengaged) ..
      have hpending : (m₁.goto t (next ++ rest)).desk.pending = m₁.desk.pending := rfl
      rw [hi', Option.toList_none, List.append_nil]
      rcases hm.aside hoffers hi ht hstep howner with ⟨hsame, -⟩ | ⟨d, -, hlast, -⟩
      · exact ⟨hpending ▸ hsame ▸ h.pending.trans hacc, fun j hj => hpending ▸ hsame ▸ hold j hj⟩
      · refine ⟨?_, fun j hj => ?_⟩
        · rw [hpending, hlast]
          exact (List.dropLast_sublist _).trans (h.pending.trans hacc)
        · rw [hpending, hlast]
          exact (hold j hj).dropLast
  · rw [exhibited?_of_apart hidle, Option.toList_none, List.append_nil]
    refine ⟨hq.desk ▸ h.pending.trans hacc, fun j hj => ?_⟩
    rw [hq.desk]
    exact (h.hands j (hq.agenda.subset hj)).mono hacc

/-- A dialog about to be kept was not accepted before. -/
lemma Fresh.not_accepted {m : Machine} (hm : m.Fresh) (hterm : m.terminal = none) (hov : m.overrides = {})
    {moves : List Move} {d : DialogId} (hd : .keep d ∈ (m.play moves).agenda) :
    m.tally (Instr.takesUp d) moves = 0 := by
  have hcustody := (hm.custody hterm hov moves d).1
  have hle := onRecord_le_one (m.play moves).dialogs d
  have hpos : 0 < (m.play moves).agenda.countP (Instr.shows d) :=
    List.countP_pos_iff.2 ⟨_, hd, by simp [Instr.shows]⟩
  omega

/-- In every state of a run, the pending dialogs are accepted ones in the order they were shown. -/
lemma Fresh.inOrder {m : Machine} (hm : m.Fresh) (hterm : m.terminal = none) (hov : m.overrides = {})
    {moves : List Move} (hoffers : m.offersOnOwner moves = true) :
    (m.play moves).InOrder (m.shownIn moves) (m.acceptedIn moves) := by
  induction moves using List.reverseRecOn with
  | nil =>
    refine ⟨?_, fun i hi => ?_⟩
    · rw [play_nil, hm.pending]
      exact List.nil_sublist _
    · obtain ⟨o, rfl⟩ := hm.agenda hi
      trivial
  | append_singleton moves mv ih =>
    obtain ⟨hbefore, hnow⟩ := offersOnOwner_concat.1 hoffers
    have hmore : ∀ d, m.tally (Instr.takesUp d) moves ≤ m.tally (Instr.takesUp d) (moves ++ [mv]) := by
      intro d
      rw [tally_concat]
      exact Nat.le_add_right ..
    -- who was accepted before is accepted
    have hfilter : ∀ shown : List DialogId,
        (shown.filter fun d => 0 < m.tally (Instr.takesUp d) moves) <+
          shown.filter fun d => 0 < m.tally (Instr.takesUp d) (moves ++ [mv]) := by
      refine fun shown => List.monotone_filter_right shown fun d hd => ?_
      rw [decide_eq_true_eq] at hd ⊢
      exact Nat.lt_of_lt_of_le hd (hmore d)
    rw [play_concat, shownIn_concat]
    refine (ih hbefore).step ((hm.tended hterm hov).play hbefore) hnow ?_ fun d hd hlast => ?_
    · rw [acceptedIn, acceptedIn, shownIn_concat, List.filter_append]
      exact (hfilter _).trans (List.sublist_append_left ..)
    · obtain ⟨front, hfront⟩ := List.getLast?_eq_some_iff.1 hlast
      have hzero := hm.not_accepted hterm hov (executes_of_executed? hd).mem_agenda
      have hone : 0 < m.tally (Instr.takesUp d) (moves ++ [mv]) := by
        rw [tally_concat, hd]
        simp [Instr.takesUp]
      have hnone : (m.play moves).exhibited? mv = none := exhibited?_of_executed hd
      rw [acceptedIn, acceptedIn, shownIn_concat, hnone, Option.toList_none, List.append_nil, hfront,
        List.filter_append, List.filter_append, List.filter_singleton, List.filter_singleton]
      simpa [hzero, hone] using hfilter front

/-! ### Presses of pending dialogs -/

/-- A thread owns the loop and is awake, with this code. -/
structure Stands (m : Machine) (t : ThreadId) (code : List Instr) : Prop where
  owner : m.loop.owner = some t
  code : m.codes[t]? = some code
  awake : m.Awake t

/-- A thread that owns the loop stands where it stands while others move. -/
lemma Stands.play_beside {m : Machine} {t : ThreadId} {code : List Instr} {moves : List Move} (h : m.Stands t code)
    (hmoves : .exec t ∉ moves) : (m.play moves).Stands t code := by
  induction moves using List.reverseRecOn with
  | nil => exact h
  | append_singleton moves mv ih =>
    rw [List.mem_append, not_or, List.mem_singleton] at hmoves
    have hbefore := ih hmoves.1
    rw [play_concat]
    exact ⟨(step_grows ..).owner hbefore.owner, codes_step_other (Ne.symm hmoves.2) hbefore.code,
      step_awake_other (Ne.symm hmoves.2) hbefore.awake⟩

/-- A thread that owns the loop executes its next instruction, as it is awake. -/
lemma Stands.step {m m' : Machine} {t : ThreadId} {i : Instr} {rest : List Instr} (h : m.Stands t (i :: rest))
    (he : m.execInstr t rest i = some m') : m.step (.exec t) = m' := by
  rw [h.awake.exec h.code, he, Option.getD_some]

/-- A thread that has changed its code stands before the new one. -/
lemma Stands.changed {m : Machine} {t : ThreadId} {code code' : List Instr} (h : m.Stands t code)
    (hcode : (m.step (.exec t)).codes[t]? = some code') (hne : code' ≠ code) : (m.step (.exec t)).Stands t code' :=
  ⟨(step_grows ..).owner h.owner, hcode, awake_of_changed h.code hcode hne⟩

/-- The place that a press addresses in a list: that of its index or, without one, the last. -/
def addressed (index : Option Nat) (pending : List DialogId) : Nat := index.getD (pending.length - 1)

section Press

variable {m : Machine} {t : ThreadId} {index : Option Nat} {slot : Slot} {place : Nat} {d : DialogId} {o : Offer}
  {rest : List Instr}

/-- A press that finds no dialog at its place leaves the pending ones as they are. -/
lemma Stands.takeNothing (h : m.Stands t (.takePending index slot :: rest))
    (hd : m.desk.pending[addressed index m.desk.pending]? = none) :
    (m.step (.exec t)).desk.pending = m.desk.pending := by
  have he : m.takePending t index slot rest = (m.emit t (.nothingToPress slot index)).goto t rest := by
    unfold addressed at hd
    simp [Machine.takePending, hd]
  rw [h.step (congrArg some he)]
  rfl

/-- A press takes the dialog that it addresses. -/
lemma Stands.take (h : m.Stands t (.takePending index slot :: rest))
    (hd : m.desk.pending[addressed index m.desk.pending]? = some d) :
    (m.step (.exec t)).Stands t (.pressTaken (addressed index m.desk.pending) d slot :: rest) ∧
      (m.step (.exec t)).desk.pending = m.desk.pending.eraseIdx (addressed index m.desk.pending) := by
  have he : m.takePending t index slot rest =
      ({ m with desk := { m.desk with
          pending := m.desk.pending.eraseIdx (addressed index m.desk.pending) } }).goto t
        (.pressTaken (addressed index m.desk.pending) d slot :: rest) := by
    unfold addressed at hd ⊢
    simp [Machine.takePending, hd]
  have hstep := h.step (congrArg some he)
  refine ⟨h.changed ?_ (by simp), by rw [hstep]; rfl⟩
  rw [hstep]
  exact codes_goto_self (m := { m with desk := _ }) h.code _

/-- The press of a button that the dialog lacks is about to put the dialog back. -/
lemma Stands.miss (h : m.Stands t (.pressTaken place d slot :: rest)) (ho : m.dialogs[d]? = some o)
    (hs : o.dialog.hasSlot slot = false) :
    (m.step (.exec t)).Stands t (.putBack place d :: rest) ∧
      (m.step (.exec t)).desk.pending = m.desk.pending := by
  have hpress : o.dialog.press slot = .error o.dialog := by
    rcases o.dialog.press_cases slot with ⟨b, hb, rfl, -⟩ | ⟨-, hpress⟩
    · rw [Dialog.hasSlot_of_mem hb] at hs
      cases hs
    · exact hpress
  have he : m.execInstr t rest (.pressTaken place d slot) =
      some ((m.emit t (.noSuchButton d slot o.dialog.title)).goto t (.putBack place d :: rest)) := by
    simp [execInstr, withOffer, ho, pressDialog, hpress]
  have hstep := h.step he
  refine ⟨h.changed ?_ (by simp), by rw [hstep]; rfl⟩
  rw [hstep]
  exact codes_goto_self (m := m.emit t _) h.code _

/-- A dialog that is put back comes to its old place, or to the end if there are fewer by then. -/
lemma Stands.putBack (h : m.Stands t (.putBack place d :: rest)) :
    (m.step (.exec t)).desk.pending = m.desk.pending.insertIdx (min place m.desk.pending.length) d := by
  rw [h.step rfl]
  rfl

/-- The press of a button that the dialog has starts its handler, and leaves the pending dialogs as they are. -/
lemma Stands.press {reaction : Reaction} (h : m.Stands t (.pressTaken place d slot :: rest))
    (ho : m.dialogs[d]? = some o) (hr : o.dialog.press slot = .ok reaction) :
    (m.step (.exec t)).codes[t]? = some (reaction.code ++ rest) ∧
      (m.step (.exec t)).deeds = m.deeds ++ [Event.pressed d slot] ∧
      (m.step (.exec t)).desk.pending = m.desk.pending := by
  have he : m.execInstr t rest (.pressTaken place d slot) =
      some ((m.emit t (.pressed d slot)).goto t (reaction.code ++ rest)) := by
    simp [execInstr, withOffer, ho, pressDialog, hr]
  rw [h.step he]
  exact ⟨codes_goto_self (m := m.emit t _) h.code _, deeds_emit .., rfl⟩

/-- Dismissals are never taken back. -/
lemma Grows.dismissed_le {m m' : Machine} (h : m.Grows m') (d : DialogId) :
    m.occurrences d .dismissed ≤ m'.occurrences d .dismissed :=
  h.deeds.sublist.countP_le

/-- A run from a tended machine on in which the owner is handed all dialogs and none is dismissed. -/
structure Calm (m : Machine) (moves : List Move) : Prop where
  tended : m.Tended
  offers : m.offersOnOwner moves = true
  spared : ∀ d, (m.play moves).occurrences d .dismissed ≤ m.occurrences d .dismissed

/-- The first part of a calm run is calm. -/
lemma Calm.left {moves more : List Move} (h : m.Calm (moves ++ more)) : m.Calm moves where
  tended := h.tended
  offers := by
    have hoffers := h.offers
    rw [offersOnOwner_append, Bool.and_eq_true] at hoffers
    exact hoffers.1
  spared d := by
    have hspared := h.spared d
    rw [play_append] at hspared
    exact Nat.le_trans ((play_grows (m.play moves) more).dismissed_le d) hspared

/-- A calm run is calm from any point on. -/
lemma Calm.right {moves more : List Move} (h : m.Calm (moves ++ more)) : (m.play moves).Calm more where
  tended := h.tended.play h.left.offers
  offers := by
    have hoffers := h.offers
    rw [offersOnOwner_append, Bool.and_eq_true] at hoffers
    exact hoffers.2
  spared d := by
    have hspared := h.spared d
    rw [play_append] at hspared
    exact Nat.le_trans hspared ((play_grows m moves).dismissed_le d)

/-- A calm run is calm from its second move on. -/
lemma Calm.tail {mv : Move} {moves : List Move} (h : m.Calm (mv :: moves)) : (m.step mv).Calm moves := by
  have h : m.Calm ([mv] ++ moves) := h
  exact h.right

/-- While the owner makes no move in a calm run, the pending dialogs stay as they are. -/
lemma Calm.pending {moves : List Move} (h : m.Calm moves) (ho : m.loop.owner = some t) (hmoves : .exec t ∉ moves) :
    (m.play moves).desk.pending = m.desk.pending := by
  obtain ⟨gone, hpending, hdeeds⟩ := h.tended.play_beside h.offers ho hmoves
  cases gone with
  | nil => rw [hpending, List.append_nil]
  | cons d gone =>
    -- the first of them was dismissed once more
    have hcount := h.spared d
    have hone : [Event.dismissed (some d)].countP (Event.dismisses d) = 1 := by simp [Event.dismisses]
    simp only [occurrences, hdeeds, List.reverse_cons, List.map_append, List.map_singleton, List.countP_append,
      hone] at hcount
    omega

/-- The owner's next move in a calm run finds the thread and the pending dialogs as they were. -/
lemma Calm.next {moves : List Move} {code : List Instr} {n : Nat} (h : m.Calm moves) (hs : m.Stands t code)
    (hcount : moves.count (.exec t) = n + 1) :
    ∃ m' after, m.Grows m' ∧ m'.Stands t code ∧ m'.desk.pending = m.desk.pending ∧
      (m'.step (.exec t)).Calm after ∧ after.count (.exec t) = n ∧
      m.play moves = (m'.step (.exec t)).play after := by
  have hmem : .exec t ∈ moves := List.count_pos_iff.1 (by omega)
  obtain ⟨before, after, rfl, hbefore⟩ := List.eq_append_cons_of_mem hmem
  rw [List.count_append, List.count_eq_zero.2 hbefore, List.count_cons_self] at hcount
  exact ⟨m.play before, after, play_grows .., hs.play_beside hbefore, h.left.pending hs.owner hbefore, h.right.tail,
    by omega, play_append ..⟩

/-- The press of a button that the dialog lacks leaves the pending dialogs as they were, if none is dismissed
meanwhile. -/
lemma Calm.missed {more : List Move} (h : m.Calm (.exec t :: more))
    (hs : m.Stands t (.takePending index slot :: rest))
    (hd : m.desk.pending[addressed index m.desk.pending]? = some d) (ho : m.dialogs[d]? = some o)
    (hlacks : o.dialog.hasSlot slot = false) (hcount : more.count (.exec t) = 2) :
    (m.play (.exec t :: more)).desk.pending = m.desk.pending := by
  -- the thread takes the dialog, misses the button and puts the dialog back, with moves of others behind each
  obtain ⟨hs₁, htaken⟩ := hs.take hd
  obtain ⟨m₁, more₁, hg₁, hs₁, hp₁, hcalm₁, hcount, he₁⟩ := h.tail.next hs₁ hcount
  obtain ⟨hs₂, hmissed⟩ := hs₁.miss (hg₁.dialogs ((step_grows ..).dialogs ho)) hlacks
  obtain ⟨m₂, more₂, -, hs₂, hp₂, hcalm₂, hcount, he₂⟩ := hcalm₁.next hs₂ hcount
  have howner : (m₂.step (.exec t)).loop.owner = some t := (step_grows ..).owner hs₂.owner
  calc (m.play (.exec t :: more)).desk.pending
      = ((m.step (.exec t)).play more).desk.pending := rfl
    _ = ((m₂.step (.exec t)).play more₂).desk.pending := by rw [he₁, he₂]
    _ = (m₂.step (.exec t)).desk.pending := hcalm₂.pending howner (List.count_eq_zero.1 hcount)
    _ = m₂.desk.pending.insertIdx (min (addressed index m.desk.pending) m₂.desk.pending.length) d := hs₂.putBack
    _ = m.desk.pending := by rw [hp₂, hmissed, hp₁, htaken, insertIdx_eraseIdx_restores hd]

/-- After the press of a button that the dialog has, nothing but dismissals changes the pending dialogs until the
handler is started, which is what the thread does next. -/
lemma Tended.hit {more : List Move} {reaction : Reaction} (h : m.Tended)
    (hs : m.Stands t (.takePending index slot :: rest))
    (hd : m.desk.pending[addressed index m.desk.pending]? = some d) (ho : m.dialogs[d]? = some o)
    (hr : o.dialog.press slot = .ok reaction) (hoffers : m.offersOnOwner (.exec t :: more) = true)
    (hmore : .exec t ∉ more) :
    (m.play (.exec t :: more)).desk.pending <+: (m.step (.exec t)).desk.pending ∧
      ((m.play (.exec t :: more)).step (.exec t)).codes[t]? = some (reaction.code ++ rest) ∧
      ((m.play (.exec t :: more)).step (.exec t)).deeds = (m.play (.exec t :: more)).deeds ++ [Event.pressed d slot] ∧
      ((m.play (.exec t :: more)).step (.exec t)).desk.pending = (m.play (.exec t :: more)).desk.pending := by
  have hs₁ := (hs.take hd).1
  rw [offersOnOwner, Bool.and_eq_true, Bool.not_eq_true'] at hoffers
  obtain ⟨gone, hpending, -⟩ := (h.step hoffers.1).play_beside hoffers.2 hs₁.owner hmore
  have ho' := (play_grows m (.exec t :: more)).dialogs ho
  exact ⟨⟨gone, hpending.symm⟩, (hs₁.play_beside hmore).press ho' hr⟩

end Press

/-- A press is made by the owner of the loop. -/
lemma Tended.stands {m : Machine} {t : ThreadId} {index : Option Nat} {slot : Slot} (h : m.Tended)
    (hi : m.executed? (.exec t) = some (.takePending index slot)) :
    ∃ rest, m.Stands t (.takePending index slot :: rest) := by
  obtain ⟨u, th, rest, hu, hth, hcode, hawake⟩ := executes_of_executed? hi
  cases hu
  have ht : m.codes[t]? = some (.takePending index slot :: rest) := hcode ▸ codes_getElem? hth
  refine ⟨rest, h.owned.confined ht (List.mem_cons_self ..) rfl, ht, fun th' hth' => ?_⟩
  rw [hth] at hth'
  cases hth'
  exact hawake

/-- What is taken out of a list without duplicates is not in it any more. -/
lemma notMem_eraseIdx {pending : List DialogId} {place : Nat} {d : DialogId} (h : pending.Nodup)
    (hd : pending[place]? = some d) : d ∉ pending.eraseIdx place := by
  obtain ⟨hlt, rfl⟩ := List.getElem?_eq_some_iff.1 hd
  exact (List.nodup_cons.1 ((List.getElem_cons_eraseIdx_perm hlt).nodup_iff.2 h)).1

/-- On a headless toolkit that is handed its dialogs on the thread of the owner of the loop, in every state of every
run, the pending dialogs are some of the accepted ones, each once, in the order in which they were shown. A press
that addresses no dialog changes nothing, and one of a button that the dialog lacks leaves the pending dialogs as
they were, once it is over, unless one was dismissed meanwhile. A press of a button that the dialog has takes the
dialog it addresses, and the others keep their order; nothing but dismissals of the last ones changes that before
the handler of the button is started, which is what the thread does next. -/
theorem pending_in_show_order {m : Machine} (hm : m.Fresh) (hheadless : m.terminal = none) (hov : m.overrides = {})
    {moves : List Move} (hoffers : m.offersOnOwner moves = true) :
    (m.play moves).desk.shown = m.desk.shown ++ (m.shownIn moves).filterMap (m.play moves).snapshot? ∧
    (m.shownIn moves).Nodup ∧
    (m.play moves).desk.pending.Nodup ∧ (m.play moves).desk.pending <+ m.acceptedIn moves ∧
    ∀ before t index slot more, before ++ .exec t :: more <+: moves →
      let s := m.play before
      let place := addressed index s.desk.pending
      let taken := s.step (.exec t)
      let later := taken.play more
      s.executed? (.exec t) = some (.takePending index slot) →
      (s.desk.pending[place]? = none → taken.desk.pending = s.desk.pending) ∧
      ∀ d, s.desk.pending[place]? = some d → ∃ o, s.dialogs[d]? = some o ∧
        (o.dialog.hasSlot slot = false → more.count (.exec t) = 2 →
          (∀ d, later.occurrences d .dismissed = s.occurrences d .dismissed) →
          later.desk.pending = s.desk.pending) ∧
        (o.dialog.hasSlot slot = true → more.count (.exec t) = 0 →
          taken.desk.pending = s.desk.pending.eraseIdx place ∧
          later.desk.pending <+: taken.desk.pending ∧ d ∉ later.desk.pending ∧
          ∃ reaction rest, o.dialog.press slot = .ok reaction ∧
            s.codes[t]? = some (.takePending index slot :: rest) ∧
            (later.step (.exec t)).codes[t]? = some (reaction.code ++ rest) ∧
            (later.step (.exec t)).deeds = later.deeds ++ [Event.pressed d slot] ∧
            (later.step (.exec t)).desk.pending = later.desk.pending) := by
  have hnodup : ∀ {moves : List Move}, m.offersOnOwner moves = true → (m.play moves).desk.pending.Nodup := by
    intro moves hoffers
    have horder := (hm.inOrder hheadless hov hoffers).pending
    exact horder.nodup ((hm.shown_once hheadless hov moves).filter _)
  refine ⟨hm.shown hheadless hov moves, hm.shown_once hheadless hov moves, hnodup hoffers,
    (hm.inOrder hheadless hov hoffers).pending, ?_⟩
  intro before t index slot more hpre s place taken later hi
  obtain ⟨after, rfl⟩ := hpre
  simp only [offersOnOwner_append, Bool.and_eq_true] at hoffers
  obtain ⟨⟨hbefore, hmore⟩, -⟩ := hoffers
  have htended : s.Tended := (hm.tended hheadless hov).play hbefore
  obtain ⟨rest, hs⟩ := htended.stands hi
  refine ⟨hs.takeNothing, fun d hd => ?_⟩
  have ho := List.getElem?_eq_getElem (htended.trusty.bare.sound.pending d (List.mem_of_getElem? hd))
  refine ⟨_, ho, fun hlacks hcount hspared => ?_, fun hslot hcount => ?_⟩
  · exact Calm.missed ⟨htended, hmore, fun d => Nat.le_of_eq (hspared d)⟩ hs hd ho hlacks hcount
  · obtain ⟨reaction, hr⟩ := press_of_hasSlot hslot
    obtain ⟨hfront, hstarted⟩ := htended.hit hs hd ho hr hmore (List.count_eq_zero.1 hcount)
    have htaken : taken.desk.pending = s.desk.pending.eraseIdx place := (hs.take hd).2
    exact ⟨htaken, hfront, fun hmem => notMem_eraseIdx (hnodup hbefore) hd (htaken ▸ hfront.subset hmem),
      reaction, rest, hr, hs.code, hstarted⟩

/-- The thread that runs the loop offers two dialogs and posts two presses before it does. Another thread dismisses
a dialog. -/
def twoPresses : Machine :=
  start [[.bind, .offer ⟨"Save", "", none, true, [⟨.positive, "OK", []⟩]⟩, .offer ⟨"Tip", "", none, true, []⟩,
      .press (some 1) .neutral, .press (some 0) .positive, .run .ui false],
    [.dismiss]] [] .manual

/-- Both dialogs are pending, and the first press comes next. -/
def beforeMiss : List Move := List.replicate 19 (.exec 0)

/-- The first press is over, and the second comes next. -/
def beforeHit : List Move := List.replicate 23 (.exec 0)

/-- The first press finds no button and leaves the dialogs as they were. The second takes the first dialog, and the
other one is dismissed before the handler is started. -/
theorem pending_in_show_order_twoPresses :
    (twoPresses.play (beforeHit ++ [Move.exec 0, .exec 1])).desk.pending <+
      twoPresses.acceptedIn (beforeHit ++ [Move.exec 0, .exec 1]) ∧
    (((twoPresses.play beforeMiss).step (.exec 0)).play [.exec 0, .exec 0]).desk.pending = [0, 1] ∧
    ((twoPresses.play beforeHit).step (.exec 0)).desk.pending = [1] ∧
    0 ∉ (((twoPresses.play beforeHit).step (.exec 0)).play [.exec 1]).desk.pending ∧
    (((twoPresses.play beforeHit).step (.exec 0)).play [.exec 1]).occurrences 1 .dismissed = 1 ∧
    ((((twoPresses.play beforeHit).step (.exec 0)).play [.exec 1]).step (.exec 0)).deeds =
      (((twoPresses.play beforeHit).step (.exec 0)).play [.exec 1]).deeds ++ [Event.pressed 0 .positive] := by
  have hoffers : twoPresses.offersOnOwner (beforeHit ++ [Move.exec 0, .exec 1]) = true := by decide +kernel
  obtain ⟨-, -, -, horder, hpress⟩ := pending_in_show_order (m := twoPresses) (start_fresh ..) rfl rfl hoffers
  have hmiss : (twoPresses.play beforeMiss).executed? (.exec 0) = some (.takePending (some 1) .neutral) := rfl
  have hhit : (twoPresses.play beforeHit).executed? (.exec 0) = some (.takePending (some 0) .positive) := rfl
  have hboth : (twoPresses.play beforeMiss).desk.pending = [0, 1] := by decide +kernel
  have hboth' : (twoPresses.play beforeHit).desk.pending = [0, 1] := by decide +kernel
  obtain ⟨-, htip⟩ := hpress beforeMiss 0 _ _ [.exec 0, .exec 0] ⟨[.exec 0, .exec 0, .exec 1], rfl⟩ hmiss
  obtain ⟨-, hsave⟩ := hpress beforeHit 0 _ _ [.exec 1] ⟨[], rfl⟩ hhit
  obtain ⟨tip, htip?, hmissed, -⟩ := htip 1 (by rw [hboth]; rfl)
  obtain ⟨save, hsave?, -, htaken⟩ := hsave 0 (by rw [hboth']; rfl)
  have htipLacks : ((twoPresses.play beforeMiss).dialogs[1]?.map (·.dialog.hasSlot .neutral)) = some false := by
    decide +kernel
  have hsaveHas : ((twoPresses.play beforeHit).dialogs[0]?.map (·.dialog.hasSlot .positive)) = some true := by
    decide +kernel
  rw [htip?] at htipLacks
  rw [hsave?] at hsaveHas
  have hnone : (twoPresses.play beforeMiss).deeds = [] := List.length_eq_zero_iff.1 (by decide +kernel)
  have hnone' : (((twoPresses.play beforeMiss).step (.exec 0)).play [.exec 0, .exec 0]).deeds = [] :=
    List.length_eq_zero_iff.1 (by decide +kernel)
  have hspared := fun d => congrArg (List.countP (Event.dismisses d)) (hnone'.trans hnone.symm)
  obtain ⟨hleft, -, hgone, _, _, -, -, -, hpressed, -⟩ := htaken (Option.some.inj hsaveHas) (by decide)
  refine ⟨horder, ?_, ?_, hgone, by decide +kernel, hpressed⟩
  · rw [hmissed (Option.some.inj htipLacks) (by decide) hspared, hboth]
  · rw [hleft, hboth']
    rfl

end MessageBox.Machine

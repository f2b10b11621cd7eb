import Mathlib.Data.List.Induction
import MessageBox.Proofs.Building
import MessageBox.Proofs.Buttons

/-!
# Keys and open dialogs

`View.handles` says once what a key does to a dialog, and `Stack.routes` what it does to the open dialogs. A key
reaches the innermost dialog only, and what it presses is a button that this dialog has.
-/

namespace MessageBox.Terminal

variable {α : Type}

/-- The index of the button that a key presses, given the one in focus. -/
def KeyCode.index? (focus : Nat) : KeyCode → Option Nat
  | .enter | .char ' ' => some focus
  | .char '1' => some 0
  | .char '2' => some 1
  | .char '3' => some 2
  | _ => none

namespace View

/-- The button that a key presses. -/
def target? (v : View α) (k : Key) : Option (Button α) :=
  (k.code.index? v.focus).bind fun i => v.dialog.buttons[i]?

/-- A button that a key presses is one of the dialog. -/
lemma mem_of_target? {v : View α} {k : Key} {b : Button α} (h : v.target? k = some b) :
    b ∈ v.dialog.buttons := by
  obtain ⟨i, -, hi⟩ := Option.bind_eq_some_iff.1 h
  exact List.mem_of_getElem? hi

/-- What a key does to a dialog in view. -/
inductive Handles (v : View α) (k : Key) : KeyOutcome → View α → Prop where
  | activate {b} :
    v.target? k = some b →
    Handles v k (.activate b.slot) v
  | dismiss :
    k.code = .escape →
    v.dialog.cancelable = true →
    Handles v k .dismiss v
  | redraw {focus} :
    k.code.movesFocus = true →
    focus < v.dialog.buttons.length →
    Handles v k .redraw { v with focus }
  | ignored :
    v.target? k = none →
    Handles v k .ignored v

/-- A key with the index of a button presses that button, if there is one. -/
lemma handle_index {v : View α} {k : Key} {i : Nat} (hv : v.dialog.buttons ≠ [])
    (hi : k.code.index? v.focus = some i) : v.handle k = (v.activate i, v) := by
  unfold KeyCode.index? at hi
  split at hi
  case h_6 => cases hi
  all_goals
    cases hi
    simp [handle, *]

/-- Every key does to a view what `Handles` says. -/
lemma handles (v : View α) (k : Key) : Handles v k (v.handle k).1 (v.handle k).2 := by
  by_cases hv : v.dialog.buttons = []
  · have hhandle : v.handle k = (.ignored, v) := by simp [handle, hv]
    rw [hhandle]
    exact .ignored (by simp [target?, hv])
  cases hi : k.code.index? v.focus with
  | some i =>
    have htarget : v.target? k = v.dialog.buttons[i]? := by simp [target?, hi]
    rw [handle_index hv hi, activate]
    split
    · next b hb => exact .activate (htarget.trans hb)
    · next hnone => exact .ignored (htarget.trans hnone)
  | none =>
    have htarget : v.target? k = none := by simp [target?, hi]
    have hpos : 0 < v.dialog.buttons.length := List.length_pos_iff.2 hv
    have hne : v.dialog.buttons.isEmpty = false := by simpa using hv
    unfold handle
    rw [hne, if_neg Bool.false_ne_true]
    -- no key that presses a button is left
    cases hk : k.code with
    | left | backTab | right | tab => exact .redraw (by rw [hk]; rfl) (Nat.mod_lt _ hpos)
    | escape =>
      cases hc : v.dialog.cancelable with
      | true => exact .dismiss hk hc
      | false => exact .ignored htarget
    | char c =>
      rw [hk] at hi
      split
      case h_11 => exact .ignored htarget
      all_goals simp_all [KeyCode.index?]
    | enter => simp [hk, KeyCode.index?] at hi
    | _ => exact .ignored htarget

/-- A key does not change the dialog itself. -/
lemma handle_dialog (v : View α) (k : Key) : (v.handle k).2.dialog = v.dialog := by
  have hv := v.handles k
  generalize v.handle k = result at hv
  obtain ⟨outcome, v'⟩ := result
  cases hv <;> rfl

/-- A key that presses a button activates its slot. -/
lemma handle_target {v : View α} {k : Key} {b : Button α} (h : v.target? k = some b) :
    v.handle k = (.activate b.slot, v) := by
  have hv := v.handles k
  generalize v.handle k = result at hv
  obtain ⟨outcome, v'⟩ := result
  cases hv with
  | activate hb =>
    cases h.symm.trans hb
    rfl
  | dismiss hk _ => simp [target?, hk, KeyCode.index?] at h
  | redraw hk _ =>
    cases hc : k.code <;> simp [target?, hc, KeyCode.index?, KeyCode.movesFocus] at h hk
  | ignored hnone => cases h.symm.trans hnone

/-- When the button that a key presses has been activated, its action follows. -/
lemma conclude_target {v : View α} {k : Key} {b : Button α} (hv : v.dialog.Distinct) (h : v.target? k = some b) :
    v.conclude (some b.slot) =
      (some b.action, [conclude.record .debug "Dialog button activated" ("slot", .plain b.slot.text)]) := by
  rw [conclude, hv.press (mem_of_target? h)]

/-- A button is in focus, if there are any. -/
def Focused (v : View α) : Prop := v.dialog.buttons = [] ∨ v.focus < v.dialog.buttons.length

/-- A view as a built dialog has it: one button for a slot, and one of the buttons in focus. -/
structure Sound (v : View α) : Prop where
  distinct : v.dialog.Distinct
  focused : v.Focused

/-- A built dialog opens with its first button in focus. -/
lemma sound_build (title message : String) (settings : List (Dialog.Setting α)) :
    (⟨Dialog.build title message settings, 0⟩ : View α).Sound where
  distinct := Dialog.build_distinct title message settings
  focused := (Nat.eq_zero_or_pos _).imp_left List.length_eq_zero_iff.1

end View

namespace Stack

/-- Either no dialog is open, or one is on top. -/
lemma eq_empty_or_push (s : Stack α) : s = {} ∨ ∃ below v, s = push below v := by
  obtain ⟨views⟩ := s
  rcases List.eq_nil_or_concat' views with rfl | ⟨below, v, rfl⟩
  · exact .inl rfl
  · exact .inr ⟨⟨below⟩, v, rfl⟩

/-- What a key does to the open dialogs. -/
inductive Routes (k : Key) : Stack α → Routed α → Stack α → Prop where
  | nothing :
    Routes k {} .unchanged {}
  | activated {below v b} :
    v.target? k = some b →
    Routes k (push below v) (.closed v (some b.slot)) below
  | dismissed {below v} :
    k.code = .escape →
    v.dialog.cancelable = true →
    Routes k (push below v) (.closed v none) below
  | moved {below v focus} :
    k.code.movesFocus = true →
    focus < v.dialog.buttons.length →
    Routes k (push below v) .changed (push below { v with focus })
  | ignored {below v} :
    v.target? k = none →
    Routes k (push below v) .unchanged (push below v)

/-- Every key does to the open dialogs what `Routes` says. -/
lemma routes (s : Stack α) (k : Key) : Routes k s (s.route k).1 (s.route k).2 := by
  obtain rfl | ⟨below, v, rfl⟩ := s.eq_empty_or_push
  · exact .nothing
  · have hv := v.handles k
    simp only [route, top_push, pop_push]
    generalize v.handle k = result at hv
    obtain ⟨outcome, v'⟩ := result
    cases hv with
    | activate htarget => exact .activated htarget
    | dismiss hk hc => exact .dismissed hk hc
    | redraw hk hfocus => exact .moved hk hfocus
    | ignored htarget => exact .ignored htarget

/-! ### Runs -/

/-- What happens on a terminal. -/
inductive Act (α : Type) where
  /-- A dialog is built and opened. -/
  | opens (title message : String) (settings : List (Dialog.Setting α))
  | types (key : Key)

/-- The open dialogs after something has happened. -/
def step (s : Stack α) : Act α → Stack α
  | .opens title message settings => s.push ⟨Dialog.build title message settings, 0⟩
  | .types k => (s.route k).2

/-- The open dialogs after a run. -/
def play (s : Stack α) (acts : List (Act α)) : Stack α := acts.foldl step s

/-- The last thing that happens finds the dialogs that are open by then. -/
lemma play_concat (s : Stack α) (acts : List (Act α)) (act : Act α) :
    s.play (acts ++ [act]) = (s.play acts).step act := by
  simp [play]

/-- A run goes on with the dialogs that its first part leaves open. -/
lemma play_append (s : Stack α) (acts more : List (Act α)) : s.play (acts ++ more) = (s.play acts).play more :=
  List.foldl_append ..

/-- All open views are as built dialogs have them. -/
def Sound (s : Stack α) : Prop := ∀ v ∈ s.views, v.Sound

/-- A dialog on top is sound with the others below it. -/
lemma sound_push {s : Stack α} {v : View α} : (s.push v).Sound ↔ s.Sound ∧ v.Sound := by
  simp [Sound, push, or_imp, forall_and]

/-- Whatever happens keeps the open dialogs sound. -/
lemma Sound.step {s : Stack α} (h : s.Sound) (act : Act α) : (s.step act).Sound := by
  cases act with
  | opens title message settings => exact sound_push.2 ⟨h, View.sound_build title message settings⟩
  | types k =>
    have hr := s.routes k
    rw [Stack.step]
    generalize (s.route k).1 = routed, (s.route k).2 = s' at hr ⊢
    cases hr with
    | nothing | ignored => exact h
    | activated | dismissed => exact (sound_push.1 h).1
    | moved _ hfocus =>
      obtain ⟨hbelow, hv⟩ := sound_push.1 h
      exact sound_push.2 ⟨hbelow, hv.distinct, .inr hfocus⟩

/-- In a run that begins without dialogs, the open ones are sound. -/
lemma play_sound (acts : List (Act α)) : (({} : Stack α).play acts).Sound := by
  induction acts using List.reverseRecOn with
  | nil => exact List.forall_mem_nil _
  | append_singleton acts act ih =>
    rw [play_concat]
    exact ih.step act

/-- A view is open on top of some others, perhaps with another button in focus. -/
def Holds (s : Stack α) (below : List (View α)) (v : View α) : Prop :=
  ∃ focus above, s.views = below ++ { v with focus } :: above

/-- A view is open with some below it if it is on top of just these, or is so further below. -/
lemma holds_push {s : Stack α} {below : List (View α)} {v w : View α} :
    (s.push w).Holds below v ↔ (s.views = below ∧ ∃ focus, w = { v with focus }) ∨ s.Holds below v := by
  constructor
  · rintro ⟨focus, above, h⟩
    rcases List.eq_nil_or_concat' above with rfl | ⟨above, u, rfl⟩
    · obtain ⟨hs, hw⟩ := List.append_inj' h rfl
      exact .inl ⟨hs, focus, List.singleton_inj.1 hw⟩
    · right
      rw [← List.cons_append, ← List.append_assoc] at h
      exact ⟨focus, above, (List.append_inj' h rfl).1⟩
  · rintro (⟨rfl, focus, rfl⟩ | ⟨focus, above, h⟩)
    · exact ⟨focus, [], rfl⟩
    · exact ⟨focus, above ++ [w], by simp [push, h]⟩

/-- A view stays open, or a key closes it and leaves the ones below it. -/
lemma Holds.step {s : Stack α} {below : List (View α)} {v : View α} (h : s.Holds below v) (act : Act α) :
    (s.step act).Holds below v ∨
      ∃ k focus slot, act = .types k ∧ s.route k = (.closed { v with focus } slot, ⟨below⟩) := by
  cases act with
  | opens => exact .inl (holds_push.2 (.inr h))
  | types k =>
    have hr := s.routes k
    -- a key that closes a dialog closes this one, or one above it
    have closes : ∀ {s' w slot}, s.route k = (.closed w slot, s') → (s'.push w).Holds below v →
        s'.Holds below v ∨
          ∃ k' focus slot, (Act.types k : Act α) = .types k' ∧
            s.route k' = (.closed { v with focus } slot, ⟨below⟩) := by
      rintro s' w slot hroute hw
      rcases holds_push.1 hw with ⟨rfl, focus, rfl⟩ | hs'
      · exact .inr ⟨k, focus, slot, rfl, hroute⟩
      · exact .inl hs'
    rw [Stack.step]
    generalize s.route k = result at hr closes ⊢
    obtain ⟨routed, s'⟩ := result
    cases hr with
    | nothing | ignored => exact .inl h
    | activated | dismissed => exact closes rfl h
    | moved =>
      left
      rcases holds_push.1 h with ⟨hbelow, focus, rfl⟩ | hs
      · exact holds_push.2 (.inl ⟨hbelow, _, rfl⟩)
      · exact holds_push.2 (.inr hs)

/-- In a run, a view stays open until a key closes it and leaves the ones below it. -/
lemma Holds.play {s : Stack α} {below : List (View α)} {v : View α} (h : s.Holds below v) (acts : List (Act α)) :
    (s.play acts).Holds below v ∨
      ∃ before k focus slot, before ++ [Act.types k] <+: acts ∧
        (s.play before).route k = (.closed { v with focus } slot, ⟨below⟩) := by
  induction acts using List.reverseRecOn with
  | nil => exact .inl h
  | append_singleton acts act ih =>
    rw [play_concat]
    rcases ih with hopen | ⟨before, k, focus, slot, hpre, hclosed⟩
    · rcases hopen.step act with hopen | ⟨k, focus, slot, rfl, hclosed⟩
      · exact .inl hopen
      · exact .inr ⟨acts, k, focus, slot, List.prefix_rfl, hclosed⟩
    · -- what has happened in the run stays in it
      exact .inr ⟨before, k, focus, slot, hpre.trans (List.prefix_append ..), hclosed⟩

/-! ### Results -/

/-- A key that is reported to change nothing leaves the open dialogs as they are. -/
lemma route_unchanged {s : Stack α} {k : Key} (h : (s.route k).1 = .unchanged) : (s.route k).2 = s := by
  have hr := s.routes k
  rw [h] at hr
  generalize (s.route k).2 = s' at hr ⊢
  cases hr with
  | nothing | ignored => rfl

/-- A key that is reported to change something moves the focus of the dialog on top. -/
lemma route_changed {s : Stack α} {k : Key} (h : (s.route k).1 = .changed) :
    ∃ below v focus, s = push below v ∧ (s.route k).2 = push below { v with focus } := by
  have hr := s.routes k
  rw [h] at hr
  generalize (s.route k).2 = s' at hr ⊢
  cases hr with
  | moved => exact ⟨_, _, _, rfl, rfl⟩

/-- What a key that closes a dialog leaves, and what it closes the dialog with: a button that it presses and the
dialog has, whose action follows, or nothing if the dialog is cancelable. -/
lemma route_closed {s s' : Stack α} {k : Key} {v : View α} {slot : Option Slot} (hs : s.Sound)
    (h : s.route k = (.closed v slot, s')) :
    s = s'.push v ∧
      ((∃ b, v.target? k = some b ∧ slot = some b.slot ∧ v.conclude slot =
        (some b.action, [View.conclude.record .debug "Dialog button activated" ("slot", .plain b.slot.text)])) ∨
      slot = none ∧ v.dialog.cancelable = true) := by
  have hr := s.routes k
  rw [h] at hr
  cases hr with
  | activated htarget =>
    have hv := (sound_push.1 hs).2
    exact ⟨rfl, .inl ⟨_, htarget, rfl, View.conclude_target hv.distinct htarget⟩⟩
  | dismissed _ hc => exact ⟨rfl, .inr ⟨rfl, hc⟩⟩

/-- A key that presses a button of the dialog on top closes the dialog with its slot. -/
lemma route_target {below : Stack α} {v : View α} {k : Key} {b : Button α} (h : v.target? k = some b) :
    (below.push v).route k = (.closed v (some b.slot), below) := by
  simp [route, View.handle_target h]

/-- Whatever dialogs were built and opened, and whatever keys were typed: the focus is on a button wherever there is
one, and the next key reaches the innermost dialog only. It leaves everything as it was, or moves the focus of this
dialog, or closes it and leaves the others. If it closes the dialog with a slot, it presses a button that the dialog
has in this slot, and the action of this button follows, once; a key that presses a button does so. If it closes the
dialog without a slot, the dialog is cancelable, and no action follows.

A dialog stays open until a key closes it, whatever comes later; by then the dialogs above it are closed, and those
below it are as they were. One that is not cancelable is closed by a press of one of its buttons. -/
theorem routing_sound (acts : List (Act α)) :
    let s := ({} : Stack α).play acts
    (∀ v ∈ s.views, v.Focused) ∧
    (∀ k, (s.route k).1 = .unchanged → (s.route k).2 = s) ∧
    (∀ k, (s.route k).1 = .changed →
      ∃ below v focus, s = push below v ∧ (s.route k).2 = push below { v with focus }) ∧
    (∀ k v slot, (s.route k).1 = .closed v slot → s = (s.route k).2.push v) ∧
    (∀ k v slot, (s.route k).1 = .closed v (some slot) → v.dialog.hasSlot slot = true ∧
      ∃ b, v.target? k = some b ∧ b.slot = slot ∧ v.conclude (some slot) =
        (some b.action, [View.conclude.record .debug "Dialog button activated" ("slot", .plain slot.text)])) ∧
    (∀ k v, (s.route k).1 = .closed v none → v.dialog.cancelable = true ∧ (v.conclude none).1 = none) ∧
    (∀ k below v b, s = push below v → v.target? k = some b → s.route k = (.closed v (some b.slot), below)) ∧
    ∀ below v above, s.views = below ++ v :: above → ∀ more,
      (∃ focus above', (s.play more).views = below ++ { v with focus } :: above') ∨
      ∃ before k focus slot, before ++ [Act.types k] <+: more ∧
        (s.play before).route k = (.closed { v with focus } slot, ⟨below⟩) ∧
        (v.dialog.cancelable = false → ∃ b ∈ v.dialog.buttons, slot = some b.slot ∧
          (View.conclude { v with focus } slot).1 = some b.action) := by
  intro s
  have hs : s.Sound := play_sound acts
  refine ⟨fun v hv => (hs v hv).focused, fun k => route_unchanged, fun k => route_changed,
    fun k v slot hk => (route_closed hs (Prod.ext hk rfl)).1, fun k v slot hk => ?_, fun k v hk => ?_,
    fun k below v b hpush htarget => hpush ▸ route_target htarget, fun below v above hv more => ?_⟩
  · obtain ⟨-, ⟨b, htarget, hslot, hconclude⟩ | ⟨hnone, -⟩⟩ := route_closed hs (Prod.ext hk rfl)
    · cases hslot
      exact ⟨Dialog.hasSlot_of_mem (View.mem_of_target? htarget), b, htarget, rfl, hconclude⟩
    · cases hnone
  · obtain ⟨-, ⟨b, -, hsome, -⟩ | ⟨-, hc⟩⟩ := route_closed hs (Prod.ext hk rfl)
    · cases hsome
    · exact ⟨hc, rfl⟩
  · have hopen : s.Holds below v := ⟨v.focus, above, hv⟩
    refine (hopen.play more).imp_right ?_
    rintro ⟨before, k, focus, slot, hpre, hclosed⟩
    refine ⟨before, k, focus, slot, hpre, hclosed, fun hc => ?_⟩
    have hreached : (s.play before).Sound := play_append {} acts before ▸ play_sound (acts ++ before)
    obtain ⟨-, ⟨b, htarget, hslot, hconclude⟩ | ⟨-, hcancelable⟩⟩ := route_closed hreached hclosed
    · have hb := View.mem_of_target? htarget
      exact ⟨b, hb, hslot, congrArg Prod.fst hconclude⟩
    · exact absurd (hc.symm.trans hcancelable) Bool.false_ne_true

/-- A question that is not cancelable. -/
def saveQuestion : Dialog String :=
  .build "Save" "Save the file?"
    [.button ⟨.negative, "No", "discard"⟩, .cancelable false, .button ⟨.positive, "Yes", "save"⟩]

/-- A tip on top of a question that is not cancelable. -/
def tipOnQuestion : List (Act String) :=
  [.opens "Save" "Save the file?"
      [.button ⟨.negative, "No", "discard"⟩, .cancelable false, .button ⟨.positive, "Yes", "save"⟩],
    .types { code := .tab },
    .opens "Tip" "Digits press buttons." [.button ⟨.positive, "OK", "read"⟩]]

/-- Esc closes the tip without an action. The question is closed by the digit of its second button, and the action
of this button follows. -/
theorem routing_sound_tipOnQuestion :
    (∃ v, ((({} : Stack String).play tipOnQuestion).route { code := .escape }).1 = .closed v none ∧
      v.dialog.title = "Tip" ∧ (v.conclude none).1 = none) ∧
    ∃ before k focus slot, ∃ b : Button String,
      before ++ [Act.types k] <+: [Act.types { code := .escape }, Act.types { code := .char '2' }] ∧
      ((({} : Stack String).play tipOnQuestion).play before).route k =
        (.closed ⟨saveQuestion, focus⟩ slot, {}) ∧
      b ∈ saveQuestion.buttons ∧ slot = some b.slot ∧
      (View.conclude ⟨saveQuestion, focus⟩ slot).1 = some b.action := by
  obtain ⟨-, -, -, -, -, hdismissed, -, hstays⟩ := routing_sound tipOnQuestion
  have htip : ((({} : Stack String).play tipOnQuestion).route { code := .escape }).1 =
      .closed ⟨Dialog.build "Tip" "Digits press buttons." [.button ⟨.positive, "OK", "read"⟩], 0⟩ none := rfl
  refine ⟨⟨_, htip, rfl, (hdismissed _ _ htip).2⟩, ?_⟩
  rcases hstays [] ⟨saveQuestion, 1⟩ _ rfl [.types { code := .escape }, .types { code := .char '2' }] with
    ⟨focus, above, hopen⟩ | ⟨before, k, focus, slot, hpre, hclosed, hbutton⟩
  · exact absurd hopen (List.cons_ne_nil _ _).symm
  · obtain ⟨b, hb, hslot, haction⟩ := hbutton rfl
    exact ⟨before, k, focus, slot, b, hpre, hclosed, hb, hslot, haction⟩

end Stack

end MessageBox.Terminal

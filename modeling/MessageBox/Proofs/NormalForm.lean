import Mathlib.Data.List.Induction
import Mathlib.Data.List.Sort
import MessageBox.Proofs.Building

/-!
# The normal form of built dialogs

Of the settings that a dialog is built from, the last one of each kind counts, and among the buttons the last one of
each slot. So a built dialog is what `normalForm` makes of these, whatever came before them and in whatever order
(`build_eq_normalForm`), and a press runs the action of the last button of its slot.
-/

namespace MessageBox.Dialog

variable {α β : Type}

/-! ### Last settings -/

namespace Setting

/-- The icon that a setting gives. -/
def icon? : Setting α → Option (Option StockIcon)
  | .icon value => some value
  | _ => none

/-- Whether a dialog may be closed without a button, as far as a setting says so. -/
def cancelable? : Setting α → Option Bool
  | .cancelable value => some value
  | _ => none

/-- The button that a setting gives for a slot. -/
def button? (s : Slot) : Setting α → Option (Button α)
  | .button b => if b.slot = s then some b else none
  | _ => none

/-- A setting gives the button that it sets, for the slot of that button. -/
lemma button?_eq_some {s : Slot} {setting : Setting α} {b : Button α} :
    setting.button? s = some b ↔ setting = .button b ∧ b.slot = s := by
  cases setting with
  | icon | cancelable => simp [button?]
  | button c =>
    by_cases h : c = b
    · simp [button?, h]
    · simp [button?, h]

end Setting

/-- What the last of some settings gives that gives anything. -/
def lastOf (f : Setting α → Option β) (settings : List (Setting α)) : Option β := settings.reverse.findSome? f

/-- The last setting counts if it gives something, and the ones before it otherwise. -/
lemma lastOf_concat (f : Setting α → Option β) (settings : List (Setting α)) (setting : Setting α) :
    lastOf f (settings ++ [setting]) = (f setting).or (lastOf f settings) := by
  rw [lastOf, List.reverse_concat, List.findSome?_cons]
  cases f setting <;> rfl

/-- The last button that is set for a slot is among the settings and has this slot. -/
lemma mem_of_lastOf {settings : List (Setting α)} {s : Slot} {b : Button α}
    (h : lastOf (Setting.button? s) settings = some b) : .button b ∈ settings ∧ b.slot = s := by
  obtain ⟨setting, hmem, hgives⟩ := List.exists_of_findSome?_eq_some h
  obtain ⟨rfl, hslot⟩ := Setting.button?_eq_some.1 hgives
  exact ⟨List.mem_reverse.1 hmem, hslot⟩

/-- Where some setting gives a button for a slot, there is a last one. -/
lemma exists_lastOf {settings : List (Setting α)} {b : Button α} (h : .button b ∈ settings) :
    ∃ c, lastOf (Setting.button? b.slot) settings = some c := by
  have hgives : (Setting.button b).button? b.slot = some b := Setting.button?_eq_some.2 ⟨rfl, rfl⟩
  refine Option.isSome_iff_exists.1 (List.findSome?_isSome_iff.2 ⟨.button b, List.mem_reverse.2 h, ?_⟩)
  rw [hgives]
  rfl

/-- Of each slot and of each other kind of setting, two sequences have the same last one. -/
structure SameLast (settings others : List (Setting α)) : Prop where
  icon : lastOf Setting.icon? settings = lastOf Setting.icon? others
  cancelable : lastOf Setting.cancelable? settings = lastOf Setting.cancelable? others
  button : ∀ s, lastOf (Setting.button? s) settings = lastOf (Setting.button? s) others

/-! ### The normal form -/

/-- The dialog that the last settings describe. -/
def normalForm (title message : String) (settings : List (Setting α)) : Dialog α where
  title
  message
  icon := (lastOf Setting.icon? settings).getD none
  cancelable := (lastOf Setting.cancelable? settings).getD true
  buttons := [Slot.positive, .neutral, .negative].filterMap fun s => lastOf (Setting.button? s) settings

/-- A button before another has an earlier slot. -/
def SlotsIncrease (buttons : List (Button α)) : Prop := buttons.Pairwise (·.slot.rank < ·.slot.rank)

/-- The buttons of the normal form are those that were set last for their slots. -/
lemma mem_normalForm {title message : String} {settings : List (Setting α)} {b : Button α} :
    b ∈ (normalForm title message settings).buttons ↔ lastOf (Setting.button? b.slot) settings = some b := by
  rw [normalForm, List.mem_filterMap]
  constructor
  · rintro ⟨s, -, hb⟩
    rwa [(mem_of_lastOf hb).2]
  · intro hb
    exact ⟨b.slot, by cases b.slot <;> simp, hb⟩

/-- The buttons of the normal form are in the order of their slots. -/
lemma slotsIncrease_normalForm (title message : String) (settings : List (Setting α)) :
    SlotsIncrease (normalForm title message settings).buttons := by
  have hslots : [Slot.positive, .neutral, .negative].Pairwise (·.rank < ·.rank) := by decide
  refine List.pairwise_filterMap.2 (hslots.imp fun {s t} hst b hb c hc => ?_)
  rwa [(mem_of_lastOf hb).2, (mem_of_lastOf hc).2]

/-- Two lists with increasing slots that have the same buttons are the same. -/
lemma SlotsIncrease.ext {l l' : List (Button α)} (h : SlotsIncrease l) (h' : SlotsIncrease l')
    (hmem : ∀ b, b ∈ l ↔ b ∈ l') : l = l' := by
  have : Std.Irrefl fun b c : Button α => b.slot.rank < c.slot.rank := ⟨fun _ => Nat.lt_irrefl _⟩
  have : Std.Antisymm fun b c : Button α => b.slot.rank < c.slot.rank :=
    ⟨fun _ _ hbc hcb => absurd hcb (Nat.lt_asymm hbc)⟩
  exact List.Pairwise.eq_of_mem_iff h h' hmem

/-! ### What is built -/

/-- Inserting a button with a new slot keeps the order of slots. -/
lemma insertBySlot_increasing {b : Button α} {buttons : List (Button α)} (h : SlotsIncrease buttons)
    (hb : ∀ c ∈ buttons, c.slot ≠ b.slot) : SlotsIncrease (insertBySlot b buttons) := by
  induction buttons with
  | nil => exact List.pairwise_singleton ..
  | cons c rest ih =>
    obtain ⟨hc, hrest⟩ := List.pairwise_cons.1 h
    have hne : b.slot.rank ≠ c.slot.rank := fun he => hb c (List.mem_cons_self ..) (Slot.rank_injective he).symm
    rw [insertBySlot]
    split
    · next hle =>
      have hlt : b.slot.rank < c.slot.rank := Nat.lt_of_le_of_ne hle hne
      refine List.pairwise_cons.2 ⟨fun e he => ?_, h⟩
      rcases List.mem_cons.1 he with rfl | he
      · exact hlt
      · exact Nat.lt_trans hlt (hc e he)
    · next hgt =>
      refine List.pairwise_cons.2 ⟨fun e he => ?_, ih hrest fun e he => hb e (List.mem_cons_of_mem _ he)⟩
      rcases List.mem_cons.1 ((insertBySlot_perm b rest).subset he) with rfl | he
      · omega
      · exact hc e he

/-- Sorting brings buttons of different slots into the order of their slots. -/
lemma sortBySlot_increasing {buttons : List (Button α)} (h : (buttons.map (·.slot)).Nodup) :
    SlotsIncrease (sortBySlot buttons) := by
  induction buttons with
  | nil => exact .nil
  | cons b rest ih =>
    obtain ⟨hb, hrest⟩ := List.nodup_cons.1 h
    refine insertBySlot_increasing (ih hrest) fun c hc he => hb ?_
    exact List.mem_map.2 ⟨c, (sortBySlot_perm rest).subset hc, he⟩

/-- The buttons under construction are the last ones of their slots. -/
lemma mem_settings {d : Dialog α} (hd : d.buttons = []) {settings : List (Setting α)} {b : Button α} :
    b ∈ (settings.foldl set d).buttons ↔ lastOf (Setting.button? b.slot) settings = some b := by
  induction settings using List.reverseRecOn with
  | nil => simp [hd, lastOf]
  | append_singleton settings setting ih =>
    rw [List.foldl_append, lastOf_concat]
    cases setting with
    | icon | cancelable => exact ih
    | button c =>
      by_cases hslot : c.slot = b.slot
      · simp [set, Setting.button?, hslot, eq_comm]
      · have hne : c ≠ b := fun h => hslot (congrArg Button.slot h)
        simp [set, Setting.button?, hslot, ih, Ne.symm hslot, Ne.symm hne]

/-- Settings leave title and message, and their last ones decide on the icon and on whether the dialog is cancelable. -/
lemma fields_settings (d : Dialog α) (settings : List (Setting α)) :
    (settings.foldl set d).title = d.title ∧ (settings.foldl set d).message = d.message ∧
    (settings.foldl set d).icon = (lastOf Setting.icon? settings).getD d.icon ∧
    (settings.foldl set d).cancelable = (lastOf Setting.cancelable? settings).getD d.cancelable := by
  induction settings using List.reverseRecOn with
  | nil => exact ⟨rfl, rfl, rfl, rfl⟩
  | append_singleton settings setting ih =>
    obtain ⟨htitle, hmessage, hicon, hcancelable⟩ := ih
    rw [List.foldl_append, lastOf_concat, lastOf_concat]
    cases setting <;> simp [set, Setting.icon?, Setting.cancelable?, htitle, hmessage, hicon, hcancelable]

/-- What a builder builds is the normal form of its settings. -/
lemma build_eq_normalForm (title message : String) (settings : List (Setting α)) :
    build title message settings = normalForm title message settings := by
  obtain ⟨htitle, hmessage, hicon, hcancelable⟩ := fields_settings { title, message } settings
  have hempty : ({ title, message } : Dialog α).Distinct := List.nodup_nil
  have hbuttons : sortBySlot (settings.foldl set { title, message }).buttons =
      (normalForm title message settings).buttons := by
    refine (sortBySlot_increasing (hempty.settings settings)).ext
      (slotsIncrease_normalForm title message settings) fun b => ?_
    rw [(sortBySlot_perm _).mem_iff, mem_settings rfl, mem_normalForm]
  rw [build, hbuttons, htitle, hmessage, hicon, hcancelable]
  rfl

/-! ### Buttons and presses -/

/-- The buttons of a built dialog are those that were set last for their slots. -/
lemma mem_build {title message : String} {settings : List (Setting α)} {b : Button α} :
    b ∈ (build title message settings).buttons ↔ lastOf (Setting.button? b.slot) settings = some b := by
  rw [build_eq_normalForm, mem_normalForm]

/-- A built dialog has a button for the slots that settings mention. -/
lemma hasSlot_build_iff {title message : String} {settings : List (Setting α)} {s : Slot} :
    (build title message settings).hasSlot s = true ↔ ∃ b, .button b ∈ settings ∧ b.slot = s := by
  constructor
  · intro h
    obtain ⟨b, hb, hslot⟩ := List.any_eq_true.1 h
    exact ⟨b, (mem_of_lastOf (mem_build.1 hb)).1, by simpa using hslot⟩
  · rintro ⟨b, hb, rfl⟩
    obtain ⟨c, hc⟩ := exists_lastOf hb
    have hslot := (mem_of_lastOf hc).2
    rw [← hslot] at hc ⊢
    exact hasSlot_of_mem (mem_build.2 hc)

/-- A press of a built dialog runs the action of the last button for the slot. -/
lemma press_build_iff {title message : String} {settings : List (Setting α)} {s : Slot} {a : α} :
    (build title message settings).press s = .ok a ↔
      ∃ b, lastOf (Setting.button? s) settings = some b ∧ b.action = a := by
  constructor
  · intro h
    rcases (build title message settings).press_cases s with ⟨b, hb, rfl, hpress⟩ | ⟨-, hpress⟩
    · exact ⟨b, mem_build.1 hb, Except.ok.inj (hpress.symm.trans h)⟩
    · cases hpress.symm.trans h
  · rintro ⟨b, hb, rfl⟩
    obtain rfl := (mem_of_lastOf hb).2
    exact (build_distinct title message settings).press (mem_build.2 hb)

/-- Whatever settings a dialog is built from, it is the normal form of the last ones, with the title and the message it
was given. The slots of its buttons increase, so there are three buttons at most. It has a button for just the slots
that some setting mentions, and the button of a slot is the last one that was set for it. Settings with the same last
ones build the same dialog. A press succeeds just if there is a button in the slot, and runs the action of the last
button that was set for the slot; if there is none, it gives back the dialog as it was. -/
theorem builder_normal_form (title message : String) (settings : List (Setting α)) :
    let d := build title message settings
    d = normalForm title message settings ∧
    SlotsIncrease d.buttons ∧
    d.buttons.length ≤ 3 ∧
    (∀ s, d.hasSlot s = true ↔ ∃ b, .button b ∈ settings ∧ b.slot = s) ∧
    (∀ b, b ∈ d.buttons ↔ lastOf (Setting.button? b.slot) settings = some b) ∧
    (∀ others, SameLast settings others → build title message others = d) ∧
    ∀ s,
      ((∃ a, d.press s = .ok a) ↔ d.hasSlot s = true) ∧
      (∀ a, d.press s = .ok a ↔ ∃ b, lastOf (Setting.button? s) settings = some b ∧ b.action = a) ∧
      (d.hasSlot s = false → d.press s = .error d) := by
  intro d
  have hdistinct : d.Distinct := build_distinct title message settings
  refine ⟨build_eq_normalForm .., ?_, hdistinct.length_le, fun s => hasSlot_build_iff, fun b => mem_build, ?_,
    fun s => ⟨⟨?_, ?_⟩, fun a => press_build_iff, ?_⟩⟩
  · show SlotsIncrease (build title message settings).buttons
    rw [build_eq_normalForm]
    exact slotsIncrease_normalForm title message settings
  · rintro others ⟨hicon, hcancelable, hbutton⟩
    simp only [d, build_eq_normalForm, normalForm, hicon, hcancelable, hbutton]
  all_goals rcases d.press_cases s with ⟨b, hb, rfl, hpress⟩ | ⟨hlacks, hpress⟩
  · exact fun _ => hasSlot_of_mem hb
  · rintro ⟨a, ha⟩
    cases hpress.symm.trans ha
  · exact fun _ => ⟨b.action, hpress⟩
  · intro hslot
    cases hslot.symm.trans hlacks
  · intro hlacks
    cases (hasSlot_of_mem hb).symm.trans hlacks
  · exact fun _ => hpress

/-- A question that is built with second thoughts: the negative button is set twice. -/
def reworded : List (Setting String) :=
  [.button ⟨.negative, "Cancel", "stop"⟩, .cancelable false, .button ⟨.positive, "Yes", "save"⟩,
    .icon (some .dialogAlert), .button ⟨.negative, "No", "discard"⟩, .icon none]

/-- Built at once, the question is the same, and its negative button discards. -/
theorem builder_normal_form_reworded :
    build "Save" "Save the file?"
        [.button ⟨.negative, "No", "discard"⟩, .icon none, .button ⟨.positive, "Yes", "save"⟩, .cancelable false] =
      build "Save" "Save the file?" reworded ∧
    (build "Save" "Save the file?" reworded).press .negative = .ok "discard" ∧
    (build "Save" "Save the file?" reworded).press .neutral = .error (build "Save" "Save the file?" reworded) := by
  obtain ⟨-, -, -, -, -, hsame, hpress⟩ := builder_normal_form "Save" "Save the file?" reworded
  refine ⟨hsame _ ⟨by decide, by decide, fun s => by cases s <;> decide⟩,
    ((hpress .negative).2.1 "discard").2 ⟨⟨.negative, "No", "discard"⟩, by decide, rfl⟩,
    (hpress .neutral).2.2 (by decide)⟩

end MessageBox.Dialog

import Mathlib.Data.List.Nodup
import Mathlib.Data.List.Perm.Subperm
import Mathlib.Tactic.Lemma
import MessageBox.Dialog.Basic

/-!
# What a builder makes

However a dialog is built, no two of its buttons have one slot (`Dialog.build_distinct`), so pressing the slot of a
button runs the action of this very button (`Dialog.Distinct.press`).
-/

namespace MessageBox.Dialog

variable {α : Type}

/-- No two buttons of a dialog have one slot. -/
def Distinct (d : Dialog α) : Prop := (d.buttons.map (·.slot)).Nodup

/-! ### The order of the buttons -/

/-- Inserting a button by its slot adds it to the others. -/
lemma insertBySlot_perm (b : Button α) (buttons : List (Button α)) :
    (insertBySlot b buttons).Perm (b :: buttons) := by
  induction buttons with
  | nil => rfl
  | cons c rest ih =>
    rw [insertBySlot]
    split
    · rfl
    · exact (ih.cons c).trans (.swap b c rest)

/-- Sorting buttons by their slots neither adds nor drops one. -/
lemma sortBySlot_perm (buttons : List (Button α)) : (sortBySlot buttons).Perm buttons := by
  induction buttons with
  | nil => rfl
  | cons b rest ih => exact (insertBySlot_perm b (sortBySlot rest)).trans (ih.cons b)

/-! ### One button for a slot -/

/-- A button comes in the place of the one that had its slot. -/
lemma Distinct.set {d : Dialog α} (h : d.Distinct) (setting : Setting α) : (d.set setting).Distinct := by
  cases setting with
  | icon | cancelable => exact h
  | button b =>
    unfold Distinct at h ⊢
    rw [Dialog.set, List.map_append, List.nodup_append]
    refine ⟨h.sublist (List.filter_sublist.map _), List.nodup_singleton _, ?_⟩
    intro slot hslot other hother
    obtain ⟨c, hc, rfl⟩ := List.mem_map.1 hslot
    obtain rfl : other = b.slot := by simpa using hother
    simpa using (List.mem_filter.1 hc).2

/-- Settings leave no two buttons with one slot. -/
lemma Distinct.settings {d : Dialog α} (h : d.Distinct) (settings : List (Setting α)) :
    (settings.foldl Dialog.set d).Distinct := by
  induction settings generalizing d with
  | nil => exact h
  | cons setting settings ih => exact ih (h.set setting)

/-- A built dialog has at most one button for a slot. -/
lemma build_distinct (title message : String) (settings : List (Setting α)) :
    (build title message settings).Distinct := by
  have hempty : ({ title, message } : Dialog α).Distinct := List.nodup_nil
  exact ((sortBySlot_perm _).map _).nodup_iff.2 (hempty.settings settings)

/-- There are as many slots. -/
lemma Distinct.length_le {d : Dialog α} (h : d.Distinct) : d.buttons.length ≤ 3 := by
  have hslots : d.buttons.map (·.slot) ⊆ [.positive, .neutral, .negative] := by
    intro slot _
    cases slot <;> simp
  simpa using (h.subperm hslots).length_le

/-! ### Presses -/

/-- In a dialog without two buttons of one slot, a button is determined by its slot. -/
lemma Distinct.eq_of_slot {d : Dialog α} (h : d.Distinct) {b c : Button α} (hb : b ∈ d.buttons)
    (hc : c ∈ d.buttons) (hslot : b.slot = c.slot) : b = c :=
  List.inj_on_of_nodup_map h hb hc hslot

/-- A dialog has the slots of its buttons. -/
lemma hasSlot_of_mem {d : Dialog α} {b : Button α} (hb : b ∈ d.buttons) : d.hasSlot b.slot = true :=
  List.any_eq_true.2 ⟨b, hb, beq_self_eq_true _⟩

/-- A press runs the action of a button in the slot, or gives the dialog back if there is none. -/
lemma press_cases (d : Dialog α) (s : Slot) :
    (∃ b ∈ d.buttons, b.slot = s ∧ d.press s = .ok b.action) ∨ d.hasSlot s = false ∧ d.press s = .error d := by
  unfold Dialog.press
  split
  · next b hb => exact .inl ⟨b, List.mem_of_find?_eq_some hb, by simpa using List.find?_some hb, rfl⟩
  · next hnone => exact .inr ⟨by simpa [hasSlot] using hnone, rfl⟩

/-- Pressing the slot of a button runs the action of this button. -/
lemma Distinct.press {d : Dialog α} (h : d.Distinct) {b : Button α} (hb : b ∈ d.buttons) :
    d.press b.slot = .ok b.action := by
  rcases d.press_cases b.slot with ⟨c, hc, hslot, hpress⟩ | ⟨hlacks, -⟩
  · rw [hpress, h.eq_of_slot hc hb hslot]
  · rw [hasSlot_of_mem hb] at hlacks
    cases hlacks

end MessageBox.Dialog

import Mathlib.Tactic.Lemma
import MessageBox.Machine.Program
import MessageBox.Prompt

/-!
# The dialog of a prompt

A specification with `n` actions is shown as a dialog that cannot be dismissed. Its buttons stand in the
order of the actions, and the button of the `k`-th action answers with `k`
(`Spec.dialog_buttons`, `Spec.dialog_press`).
-/

namespace MessageBox

/-- The `k`-th action has the code `k`. -/
lemma Slot.layout_mem {n k : Nat} {slot : Slot} (h : (slot, k) ∈ layout n) :
    1 ≤ k ∧ k ≤ n ∧ k ≤ 3 ∧ (layout n)[k - 1]? = some (slot, k) := by
  match n with
  | 0 => cases h
  | 1 =>
    simp only [layout, List.mem_singleton, Prod.mk.injEq] at h
    obtain ⟨rfl, rfl⟩ := h
    decide
  | 2 =>
    simp only [layout, List.mem_cons, Prod.mk.injEq, List.not_mem_nil, or_false] at h
    obtain ⟨rfl, rfl⟩ | ⟨rfl, rfl⟩ := h <;> decide
  | n + 3 =>
    simp only [layout, List.mem_cons, Prod.mk.injEq, List.not_mem_nil, or_false] at h
    obtain ⟨rfl, rfl⟩ | ⟨rfl, rfl⟩ | ⟨rfl, rfl⟩ := h <;> simp [layout]

/-- A layout gives one code to a slot. -/
lemma Slot.layout_code_unique {n k k' : Nat} {slot : Slot} (h : (slot, k) ∈ layout n)
    (h' : (slot, k') ∈ layout n) : k = k' := by
  match n with
  | 0 => cases h
  | 1 =>
    simp only [layout, List.mem_singleton, Prod.mk.injEq] at h h'
    omega
  | 2 =>
    simp only [layout, List.mem_cons, Prod.mk.injEq, List.not_mem_nil, or_false] at h h'
    obtain ⟨rfl, rfl⟩ | ⟨rfl, rfl⟩ := h <;> simp_all
  | n + 3 =>
    simp only [layout, List.mem_cons, Prod.mk.injEq, List.not_mem_nil, or_false] at h h'
    obtain ⟨rfl, rfl⟩ | ⟨rfl, rfl⟩ | ⟨rfl, rfl⟩ := h <;> simp_all

/-- The outcome of a code that the layout gives is the action of that code. -/
lemma Slot.outcome_of_layout {n k : Nat} {slot : Slot} (h : (slot, k) ∈ layout n) :
    (Outcome.ofCode k n).isAction = true ∧ (Outcome.ofCode k n).code = k := by
  obtain ⟨h1, hn, h3, -⟩ := layout_mem h
  have hcode : (Outcome.ofCode k n).code = k := Outcome.code_ofCode hn h3
  refine ⟨?_, hcode⟩
  rw [Outcome.isAction_iff_code_pos, hcode]
  omega

namespace Spec

variable {α : Type} (spec : Spec) (f : Nat → α)

/-- The buttons of a prompt's dialog are its actions, in their order. -/
lemma dialog_buttons :
    (spec.dialog f).buttons =
      ((Slot.layout spec.actions.length).zip spec.actions).map fun ((slot, code), label) =>
        ⟨slot, label, f code⟩ := by
  obtain ⟨caption, message, icon, actions, hpos, hle⟩ := spec
  match actions, hpos, hle with
  | [a], _, _ => rfl
  | [a, b], _, _ => rfl
  | [a, b, c], _, _ => rfl
  | _ :: _ :: _ :: _ :: _, _, hle =>
    simp only [List.length_cons, maxActions] at hle
    omega

/-- The dialog of a prompt cannot be dismissed. -/
lemma dialog_cancelable : (spec.dialog f).cancelable = false := by
  obtain ⟨caption, message, icon, actions, hpos, hle⟩ := spec
  match actions, hpos, hle with
  | [a], _, _ => rfl
  | [a, b], _, _ => rfl
  | [a, b, c], _, _ => rfl
  | _ :: _ :: _ :: _ :: _, _, hle =>
    simp only [List.length_cons, maxActions] at hle
    omega

/-- A button of a prompt's dialog answers with the code that the layout gives to its slot. -/
lemma dialog_button {b : Button α} (h : b ∈ (spec.dialog f).buttons) :
    ∃ code, (b.slot, code) ∈ Slot.layout spec.actions.length ∧ b.action = f code := by
  rw [dialog_buttons] at h
  obtain ⟨⟨⟨slot, code⟩, label⟩, hmem, rfl⟩ := List.mem_map.1 h
  exact ⟨code, (List.of_mem_zip hmem).1, rfl⟩

/-- A prompt's dialog has a button in every slot of its layout. -/
lemma dialog_hasSlot {slot : Slot} {code : Nat} (h : (slot, code) ∈ Slot.layout spec.actions.length) :
    (spec.dialog f).hasSlot slot = true := by
  obtain ⟨hpos, hn, -, hslot⟩ := Slot.layout_mem h
  have hlt : code - 1 < spec.actions.length := by omega
  have hlabel := List.getElem?_eq_getElem hlt
  have hzip : ((slot, code), spec.actions[code - 1]) ∈ (Slot.layout spec.actions.length).zip spec.actions :=
    List.mem_of_getElem? (List.getElem?_zip_eq_some.2 ⟨hslot, hlabel⟩)
  refine List.any_eq_true.2 ⟨⟨slot, spec.actions[code - 1], f code⟩, ?_, by simp⟩
  rw [dialog_buttons]
  exact List.mem_map.2 ⟨_, hzip, rfl⟩

/-- Pressing a slot of a prompt's dialog answers with the code that the layout gives to it. -/
lemma dialog_press {slot : Slot} {a : α} (h : (spec.dialog f).press slot = .ok a) :
    ∃ code, (slot, code) ∈ Slot.layout spec.actions.length ∧ a = f code := by
  unfold Dialog.press at h
  split at h
  · next b hb =>
    cases h
    obtain ⟨code, hcode, ha⟩ := spec.dialog_button f (List.mem_of_find?_eq_some hb)
    have hslot : b.slot = slot := by simpa using List.find?_some hb
    exact ⟨code, hslot ▸ hcode, ha⟩
  · cases h

end Spec

end MessageBox

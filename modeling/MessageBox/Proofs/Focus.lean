import Mathlib.Algebra.BigOperators.Group.List.Basic
import Mathlib.Algebra.Order.Ring.Int
import Mathlib.Data.Int.ModEq
import MessageBox.Proofs.Routing

/-!
# The focus goes in a circle

For the keyboard focus, the buttons of a dialog stand in a circle. Every key moves the focus by its `shift`, modulo the
number of buttons (`View.handle_focus`), and so do the keys of a sequence by the sum of theirs (`View.after_focus`).
So the focus is always on a button, and a digit presses the button that Enter presses once the focus has been moved
there (`focus_arithmetic`).
-/

namespace MessageBox.Terminal

variable {α : Type}

namespace KeyCode

/-- Whether a key moves the focus to the left. -/
def movesLeft : KeyCode → Bool
  | .left | .backTab => true
  | _ => false

/-- Whether a key moves the focus to the right. -/
def movesRight : KeyCode → Bool
  | .right | .tab => true
  | _ => false

/-- How far a key moves the focus to the right. -/
def shift : KeyCode → ℤ
  | .right | .tab => 1
  | .left | .backTab => -1
  | _ => 0

/-- A key that does not move the focus shifts it by nothing. -/
lemma shift_eq_zero {c : KeyCode} (h : c.movesFocus = false) : c.shift = 0 := by
  cases c <;> first | rfl | cases h

/-- A key shifts the focus by one to the right, by one to the left, or by nothing. -/
lemma shift_eq (c : KeyCode) : c.shift = c.movesRight.toNat - c.movesLeft.toNat := by
  cases c <;> rfl

end KeyCode

/-- Keys shift the focus by as many moves to the right as exceed those to the left. -/
lemma sum_shift (keys : List Key) :
    (keys.map (·.code.shift)).sum =
      (keys.countP (·.code.movesRight) : ℤ) - keys.countP (·.code.movesLeft) := by
  induction keys with
  | nil => rfl
  | cons k keys ih =>
    rw [List.map_cons, List.sum_cons, ih, KeyCode.shift_eq, List.countP_cons, List.countP_cons]
    cases k.code.movesRight <;> cases k.code.movesLeft <;> simp <;> omega

namespace View

/-! ### Moves of the focus -/

/-- A key that does not move the focus leaves the view as it is. -/
lemma handle_same (v : View α) {k : Key} (h : k.code.movesFocus = false) : (v.handle k).2 = v := by
  have hv := v.handles k
  generalize v.handle k = result at hv
  obtain ⟨outcome, v'⟩ := result
  cases hv with
  | redraw hk => cases h.symm.trans hk
  | activate | dismiss | ignored => rfl

/-- A move to the left is one step back, modulo the number of buttons. -/
lemma focusLeft_focus {v : View α} (hv : v.focus < v.dialog.buttons.length) :
    (v.focusLeft.focus : ℤ) = (v.focus + -1) % v.dialog.buttons.length := by
  have hcast : ((v.focus + v.dialog.buttons.length - 1 : ℕ) : ℤ) = v.focus + -1 + v.dialog.buttons.length := by
    omega
  rw [focusLeft, Int.natCast_mod, hcast, Int.add_emod_right]

/-- A move to the right is one step on, modulo the number of buttons. -/
lemma focusRight_focus (v : View α) :
    (v.focusRight.focus : ℤ) = (v.focus + 1) % v.dialog.buttons.length := by
  rw [focusRight, Int.natCast_mod, Nat.cast_add, Nat.cast_one]

/-- A key moves the focus by its shift, around the buttons. -/
lemma handle_focus {v : View α} (hv : v.focus < v.dialog.buttons.length) (k : Key) :
    ((v.handle k).2.focus : ℤ) = (v.focus + k.code.shift) % v.dialog.buttons.length := by
  have hne : v.dialog.buttons.isEmpty = false := by
    rw [List.isEmpty_eq_false_iff_exists_mem]
    exact ⟨_, List.getElem_mem hv⟩
  cases hk : k.code with
  | left | backTab =>
    have hhandle : v.handle k = (.redraw, v.focusLeft) := by simp [handle, hne, hk]
    rw [hhandle, focusLeft_focus hv]
    rfl
  | right | tab =>
    have hhandle : v.handle k = (.redraw, v.focusRight) := by simp [handle, hne, hk]
    rw [hhandle, focusRight_focus]
    rfl
  | _ =>
    have hother : k.code.movesFocus = false := by rw [hk]; rfl
    rw [v.handle_same hother, ← hk, KeyCode.shift_eq_zero hother, add_zero, Int.emod_eq_of_lt] <;> omega

/-- Some keys move the focus by the sum of their shifts. -/
lemma after_focus {v : View α} (hv : v.focus < v.dialog.buttons.length) (keys : List Key) :
    (v.after keys).dialog = v.dialog ∧
    ((v.after keys).focus : ℤ) = (v.focus + (keys.map (·.code.shift)).sum) % v.dialog.buttons.length := by
  induction keys generalizing v with
  | nil =>
    refine ⟨rfl, ?_⟩
    rw [List.map_nil, List.sum_nil, add_zero, Int.emod_eq_of_lt] <;> first | omega | rfl
  | cons k keys ih =>
    have hstep := handle_focus hv k
    have hdialog := v.handle_dialog k
    have hbelow : (v.handle k).2.focus < (v.handle k).2.dialog.buttons.length := by
      have := Int.emod_lt_of_pos (v.focus + k.code.shift) (b := v.dialog.buttons.length) (by omega)
      rw [hdialog]
      omega
    obtain ⟨hsame, hfocus⟩ := ih hbelow
    refine ⟨hsame.trans hdialog, ?_⟩
    have hafter : v.after (k :: keys) = (v.handle k).2.after keys := rfl
    rw [hafter, hfocus, hdialog, hstep, Int.emod_add_emod, List.map_cons, List.sum_cons, add_assoc]

/-! ### Presses -/

/-- A key with the index of a button activates the slot of that button. -/
lemma handle_getElem? {v : View α} {k : Key} {i : Nat} {b : Button α} (hb : v.dialog.buttons[i]? = some b)
    (hk : k.code.index? v.focus = some i) : v.handle k = (.activate b.slot, v) :=
  handle_target (by rw [target?, hk]; exact hb)

/-- A key activates only a slot that the dialog has. -/
lemma hasSlot_of_activate {v : View α} {k : Key} {slot : Slot} (h : (v.handle k).1 = .activate slot) :
    v.dialog.hasSlot slot = true := by
  have hv := v.handles k
  rw [h] at hv
  generalize (v.handle k).2 = v' at hv
  cases hv with
  | activate htarget => exact Dialog.hasSlot_of_mem (mem_of_target? htarget)

/-- A digit from 1 to 3 presses the button of its index, whichever is in focus. -/
lemma index?_digit {digit focus : Nat} (h1 : 1 ≤ digit) (h3 : digit ≤ 3) :
    (KeyCode.char (Nat.digitChar digit)).index? focus = some (digit - 1) := by
  match digit, h1, h3 with
  | 1, _, _ | 2, _, _ | 3, _, _ => rfl

/-- Moved to the right as far as a button is from the focus, the focus is on this button. -/
lemma after_rights_focus {v : View α} (hv : v.focus < v.dialog.buttons.length) {i : Nat}
    (hi : i < v.dialog.buttons.length) {rights : List Key} (hrights : ∀ r ∈ rights, r.code = .right)
    (hlength : (rights.length : ℤ) = ((i : ℤ) - v.focus) % v.dialog.buttons.length) :
    (v.after rights).focus = i := by
  have hshifts : rights.map (·.code.shift) = List.replicate rights.length 1 := by
    rw [List.eq_replicate_iff]
    refine ⟨List.length_map .., fun z hz => ?_⟩
    obtain ⟨r, hr, rfl⟩ := List.mem_map.1 hz
    rw [hrights r hr]
    rfl
  have hsum : (rights.map (·.code.shift)).sum = rights.length := by
    rw [hshifts, List.sum_replicate, nsmul_eq_mul, mul_one]
  have hfocus := (after_focus hv rights).2
  rw [hsum, hlength, Int.add_emod_emod, add_sub_cancel, Int.emod_eq_of_lt] at hfocus <;> omega

end View

/-- A built dialog that has a button, opened and given any keys: the focus is on a button, the one as many places from
the first as there were keys to the right, less those to the left, around the circle. Other keys leave the view as it
is. What a key activates is the slot of a button that the dialog has, and Enter and the space bar activate that of the
button in focus. The digit of a button activates the same slot as Enter does once the focus has been moved to the
right, from wherever it is, as often as this button is places away. -/
theorem focus_arithmetic (title message : String) (settings : List (Dialog.Setting α))
    (hbuttons : (Dialog.build title message settings).buttons ≠ []) (keys : List Key) :
    let d := Dialog.build title message settings
    let v := (⟨d, 0⟩ : View α).after keys
    v.dialog = d ∧
    v.focus < d.buttons.length ∧
    (v.focus : ℤ) =
      ((keys.countP (·.code.movesRight) : ℤ) - keys.countP (·.code.movesLeft)) % d.buttons.length ∧
    (∀ k, k.code.movesLeft = false → k.code.movesRight = false → (v.handle k).2 = v) ∧
    (∀ k slot, (v.handle k).1 = .activate slot → d.hasSlot slot = true) ∧
    (∀ k, k.code = .enter ∨ k.code = .char ' ' →
      ∃ b, d.buttons[v.focus]? = some b ∧ v.handle k = (.activate b.slot, v)) ∧
    ∀ digit, 1 ≤ digit → digit ≤ d.buttons.length → ∀ (press enter : Key) (rights : List Key),
      press.code = .char (Nat.digitChar digit) → enter.code = .enter → (∀ r ∈ rights, r.code = .right) →
      (rights.length : ℤ) = ((digit : ℤ) - 1 - v.focus) % d.buttons.length →
      ∃ b, d.buttons[digit - 1]? = some b ∧ (v.handle press).1 = .activate b.slot ∧
        ((v.after rights).handle enter).1 = .activate b.slot := by
  intro d v
  have hpos : 0 < d.buttons.length := List.length_pos_iff.2 hbuttons
  obtain ⟨hdialog, hfocus⟩ := View.after_focus (v := (⟨d, 0⟩ : View α)) hpos keys
  have hdialog : v.dialog = d := hdialog
  have hfocus : (v.focus : ℤ) =
      ((keys.countP (·.code.movesRight) : ℤ) - keys.countP (·.code.movesLeft)) % d.buttons.length := by
    rw [← sum_shift]
    simpa using hfocus
  have hbelow : v.focus < v.dialog.buttons.length := by
    have := Int.emod_lt_of_pos ((keys.countP (·.code.movesRight) : ℤ) - keys.countP (·.code.movesLeft))
      (b := d.buttons.length) (by omega)
    rw [hdialog]
    omega
  refine ⟨hdialog, hdialog ▸ hbelow, hfocus, fun k hleft hright => v.handle_same ?_,
    fun k slot h => hdialog ▸ View.hasSlot_of_activate h, fun k hk => ?_,
    fun digit h1 hdigit press enter rights hpress henter hrights hlength => ?_⟩
  · cases hc : k.code <;> simp_all [KeyCode.movesFocus, KeyCode.movesLeft, KeyCode.movesRight]
  · have hindex : k.code.index? v.focus = some v.focus := by
      rcases hk with hk | hk <;> rw [hk] <;> rfl
    obtain ⟨b, hb⟩ : ∃ b, v.dialog.buttons[v.focus]? = some b := ⟨_, List.getElem?_eq_getElem hbelow⟩
    exact ⟨b, hdialog ▸ hb, View.handle_getElem? hb hindex⟩
  · have h3 : digit ≤ 3 := hdigit.trans (Dialog.build_distinct title message settings).length_le
    have hi : digit - 1 < v.dialog.buttons.length := by
      rw [hdialog]
      omega
    obtain ⟨b, hb⟩ : ∃ b, v.dialog.buttons[digit - 1]? = some b := ⟨_, List.getElem?_eq_getElem hi⟩
    have hreached : (v.after rights).focus = digit - 1 := by
      apply View.after_rights_focus hbelow hi hrights
      rw [hlength, hdialog, Nat.cast_sub h1, Nat.cast_one]
    have hsame : (v.after rights).dialog = v.dialog := (View.after_focus hbelow rights).1
    refine ⟨b, hdialog ▸ hb, ?_, ?_⟩
    · rw [View.handle_getElem? hb (by rw [hpress, View.index?_digit h1 h3])]
    · rw [View.handle_getElem? (hsame.symm ▸ hb) (by rw [henter, hreached]; rfl)]

/-- Three answers to a question. -/
def threeAnswers : List (Dialog.Setting String) :=
  [.button ⟨.negative, "No", "discard"⟩, .button ⟨.positive, "Yes", "save"⟩, .button ⟨.neutral, "Later", "keep"⟩]

/-- Left from the first of three buttons, the last one is in focus; the digit 1 activates the slot that Enter activates
one button to the right. -/
theorem focus_arithmetic_threeAnswers :
    let v := (⟨.build "Save" "Save the file?" threeAnswers, 0⟩ : View String).after [{ code := .left, shift := true }]
    v.focus = 2 ∧ (v.handle { code := .enter }).1 = .activate .negative ∧
      ∃ slot, (v.handle { code := .char '1' }).1 = .activate slot ∧
        ((v.after [{ code := .right }]).handle { code := .enter }).1 = .activate slot := by
  intro v
  obtain ⟨-, -, hfocus, -, -, hactivate, hdigit⟩ :=
    focus_arithmetic "Save" "Save the file?" threeAnswers (by decide) [{ code := .left, shift := true }]
  have hlast : v.focus = 2 := by
    have hmod : (v.focus : ℤ) = 2 := hfocus.trans (by decide)
    omega
  obtain ⟨b, hb, henter⟩ := hactivate { code := .enter } (.inl rfl)
  obtain ⟨c, -, hpress, hmoved⟩ := hdigit 1 (by decide) (by decide) { code := .char '1' } { code := .enter }
    [{ code := .right }] rfl rfl (by decide) (by decide)
  refine ⟨hlast, ?_, c.slot, hpress, hmoved⟩
  obtain rfl : b = ⟨.negative, "No", "discard"⟩ := Option.some_inj.1 (hb.symm.trans (by rfl))
  rw [henter]

end MessageBox.Terminal

import MessageBox.Dialog.Description
import MessageBox.Log.Record
import MessageBox.Terminal.Key

/-!
# Dialogs with keyboard focus

The focus is the index of a button. Arrow and tab keys move it around the buttons in a circle, Enter and
the space bar press the button it is on, and a digit presses the button of that number.
-/

namespace MessageBox.Terminal

/-- A displayed dialog and its keyboard focus. -/
structure View (α : Type) where
  dialog : Dialog α
  focus : Nat := 0
  deriving DecidableEq

/-- What a key does to a dialog. -/
inductive KeyOutcome where
  /-- The button in this slot is pressed. -/
  | activate (slot : Slot)
  /-- The dialog closes without a button. -/
  | dismiss
  /-- The focus moved. -/
  | redraw
  | ignored
  deriving DecidableEq

namespace View

variable {α : Type}

/-- Moves the focus one button to the left, from the first to the last. -/
def focusLeft (v : View α) : View α :=
  { v with focus := (v.focus + v.dialog.buttons.length - 1) % v.dialog.buttons.length }

/-- Moves the focus one button to the right, from the last to the first. -/
def focusRight (v : View α) : View α :=
  { v with focus := (v.focus + 1) % v.dialog.buttons.length }

/-- Pressing the button of an index, if there is one. -/
def activate (v : View α) (index : Nat) : KeyOutcome :=
  match v.dialog.buttons[index]? with
  | some b => .activate b.slot
  | none => .ignored

/-- What a key does and the view after it; a dialog without buttons ignores every key. -/
def handle (v : View α) (key : Key) : KeyOutcome × View α :=
  if v.dialog.buttons.isEmpty then (.ignored, v)
  else
    match key.code with
    | .left | .backTab => (.redraw, v.focusLeft)
    | .right | .tab => (.redraw, v.focusRight)
    | .enter | .char ' ' => (v.activate v.focus, v)
    | .char '1' => (v.activate 0, v)
    | .char '2' => (v.activate 1, v)
    | .char '3' => (v.activate 2, v)
    | .escape => (if v.dialog.cancelable then .dismiss else .ignored, v)
    | _ => (.ignored, v)

/-- What is logged when a key is handled. -/
def records (v : View α) (key : Key) : List Log.Record :=
  if !v.dialog.buttons.isEmpty && key.code == .escape && !v.dialog.cancelable then
    [⟨.debug, "modalbox::terminal::view", "Esc ignored on non-cancelable dialog",
      [("title", .plain v.dialog.title)]⟩]
  else []

/-- The description of a view. -/
def describe (v : View α) : Description :=
  .record "DialogView" [("dialog", v.dialog.describe), ("focus", .number v.focus)] false

end View

end MessageBox.Terminal

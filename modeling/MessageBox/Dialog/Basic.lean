import MessageBox.Icon
import MessageBox.Slot

/-!
# Dialogs

A dialog has a title, a message and at most one button per slot, in slot order. Each button carries an
action of type `α`: what happens when it is pressed. Pressing yields the action of one button and uses
the dialog up.
-/

namespace MessageBox

/-- A button and what pressing it does. -/
structure Button (α : Type) where
  slot : Slot
  label : String
  action : α
  deriving DecidableEq

/-- A modal dialog. -/
structure Dialog (α : Type) where
  title : String
  message : String
  icon : Option StockIcon := none
  /-- Whether it may be closed without pressing a button. -/
  cancelable : Bool := true
  buttons : List (Button α) := []
  deriving DecidableEq

/-- What a dialog shows, without its actions. -/
structure Snapshot where
  title : String
  message : String
  icon : Option StockIcon
  cancelable : Bool
  buttons : List (Slot × String)
  deriving DecidableEq

/-- One call of a dialog's construction. -/
inductive Dialog.Setting (α : Type) where
  | icon (icon : Option StockIcon)
  | cancelable (cancelable : Bool)
  /-- Puts a button into its slot, in place of any earlier one. -/
  | button (button : Button α)
  deriving DecidableEq

namespace Dialog

variable {α : Type}

/-- Applies one setting to a dialog under construction, whose buttons stand in the order of their calls. -/
def set (d : Dialog α) : Setting α → Dialog α
  | .icon icon => { d with icon := icon }
  | .cancelable cancelable => { d with cancelable := cancelable }
  | .button b => { d with buttons := d.buttons.filter (·.slot ≠ b.slot) ++ [b] }

/-- Inserts a button before the first one of a later slot. -/
def insertBySlot (b : Button α) : List (Button α) → List (Button α)
  | [] => [b]
  | c :: rest => if b.slot.rank ≤ c.slot.rank then b :: c :: rest else c :: insertBySlot b rest

/-- The buttons in slot order. -/
def sortBySlot (buttons : List (Button α)) : List (Button α) := buttons.foldr insertBySlot []

/-- Builds a dialog from a sequence of settings. -/
def build (title message : String) (settings : List (Setting α)) : Dialog α :=
  let d := settings.foldl set { title, message }
  { d with buttons := sortBySlot d.buttons }

/-- Whether a slot has a button. -/
def hasSlot (d : Dialog α) (s : Slot) : Bool := d.buttons.any (·.slot == s)

/-- Presses the button in a slot: its action, or the dialog back if there is no such button. -/
def press (d : Dialog α) (s : Slot) : Except (Dialog α) α :=
  match d.buttons.find? (·.slot == s) with
  | some b => .ok b.action
  | none => .error d

/-- What a dialog shows. -/
def snapshot (d : Dialog α) : Snapshot :=
  ⟨d.title, d.message, d.icon, d.cancelable, d.buttons.map fun b => (b.slot, b.label)⟩

end Dialog

end MessageBox

import MessageBox.Dialog.Basic
import MessageBox.Text.Description

/-!
# Descriptions of dialogs

Actions cannot be described and are left out.
-/

namespace MessageBox

open Description in
/-- The description of a button. -/
def Button.describe {α : Type} (b : Button α) : Description :=
  record "DialogButton" [("slot", word b.slot.text), ("label", quoted b.label)] true

open Description in
/-- The description of a dialog. -/
def Dialog.describe {α : Type} (d : Dialog α) : Description :=
  record "AlertDialog"
    [("title", quoted d.title), ("message", quoted d.message),
     ("icon", optional (d.icon.map fun i => word i.text)), ("cancelable", flag d.cancelable),
     ("buttons", list (d.buttons.map Button.describe))]
    false

end MessageBox

import MessageBox.Dialog.Description
import MessageBox.Outcome
import MessageBox.Spec
import MessageBox.Text.Duration

/-!
# Prompts

A prompt is a specification with the options of its wait. It is shown as a dialog that cannot be dismissed
and whose buttons report the codes of its actions.
-/

namespace MessageBox

/-- How a prompt waits for its answer on a thread other than the UI thread. -/
structure Options where
  /-- Gives up after so many milliseconds. -/
  waitLimit : Option Nat := none
  /-- Reports an interruption instead of what was recorded until then. -/
  reportInterruption : Bool := false
  deriving DecidableEq, Inhabited

/-- What a prompt shows, and how it waits. -/
structure Prompt where
  spec : Spec
  options : Options := {}

/-- The dialog of a specification; `onChoice` gives the action of each code. -/
def Spec.dialog {α : Type} (spec : Spec) (onChoice : Nat → α) : Dialog α :=
  let buttons := ((Slot.layout spec.actions.length).zip spec.actions).map fun ((slot, code), label) =>
    Dialog.Setting.button ⟨slot, label, onChoice code⟩
  Dialog.build spec.caption spec.message (.icon spec.icon.stock :: .cancelable false :: buttons)

open Description in
/-- The description of a specification. -/
def Spec.describe (spec : Spec) : Description :=
  record "PromptSpec"
    [("caption", quoted spec.caption), ("message", quoted spec.message), ("icon", word spec.icon.text),
     ("actions", list (spec.actions.map quoted))]
    false

open Description in
/-- The description of the options of a wait. -/
def Options.describe (options : Options) : Description :=
  record "PromptOptions"
    [("wait_timeout", optional (options.waitLimit.map fun ms => word (Text.duration ms))),
     ("report_interruption", flag options.reportInterruption)]
    false

open Description in
/-- The description of a prompt; the toolkit behind it is left out. -/
def Prompt.describe (p : Prompt) : Description :=
  record "ModalPrompt" [("spec", p.spec.describe), ("options", p.options.describe)] true

end MessageBox

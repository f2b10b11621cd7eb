import MessageBox.Terminal.View

/-!
# Open dialogs

Dialogs open on top of each other and only the innermost one receives keys.
-/

namespace MessageBox.Terminal

/-- The open dialogs, innermost last. -/
structure Stack (α : Type) where
  views : List (View α) := []
  deriving DecidableEq

/-- What a key did to the open dialogs. -/
inductive Routed (α : Type) where
  /-- The innermost dialog was closed, by a button or, without one, by dismissal. -/
  | closed (view : View α) (slot : Option Slot)
  /-- The focus of the innermost dialog moved. -/
  | changed
  | unchanged
  deriving DecidableEq

namespace Stack

variable {α : Type}

/-- Opens a dialog on top of the others. -/
def push (s : Stack α) (v : View α) : Stack α := ⟨s.views ++ [v]⟩

/-- The innermost dialog. -/
def top (s : Stack α) : Option (View α) := s.views.getLast?

/-- Takes the innermost dialog away. -/
def pop (s : Stack α) : Stack α := ⟨s.views.dropLast⟩

/-- Gives a key to the innermost dialog. -/
def route (s : Stack α) (key : Key) : Routed α × Stack α :=
  match s.top with
  | none => (.unchanged, s)
  | some v =>
    match v.handle key with
    | (.activate slot, v') => (.closed v' (some slot), s.pop)
    | (.dismiss, v') => (.closed v' none, s.pop)
    | (.redraw, v') => (.changed, s.pop.push v')
    | (.ignored, _) => (.unchanged, s)

/-- What is logged when a key is routed. -/
def records (s : Stack α) (key : Key) : List Log.Record :=
  s.top.elim [] (·.records key)

/-- The description of the open dialogs. -/
def describe (s : Stack α) : Description :=
  .record "DialogStack" [("dialogs", .list (s.views.map View.describe))] false

end Stack

namespace View

variable {α : Type}

/-- What follows when a dialog is closed, and what is logged then: the action of the pressed button; none
if the dialog was dismissed or has no such button. -/
def conclude (v : View α) : Option Slot → Option α × List Log.Record
  | none => (none, [record .debug "Dialog dismissed" ("title", .plain v.dialog.title)])
  | some slot =>
    let activated := record .debug "Dialog button activated" ("slot", .plain slot.text)
    match v.dialog.press slot with
    | .ok action => (some action, [activated])
    | .error _ => (none, [activated, record .warn "Activated slot has no handler" ("slot", .plain slot.text)])
where
  record (level : Log.Level) (message : String) (field : String × Log.Value) : Log.Record :=
    ⟨level, "modalbox::terminal::stack", message, [field]⟩

end View

end MessageBox.Terminal

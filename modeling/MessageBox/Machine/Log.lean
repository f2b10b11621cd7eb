import MessageBox.Machine.State

/-!
# What a machine logs

Most events leave a record in the log; the others are only seen by whoever watches the machine.
-/

namespace MessageBox.Machine

open Log (Record)

/-- The optional number as it stands in a record. -/
def optionalNumber : Option Nat → String
  | none => "None"
  | some n => "Some(" ++ toString n ++ ")"

/-- The record an event leaves in the log, if any. -/
def Event.record? : Event → Option Record
  | .entered depth => loop .debug "Entering dispatch loop" [("depth", .number depth)]
  | .left depth => loop .debug "Leaving dispatch loop" [("depth", .number depth)]
  | .asking _ caption actions context =>
    prompt .info "Showing modal prompt"
      [("caption", .quoted caption), ("actions", .number actions), ("context", .plain context.text)]
  | .resolved _ _ outcome =>
    prompt .info "Modal prompt resolved" [("code", .number outcome.code), ("result", .plain outcome.text)]
  | .waitInterrupted _ caption =>
    prompt .warn "Prompt wait interrupted before a choice was made" [("caption", .quoted caption)]
  | .waitTimedOut _ caption limit =>
    prompt .warn "Prompt wait timed out"
      (("caption", .quoted caption) :: (limit.map fun ms => ("timeout_ms", Log.Value.number ms)).toList)
  | .interruptIgnored => prompt .debug "No prompt in progress, interrupt ignored" []
  | .failed e => prompt .error ("Failed to display modal prompt: " ++ e.message) []
  | .pressScheduled _ slot title =>
    desk .debug "Scheduling scripted button press" [("slot", .plain slot.text), ("title", .plain title)]
  | .chosenSlotMissing slot =>
    desk .warn "Scripted slot missing, leaving dialog pending" [("slot", .plain slot.text)]
  | .nothingToPress slot index =>
    desk .warn "No pending dialog to press"
      [("slot", .plain slot.text), ("index", .plain (optionalNumber index))]
  | .noSuchButton _ slot title =>
    desk .warn "Dialog has no such button" [("slot", .plain slot.text), ("title", .plain title)]
  | .dismissalRefused title =>
    desk .warn "Refusing to dismiss non-cancelable dialog" [("title", .plain title)]
  | .opening title buttons =>
    some ⟨.debug, "modalbox::terminal", "Opening dialog",
      [("title", .plain title), ("buttons", .number buttons)]⟩
  | .logged record => some record
  | _ => none
where
  loop (level : Log.Level) (message : String) (fields : List (String × Log.Value)) : Option Record :=
    some ⟨level, "modalbox_core::event_loop", message, fields⟩
  prompt (level : Log.Level) (message : String) (fields : List (String × Log.Value)) : Option Record :=
    some ⟨level, "modalbox_core::prompt", message, fields⟩
  desk (level : Log.Level) (message : String) (fields : List (String × Log.Value)) : Option Record :=
    some ⟨level, "modalbox_core::headless", message, fields⟩

/-- Everything a machine has logged, with the names of the threads. -/
def log (m : Machine) : List (String × Record) :=
  m.history.toList.filterMap fun (t, e) => e.record?.map fun r => ((m.threads[t]?.map (·.name)).getD "", r)

end MessageBox.Machine

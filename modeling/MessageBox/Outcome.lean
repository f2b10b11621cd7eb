/-!
# Outcomes

What a prompt resolves to, and the integer codes that stand for it.
-/

namespace MessageBox

/-- How a prompt was resolved. -/
inductive Outcome where
  /-- Nothing was chosen, or the dialog could not be shown. -/
  | noAction
  | action1
  | action2
  | action3
  /-- The wait was interrupted, and the caller asked to be told. -/
  | interrupted
  /-- The wait limit passed first. -/
  | timedOut
  deriving DecidableEq, Inhabited

namespace Outcome

/-- The name of an outcome in descriptions. -/
def text : Outcome → String
  | .noAction => "NoAction"
  | .action1 => "Action1"
  | .action2 => "Action2"
  | .action3 => "Action3"
  | .interrupted => "Interrupted"
  | .timedOut => "TimedOut"

/-- 1 to 3 for the chosen action, 0 for everything else. -/
def code : Outcome → Nat
  | .action1 => 1
  | .action2 => 2
  | .action3 => 3
  | _ => 0

/-- The outcome of a recorded code in a dialog with `count` actions; a code beyond them counts as no
action. -/
def ofCode (code count : Nat) : Outcome :=
  if count < code then .noAction
  else
    match code with
    | 1 => .action1
    | 2 => .action2
    | 3 => .action3
    | _ => .noAction

/-- Whether one of the actions was chosen. -/
def isAction : Outcome → Bool
  | .action1 | .action2 | .action3 => true
  | _ => false

/-- The outcome that a code stands for has this code again. -/
theorem code_ofCode {code count : Nat} (h : code ≤ count) (h3 : code ≤ 3) :
    (ofCode code count).code = code := by
  have : ¬ count < code := by omega
  match code, h3 with
  | 0, _ | 1, _ | 2, _ | 3, _ => simp [ofCode, this, Outcome.code]

/-- The actions are the outcomes whose code is positive. -/
theorem isAction_iff_code_pos (o : Outcome) : o.isAction = true ↔ 0 < o.code := by
  cases o <;> simp [isAction, code]

end Outcome

end MessageBox

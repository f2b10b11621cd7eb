import MessageBox.Icon
import MessageBox.Preset

/-!
# Prompt specifications

A specification is checked once, when it is made: it holds one to three action labels.
-/

namespace MessageBox

/-- The most actions a dialog can carry. -/
def maxActions : Nat := 3

/-- Why a list of labels makes no specification. -/
inductive SpecError where
  | noActions
  | tooManyActions (count : Nat)
  deriving DecidableEq

/-- The report of an invalid argument. -/
def invalidArgument (reason : String) : String := "invalid argument: " ++ reason

/-- The report of a rejected list of labels. -/
def SpecError.message : SpecError → String
  | .noActions => invalidArgument "at least one action label is required"
  | .tooManyActions count =>
    invalidArgument s!"at most {maxActions} action labels are supported, got {count}"

/-- What a prompt shows. -/
structure Spec where
  caption : String
  message : String
  icon : Icon
  actions : List String
  actions_pos : 0 < actions.length
  actions_le : actions.length ≤ maxActions

namespace Spec

/-- Makes a specification from its labels, refusing an empty list and one that is too long. -/
def make (caption message : String) (icon : Icon) (actions : List String) : Except SpecError Spec :=
  if h₀ : actions.length = 0 then .error .noActions
  else if h₁ : maxActions < actions.length then .error (.tooManyActions actions.length)
  else .ok ⟨caption, message, icon, actions, Nat.pos_of_ne_zero h₀, Nat.le_of_not_lt h₁⟩

/-- The specification of a preset. -/
def ofPreset (caption message : String) (icon : Icon) (preset : Preset) : Spec :=
  ⟨caption, message, icon, preset.labels, by cases preset <;> decide, by cases preset <;> decide⟩

/-- Making a specification succeeds exactly for one to three labels. -/
theorem make_isOk_iff (caption message : String) (icon : Icon) (actions : List String) :
    (∃ spec, make caption message icon actions = .ok spec) ↔
      0 < actions.length ∧ actions.length ≤ maxActions := by
  unfold make
  split
  · simp_all
  · split <;> simp_all
    omega

end Spec

end MessageBox

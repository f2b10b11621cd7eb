/-!
# Action labels

Predefined sets of button labels, and the labels of a dialog with custom buttons.
-/

namespace MessageBox

/-- Predefined sets of actions. -/
inductive Preset where
  | ok
  | okCancel
  | retryCancel
  | yesNo
  | yesNoCancel
  | abortRetryIgnore
  deriving DecidableEq, Inhabited

namespace Preset

/-- The name of a preset in descriptions. -/
def text : Preset → String
  | .ok => "Ok"
  | .okCancel => "OkCancel"
  | .retryCancel => "RetryCancel"
  | .yesNo => "YesNo"
  | .yesNoCancel => "YesNoCancel"
  | .abortRetryIgnore => "AbortRetryIgnore"

/-- The button labels of a preset, in action order. -/
def labels : Preset → List String
  | .ok => ["OK"]
  | .okCancel => ["OK", "Cancel"]
  | .retryCancel => ["Retry", "Cancel"]
  | .yesNo => ["Yes", "No"]
  | .yesNoCancel => ["Yes", "No", "Cancel"]
  | .abortRetryIgnore => ["Abort", "Retry", "Ignore"]

/-- The preset a user names, in any ASCII case, with hyphens and underscores ignored. -/
def ofName? (name : String) : Option Preset :=
  match String.ofList (name.toLower.toList.filter fun c => c != '-' && c != '_') with
  | "ok" => some .ok
  | "okcancel" => some .okCancel
  | "retrycancel" => some .retryCancel
  | "yesno" => some .yesNo
  | "yesnocancel" => some .yesNoCancel
  | "abortretryignore" => some .abortRetryIgnore
  | _ => none

end Preset

/-- Labels of a dialog with custom buttons: the last label given decides how many buttons there are,
and a gap before it is filled with "OK" (first) or "No" (second). -/
def customLabels (first second third : Option String) : List String :=
  let opening := first.getD "OK"
  match second, third with
  | second, some third => [opening, second.getD "No", third]
  | some second, none => [opening, second]
  | none, none => [opening]

end MessageBox

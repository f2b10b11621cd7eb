/-!
# Icons

The symbol beside a message, and the stock picture a toolkit draws for it.
-/

namespace MessageBox

/-- Stock pictures a toolkit can draw. -/
inductive StockIcon where
  | dialogInfo
  | menuHelp
  | dialogAlert
  deriving DecidableEq, Inhabited

/-- The name of a stock picture in descriptions. -/
def StockIcon.text : StockIcon → String
  | .dialogInfo => "DialogInfo"
  | .menuHelp => "MenuHelp"
  | .dialogAlert => "DialogAlert"

/-- What a message is about. -/
inductive Icon where
  | none
  | info
  | question
  | warning
  | error
  deriving DecidableEq, Inhabited

namespace Icon

/-- The name of an icon in descriptions. -/
def text : Icon → String
  | .none => "None"
  | .info => "Info"
  | .question => "Question"
  | .warning => "Warning"
  | .error => "Error"

/-- The icon of a numeric category; an unknown category has no icon. -/
def ofCode : Nat → Icon
  | 1 => .info
  | 2 => .question
  | 3 => .warning
  | 4 => .error
  | _ => .none

/-- The icon a user names, in any ASCII case. -/
def ofName? (name : String) : Option Icon :=
  match name.toLower with
  | "none" => some .none
  | "info" => some .info
  | "question" => some .question
  | "warning" => some .warning
  | "warn" => some .warning
  | "error" => some .error
  | _ => Option.none

/-- The stock picture of an icon, if it has one. -/
def stock : Icon → Option StockIcon
  | .none => Option.none
  | .info => some .dialogInfo
  | .question => some .menuHelp
  | .warning => some .dialogAlert
  | .error => some .dialogAlert

end Icon

end MessageBox

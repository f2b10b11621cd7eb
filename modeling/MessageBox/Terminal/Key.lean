/-!
# Keys

Key presses, with the modifier keys held down meanwhile, and what else a terminal sends.
-/

namespace MessageBox.Terminal

/-- The key itself. -/
inductive KeyCode where
  | left
  | right
  | up
  | down
  | tab
  | backTab
  | enter
  | escape
  | backspace
  | delete
  | home
  | last
  | function (number : Nat)
  | null
  | char (c : Char)
  /-- Any other key, by its name. -/
  | other (name : String)
  deriving DecidableEq

/-- A key press. -/
structure Key where
  code : KeyCode
  control : Bool := false
  alt : Bool := false
  shift : Bool := false
  deriving DecidableEq

/-- What a terminal sends. -/
inductive Input where
  | key (key : Key)
  /-- The size of the terminal has changed. -/
  | resize
  /-- The terminal has come to the front. -/
  | focus
  deriving DecidableEq

end MessageBox.Terminal

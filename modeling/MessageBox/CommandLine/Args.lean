import MessageBox.Icon
import MessageBox.Preset
import MessageBox.Text.Number

/-!
# Command-line arguments

Arguments are read from left to right. An option's value is checked when the next argument starts, so of two
faults the earlier one is reported, unless the next argument is itself unknown.
-/

namespace MessageBox.CommandLine

/-- What the arguments ask for. -/
structure Args where
  caption : String
  message : String
  icon : Icon := .none
  actions : List String := []
  preset : Option Preset := none
  worker : Bool := false
  timeoutMs : Option Nat := none
  /-- The button to press, counted from one. -/
  headlessPress : Option Nat := none
  dataDir : Option String := none
  logLevel : Option String := none
  saveConfig : Bool := false
  deriving DecidableEq

/-- What the program does, as its help says. -/
def about : String := "Show a modal message box and print the chosen action"

/-- The path of the data directory, which by default is in the home directory. -/
def Args.dataPath (args : Args) (home : String) : String := args.dataDir.getD (home ++ "/.modalbox")

/-- Why arguments are refused. -/
inductive ArgsError where
  | unknownArgument
  /-- An option lacks its value. -/
  | invalidValue
  /-- A flag was given a value. -/
  | tooManyValues
  /-- An option was given twice, or with another that excludes it. -/
  | argumentConflict
  | missingRequiredArgument
  /-- A value is not accepted. -/
  | valueValidation
  /-- The user asked for help. -/
  | displayHelp
  deriving DecidableEq

/-- The report of refused arguments. -/
def ArgsError.message : ArgsError → String
  | .unknownArgument => "unexpected argument found"
  | .invalidValue => "a value is required but none was supplied"
  | .tooManyValues => "unexpected value for a flag"
  | .argumentConflict => "an argument cannot be used with another one or more than once"
  | .missingRequiredArgument => "the caption or the message was not provided"
  | .valueValidation => "invalid value for an argument"
  | .displayHelp => about

/-- The options, with a value or without. -/
inductive Switch where
  | icon
  | action
  | preset
  | worker
  | timeoutMs
  | headlessPress
  | dataDir
  | logLevel
  | saveConfig
  | help
  deriving DecidableEq

namespace Switch

/-- The option of a long name. -/
def ofLong? : String → Option Switch
  | "icon" => some .icon
  | "action" => some .action
  | "preset" => some .preset
  | "worker" => some .worker
  | "timeout-ms" => some .timeoutMs
  | "headless-press" => some .headlessPress
  | "data-dir" => some .dataDir
  | "log-level" => some .logLevel
  | "save-config" => some .saveConfig
  | "help" => some .help
  | _ => none

/-- The option of a short name. -/
def ofShort? : Char → Option Switch
  | 'i' => some .icon
  | 'a' => some .action
  | 'p' => some .preset
  | 'w' => some .worker
  | 'd' => some .dataDir
  | 'l' => some .logLevel
  | 'h' => some .help
  | _ => none

/-- Whether an option stands alone. -/
def isFlag : Switch → Bool
  | .worker | .saveConfig | .help => true
  | _ => false

end Switch

/-- What has been read so far. -/
structure Reading where
  positionals : List String := []
  args : Args := { caption := "", message := "" }
  /-- The options given so far. -/
  given : List Switch := []
  /-- An option whose value, if it has come, is still to be checked. -/
  pending : Option (Switch × Option String) := none
  /-- Everything that follows is positional. -/
  trailing : Bool := false

namespace Reading

/-- Takes over the value of an option. -/
def assign (args : Args) (o : Switch) (value : String) : Except ArgsError Args :=
  let accept {α : Type} (v : Option α) (f : α → Args) : Except ArgsError Args :=
    match v with
    | some a => .ok (f a)
    | none => .error .valueValidation
  match o with
  | .icon => accept (Icon.ofName? value) fun icon => { args with icon }
  | .action => .ok { args with actions := args.actions ++ [value] }
  | .preset => accept (Preset.ofName? value) fun p => { args with preset := some p }
  | .timeoutMs => accept (Text.word64? value.toList) fun n => { args with timeoutMs := some n }
  | .headlessPress =>
    accept ((Text.word64? value.toList).filter fun n => 1 ≤ n ∧ n ≤ 3) fun n =>
      { args with headlessPress := some n }
  | .dataDir => if value.isEmpty then .error .invalidValue else .ok { args with dataDir := some value }
  | .logLevel => .ok { args with logLevel := some value }
  | .worker => .ok { args with worker := true }
  | .saveConfig => .ok { args with saveConfig := true }
  | .help => .error .displayHelp

/-- Takes over an option with its value; a flag has an empty one. -/
def take (r : Reading) (o : Switch) (value : Option String) : Except ArgsError Reading :=
  match value with
  | none => .error .invalidValue
  | some value =>
    if o ≠ .action ∧ o ∈ r.given then .error .argumentConflict
    else (assign r.args o value).map fun args => { r with args, given := o :: r.given }

/-- Checks the option that is still pending. -/
def settle (r : Reading) : Except ArgsError Reading :=
  match r.pending with
  | none => .ok r
  | some (o, value) => take { r with pending := none } o value

/-- An option with a value attached to it, or a flag. -/
def option (r : Reading) (o : Switch) (value : String) : Except ArgsError Reading := do
  (← r.settle).take o (some value)

/-- An option whose value is the next argument. -/
def await (r : Reading) (o : Switch) : Except ArgsError Reading := do
  return { ← r.settle with pending := some (o, none) }

/-- A positional argument. There are two of them. -/
def positional (r : Reading) (text : String) : Except ArgsError Reading :=
  if 2 ≤ r.positionals.length then .error .unknownArgument
  else do
    let r ← r.settle
    return { r with positionals := r.positionals ++ [text] }

/-- An argument that starts with two dashes. -/
def long (r : Reading) (cs : List Char) : Except ArgsError Reading :=
  let name := String.ofList (cs.takeWhile (· != '='))
  let value := if cs.contains '=' then some (String.ofList ((cs.dropWhile (· != '=')).drop 1)) else none
  match Switch.ofLong? name, value with
  | none, _ => .error .unknownArgument
  | some o, some value => if o.isFlag then .error .tooManyValues else r.option o value
  | some o, none => if o.isFlag then r.option o "" else r.await o

/-- A group of short options; the first one that has a value takes the rest of the group for it. -/
def short (r : Reading) : List Char → Except ArgsError Reading
  | [] => .ok r
  | c :: rest =>
    match Switch.ofShort? c with
    | none => .error .unknownArgument
    | some o =>
      if o.isFlag then (r.option o "").bind fun r => short r rest
      else
        match rest with
        | [] => r.await o
        | '=' :: value => r.option o (String.ofList value)
        | value => r.option o (String.ofList value)

/-- Reads one argument. -/
def read (r : Reading) (arg : String) : Except ArgsError Reading :=
  if r.trailing then r.positional arg
  else
    match arg.toList with
    | ['-', '-'] => .ok { r with trailing := true }
    | '-' :: '-' :: cs => r.long cs
    | '-' :: c :: cs => r.short (c :: cs)
    | _ =>
      match r.pending with
      | some (o, none) => .ok { r with pending := some (o, some arg) }
      | _ => r.positional arg

/-- What the arguments ask for, once all of them are read. -/
def finish (r : Reading) : Except ArgsError Args := do
  let r ← r.settle
  if Switch.action ∈ r.given ∧ Switch.preset ∈ r.given then throw .argumentConflict
  match r.positionals with
  | [caption, message] => return { r.args with caption, message }
  | _ => throw .missingRequiredArgument

end Reading

/-- Reads the arguments after the program's name. -/
def parse (argv : List String) : Except ArgsError Args := do
  (← argv.foldlM Reading.read {}).finish

end MessageBox.CommandLine

import MessageBox.Settings.Basic
import MessageBox.Text.Base64
import MessageBox.Yaml.Node

/-!
# Reading values

What the nodes of a settings file stand for: texts, numbers that may be absent, truth values, and a mapping of names to
such values.
-/

namespace MessageBox.Settings

open Yaml (Node Scalar)

/-! ### Values -/

/-- The text of a scalar, unless it stands for nothing or its tag makes it another kind of value. -/
def textOf? (s : Scalar) : Option String :=
  match s.kind with
  | .text => some s.text
  | .binary => Text.Base64.decodeText? s.text
  | .null | .typed => none
  | .untagged | .custom => if (Node.scalar s).isNull then none else some s.text

/-- Whether a scalar says that a value is absent. -/
def isAbsent (s : Scalar) : Bool :=
  s.kind == .null || (s.text.isEmpty && s.style != .quoted) || (Node.scalar s).isNull

/-- The base a number is written in, and its digits. -/
def baseDigits : List Char → Nat × List Char
  | '0' :: 'x' :: rest => (16, rest)
  | '0' :: 'X' :: rest => (16, rest)
  | '0' :: 'o' :: rest => (8, rest)
  | '0' :: 'O' :: rest => (8, rest)
  | '0' :: 'b' :: rest => (2, rest)
  | '0' :: 'B' :: rest => (2, rest)
  | cs => (10, cs)

/-- A number, perhaps with a plus sign, a base and underscores between its digits. -/
def numberOf? (text : String) : Option Nat :=
  let (base, digits) := baseDigits (Text.dropPlus (Text.trim text.toList))
  (Text.digits? base (digits.filter (· != '_'))).filter (· ≤ Text.maxWord64)

/-- A truth value, in one of its spellings. -/
def flagOf? (text : String) : Option Bool :=
  let word := (String.ofList (Text.trim text.toList)).toLower
  if ["true", "yes", "y", "on"].contains word then some true
  else if ["false", "no", "n", "off"].contains word then some false
  else none

/-- Reads a text. -/
def readText : Node → Option String
  | .scalar s => textOf? s
  | _ => none

/-- Reads a number that may be absent. -/
def readOptionalNumber : Node → Option (Option Nat)
  | .scalar s => if isAbsent s then some none else (numberOf? s.text).map some
  | _ => none

/-- Reads a truth value. -/
def readFlag : Node → Option Bool
  | .scalar s => flagOf? s.text
  | _ => none

/-! ### Entries -/

/-- The entries of a mapping; a node that stands for nothing has none. -/
def entriesOf? (n : Node) : Option (List (Node × Node)) :=
  match n with
  | .mapping entries => some entries
  | n => if n.isNull then some [] else none

end MessageBox.Settings

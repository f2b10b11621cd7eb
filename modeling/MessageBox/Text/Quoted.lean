import MessageBox.Text.Table.Combining
import MessageBox.Text.Table.Unprinted

/-!
# Quoted text

The form a text takes inside a description: between double quotes, with quotes, backslashes and
everything that leaves no mark of its own on paper escaped.
-/

namespace MessageBox.Text

/-- Whether a character is written by its number in quoted text: it leaves no mark of its own on paper, or
its mark would join the character before it. -/
def isInvisible (c : Char) : Bool :=
  if c.toNat < 0x7F then c.toNat < 0x20 else combining.has c || unprinted.has c

/-- One character of quoted text. -/
def escape (c : Char) : List Char :=
  match c with
  | '"' => ['\\', '"']
  | '\\' => ['\\', '\\']
  | '\n' => ['\\', 'n']
  | '\r' => ['\\', 'r']
  | '\t' => ['\\', 't']
  | '\x00' => ['\\', '0']
  | c =>
    if isInvisible c then ['\\', 'u', '\x7b'] ++ Nat.toDigits 16 c.toNat ++ ['\x7d'] else [c]

/-- A text between double quotes. -/
def quote (s : String) : String :=
  "\"" ++ String.ofList (s.toList.flatMap escape) ++ "\""

end MessageBox.Text

import MessageBox.Settings.Basic
import MessageBox.Text.Number
import MessageBox.Text.Space

/-!
# Writing settings

Each setting is written on a line of its own. A text of one short line stands plain unless it could be read
as something else; then it is quoted. A text of several lines is written as a block that keeps its lines, and
a long line as a block that is folded between words.
-/

namespace MessageBox.Settings

/-! ### Plain texts -/

/-- Words that would be read as something other than a text, in any ASCII case. -/
def reservedWords : List String :=
  ["~", "null", "true", "false", "yes", "no", "on", "off", "y", "n", "nan", "inf", ".inf", ".nan", "+.inf",
   "+.nan", "-.inf", "-.nan"]

/-- Drops a sign. -/
def dropSign : List Char → List Char
  | '+' :: rest => rest
  | '-' :: rest => rest
  | cs => cs

/-- Whether a character is a digit of a base. -/
def isDigitOf (base : Nat) (c : Char) : Bool := (Text.digit? base c).isSome

/-- Whether a text is made of digits of a base and underscores, one at least. -/
def areDigits (base : Nat) (cs : List Char) : Bool :=
  !cs.isEmpty && cs.all fun c => c == '_' || isDigitOf base c

/-- Whether a text is a decimal number: digits with underscores, perhaps a point, perhaps an exponent. -/
def isDecimal (cs : List Char) : Bool :=
  let mantissa := cs.takeWhile fun c => c != 'e' && c != 'E'
  let exponent := cs.dropWhile fun c => c != 'e' && c != 'E'
  let whole := mantissa.takeWhile (· != '.')
  let fraction := (mantissa.dropWhile (· != '.')).drop 1
  let power := dropSign (exponent.drop 1)
  areDigits 10 (whole ++ fraction) && (whole ++ fraction).any (isDigitOf 10) && mantissa.head? != some '_'
    && (exponent.isEmpty || (!power.isEmpty && power.all (isDigitOf 10)))

/-- Whether a text looks like a number. -/
def isNumeric (cs : List Char) : Bool :=
  match dropSign cs with
  | '0' :: 'x' :: rest => areDigits 16 rest
  | '0' :: 'o' :: rest => areDigits 8 rest
  | '0' :: 'b' :: rest => areDigits 2 rest
  | cs => isDecimal cs

/-- Marks that a plain text must not start with. -/
def leadingMarks : List Char :=
  [' ', '-', '?', ':', '[', ']', '\x7b', '\x7d', '#', '&', '*', '!', '|', '>', '\'', '"', '%', '@', '\x60']

/-- Marks that a plain text must not contain. -/
def innerMarks : List Char := [',', '[', ']', '\x7b', '\x7d', '#']

/-- Whether a blank follows a colon. -/
def hasColonBlank : List Char → Bool
  | ':' :: ' ' :: _ => true
  | _ :: rest => hasColonBlank rest
  | [] => false

/-- Whether a text of one line can be written plain. -/
def isPlain (text : String) : Bool :=
  let cs := text.toList
  !cs.isEmpty && !reservedWords.contains text.toLower && !isNumeric cs
    && !(cs.head?.any leadingMarks.contains) && !hasColonBlank cs && (Text.trim cs).getLast? != some ':'
    && !cs.any fun c => innerMarks.contains c || Text.isControl c

/-! ### Quoted texts -/

/-- A number in two hexadecimal digits. -/
def twoDigits (n : Nat) : List Char :=
  let digits := (Nat.toDigits 16 n).map Char.toUpper
  if digits.length < 2 then '0' :: digits else digits

/-- One character of a text in double quotes. -/
def escape (c : Char) : List Char :=
  match c.toNat with
  | 0x22 => ['\\', '"']
  | 0x5C => ['\\', '\\']
  | 0x00 => ['\\', '0']
  | 0x07 => ['\\', 'a']
  | 0x08 => ['\\', 'b']
  | 0x09 => ['\\', 't']
  | 0x0A => ['\\', 'n']
  | 0x0B => ['\\', 'v']
  | 0x0C => ['\\', 'f']
  | 0x0D => ['\\', 'r']
  | 0x1B => ['\\', 'e']
  | 0x85 => ['\\', 'N']
  | 0x2028 => ['\\', 'L']
  | 0x2029 => ['\\', 'P']
  | 0xFEFF => ['\\', 'u', 'F', 'E', 'F', 'F']
  | n => if Text.isControl c then ['\\', 'x'] ++ twoDigits n else [c]

/-- A text in double quotes. -/
def quoted (text : String) : String := "\"" ++ String.ofList (text.toList.flatMap escape) ++ "\""

/-! ### Blocks -/

/-- A block: its mark, and its lines below it, indented. -/
def block (mark : String) (lines : List (List Char)) : String :=
  mark ++ String.join (lines.map fun line => "\n  " ++ String.ofList line)

/-- The lines of a text, which the line feeds separate. -/
def splitLines (cs : List Char) : List (List Char) :=
  cs.foldr (fun c lines =>
    if c = '\n' then [] :: lines
    else match lines with
      | line :: rest => (c :: line) :: rest
      | [] => [[c]]) [[]]

/-- A block that keeps the lines of a text. Its mark tells how many line feeds end the text: none, one, or
all those that follow as empty lines. A text of line feeds alone has a single empty line. -/
def literal (cs : List Char) : String :=
  let body := Text.dropTrailing (· == '\n') cs
  let feeds := cs.length - body.length
  let mark := match feeds with | 0 => "|-" | 1 => "|" | _ => "|+"
  block mark (splitLines body ++ if body.isEmpty then [] else List.replicate (feeds - 1) [])

/-- The longest line that is not folded. -/
def foldLimit : Nat := 80

/-- A line being folded: what is read of it, in reverse, and what of that follows its last blank. -/
structure Folding where
  done : List (List Char) := []
  line : List Char := []
  /-- How many characters follow the last blank; none without a blank. -/
  sinceBlank : Option Nat := none

/-- Reads a character. A line that has become too long ends at its last blank, which is dropped. -/
def Folding.read (f : Folding) (c : Char) : Folding :=
  let line := c :: f.line
  let sinceBlank := if c = ' ' then some 0 else f.sinceBlank.map (· + 1)
  match sinceBlank with
  | some n =>
    if foldLimit < line.length then ⟨f.done ++ [(line.drop (n + 1)).reverse], line.take n, none⟩
    else ⟨f.done, line, sinceBlank⟩
  | none => ⟨f.done, line, none⟩

/-- A block that folds a long line between words. -/
def folded (cs : List Char) : String :=
  let f := cs.foldl Folding.read {}
  block ">-" (f.done ++ [f.line.reverse])

/-! ### The file -/

/-- A text as it stands in the file. A mark that stands alone is written in single quotes. -/
def scalar (text : String) : String :=
  let cs := text.toList
  if cs.contains '\n' then literal cs
  else if foldLimit < text.utf8ByteSize then folded cs
  else if [".", "#", "-"].contains text then "'" ++ text ++ "'"
  else if isPlain text then text
  else quoted text

/-- A value as it stands in the file. -/
def written : Value → String
  | .text text => scalar text
  | .number n => n.elim "null" toString
  | .flag b => if b then "true" else "false"

/-- The text of a file that holds some values under their names. -/
def mapping (entries : List (String × Value)) : String :=
  String.join (entries.map fun (name, value) => name ++ ": " ++ written value ++ "\n")

end MessageBox.Settings

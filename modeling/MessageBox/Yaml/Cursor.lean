/-!
# Places in a document

A cursor is a place in a text: what is left of the text, and where that is. The end of the text counts as a
character that ends both a word and a line.
-/

namespace MessageBox.Yaml

/-! ### Classes of characters -/

/-- Blanks inside of a line. -/
def isBlank (c : Char) : Bool := c == ' ' || c == '\t'

/-- Characters that end a line. -/
def isBreak (c : Char) : Bool := c == '\n' || c == '\r'

/-- Marks that have a meaning of their own between brackets. -/
def isFlow (c : Char) : Bool := c == ',' || c == '[' || c == ']' || c == '\x7b' || c == '\x7d'

/-- Characters of a name. -/
def isWordChar (c : Char) : Bool := c.isAlphanum || c == '_' || c == '-'

/-- Whether a line ends here. -/
def endsLine (c : Option Char) : Bool := c.all isBreak

/-- Whether a word ends here. -/
def endsWord (c : Option Char) : Bool := c.all fun c => isBlank c || isBreak c

/-- A place in a text. -/
structure Cursor where
  rest : List Char
  /-- How many characters stand before it. -/
  index : Nat := 0
  line : Nat := 1
  column : Nat := 0
  /-- Nothing but blanks stands before it on its line. -/
  leading : Bool := true

namespace Cursor

/-- The next character. -/
def peek (c : Cursor) : Option Char := c.rest.head?

/-- The character after the next one. -/
def peekSecond (c : Cursor) : Option Char := c.rest.tail.head?

/-- Whether the next character is `ch`. -/
def sees (c : Cursor) (ch : Char) : Bool := c.peek == some ch

/-- Passes `n` blanks. -/
def pass (c : Cursor) (n : Nat) : Cursor :=
  { c with rest := c.rest.drop n, index := c.index + n, column := c.column + n }

/-- Passes `n` characters that are not blank. -/
def take (c : Cursor) (n : Nat) : Cursor := { c.pass n with leading := false }

/-- Passes the end of a line. -/
def newline (c : Cursor) : Cursor :=
  match c.rest with
  | '\r' :: '\n' :: rest => ⟨rest, c.index + 2, c.line + 1, 0, true⟩
  | ch :: rest => if isBreak ch then ⟨rest, c.index + 1, c.line + 1, 0, true⟩ else c
  | [] => c

/-- Passes the characters that `p` holds of, and tells them. -/
def span (c : Cursor) (p : Char → Bool) : List Char × Cursor :=
  let word := c.rest.takeWhile p
  (word, c.pass word.length)

/-- Passes the rest of a line. -/
def passLine (c : Cursor) : Cursor := (c.span (!isBreak ·)).2

/-- Whether the given mark of three characters stands here alone. -/
def seesMark (c : Cursor) (mark : List Char) : Bool :=
  c.column == 0 && mark.isPrefixOf c.rest && endsWord (c.rest.drop 3).head?

/-- Whether a document starts here. -/
def startsDocument (c : Cursor) : Bool := c.seesMark ['-', '-', '-']

/-- Whether a document ends here. -/
def endsDocument (c : Cursor) : Bool := c.seesMark ['.', '.', '.']

/-- Whether the mark that starts or ends a document stands here. -/
def seesDocument (c : Cursor) : Bool := c.startsDocument || c.endsDocument

/-- Passes blanks and a comment, which must stand after a blank, and tells the blanks. -/
def passBlanks (c : Cursor) : Option (List Char × Cursor) :=
  let (blanks, c) := c.span isBlank
  if c.sees '#' then if blanks.isEmpty then none else some (blanks, c.passLine) else some (blanks, c)

end Cursor

end MessageBox.Yaml

import MessageBox.Text.Glyph

/-!
# Word wrap

A line is broken into rows of a given width between its words; a word longer than a row is broken where
the row ends. Blanks at a break are dropped. Rows are made in one pass over the glyphs.
-/

namespace MessageBox.Text

/-- A row in the making: what is settled on it, the word being read, and the blanks between both. -/
structure Wrapping where
  /-- The rows that are complete. -/
  rows : List (List Glyph) := []
  row : List Glyph := []
  blanks : List Glyph := []
  word : List Glyph := []
  /-- The last glyph belonged to a word. -/
  inWord : Bool := false

namespace Wrapping

/-- Settles the word read so far on the row; blanks before the first word of a row are dropped. -/
def settle (w : Wrapping) : Wrapping :=
  { w with row := w.row ++ (if w.row.isEmpty then [] else w.blanks) ++ w.word, blanks := [], word := [] }

/-- Drops blanks from the front as long as they fit into the remaining columns. -/
def dropBlanks : (remaining : Nat) → List Glyph → List Glyph
  | _, [] => []
  | remaining, b :: rest => if b.width ≤ remaining then dropBlanks (remaining - b.width) rest else b :: rest

/-- Ends the row and drops the blanks that would have stood at its end. -/
def breakRow (limit : Nat) (w : Wrapping) : Wrapping :=
  { w with rows := w.rows ++ [w.row], row := [], blanks := dropBlanks (limit - width w.row) w.blanks }

/-- Reads a glyph into the blanks or the word. -/
def read (w : Wrapping) (g : Glyph) : Wrapping :=
  if g.blank then { w with blanks := w.blanks ++ [g], inWord := false }
  else { w with word := w.word ++ [g], inWord := true }

/-- Takes one glyph. -/
def step (limit : Nat) (w : Wrapping) (g : Glyph) : Wrapping :=
  if limit < g.width then w
  else
    let full := w.row.isEmpty && (limit < width w.word + g.width || limit < width w.blanks + g.width)
    let w := if (w.inWord && g.blank) || full then w.settle else w
    if limit ≤ width w.row || (0 < g.width && limit ≤ width w.row + width w.blanks + width w.word) then
      let w := w.breakRow limit
      if g.blank && w.blanks.isEmpty then w else w.read g
    else w.read g

/-- The rows after the last glyph; a line has at least one row. -/
def finish (w : Wrapping) : List (List Glyph) :=
  let blankRow := if w.row.isEmpty && w.word.isEmpty && !w.blanks.isEmpty then [[]] else []
  let last := w.settle.row
  let rows := w.rows ++ blankRow ++ (if last.isEmpty then [] else [last])
  if rows.isEmpty then [[]] else rows

end Wrapping

/-- The rows of one line. -/
def wrapLine (limit : Nat) (line : List Glyph) : List (List Glyph) :=
  if limit = 0 then [] else (line.foldl (Wrapping.step limit) {}).finish

/-- The pieces of a text between its line feeds. -/
def pieces : List Char → List (List Char)
  | [] => [[]]
  | c :: cs =>
    match pieces cs with
    | [] => [[c]]
    | piece :: rest => if c = '\n' then [] :: piece :: rest else (c :: piece) :: rest

/-- Drops a carriage return at the end of a line. -/
def dropReturn (line : List Char) : List Char :=
  if line.getLast? = some '\r' then line.dropLast else line

/-- The lines of a text: each ends with a line feed and perhaps a carriage return before it, except that
the last one may do without. -/
def lines (cs : List Char) : List (List Char) :=
  let last := (pieces cs).getLastD []
  (pieces cs).dropLast.map dropReturn ++ if last.isEmpty then [] else [last]

/-- The rows of a text. -/
def wrap (limit : Nat) (text : String) : List (List Glyph) :=
  (lines text.toList).flatMap fun line => wrapLine limit (glyphs line)

/-- The glyphs of a row up to the first that does not fit. -/
def fit : (limit : Nat) → List Glyph → List Glyph
  | _, [] => []
  | limit, g :: rest => if g.width ≤ limit then g :: fit (limit - g.width) rest else []

end MessageBox.Text

import MessageBox.Terminal.Screen

/-!
# What a terminal shows

A screen is sent to a terminal cell by cell, those left out in which nothing is drawn. The terminal takes
characters one at a time and knows nothing of glyphs: a character goes to the place of the cursor, and to the
next one if it is wide; a mark without a column joins the place before the cursor.
-/

namespace MessageBox.Terminal

/-- One place of a terminal. -/
structure Spot where
  /-- What was written there; empty if nothing was. -/
  text : String := ""
  /-- It also covers the next place. -/
  wide : Bool := false
  /-- The place before covers it. -/
  covered : Bool := false
  deriving Inhabited

/-- A terminal: its places, row by row, and its cursor. -/
structure Display where
  width : Nat
  height : Nat
  spots : Array Spot
  x : Nat := 0
  y : Nat := 0

namespace Display

/-- An empty terminal. -/
def blank (width height : Nat) : Display := { width, height, spots := .replicate (width * height) {} }

/-- The place in column `x` of the cursor's row. -/
def spot (d : Display) (x : Nat) : Spot := if x < d.width then d.spots.getD (d.y * d.width + x) {} else {}

/-- Changes the place in column `x` of the cursor's row. -/
def set (d : Display) (x : Nat) (s : Spot) : Display :=
  if x < d.width then { d with spots := d.spots.modify (d.y * d.width + x) fun _ => s } else d

/-- Moves the cursor to the next row if `n` more columns do not fit. -/
def wrap (d : Display) (n : Nat) : Display :=
  if d.width < d.x + n then { d with x := 0, y := min (d.y + 1) (d.height - 1) } else d

/-- Adds a mark to the place before the cursor. -/
def addMark (d : Display) (c : Char) : Display :=
  if d.x = 0 then d
  else
    let x := if (d.spot (d.x - 1)).covered then d.x - 2 else d.x - 1
    let s := d.spot x
    d.set x { s with text := (if s.text.isEmpty then " " else s.text).push c }

/-- Writes a character that takes columns. What is left of a wide character that it overwrites becomes
blank. -/
def addChar (d : Display) (c : Char) (wide : Bool) : Display :=
  let d := d.wrap (if wide then 2 else 1)
  let d := if (d.spot d.x).covered then d.set (d.x - 1) {} else d
  let d := if (d.spot d.x).wide then d.set (d.x + 1) {} else d
  let d := d.set d.x { text := c.toString, wide }
  if wide then
    let d := if (d.spot (d.x + 1)).wide then d.set (d.x + 2) {} else d
    { d.set (d.x + 1) { covered := true } with x := d.x + 2 }
  else { d with x := d.x + 1 }

/-- Writes a character. -/
def write (d : Display) (c : Char) : Display :=
  match Text.columns c with
  | 0 => d.addMark c
  | n => d.addChar c (1 < n)

/-- The text of every row, without the blanks at its end. -/
def rows (d : Display) : List String :=
  (List.range d.height).map fun y =>
    Screen.trimEnd (String.join (((d.spots.extract (y * d.width) ((y + 1) * d.width)).toList).map fun s =>
      if s.covered then "" else if s.text.isEmpty then " " else s.text))

end Display

namespace Screen

/-- A terminal and the number of the last cell that was sent to it. -/
structure Sending where
  display : Display
  last : Option Nat := none

/-- Sends the cell of a number. The cursor is moved, unless the cell before was sent too. -/
def Sending.send (s : Sending) (number : Nat) (c : Cell) : Sending :=
  let d := s.display
  let next := 0 < number % d.width && s.last == some (number - 1)
  let d := if next then d else { d with x := number % d.width, y := number / d.width }
  ⟨c.shown.toList.foldl Display.write d, some number⟩

/-- Whether anything is drawn in a cell. -/
def isDrawn (c : Cell) : Bool := c.shown != " " || c.style ≠ {}

/-- The text of every row as an empty terminal shows it. -/
def displayed (s : Screen) : List String :=
  (s.seen.foldl (fun (state : Sending × Nat) c =>
    match c.filter isDrawn with
    | some c => (state.1.send state.2 c, state.2 + 1)
    | none => (state.1, state.2 + 1)) (⟨.blank s.width s.height, none⟩, 0)).1.display.rows

end Screen

end MessageBox.Terminal

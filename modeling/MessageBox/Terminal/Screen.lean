import MessageBox.Text.Wrap

/-!
# Screens

A screen is a grid of cells. Drawing changes the grid; what is seen of it is decided afterwards, cell by cell:
a glyph of several columns stands in its first cell and hides the cells after it.
-/

namespace MessageBox.Terminal

open Text (Glyph)

/-- Colours of text. -/
inductive Color where
  | reset
  | black
  | white
  | red
  | green
  | yellow
  | blue
  | cyan
  | gray
  | darkGray
  deriving DecidableEq, Inhabited

/-- The name of a colour. -/
def Color.text : Color → String
  | .reset => "Reset"
  | .black => "Black"
  | .white => "White"
  | .red => "Red"
  | .green => "Green"
  | .yellow => "Yellow"
  | .blue => "Blue"
  | .cyan => "Cyan"
  | .gray => "Gray"
  | .darkGray => "DarkGray"

/-- How a cell is drawn. -/
structure Style where
  foreground : Color := .reset
  background : Color := .reset
  bold : Bool := false
  deriving DecidableEq, Inhabited

/-- What drawing does to the style of a cell: colours that are not given stay as they are. -/
structure Paint where
  foreground : Option Color := none
  background : Option Color := none
  bold : Bool := false
  deriving DecidableEq, Inhabited

/-- The style of a cell after painting it. -/
def Paint.on (p : Paint) (s : Style) : Style :=
  ⟨p.foreground.getD s.foreground, p.background.getD s.background, p.bold || s.bold⟩

/-- One cell: what is drawn in it, if anything is, and how. -/
structure Cell where
  text : Option String := none
  style : Style := {}
  deriving DecidableEq, Inhabited

namespace Cell

/-- What a cell shows; a cell without text shows a blank. -/
def shown (c : Cell) : String := c.text.getD " "

/-- The columns that the text of a cell takes. -/
def width (c : Cell) : Nat := c.text.elim 1 fun t => Text.clusterWidth t.toList

/-- Puts a text into a cell. -/
def put (text : String) (paint : Paint) (c : Cell) : Cell := ⟨some text, paint.on c.style⟩

/-- Adds a text to that of a cell. -/
def append (text : String) (paint : Paint) (c : Cell) : Cell :=
  ⟨some (c.text.getD "" ++ text), paint.on c.style⟩

/-- Whether the text of a cell asks for a picture. -/
def asksPicture (c : Cell) : Bool := c.text.any fun t => t.toList.contains '\uFE0F'

end Cell

/-- A grid of cells, row by row. -/
structure Screen where
  width : Nat
  height : Nat
  cells : Array Cell

/-- A stretch of cells of one style in a row. -/
structure StyledRun where
  row : Nat
  start : Nat
  stop : Nat
  style : Style
  deriving DecidableEq

/-- A part of a screen. -/
structure Field where
  x : Nat
  y : Nat
  width : Nat
  height : Nat

/-- Whether a field has no cells. -/
def Field.isEmpty (f : Field) : Bool := f.width == 0 || f.height == 0

/-- Which cells of a grid are seen, while they are gone through in order. -/
structure Sight where
  /-- How many cells the last one hides. -/
  hidden : Nat := 0
  /-- How many cells are seen although they are hidden. -/
  forced : Nat := 0
  /-- The cells so far; none for a hidden one. -/
  cells : Array (Option Cell) := #[]

/-- Looks at the next cell. A cell that is seen hides the cells that its text covers; but cells after a sign
that asks for a picture are seen if anything is drawn in them. -/
def Sight.look (s : Sight) (c : Cell) : Sight :=
  let covered := c.width - 1
  { hidden := if s.hidden = 0 then covered else s.hidden - 1
    forced := if s.hidden = 0 && 0 < covered && c.asksPicture then covered else s.forced - 1
    cells := s.cells.push (if s.hidden = 0 || (0 < s.forced && c ≠ {}) then some c else none) }

namespace Screen

/-- A screen with the same cell everywhere. -/
def filled (width height : Nat) (cell : Cell) : Screen := ⟨width, height, .replicate (width * height) cell⟩

/-- The part of a rectangle that lies on the screen. -/
def clip (s : Screen) (x y width height : Nat) : Field :=
  ⟨x, y, min (x + width) s.width - x, min (y + height) s.height - y⟩

/-- Changes the cell at a position, if it is on the screen. -/
def update (s : Screen) (x y : Nat) (f : Cell → Cell) : Screen :=
  if x < s.width ∧ y < s.height then { s with cells := s.cells.modify (y * s.width + x) f } else s

/-- Puts a text into a cell. -/
def put (s : Screen) (x y : Nat) (text : String) (paint : Paint) : Screen :=
  s.update x y (Cell.put text paint)

/-- Empties the cells of a row from `x` up to, not including, `stop`. -/
def erase (s : Screen) (x stop y : Nat) : Screen :=
  (List.range (stop - x)).foldl (fun s i => s.update (x + i) y fun _ => {}) s

/-- Empties a field. -/
def clear (s : Screen) (f : Field) : Screen :=
  (List.range f.height).foldl (fun s dy => s.erase f.x (f.x + f.width) (f.y + dy)) s

/-- Writes a row of glyphs from a position on; glyphs without a column are left out. -/
def write (s : Screen) (x y : Nat) : List (Glyph × Paint) → Screen
  | [] => s
  | (g, paint) :: rest =>
    (if g.width = 0 then s else s.put x y g.text paint).write (x + g.width) y rest

/-- What is seen of the screen, row by row; none for a hidden cell. -/
def seen (s : Screen) : Array (Option Cell) := (s.cells.foldl Sight.look {}).cells

/-- Row `y` of what is seen. -/
def rowOf (s : Screen) (cells : Array (Option Cell)) (y : Nat) : List (Option Cell) :=
  (cells.extract (y * s.width) ((y + 1) * s.width)).toList

/-- A text without the blanks at its end. -/
def trimEnd (text : String) : String :=
  String.ofList (text.toList.reverse.dropWhile (· == ' ')).reverse

/-- The text of every row, with a blank for each hidden cell. -/
def rows (s : Screen) : List String :=
  let cells := s.seen
  (List.range s.height).map fun y => trimEnd (String.join ((s.rowOf cells y).map fun c => (c.getD {}).shown))

/-- Joins neighbouring cells of one style, from column `x` on. -/
def runsFrom (y x : Nat) : List Style → List StyledRun
  | [] => []
  | style :: rest =>
    match runsFrom y (x + 1) rest with
    | r :: runs =>
      if r.style = style then { r with start := x } :: runs else ⟨y, x, x + 1, style⟩ :: r :: runs
    | [] => [⟨y, x, x + 1, style⟩]

/-- The stretches of cells that are not drawn in the default style, row by row. -/
def styles (s : Screen) : List StyledRun :=
  let cells := s.seen
  (List.range s.height).flatMap fun y =>
    (runsFrom y 0 ((s.rowOf cells y).map fun c => (c.getD {}).style)).filter (·.style ≠ {})

end Screen

end MessageBox.Terminal

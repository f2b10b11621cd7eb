import MessageBox.Terminal.Geometry
import MessageBox.Terminal.Screen
import MessageBox.Terminal.Stack

/-!
# Drawing dialogs

A dialog is a bordered rectangle with its message, a row of numbered buttons and a line of help.
-/

namespace MessageBox.Terminal

open Text (Glyph glyphs)

/-- The sign of a stock picture and the colour of its dialog. -/
def iconStyle : Option StockIcon → Option Char × Color
  | some .dialogInfo => (some 'i', .cyan)
  | some .menuHelp => (some '?', .blue)
  | some .dialogAlert => (some '!', .red)
  | none => (none, .gray)

/-- The rows of a dialog's inside, counted from its top: message (first row, number of rows), buttons and
help, each as far as there is room. -/
structure Rows where
  message : Nat
  messageRows : Nat
  buttons : Option Nat := none
  help : Option Nat := none

/-- How an inside of a given height is divided. -/
def Rows.ofHeight : (height : Nat) → Rows
  | 0 => ⟨0, 0, none, none⟩
  | 1 => ⟨0, 1, none, none⟩
  | 2 => ⟨1, 1, none, none⟩
  | 3 => ⟨1, 1, none, none⟩
  | 4 => ⟨1, 1, some 2, some 3⟩
  | height => ⟨1, height - 4, some (height - 3), some (height - 1)⟩

namespace Screen

/-- A row of painted texts. -/
def painted (parts : List (String × Paint)) : List (Glyph × Paint) :=
  parts.flatMap fun (text, paint) => (glyphs text.toList).map (·, paint)

/-- The part of a row of glyphs that fits into a width; glyphs wider than that are left out. -/
def cut (limit : Nat) (row : List (Glyph × Paint)) : List (Glyph × Paint) :=
  let row := row.filter fun (g, _) => g.width ≤ limit
  row.take (Text.fit limit (row.map (·.1))).length

/-- Writes a row at the left of a field. -/
def writeLeft (s : Screen) (f : Field) (row : List (Glyph × Paint)) : Screen :=
  if f.isEmpty then s else s.write f.x f.y (cut f.width row)

/-- Writes a row in the middle of a field. -/
def writeCentered (s : Screen) (f : Field) (row : List (Glyph × Paint)) : Screen :=
  if f.isEmpty then s
  else
    let row := cut f.width row
    s.write (f.x + (f.width / 2 - Text.width (row.map (·.1)) / 2)) f.y row

/-- Writes a text into a field, wrapped between its words, as far as there are rows. -/
def writeWrapped (s : Screen) (f : Field) (text : String) : Screen :=
  if f.isEmpty then s
  else
    ((Text.wrap f.width text).take f.height).zipIdx.foldl
      (fun s (row, i) => s.write f.x (f.y + i) (row.map (·, {}))) s

/-- Draws the border of a field; a side that has no room for its opposite is drawn alone. -/
def border (s : Screen) (f : Field) (paint : Paint) : Screen :=
  if f.isEmpty then s
  else
    let right := f.x + f.width - 1
    let bottom := f.y + f.height - 1
    let horizontal (s : Screen) (y : Nat) :=
      (List.range f.width).foldl (fun s i => s.put (f.x + i) y "─" paint) s
    let vertical (s : Screen) (x : Nat) :=
      (List.range f.height).foldl (fun s i => s.put x (f.y + i) "│" paint) s
    let s := horizontal (horizontal (vertical (vertical s f.x) right) bottom) f.y
    let s := ((s.put right bottom "┘" paint).put right f.y "┐" paint).put f.x bottom "└" paint
    s.put f.x f.y "┌" paint

/-- Writes the glyphs of a piece of a title from column `x` on, up to column `stop`. The first one is put into
its cell whatever its width; another one without a column is added to the cell before, or to the first cell
if no column is taken yet; and the cells a glyph covers are emptied. -/
def writePiece (s : Screen) (y start stop : Nat) (x : Nat) (first : Bool) : List Glyph → Screen
  | [] => s
  | g :: rest =>
    if stop < x + g.width then s
    else
      let s :=
        if first then s.put x y g.text {}
        else if x = start then s.update x y (Cell.append g.text {})
        else if g.width = 0 then s.update (x - 1) y (Cell.append g.text {})
        else s.put x y g.text {}
      (s.erase (x + 1) (x + g.width) y).writePiece y start stop (x + g.width) false rest

/-- Writes the pieces of a title one after another. A piece takes as many columns as its text, in which
control characters count although they are not drawn; a piece that takes none is left out. -/
def writePieces (s : Screen) (y stop : Nat) (x : Nat) : List (List Char) → Screen
  | [] => s
  | piece :: rest =>
    let columns := Text.textWidth piece
    if columns = 0 then s.writePieces y stop x rest
    else if stop ≤ x then s
    else (s.writePiece y x stop x true (glyphs piece)).writePieces y stop (x + columns) rest

/-- Writes a title over the top border of a field, between its corners. Its lines follow one another, and
their columns are counted in a 16-bit word. -/
def title (s : Screen) (f : Field) (text : String) : Screen :=
  if f.height = 0 then s
  else
    let pieces := Text.lines text.toList
    let columns := pieces.foldl (fun n piece => n + Text.textWidth piece) 0 % 65536
    s.writePieces f.y (f.x + 1 + min columns (f.width - 2)) (f.x + 1) pieces

end Screen

/-- The line of help under the buttons. -/
def help : List (String × Paint) :=
  [("[←/→]", { foreground := some .yellow }), (" Move  ", {}), ("[Enter]", { foreground := some .green }),
   (" Select  ", {}), ("[1-3]", { foreground := some .yellow }), (" Shortcut", {})]

namespace View

variable {α : Type}

/-- The title of a dialog, with the sign of its icon. -/
def titleText (v : View α) : String :=
  match (iconStyle v.dialog.icon).1 with
  | some sign => " [" ++ sign.toString ++ "] " ++ v.dialog.title ++ " "
  | none => " " ++ v.dialog.title ++ " "

/-- The row of numbered buttons; the focused one is drawn dark on light. -/
def buttonRow (v : View α) : List (String × Paint) :=
  (v.dialog.buttons.zipIdx.map fun (b, i) =>
    let paint : Paint :=
      if i = v.focus then { foreground := some .black, background := some .white, bold := true }
      else { bold := true }
    (if i = 0 then [] else [("   ", {})]) ++ [(s!" {i + 1}. {b.label} ", paint)]).flatten

/-- Draws a dialog in the middle of an area. Its parts are laid out in its whole rectangle, and each is drawn
as far as it is on the screen. -/
def draw (v : View α) (s : Screen) (area : Rect) : Screen :=
  let r := Rect.centered modalWidth (modalHeight v.dialog.message) area
  let frame := s.clip r.x.toNat r.y.toNat r.width.toNat r.height.toNat
  let paint : Paint := { foreground := some (iconStyle v.dialog.icon).2 }
  let s := ((s.clear frame).border frame paint).title frame v.titleText
  let rows := Rows.ofHeight r.inner.height.toNat
  let field (first count : Nat) := s.clip r.inner.x.toNat (r.inner.y.toNat + first) r.inner.width.toNat count
  let s := s.writeWrapped (field rows.message rows.messageRows) v.dialog.message
  let s := rows.buttons.elim s fun i => s.writeCentered (field i 1) (Screen.painted v.buttonRow)
  rows.help.elim s fun i => s.writeLeft (field i 1) (Screen.painted help)

end View

/-- Draws all open dialogs in an area, the innermost last. -/
def Stack.draw {α : Type} (stack : Stack α) (s : Screen) (area : Rect) : Screen :=
  stack.views.foldl (fun s v => v.draw s area) s

/-- The whole screen: the name of the program, and all open dialogs over it. -/
def Stack.screen {α : Type} (stack : Stack α) (width height : UInt16) : Screen :=
  let empty := Screen.filled width.toNat height.toNat {}
  let name := Screen.painted [(" modalbox", { foreground := some .darkGray })]
  let named := empty.writeLeft (empty.clip 0 0 width.toNat height.toNat) name
  stack.draw named (.make 0 0 width height)

end MessageBox.Terminal

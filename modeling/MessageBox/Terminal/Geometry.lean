/-!
# Where a dialog stands

Positions and sizes on a screen are 16-bit words. A dialog has a fixed width and a height estimated from
the length of its message, and stands in the middle of the screen as far as it fits.
-/

namespace MessageBox.Terminal

/-- A rectangle of the screen. -/
structure Rect where
  x : UInt16
  y : UInt16
  width : UInt16
  height : UInt16
  deriving DecidableEq

/-- The largest word. -/
def maxWord : UInt16 := 65535

/-- Difference of words, zero if it would be negative. -/
def minus (a b : UInt16) : UInt16 := if b ≤ a then a - b else 0

/-- Sum of words, the largest word if it would be larger. -/
def plus (a b : UInt16) : UInt16 := if b ≤ maxWord - a then a + b else maxWord

namespace Rect

/-- A rectangle, cut where it would pass the largest position. -/
def make (x y width height : UInt16) : Rect :=
  ⟨x, y, min width (maxWord - x), min height (maxWord - y)⟩

/-- A rectangle of a given size in the middle of an area, no larger than the area. -/
def centered (width height : UInt16) (area : Rect) : Rect :=
  make (area.x + minus area.width width / 2) (area.y + minus area.height height / 2)
    (min width area.width) (min height area.height)

/-- The rectangle inside a border one cell wide. -/
def inner (r : Rect) : Rect :=
  ⟨if r.width = 0 then r.x else plus r.x 1, if r.height = 0 then r.y else plus r.y 1,
    minus r.width 2, minus r.height 2⟩

end Rect

/-- The width of a dialog. -/
def modalWidth : UInt16 := 60

/-- The least height of a dialog, before its message is counted. -/
def modalMinHeight : UInt16 := 8

/-- The height of a dialog: its message is counted as if it had no line breaks. -/
def modalHeight (message : String) : UInt16 :=
  let rows := message.length / (modalWidth.toNat - 4) + 1
  plus modalMinHeight (if rows ≤ maxWord.toNat then .ofNat rows else maxWord)

end MessageBox.Terminal

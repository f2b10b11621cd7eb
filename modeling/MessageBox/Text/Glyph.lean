import MessageBox.Text.Cluster
import MessageBox.Text.Space
import MessageBox.Text.Width

/-!
# Glyphs

What is drawn in one place of a screen: a cluster, the columns it takes there, and whether it is a blank
between words. Clusters with control characters are not drawn at all.
-/

namespace MessageBox.Text

/-- Whether a cluster parts words: the no-break space does not, and the zero width space does. -/
def isBlank (cluster : List Char) : Bool :=
  cluster == ['\u200B'] || (cluster.all isSpace && cluster != ['\u00A0'])

/-- The sound marks of halfwidth Katakana, which are drawn in a column of their own. -/
def isSoundMark (c : Char) : Bool := c.toNat == 0xFF9E || c.toNat == 0xFF9F

/-- What is drawn in one place of the screen. -/
structure Glyph where
  text : String
  width : Nat
  blank : Bool := false
  deriving DecidableEq, Inhabited

/-- The columns a cluster takes on a screen. -/
def clusterWidth (cluster : List Char) : Nat := textWidth cluster + cluster.countP isSoundMark

/-- The glyph of a cluster. -/
def Glyph.ofCluster (cluster : List Char) : Glyph :=
  ⟨String.ofList cluster, clusterWidth cluster, isBlank cluster⟩

/-- The glyphs of a text. -/
def glyphs (cs : List Char) : List Glyph :=
  ((clusters cs).filter fun cluster => !cluster.any isControl).map .ofCluster

/-- The columns a row of glyphs takes. -/
def width (row : List Glyph) : Nat := row.foldl (fun n glyph => n + glyph.width) 0

end MessageBox.Text

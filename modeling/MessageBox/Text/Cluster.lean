import MessageBox.Text.Table.Clusters
import MessageBox.Text.Table.Combining
import MessageBox.Text.Table.Emoji

/-!
# Clusters

A cluster is what a reader takes for one character: a letter with its marks, a syllable of Hangul, a conjunct
of an Indic script, joined pictures, a flag. A text is cut between two characters unless a rule holds them
together, and the rules look at the class of the next character and at a summary of those before it.
-/

namespace MessageBox.Text

/-- The classes of characters that the rules tell apart. -/
inductive ClusterClass where
  | carriageReturn
  | lineFeed
  /-- Stands alone. -/
  | control
  | combining
  /-- Joins pictures. -/
  | joiner
  /-- One half of a flag. -/
  | flagLetter
  | prepended
  | spacingMark
  /-- Initial consonants, vowels, final consonants and syllables of Hangul. -/
  | lead
  | vowel
  | trail
  | open
  | closed
  | pictograph
  /-- A consonant that can be part of a conjunct. -/
  | consonant
  /-- The sign that links the consonants of a conjunct. -/
  | linker
  | other
  deriving DecidableEq

namespace ClusterClass

/-- The class of a character of Hangul or of a script with vowels of the same behaviour. -/
def hangul? (n : Nat) : Option ClusterClass :=
  if (0x1100 ≤ n && n ≤ 0x115F) || (0xA960 ≤ n && n ≤ 0xA97C) then some .lead
  else if (0x1160 ≤ n && n ≤ 0x11A7) || (0xD7B0 ≤ n && n ≤ 0xD7C6) || n == 0x16D63
      || (0x16D67 ≤ n && n ≤ 0x16D6A) then some .vowel
  else if (0x11A8 ≤ n && n ≤ 0x11FF) || (0xD7CB ≤ n && n ≤ 0xD7FB) then some .trail
  else if 0xAC00 ≤ n && n ≤ 0xD7A3 then some (if (n - 0xAC00) % 28 = 0 then .open else .closed)
  else none

/-- Skin tones and the sound marks of halfwidth Katakana join the character before them like marks. -/
def isAttached (n : Nat) : Bool := (0x1F3FB ≤ n && n ≤ 0x1F3FF) || n == 0xFF9E || n == 0xFF9F

/-- The class of a character. -/
def ofChar (c : Char) : ClusterClass :=
  let n := c.toNat
  if n == 0x0D then .carriageReturn
  else if n == 0x0A then .lineFeed
  else if n < 0x20 then .control
  else if n < 0x7F then .other
  else if n == 0x200D then .joiner
  else if standalone.has c then .control
  else if linkingSigns.has c then .linker
  else if Text.combining.has c || isAttached n then .combining
  else if 0x1F1E6 ≤ n && n ≤ 0x1F1FF then .flagLetter
  else if Text.prepended.has c then .prepended
  else if spacingMarks.has c then .spacingMark
  else if let some hangul := hangul? n then hangul
  else if pictographs.has c then .pictograph
  else if conjunctConsonants.has c then .consonant
  else .other

/-- Whether a character of this class joins whatever stands before it, controls apart. -/
def attaches : ClusterClass → Bool
  | .combining | .joiner | .linker | .spacingMark => true
  | _ => false

/-- Whether two neighbours are parts of one syllable of Hangul. -/
def syllable : ClusterClass → ClusterClass → Bool
  | .lead, .lead | .lead, .vowel | .lead, .open | .lead, .closed => true
  | .open, .vowel | .open, .trail | .vowel, .vowel | .vowel, .trail => true
  | .closed, .trail | .trail, .trail => true
  | _, _ => false

/-- Whether a cluster ends before or after a character of this class, whatever stands beside it. -/
def isolated : ClusterClass → Bool
  | .carriageReturn | .lineFeed | .control => true
  | _ => false

end ClusterClass

/-- What the rules need to know about a cluster in the making. -/
structure ClusterEnd where
  /-- The class of its last character. -/
  last : ClusterClass
  /-- It ends with a pictograph, perhaps with marks after it. -/
  picture : Bool := false
  /-- It ends with a pictograph, its marks and a joiner. -/
  pictureJoined : Bool := false
  /-- It ends with a letter of a flag that has no partner yet. -/
  halfFlag : Bool := false
  /-- It ends with a consonant of a conjunct, perhaps with marks; true once a linker is among them. -/
  conjunct : Option Bool := none

namespace ClusterEnd

/-- A cluster of one character. -/
def start (c : Char) : ClusterEnd :=
  let cls := ClusterClass.ofChar c
  { last := cls
    picture := cls == .pictograph
    halfFlag := cls == .flagLetter
    conjunct := if cls == .consonant then some false else none }

/-- Whether a character of a class belongs to the cluster. -/
def takes (e : ClusterEnd) (next : ClusterClass) : Bool :=
  if e.last == .carriageReturn && next == .lineFeed then true
  else if e.last.isolated || next.isolated then false
  else
    next.attaches || e.last == .prepended || ClusterClass.syllable e.last next
      || (e.pictureJoined && next == .pictograph) || (e.halfFlag && next == .flagLetter)
      || (e.conjunct == some true && next == .consonant)

/-- The cluster after one more character. -/
def add (e : ClusterEnd) (c : Char) : ClusterEnd :=
  let s := start c
  match s.last with
  | .combining | .linker =>
    { s with
      picture := e.picture
      conjunct := if c.toNat == 0x200C then none else e.conjunct.map (· || s.last == .linker) }
  | .joiner => { s with pictureJoined := e.picture, conjunct := e.conjunct }
  | .flagLetter => { s with halfFlag := !e.halfFlag }
  | _ => s

end ClusterEnd

/-- Cuts what is left of a text, after a cluster in the making, whose characters come in reverse. -/
def clustersFrom (e : ClusterEnd) (cluster : List Char) : List Char → List (List Char)
  | [] => [cluster.reverse]
  | c :: rest =>
    if e.takes (ClusterClass.ofChar c) then clustersFrom (e.add c) (c :: cluster) rest
    else cluster.reverse :: clustersFrom (.start c) [c] rest

/-- The clusters of a text. -/
def clusters : List Char → List (List Char)
  | [] => []
  | c :: rest => clustersFrom (.start c) [c] rest

end MessageBox.Text

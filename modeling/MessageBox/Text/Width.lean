import MessageBox.Text.Table.Combining
import MessageBox.Text.Table.Emoji
import MessageBox.Text.Table.Joining
import MessageBox.Text.Table.Wide

/-!
# Columns of text

How many columns of a terminal a text takes. A character has a width by itself, but some sequences are drawn
as one sign: a picture with its skin tone, pictures joined to one, a flag, and the ligatures that some scripts
require. So a text is measured from its end to its beginning, and the measure of a character depends on what
follows it.
-/

namespace MessageBox.Text

/-! ### Single characters -/

/-- Vowels and final consonants of Hangul, which are drawn inside the syllable before them. -/
def isInnerJamo (c : Char) : Bool :=
  let n := c.toNat
  (0x1160 ≤ n && n ≤ 0x11FF) || (0xD7B0 ≤ n && n ≤ 0xD7C6) || (0xD7CB ≤ n && n ≤ 0xD7FB)

/-- Signs that enclose what follows them and take no column of their own. -/
def isEnclosing (c : Char) : Bool :=
  c.toNat ∈ [0x605, 0x70F, 0x890, 0x891, 0x8E2, 0xA8FA]

/-- The columns a character takes by itself. -/
def columns (c : Char) : Nat :=
  if c.toNat < 0xA1 then 1
  else
    match c.toNat with
    | 0x2D7F => 1
    | 0x115F => 2
    | 0x17A4 => 2
    | 0x17D8 => 3
    | _ =>
      if ignorable.has c || combining.has c || isInnerJamo c || isEnclosing c then 0
      else if wide.has c then 2
      else 1

/-! ### What follows a character -/

/-- A kind of ligature, named for the letter at its end. -/
inductive Ligature where
  | hebrewLamed
  | bugineseYa
  /-- The ligature of Buginese once its vowel sign is read. -/
  | bugineseVowel
  | tifinaghConsonant
  /-- Two consonants of Tifinagh and the sign that joins them. -/
  | tifinaghJoiner
  | lisuTone
  | orkhonLetter
  | khmerLetter
  | kiratRaiE
  | kiratRaiAi
  deriving DecidableEq

/-- How far a flag made of tags is read, from its end. -/
inductive Tagged where
  /-- Only the last tag, which ends the flag. -/
  | closed
  | letters (count : Nat)
  | digits (count : Nat)
  deriving DecidableEq

/-- What stands after a joiner in a sequence of pictures. -/
inductive Joined where
  /-- The joiner comes next. -/
  | joiner
  /-- A frame for keys comes next. -/
  | keycap
  /-- One letter of a flag comes next. -/
  | oneFlagLetter
  /-- An even number of letters of flags come next. -/
  | evenFlagLetters
  /-- An odd number of letters of flags, more than one, come next. -/
  | oddFlagLetters
  | tags (tagged : Tagged)
  deriving DecidableEq

/-- What comes next, as far as it matters to the width of the character before it. -/
inductive Follower where
  | plain
  | lineFeed
  /-- A skin tone. -/
  | tone
  /-- One letter of a flag. -/
  | flagLetter
  /-- Several letters of flags. -/
  | flagLetters
  | picture
  | joined (joined : Joined)
  /-- A letter that ends a ligature with Lam. -/
  | alef
  /-- The end of a ligature; the flag tells whether its joiner is read. -/
  | ligature (ligature : Ligature) (joined : Bool)
  /-- A sign that asks for a picture, before the rest. -/
  | asPicture (rest : Follower)
  /-- A sign that asks for text, before the rest. -/
  | asText (rest : Follower)
  deriving DecidableEq

namespace Follower

/-- Letters that end a ligature with Lam. -/
def isAlef (n : Nat) : Bool :=
  n ∈ [0x622, 0x623, 0x625, 0x627, 0x671, 0x672, 0x673, 0x675, 0x773, 0x774] || (0x870 ≤ n && n ≤ 0x882)

/-- Letters that begin a ligature with Alef. -/
def isLam (n : Nat) : Bool :=
  n == 0x644 || (0x6B5 ≤ n && n ≤ 0x6B8) || n == 0x76A || n == 0x8A6 || n == 0x8C7

/-- Consonants of Tifinagh that can be joined to another. -/
def isTifinagh (n : Nat) : Bool := (0x2D31 ≤ n && n ≤ 0x2D65) || n == 0x2D6F

/-- Letters of Khmer that can stand below another. -/
def isStacked (n : Nat) : Bool :=
  (0x1780 ≤ n && n ≤ 0x1782) || (0x1784 ≤ n && n ≤ 0x1787) || (0x1789 ≤ n && n ≤ 0x178C)
    || (0x178E ≤ n && n ≤ 0x1793) || (0x1795 ≤ n && n ≤ 0x1798) || (0x179B ≤ n && n ≤ 0x179D)
    || n ∈ [0x17A0, 0x17A2, 0x17A7, 0x17AB, 0x17AC, 0x17AF]

/-- Letters that make flags in pairs. -/
def isFlagLetter (n : Nat) : Bool := 0x1F1E6 ≤ n && n ≤ 0x1F1FF

/-- Skin tones. -/
def isTone (n : Nat) : Bool := 0x1F3FB ≤ n && n ≤ 0x1F3FF

/-- Marks that do not come between the letters of a ligature. -/
def isTransparent (n : Nat) : Bool :=
  n == 0x34F || n == 0x17B4 || n == 0x17B5 || (0x180B ≤ n && n ≤ 0x180D) || n == 0x180F || n == 0x200D
    || (0xFE00 ≤ n && n ≤ 0xFE0F) || (0xE0100 ≤ n && n ≤ 0xE01EF)

/-- Whether a character is a picture after which the sign for text means text: pictures of the ideographic
supplement stay pictures. -/
def canBeText (c : Char) : Bool :=
  pictures.has c && twoStyles.has c && !(0x1F200 ≤ c.toNat && c.toNat ≤ 0x1F2FF)

/-- What a character is to the one before it, if nothing after it matters. -/
def ofChar (c : Char) : Follower :=
  let n := c.toNat
  if n == 0xFE0F then .asPicture .plain
  else if n == 0xFE0E then .asText .plain
  else if isFlagLetter n then .flagLetter
  else if isTone n then .tone
  else if pictures.has c then .picture
  else if isAlef n then .alef
  else if n == 0x5DC then .ligature .hebrewLamed false
  else if n == 0x1A10 then .ligature .bugineseYa false
  else if isTifinagh n then .ligature .tifinaghConsonant false
  else if n == 0xA4FC || n == 0xA4FD then .ligature .lisuTone true
  else if n == 0x10C03 then .ligature .orkhonLetter false
  else if isStacked n then .ligature .khmerLetter true
  else if n == 0x16D67 then .ligature .kiratRaiE true
  else if n == 0x16D68 then .ligature .kiratRaiAi true
  else .plain

/-- What is left of a follower without a sign that asks for a picture or for text: only ligatures outlast
it. -/
def unsigned : Follower → Follower
  | .alef => .alef
  | .ligature l isJoined => .ligature l isJoined
  | .asPicture f => f.unsigned
  | .asText f => f.unsigned
  | _ => .plain

/-- Puts the sign for a picture before a follower: ligatures and joined pictures outlast it. -/
def asked : Follower → Follower
  | .joined .joiner => .asPicture (.joined .joiner)
  | .joined .keycap => .asPicture (.joined .keycap)
  | f => .asPicture f.unsigned

end Follower

/-! ### Sequences -/

/-- Reads a character before a sequence of joined pictures: the columns it adds, and what it is to the one
before it. -/
def joinPicture (c : Char) : Joined → Option (Int × Follower)
  | .joiner =>
    if c.toNat == 0x20E3 then some (0, .joined .keycap)
    else if Follower.isFlagLetter c.toNat then some (1, .joined .oneFlagLetter)
    else if Follower.isTone c.toNat then some (0, .tone)
    else if c.toNat == 0xE007F then some (0, .joined (.tags .closed))
    else if pictures.has c then some (0, .picture)
    else none
  | .keycap => none
  | .oneFlagLetter =>
    if Follower.isFlagLetter c.toNat then some (-1, .joined .evenFlagLetters) else none
  | .oddFlagLetters =>
    if Follower.isFlagLetter c.toNat then some (-1, .joined .evenFlagLetters)
    else if c.toNat == 0x200D then some (0, .joined .joiner)
    else none
  | .evenFlagLetters =>
    if Follower.isFlagLetter c.toNat then some (3, .joined .oddFlagLetters)
    else if c.toNat == 0x200D then some (0, .joined .joiner)
    else none
  | .tags tagged =>
    let n := c.toNat
    let isLetter := 0xE0061 ≤ n && n ≤ 0xE007A
    let isDigit := 0xE0030 ≤ n && n ≤ 0xE0039
    let isFlag := n == 0x1F3F4
    match tagged with
    | .closed =>
      if isLetter then some (0, .joined (.tags (.letters 1)))
      else if isDigit then some (0, .joined (.tags (.digits 1)))
      else none
    | .letters k =>
      if isLetter && k < 6 then some (0, .joined (.tags (.letters (k + 1))))
      else if isDigit && k < 5 then some (0, .joined (.tags (.digits 1)))
      else if isFlag && 3 ≤ k then some (0, .picture)
      else none
    | .digits k =>
      if isDigit && k < 3 then some (0, .joined (.tags (.digits (k + 1))))
      else if isFlag && k == 3 then some (0, .picture)
      else none

/-- Reads a character before the end of a ligature. -/
def joinLetter (c : Char) : Ligature → Bool → Option (Int × Follower)
  | .hebrewLamed, joined => if joined && c.toNat == 0x5D0 then some (0, .plain) else none
  | .bugineseYa, joined =>
    if joined && c.toNat == 0x1A17 then some (0, .ligature .bugineseVowel true) else none
  | .bugineseVowel, _ => if c.toNat == 0x1A15 then some (0, .plain) else none
  | .tifinaghConsonant, joined =>
    if c.toNat == 0x2D7F then some (1, .ligature .tifinaghJoiner true)
    else if joined && Follower.isTifinagh c.toNat then some (0, .plain)
    else none
  | .tifinaghJoiner, _ => if Follower.isTifinagh c.toNat then some (-1, .plain) else none
  | .lisuTone, _ => if 0xA4F8 ≤ c.toNat && c.toNat ≤ 0xA4FB then some (0, .plain) else none
  | .orkhonLetter, joined => if joined && c.toNat == 0x10C32 then some (0, .plain) else none
  | .khmerLetter, _ => if c.toNat == 0x17D2 then some (-1, .plain) else none
  | .kiratRaiE, _ =>
    match c.toNat with
    | 0x16D63 => some (0, .plain)
    | 0x16D67 => some (0, .ligature .kiratRaiAi true)
    | 0x16D68 => some (1, .ligature .kiratRaiE true)
    | 0x16D69 => some (0, .plain)
    | _ => none
  | .kiratRaiAi, _ => if c.toNat == 0x16D63 then some (0, .plain) else none

/-- Reads a character before a follower that makes a sequence with it. -/
def join (c : Char) : Follower → Option (Int × Follower)
  | .alef =>
    if Follower.isLam c.toNat then some (0, .plain)
    else if columns c == 0 && !barriers.has c then some (0, .alef)
    else none
  | .ligature l joined =>
    if c.toNat == 0x200D then some (0, .ligature l true)
    else if Follower.isTransparent c.toNat then some (0, .ligature l joined)
    else joinLetter c l joined
  | .tone =>
    if skinned.has c then some (0, .picture)
    else if c.toNat == 0x200D then some (0, .joined .joiner)
    else none
  | .flagLetter => if Follower.isFlagLetter c.toNat then some (1, .flagLetters) else none
  | .flagLetters =>
    if Follower.isFlagLetter c.toNat then some (1, .flagLetters)
    else if c.toNat == 0x200D then some (0, .joined .joiner)
    else none
  | .picture => if c.toNat == 0x200D then some (0, .joined .joiner) else none
  | .joined j => joinPicture c j
  | _ => none

/-- Measures a character beyond the Latin alphabet before a follower. -/
def measureBefore (c : Char) (next : Follower) : Int × Follower :=
  if next = .plain then (columns c, .ofChar c)
  else if c.toNat == 0xFE0F then (0, next.asked)
  else if c.toNat == 0xFE0E then (0, .asText next.unsigned)
  else
    let (text, next) :=
      match next with
      | .asText rest => (true, rest)
      | f => (false, f)
    if text && Follower.canBeText c then (1, .plain)
    else (join c next).getD (columns c, .ofChar c)

/-- Measures a character: the columns it adds to what follows it, and what it is to the one before it. -/
def measure (c : Char) (next : Follower) : Int × Follower :=
  match next with
  | .asPicture rest =>
    if twoStyles.has c then (if rest matches .joined _ then 0 else 2, .picture) else simple c rest.unsigned
  | f => simple c f
where
  /-- Measures a character that nothing asks to be a picture. -/
  simple (c : Char) (next : Follower) : Int × Follower :=
    if c == '\n' then (1, .lineFeed)
    else if c == '\r' && next = .lineFeed then (0, .plain)
    else if c.toNat < 0xA1 then (1, .plain)
    else measureBefore c next

/-- The columns of a text and what its first character is to one before it. -/
def measureAll : List Char → Int × Follower
  | [] => (0, .plain)
  | c :: rest =>
    let (total, next) := measureAll rest
    let (add, follower) := measure c next
    (total + add, follower)

/-- The columns a text takes. -/
def textWidth (cs : List Char) : Nat := (measureAll cs).1.toNat

end MessageBox.Text

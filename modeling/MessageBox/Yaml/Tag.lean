import MessageBox.Yaml.Scalar

/-!
# Tags, anchors and directives

A node can carry a tag, which says what kind of value it is, and an anchor, a name under which it can be
referred to. A tag is written in full between angle brackets, or with a handle that stands for the beginning
of it. Directives before a document declare handles.
-/

namespace MessageBox.Yaml

/-- A tag as it is written: a handle, empty for a tag in full, and what follows it. -/
structure WrittenTag where
  handle : String
  suffix : String
  deriving DecidableEq

/-- What a directive says. -/
inductive Directive where
  | version
  /-- Declares what a handle stands for. -/
  | handle (handle stands : String)
  /-- Says nothing that is known. -/
  | unknown
  deriving DecidableEq

/-- Characters of an address. -/
def isAddressChar (c : Char) : Bool := isWordChar c || "#;/?:@&=+$,.!~*'()[]%".toList.contains c

/-- Characters that a tag may have after its handle. -/
def isSuffixChar (c : Char) : Bool := isAddressChar c && !isFlow c && c != '!'

/-- The value of two hexadecimal digits after a percent sign, and what follows them. -/
def percentByte? : List Char → Option (Nat × List Char)
  | '%' :: a :: b :: rest => (Text.digits? 16 [a, b]).map (·, rest)
  | _ => none

/-- How many bytes follow the first byte of a character, and the bits that the first byte gives. -/
def leadByte? (byte : Nat) : Option (Nat × Nat) :=
  if byte < 0x80 then some (0, byte)
  else if byte / 32 = 6 then some (1, byte % 32)
  else if byte / 16 = 14 then some (2, byte % 16)
  else if byte / 8 = 30 then some (3, byte % 8)
  else none

/-- Reads the bytes after the first one of a character. -/
def trailBytes : (count : Nat) → (bits : Nat) → List Char → Option (Nat × List Char)
  | 0, bits, rest => some (bits, rest)
  | count + 1, bits, rest =>
    (percentByte? rest).bind fun (byte, rest) =>
      if byte / 64 = 2 then trailBytes count (bits * 64 + byte % 64) rest else none

/-- Reads a character written by its bytes, each after a percent sign. -/
def percentChar? (cs : List Char) : Option (Char × List Char) := do
  let (byte, rest) ← percentByte? cs
  let (count, bits) ← leadByte? byte
  let (n, rest) ← trailBytes count bits rest
  return (← charOf? n, rest)

/-- Reads characters of a class, of which some may be written by their bytes. -/
def address (p : Char → Bool) : (fuel : Nat) → Cursor → Option (List Char × Cursor)
  | 0, c => some ([], c)
  | fuel + 1, c =>
    match c.peek with
    | none => some ([], c)
    | some ch =>
      if ch == '%' then do
        let (ch, rest) ← percentChar? c.rest
        let (more, c) ← address p fuel (c.take (c.rest.length - rest.length))
        return (ch :: more, c)
      else if p ch then do
        let (more, c) ← address p fuel (c.take 1)
        return (ch :: more, c)
      else some ([], c)

/-- Reads a handle: `!`, or a word between two exclamation marks; without the second one it is the beginning
of a suffix. -/
def tagHandle (c : Cursor) : Option (List Char × Cursor) :=
  if c.sees '!' then
    let (word, next) := (c.take 1).span isWordChar
    let next := { next with leading := false }
    some (if next.sees '!' then ('!' :: word ++ ['!'], next.take 1) else ('!' :: word, next))
  else none

/-- Reads a tag in full, between angle brackets. -/
def fullTag (c : Cursor) : Option (WrittenTag × Cursor) := do
  let (suffix, c) ← address isAddressChar c.rest.length (c.take 2)
  if c.sees '>' then some (⟨"", String.ofList suffix⟩, c.take 1) else none

/-- Reads a tag with a handle. -/
def shortTag (c : Cursor) : Option (WrittenTag × Cursor) := do
  let (handle, c) ← tagHandle c
  let (suffix, c) ← address isSuffixChar c.rest.length c
  if 2 ≤ handle.length && handle.getLast? == some '!' then
    if suffix.isEmpty then none else some (⟨String.ofList handle, String.ofList suffix⟩, c)
  else
    let suffix := handle.tail ++ suffix
    some (if suffix.isEmpty then ⟨"", "!"⟩ else ⟨"!", String.ofList suffix⟩, c)

/-- Reads a tag, after which a word must end. -/
def readTag (inFlow : Bool) (c : Cursor) : Option (WrittenTag × Cursor) := do
  let (tag, c) ← if c.peekSecond == some '<' then fullTag c else shortTag c
  if endsWord c.peek || (inFlow && c.peek.any isFlow) then some (tag, c) else none

/-- Reads the name of an anchor, after its mark. -/
def readAnchor (c : Cursor) : Option (String × Cursor) :=
  let (name, next) := (c.take 1).span fun ch => !isBlank ch && !isBreak ch && !isFlow ch && ch != '\uFEFF'
  if name.isEmpty then none else some (String.ofList name, next)

/-- Reads a number of a version, which has nine digits at most. -/
def versionNumber (c : Cursor) : Option Cursor :=
  let (digits, c) := c.span Char.isDigit
  if digits.isEmpty || 9 < digits.length then none else some c

/-- Reads what follows the name of a version directive. -/
def versionValue (c : Cursor) : Option (Directive × Cursor) := do
  let c ← versionNumber (c.span isBlank).2
  if c.sees '.' then return (.version, ← versionNumber (c.take 1)) else none

/-- Reads what follows the name of a tag directive: a handle and what it stands for. -/
def handleValue (c : Cursor) : Option (Directive × Cursor) := do
  let (handle, c) ← tagHandle (c.span isBlank).2
  if handle != ['!'] && handle.getLast? != some '!' then none
  else
    let c := (c.span isBlank).2
    let starts := c.sees '!' || c.peek.any isSuffixChar
    let (stands, c) ← address isAddressChar c.rest.length c
    if starts && endsWord c.peek then some (.handle (String.ofList handle) (String.ofList stands), c)
    else none

/-- Reads a directive, up to the beginning of the next line. -/
def readDirective (c : Cursor) : Option (Directive × Cursor) := do
  let (name, c) := (c.take 1).span isWordChar
  if name.isEmpty || !endsWord c.peek then none
  else
    let (directive, c) ←
      if name = "YAML".toList then versionValue c
      else if name = "TAG".toList then handleValue c
      else some (.unknown, c.passLine)
    let (_, c) ← c.passBlanks
    if endsLine c.peek then some (directive, c.newline) else none

end MessageBox.Yaml

import MessageBox.Text.Number
import MessageBox.Yaml.Cursor

/-!
# Scalars

A scalar is a text in one of several forms: plain, between quotes, or as a block of indented lines. A plain
or quoted text may go on over several lines, which are folded: a line break becomes a blank, and empty lines
become line breaks.
-/

namespace MessageBox.Yaml

/-- The form of a scalar. -/
inductive ScalarStyle where
  | plain
  | quoted
  | block
  deriving DecidableEq

/-! ### Folded lines -/

/-- What stands between two words of a scalar. -/
structure Gap where
  /-- Blanks on the line of the first word. -/
  blanks : List Char := []
  /-- The first line break, if there is one that counts. -/
  broken : Bool := false
  /-- How many line breaks follow the first. -/
  more : Nat := 0
  /-- Whether the words are on different lines. -/
  apart : Bool := false

/-- What a gap becomes in the text of a scalar. -/
def Gap.folded (g : Gap) : List Char :=
  if g.apart then
    if g.broken && g.more == 0 then [' '] else List.replicate g.more '\n'
  else g.blanks

/-- Reads the end of a line into a gap. -/
def Gap.addBreak (g : Gap) : Gap :=
  if g.apart then { g with more := g.more + 1 } else { g with blanks := [], broken := true, apart := true }

/-! ### Plain scalars -/

/-- The first word of a plain scalar. A colon ends it before a blank, and between brackets the marks of
brackets do. -/
def plainWord (inFlow : Bool) : List Char → List Char
  | [] => []
  | c :: rest =>
    if isBlank c || isBreak c || (inFlow && isFlow c) then []
    else if c == ':' && (endsWord rest.head? || (inFlow && rest.head?.any isFlow)) then []
    else c :: plainWord inFlow rest

/-- Reads what follows a word of a plain scalar. A tab must not indent a line with content. -/
def plainGap (indent : Int) : (fuel : Nat) → Gap → Cursor → Option (Gap × Cursor)
  | 0, g, c => some (g, c)
  | fuel + 1, g, c =>
    match c.peek with
    | none => some (g, c)
    | some ch =>
      if isBreak ch then plainGap indent fuel g.addBreak c.newline
      else if isBlank ch then
        if !g.apart then plainGap indent fuel { g with blanks := g.blanks ++ [ch] } (c.pass 1)
        else if ch == '\t' && c.column < indent then
          match c.passBlanks with
          | some (_, c) => if endsLine c.peek then plainGap indent fuel g c else none
          | none => none
        else plainGap indent fuel g (c.pass 1)
      else some (g, c)

/-- Reads words of a plain scalar after a gap; its text is kept in reverse. -/
def plainFrom (indent : Int) (inFlow : Bool) :
    (fuel : Nat) → List Char → Gap → Cursor → Option (List Char × Cursor)
  | 0, text, _, c => some (text, c)
  | fuel + 1, text, g, c =>
    if c.seesDocument || c.sees '#' then some (text, c)
    else if inFlow && c.sees '-' && c.peekSecond.any isFlow then none
    else
      let word := plainWord inFlow c.rest
      let text := if word.isEmpty then text else word.reverse ++ (g.folded.reverse ++ text)
      let c := if word.isEmpty then c else c.take word.length
      if c.peek.any fun ch => isBlank ch || isBreak ch then
        match plainGap indent c.rest.length {} c with
        | none => none
        | some (g, c) =>
          if !inFlow && (c.column : Int) < indent then some (text, c)
          else plainFrom indent inFlow fuel text g c
      else some (text, c)

/-- Reads a plain scalar. Its lines are indented by `indent` at least. -/
def plainScalar (indent : Int) (inFlow : Bool) (c : Cursor) : Option (String × Cursor) :=
  if inFlow && (c.column : Int) < indent then none
  else
    match plainFrom indent inFlow (c.rest.length + 1) [] {} c with
    | some (text, c) => if text.isEmpty then none else some (String.ofList text.reverse, c)
    | none => none

/-! ### Quoted scalars -/

/-- The character of a code point, if there is one. -/
def charOf? (n : Nat) : Option Char := if n.isValidChar then some (.ofNat n) else none

/-- The character of some hexadecimal digits. -/
def hexChar? (digits : List Char) : Option Char := (Text.digits? 16 digits).bind charOf?

/-- The character that an escape sequence stands for, and how many characters follow its backslash. -/
def unescape : List Char → Option (Char × Nat)
  | '0' :: _ => some ('\x00', 1)
  | 'a' :: _ => some ('\x07', 1)
  | 'b' :: _ => some ('\x08', 1)
  | 't' :: _ | '\t' :: _ => some ('\t', 1)
  | 'n' :: _ => some ('\n', 1)
  | 'v' :: _ => some ('\x0b', 1)
  | 'f' :: _ => some ('\x0c', 1)
  | 'r' :: _ => some ('\r', 1)
  | 'e' :: _ => some ('\x1b', 1)
  | ' ' :: _ => some (' ', 1)
  | '"' :: _ => some ('"', 1)
  | '/' :: _ => some ('/', 1)
  | '\\' :: _ => some ('\\', 1)
  | 'N' :: _ => some ('\u0085', 1)
  | '_' :: _ => some ('\u00a0', 1)
  | 'L' :: _ => some ('\u2028', 1)
  | 'P' :: _ => some ('\u2029', 1)
  | 'x' :: rest => hex 2 rest
  | 'u' :: rest => hex 4 rest
  | 'U' :: rest => hex 8 rest
  | _ => none
where
  /-- The character of the next `n` digits. -/
  hex (n : Nat) (rest : List Char) : Option (Char × Nat) :=
    if n ≤ rest.length then (hexChar? (rest.take n)).map (·, n + 1) else none

/-- Reads the characters of a quoted scalar up to a blank, the end of its line or the quote; its text is kept
in reverse. The flag tells whether the end of the line was escaped. -/
def quotedWord (single : Bool) : (fuel : Nat) → List Char → Cursor → Option (List Char × Bool × Cursor)
  | 0, text, c => some (text, false, c)
  | fuel + 1, text, c =>
    match c.peek with
    | none => some (text, false, c)
    | some ch =>
      if isBlank ch || isBreak ch then some (text, false, c)
      else if single then
        if ch == '\'' then
          if c.peekSecond == some '\'' then quotedWord single fuel ('\'' :: text) (c.take 2)
          else some (text, false, c)
        else quotedWord single fuel (ch :: text) (c.take 1)
      else if ch == '"' then some (text, false, c)
      else if ch == '\\' then
        if c.peekSecond.any isBreak then some (text, true, (c.take 1).newline)
        else
          match unescape c.rest.tail with
          | some (ch, n) => quotedWord single fuel (ch :: text) (c.take (n + 1))
          | none => none
      else quotedWord single fuel (ch :: text) (c.take 1)

/-- Reads what follows a word of a quoted scalar. A tab must not indent a line. -/
def quotedGap (indent : Int) : (fuel : Nat) → Gap → Cursor → Option (Gap × Cursor)
  | 0, g, c => some (g, c)
  | fuel + 1, g, c =>
    match c.peek with
    | none => some (g, c)
    | some ch =>
      if isBreak ch then quotedGap indent fuel g.addBreak c.newline
      else if isBlank ch then
        if !g.apart then quotedGap indent fuel { g with blanks := g.blanks ++ [ch] } (c.pass 1)
        else if ch == '\t' && c.column < indent then none
        else quotedGap indent fuel g (c.pass 1)
      else some (g, c)

/-- Reads a quoted scalar up to its quote; its text is kept in reverse. -/
def quotedFrom (indent : Int) (single : Bool) :
    (fuel : Nat) → List Char → Cursor → Option (List Char × Cursor)
  | 0, _, _ => none
  | fuel + 1, text, c =>
    if c.seesDocument || c.rest.isEmpty || (c.column : Int) < indent then none
    else
      match quotedWord single c.rest.length text c with
      | none => none
      | some (text, escaped, c) =>
        if c.sees (if single then '\'' else '"') then some (text, c.take 1)
        else
          match quotedGap indent c.rest.length { apart := escaped } c with
          | none => none
          | some (g, c) => quotedFrom indent single fuel (g.folded.reverse ++ text) c

/-- Whether a quoted scalar that began on the given line may be followed by what is next. -/
def mayFollowQuote (inFlow : Bool) (line : Nat) (c : Cursor) : Bool :=
  match c.peek with
  | none => true
  | some ch =>
    isBreak ch || (inFlow && (ch == ',' || ch == '\x7d' || ch == ']'))
      || (ch == ':' && (inFlow || c.line == line))

/-- Reads a quoted scalar, with its quotes. Its lines are indented by `indent` at least. -/
def quotedScalar (indent : Int) (inFlow single : Bool) (start : Cursor) : Option (String × Cursor) := do
  let (text, c) ← quotedFrom indent single (start.rest.length + 1) [] (start.take 1)
  let (_, c) ← c.passBlanks
  if mayFollowQuote inFlow start.line c then some (String.ofList text.reverse, c) else none

/-! ### Blocks -/

/-- What happens to the line breaks at the end of a block: they are dropped, all but one are dropped, or all
are kept. -/
inductive Chomping where
  | strip
  | clip
  | keep
  deriving DecidableEq

/-- The chomping that a mark asks for. -/
def Chomping.ofMark? : Option Char → Option Chomping
  | some '+' => some .keep
  | some '-' => some .strip
  | _ => none

/-- An indentation in a header, from 1 to 9; the outer option tells whether it is well-formed. -/
def headerIndent (c : Cursor) : Option (Nat × Cursor) :=
  match c.peek with
  | some ch =>
    if ch == '0' then none
    else if ch.isDigit then some (ch.toNat - '0'.toNat, c.take 1)
    else some (0, c)
  | none => some (0, c)

/-- Reads the header of a block: chomping and indentation, in either order; 0 if there is no indentation. -/
def blockHeader (c : Cursor) : Option (Chomping × Nat × Cursor) := do
  match Chomping.ofMark? c.peek with
  | some chomping =>
    let (n, c) ← headerIndent (c.take 1)
    return (chomping, n, c)
  | none =>
    let (n, c) ← headerIndent c
    match (if n = 0 then none else Chomping.ofMark? c.peek) with
    | some chomping => return (chomping, n, c.take 1)
    | none => return (.clip, n, c)

/-- Passes empty lines and the indentation of the next line; tells how many lines were empty. -/
def passIndent (indent : Nat) : (fuel : Nat) → Cursor → Nat × Cursor
  | 0, c => (0, c)
  | fuel + 1, c =>
    let spaces := (c.rest.takeWhile (· == ' ')).length
    let c := c.pass (min spaces (indent - c.column))
    if c.peek.any isBreak then
      let (count, c) := passIndent indent fuel c.newline
      (count + 1, c)
    else (0, c)

/-- Passes empty lines and all blanks of the next line; tells how many lines were empty and how many blanks
the line with the most of them had. -/
def passFirstIndent : (fuel : Nat) → Cursor → Nat × Nat × Cursor
  | 0, c => (0, 0, c)
  | fuel + 1, c =>
    let c := c.pass (c.rest.takeWhile (· == ' ')).length
    if c.peek.any isBreak then
      let (count, most, next) := passFirstIndent fuel c.newline
      (count + 1, max most c.column, next)
    else (0, c.column, c)

/-- A block being read. -/
structure Block where
  /-- Its text, in reverse. -/
  text : List Char := []
  /-- The last line has ended. -/
  broken : Bool := false
  /-- How many empty lines follow it. -/
  more : Nat := 0
  /-- The last line began with a blank. -/
  indented : Bool := false

/-- Adds a line to a block. The lines of a folded block are joined, except those that begin with a blank. -/
def Block.addLine (literal : Bool) (b : Block) (line : List Char) : Block :=
  let indented := line.head?.any isBlank
  let gap :=
    if !literal && b.broken && !b.indented && !indented then
      if b.more == 0 then [' '] else List.replicate b.more '\n'
    else List.replicate (b.more + if b.broken then 1 else 0) '\n'
  { text := line.reverse ++ (gap.reverse ++ b.text), broken := false, more := 0, indented }

/-- Reads the lines of a block. -/
def blockLines (literal : Bool) (indent : Nat) : (fuel : Nat) → Block → Cursor → Block × Cursor
  | 0, b, c => (b, c)
  | fuel + 1, b, c =>
    if c.column != indent || c.rest.isEmpty || (indent == 0 && c.endsDocument) then (b, c)
    else
      let (line, next) := c.span (!isBreak ·)
      let b := b.addLine literal line
      let next := if line.isEmpty then next else { next with leading := false }
      if next.rest.isEmpty then (b, next)
      else
        let (more, c) := passIndent indent next.rest.length next.newline
        blockLines literal indent fuel { b with broken := true, more } c

/-- Reads a block scalar. The lines of the block are indented by more than `indent`, which is that of what
surrounds it: by the number in its header, or as the first line with content is. Where the text ends in the
middle of a line of the block, that line counts as ended. -/
def blockScalar (indent : Int) (literal : Bool) (start : Cursor) : Option (String × Cursor) := do
  let (chomping, increment, c) ← blockHeader (start.take 1)
  let (_, c) ← c.passBlanks
  if !endsLine c.peek then none
  else
    let c := c.newline
    if c.sees '\t' then none
    else
      let fixed := if increment = 0 then 0 else (if 0 ≤ indent then indent.toNat else 0) + increment
      let (more, width, c) :=
        if fixed = 0 then
          let (more, most, c) := passFirstIndent c.rest.length c
          let width := max most (indent + 1).toNat
          (more, if 0 < indent then max width 1 else width, c)
        else
          let (more, c) := passIndent fixed c.rest.length c
          (more, fixed, c)
      if c.rest.isEmpty then
        let text :=
          if chomping = .strip || c.line == start.line then []
          else if chomping = .keep && more != 0 then List.replicate more '\n'
          else ['\n']
        some (String.ofList text, c)
      else if c.column < width && indent < c.column then none
      else
        let (b, c) := blockLines literal width c.rest.length { more } c
        let last := if b.broken then ['\n'] else []
        let cut := if c.rest.isEmpty && max width 1 ≤ c.column then ['\n'] else []
        let tail :=
          match chomping with
          | .strip => []
          | .clip => last ++ cut
          | .keep => last ++ cut ++ List.replicate b.more '\n'
        some (String.ofList (b.text.reverse ++ tail), c)

end MessageBox.Yaml

import MessageBox.Yaml.Tag

/-!
# Tokens

A document is read in two passes. The first one finds its tokens; those that begin and end blocks stand for
changes of the indentation. A key is recognised only when its colon is reached, so the tokens that announce it
are then inserted before it.
-/

namespace MessageBox.Yaml

/-- The tokens of a document. -/
inductive Token where
  | streamEnd
  | directive (directive : Directive)
  | documentStart
  | documentEnd
  | blockSequence
  | blockMapping
  | blockEnd
  | flowSequence
  | flowSequenceEnd
  | flowMapping
  | flowMappingEnd
  /-- Announces an item of a block sequence. -/
  | blockEntry
  /-- Separates items between brackets. -/
  | flowEntry
  /-- Announces a key. -/
  | key
  /-- Announces a value. -/
  | value
  | alias (name : String)
  | anchor (name : String)
  | tag (tag : WrittenTag)
  | scalar (style : ScalarStyle) (text : String)
  deriving DecidableEq

/-- A place where a key may begin. -/
structure PossibleKey where
  /-- Whether what stands there may still become a key. -/
  possible : Bool := false
  /-- Nothing but a key may stand there. -/
  required : Bool := false
  /-- How many tokens come before it. -/
  number : Nat := 0
  index : Nat := 0
  line : Nat := 0
  column : Nat := 0

/-- A level of indentation that has been left behind. -/
structure Level where
  indent : Int
  /-- Whether the level inside of it is that of a block. -/
  isBlock : Bool

/-- The state of the first pass. -/
structure Lexer where
  cursor : Cursor
  tokens : Array Token := #[]
  /-- The column of the last token, if that is an anchor or a tag. -/
  property : Option Nat := none
  indent : Int := -1
  /-- The levels of indentation around the current one, the innermost first. -/
  levels : List Level := []
  /-- How many brackets are open. -/
  flow : Nat := 0
  /-- A possible key for each open bracket and one outside of all, the innermost first. -/
  keys : List PossibleKey := [{}]
  /-- A key may begin here. -/
  keyAllowed : Bool := true
  /-- A value may follow its colon without a blank if the colon has this index. -/
  adjacent : Option Nat := none
  /-- A mapping between braces has begun. -/
  inMapping : Bool := false
  /-- For each open sequence between brackets, whether it holds a pair that is not yet complete. -/
  pairs : List Bool := []
  /-- The whole text has been read. -/
  done : Bool := false

namespace Lexer

/-- Whether the place is between brackets. -/
def inFlow (l : Lexer) : Bool := 0 < l.flow

/-- Adds a token. -/
def push (l : Lexer) (t : Token) : Lexer := { l with tokens := l.tokens.push t, property := none }

/-- Inserts a token before those from a number on. -/
def insert (l : Lexer) (number : Nat) (t : Token) : Lexer :=
  { l with tokens := l.tokens.extract 0 number ++ #[t] ++ l.tokens.extract number l.tokens.size }

/-- Allows or forbids a key to begin here. -/
def allowKey (l : Lexer) (allowed : Bool) : Lexer := { l with keyAllowed := allowed }

/-- The column of the place. -/
def column (l : Lexer) : Int := l.cursor.column

/-! ### Indentation -/

/-- Whether the current level is that of a block. -/
def inBlock (l : Lexer) : Bool := l.levels.head?.any (·.isBlock)

/-- Leaves a level that is not that of a block. -/
def leaveLevel (l : Lexer) : Lexer :=
  match l.levels with
  | level :: levels => if level.isBlock then l else { l with indent := level.indent, levels }
  | [] => l

/-- Begins a block at a column, if that is further to the right; its token comes at the end, or before the
tokens from a number on. -/
def beginBlock (l : Lexer) (column : Int) (number : Option Nat) (t : Token) : Lexer :=
  if l.inFlow then l
  else
    let l := if l.indent ≤ column then l.leaveLevel else l
    if l.indent < column then
      let l := { l with levels := ⟨l.indent, true⟩ :: l.levels, indent := column }
      match number with
      | some n => l.insert n t
      | none => l.push t
    else l

/-- Demands one more column of indentation from what follows in a block. -/
def indentOne (l : Lexer) : Lexer :=
  if !l.inFlow && l.inBlock then
    { l with levels := ⟨l.indent, false⟩ :: l.levels, indent := l.indent + 1 }
  else l

/-- The levels after leaving those that are no blocks. -/
def dropLevels (indent : Int) : List Level → Int × List Level
  | [] => (indent, [])
  | level :: levels => if level.isBlock then (indent, level :: levels) else dropLevels level.indent levels

/-- Leaves all levels that are no blocks. -/
def leaveLevels (l : Lexer) : Lexer :=
  let (indent, levels) := dropLevels l.indent l.levels
  { l with indent, levels }

/-- The levels left of a column, and the number of blocks that end there. -/
def closeLevels (column indent : Int) : List Level → Int × List Level × Nat
  | [] => (indent, [], 0)
  | level :: levels =>
    if column < indent then
      let (indent, levels, count) := closeLevels column level.indent levels
      (indent, levels, if level.isBlock then count + 1 else count)
    else (indent, level :: levels, 0)

/-- Ends the blocks that lie to the right of a column. -/
def endBlocks (l : Lexer) (column : Int) : Lexer :=
  if l.inFlow then l
  else
    let (indent, levels, count) := closeLevels column l.indent l.levels
    let l := { l with indent, levels }
    (List.replicate count Token.blockEnd).foldl push l

/-! ### Keys -/

/-- Notes that a key may begin here. -/
def markKey (l : Lexer) : Lexer :=
  if l.keyAllowed then
    let key : PossibleKey :=
      { possible := true
        required := !l.inFlow && l.indent == l.column && l.inBlock
        number := l.tokens.size
        index := l.cursor.index
        line := l.cursor.line
        column := l.cursor.column }
    { l with keys := key :: l.keys.tail }
  else l

/-- Gives up the innermost possible key, which must not be required. -/
def dropKey (l : Lexer) : Option Lexer :=
  match l.keys with
  | key :: keys =>
    if key.possible && key.required then none
    else some { l with keys := { key with possible := false } :: keys }
  | [] => some l

/-- Gives up a key that is on an earlier line or too long; outside of brackets a key is one line of 1024
characters at most. -/
def expireKey (l : Lexer) (key : PossibleKey) : Option PossibleKey :=
  if key.possible && !l.inFlow && (key.line < l.cursor.line || key.index + 1024 < l.cursor.index) then
    if key.required then none else some { key with possible := false }
  else some key

/-- Gives up all keys that can no longer be completed. -/
def expireKeys (l : Lexer) : Option Lexer := do return { l with keys := ← l.keys.mapM l.expireKey }

/-! ### Blanks -/

/-- Passes blanks, comments and line ends between two tokens. A tab must not indent what is inside of a
block. -/
def passGap : (fuel : Nat) → Lexer → Option Lexer
  | 0, l => some l
  | fuel + 1, l =>
    let c := l.cursor
    match c.peek with
    | none => some l
    | some ch =>
      if ch == '\t' && !l.levels.isEmpty && c.leading && l.column < l.indent then
        match c.passBlanks with
        | some (_, c) => if endsLine c.peek then passGap fuel { l with cursor := c } else none
        | none => none
      else if isBlank ch then passGap fuel { l with cursor := c.pass 1 }
      else if isBreak ch then
        passGap fuel { l with cursor := c.newline, keyAllowed := l.keyAllowed || !l.inFlow }
      else if ch == '#' then passGap fuel { l with cursor := c.passLine }
      else some l

/-- Passes what stands between two tokens. -/
def passToToken (l : Lexer) : Option Lexer := passGap (l.cursor.rest.length + 1) l

/-- Passes the blanks and the comment up to the end of the line. -/
def passToLineEnd (l : Lexer) : Option Lexer :=
  l.cursor.passBlanks.map fun (_, c) => { l with cursor := c }

/-- Passes a character. -/
def take (l : Lexer) (n : Nat) : Lexer := { l with cursor := l.cursor.take n }

/-! ### Directives and documents -/

/-- Ends everything that is open and begins a line on which no key may stand. -/
def endAll (l : Lexer) : Option Lexer := (l.endBlocks (-1)).dropKey.map (·.allowKey false)

/-- Reads the end of the text. -/
def readEnd (l : Lexer) : Option Lexer :=
  if l.keys.any fun key => key.possible && key.required then none
  else
    let l := { l with keys := l.keys.map fun (key : PossibleKey) => { key with possible := false } }
    l.endAll.map fun l => { l.push .streamEnd with done := true }

/-- Reads a directive. -/
def readDirective (l : Lexer) : Option Lexer := do
  let l ← l.endAll
  let (directive, c) ← Yaml.readDirective l.cursor
  return { l.push (.directive directive) with cursor := c }

/-- Reads the mark that starts or ends a document. -/
def readDocumentMark (l : Lexer) (t : Token) : Option Lexer := do
  let l ← l.endAll
  return (l.take 3).push t

/-- Reads the mark that ends a document, after which only a comment may stand on the line. -/
def readDocumentEnd (l : Lexer) : Option Lexer := do
  let l ← (← l.readDocumentMark .documentEnd).passToLineEnd
  if endsLine l.cursor.peek then some l else none

/-! ### Collections -/

/-- Reads an opening bracket. -/
def openFlow (l : Lexer) (t : Token) : Option Lexer := do
  let l := l.markKey.indentOne
  let l := ({ l with keys := {} :: l.keys, flow := l.flow + 1 }.allowKey true).take 1
  let l := if t = .flowMapping then { l with inMapping := true } else { l with pairs := false :: l.pairs }
  return (← l.passToLineEnd).push t

/-- Completes a pair of a sequence between brackets. -/
def endPair (l : Lexer) : Lexer :=
  match l.pairs with
  | true :: pairs => { l with inMapping := false, pairs := false :: pairs }.push .flowMappingEnd
  | _ => l

/-- Reads a closing bracket. -/
def closeFlow (l : Lexer) (t : Token) : Option Lexer := do
  if !l.inFlow then none
  else
    let l ← l.dropKey
    let l := { l with flow := l.flow - 1, keys := l.keys.tail }.allowKey false
    let l := if t = .flowSequenceEnd then { l.endPair with pairs := l.endPair.pairs.tail } else l
    let l ← (l.take 1).passToLineEnd
    let l := if l.inFlow then { l with adjacent := some l.cursor.index } else l
    return l.push t

/-- Reads a comma between brackets. -/
def readFlowEntry (l : Lexer) : Option Lexer := do
  let l ← l.dropKey
  let l ← ((l.allowKey true).endPair.take 1).passToLineEnd
  return l.push .flowEntry

/-- Reads the dash of an item. -/
def readBlockEntry (l : Lexer) : Option Lexer := do
  if l.inFlow || !l.keyAllowed || (l.property == some 0 && l.column == 0 && -1 < l.indent) then none
  else
    let l := (l.take 1).beginBlock l.column none .blockSequence
    let (blanks, c) ← l.cursor.passBlanks
    if blanks.contains '\t' && c.sees '-' && endsWord c.peekSecond then none
    else
      let l := { l with cursor := c }
      let l := if c.peek.any fun ch => isBreak ch || isFlow ch then l.indentOne else l
      let l ← l.dropKey
      return (l.allowKey true).push .blockEntry

/-- Passes blanks, comments and line ends after a question mark, which one of them must follow. -/
def passAfterMark : (fuel : Nat) → (found : Bool) → Lexer → Option Lexer
  | 0, found, l => if found then some l else none
  | fuel + 1, found, l =>
    let c := l.cursor
    if c.sees ' ' then passAfterMark fuel true { l with cursor := c.pass 1 }
    else if c.peek.any isBreak then
      passAfterMark fuel true { l with cursor := c.newline, keyAllowed := l.keyAllowed || !l.inFlow }
    else if c.sees '#' then passAfterMark fuel found { l with cursor := c.passLine }
    else if found then some l
    else none

/-- Reads the question mark that announces a key. -/
def readKey (l : Lexer) : Option Lexer := do
  let begun ←
    if l.inFlow then some { l with inMapping := true }
    else if l.keyAllowed then some (l.beginBlock l.column none .blockMapping)
    else none
  let l ← begun.dropKey
  let l := (l.allowKey (!l.inFlow)).take 1
  let l ← passAfterMark (l.cursor.rest.length + 1) false l
  if l.cursor.sees '\t' then none else some (l.push .key)

/-- Passes a colon. A tab alone does not part it from a word. -/
def passColon (l : Lexer) : Option Lexer :=
  let l := l.take 1
  if l.cursor.sees '\t' then
    match l.cursor.passBlanks with
    | some (blanks, c) =>
      if !blanks.contains ' ' && c.peek.any (fun ch => ch == '-' || isWordChar ch) then none
      else some { l with cursor := c }
    | none => none
  else some l

/-- Reads the colon before a value. What stands before it becomes a key, if it can. -/
def readValue (l : Lexer) : Option Lexer := do
  let line := l.cursor.line
  let start := l.column
  let isPair := !l.pairs.isEmpty && !l.inMapping
  let l := if isPair then { l with pairs := true :: l.pairs.tail } else l
  let l ← l.passColon
  match l.keys with
  | [] => none
  | key :: keys =>
    if key.possible then
      if isPair && key.line < line then none
      else
        let l := l.insert key.number .key
        let l := if isPair then l.insert key.number .flowMapping else l
        let l := (l.beginBlock key.column (some key.number) .blockMapping).indentOne
        return ({ l with keys := { key with possible := false } :: keys }.allowKey false).push .value
    else
      let l := if isPair then l.push .flowMapping else l
      if l.inFlow then return (l.allowKey false).push .value
      else if l.keyAllowed then
        return (((l.beginBlock start none .blockMapping).indentOne).allowKey true).push .value
      else none

/-- Reads the colon before a value that follows without a blank. -/
def readAdjacentValue (l : Lexer) : Option Lexer :=
  if l.adjacent != some l.cursor.index && l.cursor.peekSecond.any fun ch => ch == '[' || ch == '\x7b' then
    none
  else l.readValue

/-! ### Properties and scalars -/

/-- Reads the name of an anchor, or the reference to one. -/
def readAnchor (l : Lexer) (isAlias : Bool) : Option Lexer := do
  let start := l.cursor.column
  let (name, c) ← Yaml.readAnchor l.cursor
  let l := { l.markKey.allowKey false with cursor := c }
  if isAlias then return l.push (.alias name)
  else return { l.push (.anchor name) with property := some start }

/-- Reads a tag. -/
def readTag (l : Lexer) : Option Lexer := do
  let start := l.cursor.column
  let (tag, c) ← Yaml.readTag l.inFlow l.cursor
  return { { l.markKey.allowKey false with cursor := c }.push (.tag tag) with property := some start }

/-- Reads a block scalar. -/
def readBlock (l : Lexer) (literal : Bool) : Option Lexer := do
  let l := (l.markKey.allowKey true).leaveLevels
  let (text, c) ← blockScalar l.indent literal l.cursor
  return { l with cursor := c }.push (.scalar .block text)

/-- Reads a quoted scalar, after which a value may follow its colon without a blank. -/
def readQuoted (l : Lexer) (single : Bool) : Option Lexer := do
  let l := l.markKey.allowKey false
  let (text, c) ← quotedScalar l.indent l.inFlow single l.cursor
  let l ← passToToken { l with cursor := c }
  return { l with adjacent := some l.cursor.index }.push (.scalar .quoted text)

/-- Reads a plain scalar. After a line end a key may begin again. -/
def readPlain (l : Lexer) : Option Lexer := do
  let l := (l.markKey.allowKey false).leaveLevels
  let (text, c) ← plainScalar (l.indent + 1) l.inFlow l.cursor
  return { l with cursor := c, keyAllowed := l.keyAllowed || c.leading }.push (.scalar .plain text)

/-! ### The first pass -/

/-- Reads the token that begins with a character. -/
def readToken (l : Lexer) (ch : Char) : Option Lexer :=
  let wordEnds := endsWord l.cursor.peekSecond
  match ch with
  | '[' => l.openFlow .flowSequence
  | '\x7b' => l.openFlow .flowMapping
  | ']' => l.closeFlow .flowSequenceEnd
  | '\x7d' => l.closeFlow .flowMappingEnd
  | ',' => l.readFlowEntry
  | '-' => if wordEnds then l.readBlockEntry else l.readPlain
  | '?' => if wordEnds then l.readKey else l.readPlain
  | ':' =>
    if wordEnds then l.readValue
    else if l.inFlow && (l.cursor.peekSecond.any isFlow || l.adjacent == some l.cursor.index) then
      l.readAdjacentValue
    else l.readPlain
  | '*' => l.readAnchor true
  | '&' => l.readAnchor false
  | '!' => l.readTag
  | '|' => if l.inFlow then l.readPlain else l.readBlock true
  | '>' => if l.inFlow then l.readPlain else l.readBlock false
  | '\'' => l.readQuoted true
  | '"' => l.readQuoted false
  | '%' | '@' | '\x60' => none
  | _ => l.readPlain

/-- Reads the next token, and what it implies. -/
def next (l : Lexer) : Option Lexer := do
  let l ← (← l.passToToken).expireKeys
  let l := l.endBlocks l.column
  match l.cursor.peek with
  | none => l.readEnd
  | some ch =>
    if ch == '%' && l.cursor.column == 0 then l.readDirective
    else if l.cursor.startsDocument then l.readDocumentMark .documentStart
    else if l.cursor.endsDocument then l.readDocumentEnd
    else if l.column < l.indent && !(l.inFlow && (ch == ']' || ch == '\x7d' || ch == ',')) then none
    else l.readToken ch

/-- The tokens that are certain: those before the first possible key. -/
def settled (l : Lexer) : List Token :=
  let numbers := (l.keys.filter (·.possible)).map (·.number)
  l.tokens.toList.take (numbers.min?.getD l.tokens.size)

/-- The tokens from a state on. Where the text is malformed, those that were certain before are all. -/
def run : (fuel : Nat) → Lexer → List Token
  | 0, l => l.settled
  | fuel + 1, l =>
    if l.done then l.tokens.toList
    else
      match l.next with
      | some l => run fuel l
      | none => l.settled

end Lexer

/-- The tokens of a text; the end of the stream is among them only if the text is well-formed. A byte order
mark at its beginning does not count, and a null character ends it. -/
def tokens (text : String) : List Token :=
  let cs := text.toList.takeWhile (· != '\x00')
  let cs := if cs.head? == some '\uFEFF' then cs.tail else cs
  Lexer.run (cs.length + 2) { cursor := { rest := cs } }

end MessageBox.Yaml

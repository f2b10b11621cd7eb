import MessageBox.Yaml.Token

/-!
# Nodes

The second pass makes the tokens of a document a tree of scalars, sequences and mappings. References are
replaced by what they refer to. A mapping must not have a key twice; under the key `<<` it takes over entries
of other mappings, and its own entries come before those.
-/

namespace MessageBox.Yaml

/-- What a tag says about a scalar. -/
inductive Kind where
  /-- Nothing, there is no tag. -/
  | untagged
  | text
  | null
  | binary
  /-- A kind of value that is neither a text nor null. -/
  | typed
  /-- Something of the author's own. -/
  | custom
  deriving DecidableEq

/-- A text with its form and the kind that its tag gives it. -/
structure Scalar where
  text : String
  style : ScalarStyle := .plain
  kind : Kind := .untagged
  deriving DecidableEq

/-- A node of a document. -/
inductive Node where
  | scalar (scalar : Scalar)
  | sequence (items : List Node)
  | mapping (entries : List (Node × Node))
  deriving BEq, Inhabited

namespace Node

/-- The node where nothing is written. -/
def empty : Node := .scalar { text := "~" }

/-- Whether two nodes are the same key; the form of a scalar does not matter. -/
def sameKey : Node → Node → Bool
  | .scalar a, .scalar b => a.text == b.text && a.kind == b.kind
  | a, b => a == b

/-- Whether a node is the key under which entries are taken over. -/
def isMerge : Node → Bool
  | .scalar s => decide (s = { text := "<<" })
  | _ => false

/-- Whether a scalar is one of the words for nothing. -/
def isNull : Node → Bool
  | .scalar s => s.style == .plain && (s.text.isEmpty || s.text == "~" || s.text.toLower == "null")
  | _ => false

/-- The entries that a mapping takes over from a node. -/
def merged? (n : Node) : Option (List (Node × Node)) :=
  match n with
  | .mapping entries => some entries
  | .sequence items =>
    items.foldlM (fun entries item =>
      match item with
      | .mapping more => some (entries ++ more)
      | _ => none) []
  | .scalar _ => if n.isNull then some [] else none

/-- Whether one of some entries has a key. -/
def hasKey (entries : List (Node × Node)) (key : Node) : Bool := entries.any fun (k, _) => k.sameKey key

/-- Adds an entry, unless its key is there already. -/
def addNew (entries : List (Node × Node)) (entry : Node × Node) : List (Node × Node) :=
  if hasKey entries entry.1 then entries else entries ++ [entry]

/-- The mapping of some entries as they are written; none if a key occurs twice or what is to be taken over is
no mapping. -/
def mapping? (written : List (Node × Node)) : Option Node := do
  let own ← (written.filter fun (k, _) => !k.isMerge).foldlM (fun entries entry =>
    if hasKey entries entry.1 then none else some (entries ++ [entry])) []
  let more ← (written.filter fun (k, _) => k.isMerge).mapM fun (_, v) => v.merged?
  return .mapping (more.flatten.foldl addNew own)

end Node

/-! ### Tags -/

/-- What the beginning of the tags of the standard kinds is. -/
def standardTags : String := "tag:yaml.org,2002:"

/-- What the handles of a document stand for. -/
abbrev Handles := List (String × String)

/-- A tag in full; none if its handle is not declared. -/
def WrittenTag.full? (handles : Handles) (t : WrittenTag) : Option String :=
  match handles.lookup t.handle with
  | some stands => some (stands ++ t.suffix)
  | none =>
    if t.handle = "!!" then some (standardTags ++ t.suffix)
    else if 2 ≤ t.handle.length then none
    else some (t.handle ++ t.suffix)

/-- The kind that a tag gives a scalar. -/
def Kind.ofTag (full : String) : Kind :=
  if full == standardTags ++ "str" then .text
  else if full == standardTags ++ "null" then .null
  else if full == standardTags ++ "binary" then .binary
  else if ["int", "float", "bool", "seq", "map"].any fun name => full == standardTags ++ name then .typed
  else .custom

/-! ### The second pass -/

/-- The nodes that anchors name, the latest first; an anchor names nothing while its node is being read. -/
abbrev Anchors := List (String × Option Node)

/-- What was read, the anchors after it, and the tokens that follow it. -/
abbrev Parsed (α : Type) := α × Anchors × List Token

/-- What stands before a node. -/
structure Properties where
  anchor : Option String := none
  kind : Kind := .untagged

/-- Whether there are any properties. -/
def Properties.given (p : Properties) : Bool := p.anchor.isSome || p.kind != .untagged

/-- Reads the properties of a node: a tag and an anchor, in either order. -/
def properties (handles : Handles) : List Token → Option (Properties × List Token)
  | .anchor name :: .tag t :: rest => (t.full? handles).map fun full => (⟨some name, .ofTag full⟩, rest)
  | .tag t :: .anchor name :: rest => (t.full? handles).map fun full => (⟨some name, .ofTag full⟩, rest)
  | .anchor name :: rest => some (⟨some name, .untagged⟩, rest)
  | .tag t :: rest => (t.full? handles).map fun full => (⟨none, .ofTag full⟩, rest)
  | rest => some ({}, rest)

/-- Whether the next token is one of some. -/
def isNext (ts : List Token) (choices : List Token) : Bool := ts.head?.any choices.contains

/-- Names a node, if it has an anchor. -/
def nameNode (p : Properties) (node : Node) (anchors : Anchors) : Anchors :=
  match p.anchor with
  | some name => (name, some node) :: anchors
  | none => anchors

mutual

/-- Reads a node. Where blocks are allowed it may be one, and where items may stand without indentation it may
be a sequence of them. -/
def node (handles : Handles) :
    (fuel : Nat) → (block bare : Bool) → Anchors → List Token → Option (Parsed Node)
  | 0, _, _, _, _ => none
  | fuel + 1, block, bare, anchors, ts =>
    match ts with
    | .alias name :: rest => (anchors.lookup name).join.map fun n => (n, anchors, rest)
    | ts => do
      let (p, ts) ← properties handles ts
      let anchors := p.anchor.elim anchors fun name => (name, none) :: anchors
      let (n, anchors, ts) ← content handles fuel block bare p anchors ts
      return (n, nameNode p n anchors, ts)

/-- Reads what follows the properties of a node. Nothing needs to follow them. -/
def content (handles : Handles) :
    (fuel : Nat) → (block bare : Bool) → Properties → Anchors → List Token → Option (Parsed Node)
  | 0, _, _, _, _, _ => none
  | fuel + 1, block, bare, p, anchors, ts =>
    match ts with
    | .scalar style text :: rest => some (.scalar ⟨text, style, p.kind⟩, anchors, rest)
    | .flowSequence :: rest => do
      let (items, anchors, ts) ← flowItems handles fuel true anchors rest
      return (.sequence items, anchors, ts)
    | .flowMapping :: rest => do
      let (entries, anchors, ts) ← flowEntries handles fuel true anchors rest
      return (← Node.mapping? entries, anchors, ts)
    | ts =>
      if bare && isNext ts [.blockEntry] then do
        let (items, anchors, ts) ← bareItems handles fuel anchors ts
        return (.sequence items, anchors, ts)
      else if block && isNext ts [.blockSequence] then do
        let (items, anchors, ts) ← blockItems handles fuel anchors ts.tail
        return (.sequence items, anchors, ts)
      else if block && isNext ts [.blockMapping] then do
        let (entries, anchors, ts) ← blockEntries handles fuel anchors ts.tail
        return (← Node.mapping? entries, anchors, ts)
      else if p.given && !ts.isEmpty then some (.scalar ⟨"", .plain, p.kind⟩, anchors, ts)
      else none

/-- Reads the items of a block sequence. -/
def blockItems (handles : Handles) : (fuel : Nat) → Anchors → List Token → Option (Parsed (List Node))
  | 0, _, _ => none
  | fuel + 1, anchors, ts =>
    match ts with
    | .blockEnd :: rest => some ([], anchors, rest)
    | .blockEntry :: rest => do
      let (n, anchors, ts) ← orEmpty handles fuel true false [.blockEntry, .blockEnd] anchors rest
      let (items, anchors, ts) ← blockItems handles fuel anchors ts
      return (n :: items, anchors, ts)
    | _ => none

/-- Reads items without an indentation of their own. -/
def bareItems (handles : Handles) : (fuel : Nat) → Anchors → List Token → Option (Parsed (List Node))
  | 0, _, _ => none
  | fuel + 1, anchors, ts =>
    match ts with
    | .blockEntry :: rest => do
      let ends : List Token := [.blockEntry, .key, .value, .blockEnd]
      let (n, anchors, ts) ← orEmpty handles fuel true false ends anchors rest
      let (items, anchors, ts) ← bareItems handles fuel anchors ts
      return (n :: items, anchors, ts)
    | [] => none
    | ts => some ([], anchors, ts)

/-- Reads the entries of a block mapping. -/
def blockEntries (handles : Handles) :
    (fuel : Nat) → Anchors → List Token → Option (Parsed (List (Node × Node)))
  | 0, _, _ => none
  | fuel + 1, anchors, ts =>
    match ts with
    | .blockEnd :: rest => some ([], anchors, rest)
    | ts => do
      let ends : List Token := [.key, .value, .blockEnd]
      let (k, anchors, ts) ←
        match ts with
        | .key :: rest => orEmpty handles fuel true true ends anchors rest
        | .value :: rest => some (Node.empty, anchors, Token.value :: rest)
        | _ => none
      let (v, anchors, ts) ←
        match ts with
        | .value :: rest => orEmpty handles fuel true true ends anchors rest
        | [] => none
        | ts => some (Node.empty, anchors, ts)
      let (entries, anchors, ts) ← blockEntries handles fuel anchors ts
      return ((k, v) :: entries, anchors, ts)

/-- Reads the items of a sequence between brackets. An item may be a pair, which is a mapping of one entry. -/
def flowItems (handles : Handles) :
    (fuel : Nat) → (first : Bool) → Anchors → List Token → Option (Parsed (List Node))
  | 0, _, _, _ => none
  | fuel + 1, first, anchors, ts =>
    let after : Option (List Token) :=
      match ts with
      | .flowSequenceEnd :: _ => some ts
      | .flowEntry :: rest => if first then some ts else some rest
      | ts => if first then some ts else none
    match after with
    | none => none
    | some (.flowSequenceEnd :: rest) => some ([], anchors, rest)
    | some (.key :: rest) => do
      let (pair, anchors, ts) ← flowPair handles fuel anchors rest
      let (items, anchors, ts) ← flowItems handles fuel false anchors ts
      return (pair :: items, anchors, ts)
    | some ts => do
      let (n, anchors, ts) ← node handles fuel false false anchors ts
      let (items, anchors, ts) ← flowItems handles fuel false anchors ts
      return (n :: items, anchors, ts)

/-- Reads a pair in a sequence between brackets. -/
def flowPair (handles : Handles) : (fuel : Nat) → Anchors → List Token → Option (Parsed Node)
  | 0, _, _ => none
  | fuel + 1, anchors, ts => do
    let (k, anchors, ts) ← orEmpty handles fuel false false [.value, .flowEntry, .flowSequenceEnd] anchors ts
    let (v, anchors, ts) ←
      match ts with
      | .value :: rest => orEmpty handles fuel false false [.flowEntry, .flowSequenceEnd] anchors rest
      | [] => none
      | ts => some (Node.empty, anchors, ts)
    return (← Node.mapping? [(k, v)], anchors, ts)

/-- Reads the entries of a mapping between braces. -/
def flowEntries (handles : Handles) :
    (fuel : Nat) → (first : Bool) → Anchors → List Token → Option (Parsed (List (Node × Node)))
  | 0, _, _, _ => none
  | fuel + 1, first, anchors, ts =>
    let after : Option (List Token) :=
      match ts with
      | .flowMappingEnd :: _ => some ts
      | .flowEntry :: rest => if first then some ts else some rest
      | ts => if first then some ts else none
    match after with
    | none => none
    | some (.flowMappingEnd :: rest) => some ([], anchors, rest)
    | some ts => do
      let ends : List Token := [.value, .flowEntry, .flowMappingEnd]
      let (k, anchors, ts) ←
        match ts with
        | .key :: rest => orEmpty handles fuel false false ends anchors rest
        | .value :: rest => some (Node.empty, anchors, Token.value :: rest)
        | ts => do
          -- A key without a colon has no value, whatever follows it.
          let (k, anchors, ts) ← node handles fuel false false anchors ts
          if isNext ts [.value] then none else some (k, anchors, ts)
      let (v, anchors, ts) ←
        match ts with
        | .value :: rest => orEmpty handles fuel false false [.flowEntry, .flowMappingEnd] anchors rest
        | [] => none
        | ts => some (Node.empty, anchors, ts)
      let (entries, anchors, ts) ← flowEntries handles fuel false anchors ts
      return ((k, v) :: entries, anchors, ts)

/-- Reads a node, or nothing where one of some tokens follows. -/
def orEmpty (handles : Handles) :
    (fuel : Nat) → (block bare : Bool) → (ends : List Token) → Anchors → List Token → Option (Parsed Node)
  | 0, _, _, _, _, _ => none
  | fuel + 1, block, bare, ends, anchors, ts =>
    if isNext ts ends then some (.empty, anchors, ts) else node handles fuel block bare anchors ts

end

/-! ### Documents -/

/-- Reads the directives before a document: at most one version, and each handle at most once. -/
def directives (handles : Handles) (versioned : Bool) : List Token → Option (Handles × List Token)
  | .directive .version :: rest => if versioned then none else directives handles true rest
  | .directive (.handle handle stands) :: rest =>
    if (handles.lookup handle).isSome then none else directives ((handle, stands) :: handles) versioned rest
  | .directive .unknown :: rest => directives handles versioned rest
  | ts => some (handles, ts)

/-- Whether a token is a directive or a mark between documents. -/
def isBoundary : Token → Bool
  | .directive _ | .documentStart | .documentEnd | .streamEnd => true
  | _ => false

/-- Whether a node can begin with a token. -/
def startsNode : Token → Bool
  | .scalar .. | .anchor _ | .tag _ | .flowSequence | .flowMapping | .blockSequence | .blockMapping => true
  | _ => false

/-- Reads the node of a document, and what follows it. A document without content is empty. -/
def root (handles : Handles) (ts : List Token) : Option (Node × List Token) :=
  if ts.head?.any isBoundary then some (.empty, ts)
  else (node handles (6 * ts.length + 6) true false [] ts).map fun (n, _, ts) => (n, ts)

/-- Whether another document follows the mark that starts it. -/
def isDocument (ts : List Token) : Bool := ts.head?.any fun t => isBoundary t || startsNode t

/-- Whether another document follows a document that was ended. What is malformed there counts for nothing. -/
def anotherFollows (ts : List Token) : Bool :=
  match directives [] false (ts.dropWhile (· == .documentEnd)) with
  | some (_, .documentStart :: rest) => isDocument rest
  | some (_, .streamEnd :: _) => false
  | some (_, t :: _) => !(ts.dropWhile (· == .documentEnd)).head?.any isBoundary && startsNode t
  | _ => false

/-- Whether the text may end with what follows its first document: nothing, or something that is no document
at all. -/
def mayFollow : List Token → Bool
  | [] => false
  | .directive _ :: _ => false
  | .documentStart :: rest => !isDocument rest
  | .documentEnd :: rest => !anotherFollows rest
  | _ => true

/-- The node of a text with a single document; a text without documents is empty. -/
def parse (text : String) : Option Node := do
  let ts := (tokens text).dropWhile (· == .documentEnd)
  let (handles, rest) ← directives [] false ts
  let rest ←
    match rest with
    | .documentStart :: rest => some rest
    | rest => if rest.length = ts.length then some rest else none
  let (n, rest) ← root handles rest
  if mayFollow rest then some n else none

end MessageBox.Yaml

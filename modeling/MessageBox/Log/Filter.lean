import MessageBox.Log.Record
import MessageBox.Text.Number
import MessageBox.Text.Space
import MessageBox.Text.Table.Letters

/-!
# Log filters

A filter decides which records reach the log. It is a list of directives, separated by commas; each sets
the least important level that passes, for the sources that start with a text or for all, and perhaps only
for records with a certain field. Of the directives that cover a record the most specific one decides: the
one with the longest text, then one with a field; and of two that are as specific, the later one.
-/

namespace MessageBox.Log

/-- The least important level that passes; none if nothing does. -/
abbrev Limit := Option Level

/-- Whether a level passes a limit. -/
def Limit.passes (limit : Limit) (level : Level) : Bool := limit.any fun l => level.rank ≤ l.rank

/-- The limit of a name, in any ASCII case, or of a number from 0, for nothing, to 5. -/
def Limit.ofName? (name : String) : Option Limit :=
  match Text.word64? name.toList with
  | some n => ([none, some .error, some .warn, some .info, some .debug, some .trace] : List Limit)[n]?
  | none =>
    match name.toLower with
    | "off" => some none
    | "error" => some (some .error)
    | "warn" => some (some .warn)
    | "info" => some (some .info)
    | "debug" => some (some .debug)
    | "trace" => some (some .trace)
    | _ => none

/-- A limit for the records that a directive covers. -/
structure Directive where
  /-- What their source starts with. -/
  source : String
  limit : Limit
  /-- A field they must have. -/
  field : Option String := none
  /-- Covers only records inside of a span. No record is, since spans are never opened here. -/
  spanned : Bool := false
  deriving DecidableEq

namespace Directive

/-- The names of a record's fields; its message is one of them. -/
def fieldNames (r : Record) : List String := "message" :: r.fields.map (·.1)

/-- Whether a directive is about a record. -/
def covers (d : Directive) (r : Record) : Bool :=
  !d.spanned && d.source.toList.isPrefixOf r.source.toList && d.field.all (fieldNames r).contains

/-- Whether a directive is at most as specific as another. -/
def le (d e : Directive) : Bool :=
  if d.source.length ≠ e.source.length then d.source.length < e.source.length
  else
    match d.field, e.field with
    | none, _ => true
    | some _, none => false
    | some a, some b => a ≤ b

/-! ### Reading a directive -/

/-- Where in a directive a reader stands; each state that reads a part knows where the part begins. -/
inductive Place where
  | start
  /-- In a level or a source. -/
  | name (start : Nat)
  /-- In the name of a span. -/
  | span (start : Nat)
  /-- In the field of a span. -/
  | field (start : Nat)
  /-- After the field of a span. -/
  | fieldEnd
  /-- After a span. -/
  | spanEnd
  /-- In the level after an equals sign. -/
  | level (start : Nat)

/-- What is read of a directive. -/
structure Draft where
  place : Place := .start
  source : String := ""
  span : Option String := none
  field : Option String := none

/-- The part of a text from one index up to another. -/
def part (text : List Char) (start stop : Nat) : String :=
  String.ofList ((text.drop start).take (stop - start))

/-- Whether a directive may start with this character. -/
def startsName (c : Char) : Bool := c == '-' || c == ':' || c == '_' || Text.letters.has c

/-- Reads the character at an index; the parts are cut out of `text`. -/
def Draft.read (text : List Char) (d : Draft) : Char × Nat → Option Draft
  | (c, i) =>
    match d.place with
    | .start =>
      if c = '[' then some { d with place := .span (i + 1) }
      else if startsName c then some { d with place := .name i }
      else none
    | .name start =>
      if c = '=' then some { d with source := part text start i, place := .level (i + 1) }
      else if c = '[' then some { d with source := part text start i, place := .span (i + 1) }
      else some d
    | .span start =>
      if c = ']' then some { d with span := some (part text start i), place := .spanEnd }
      else if c = '\x7b' then
        let name := part text start i
        some { d with span := if name.isEmpty then none else some name, place := .field (i + 1) }
      else some d
    | .field start =>
      if c = '\x7d' then
        let field := part text start i
        if field.isEmpty then none else some { d with field := some field, place := .fieldEnd }
      else some d
    | .fieldEnd => if c = ']' then some { d with place := .spanEnd } else none
    | .spanEnd => if c = '=' then some { d with place := .level (i + 1) } else none
    | .level _ => some d

/-- The directive of a draft under a limit. A field that must have a certain value can only be found in a
span. -/
def Draft.close (d : Draft) (limit : Limit) : Directive :=
  { source := d.source
    limit
    field := d.field
    spanned := d.span.isSome || d.field.any fun f => f.toList.contains '=' }

/-- Reads a directive: a limit, a source, or a source and a span with their limit; without a limit everything
passes. Blanks around the text do not count when its shape is read, and yet the parts are cut out of the text
with its blanks. -/
def ofText? (text : String) : Option Directive := do
  let cs := text.toList
  let d ← (Text.trim cs).zipIdx.foldlM (Draft.read cs) {}
  match d.place with
  | .name start =>
    let name := String.ofList (cs.drop start)
    match Limit.ofName? name with
    | some limit => some ⟨"", limit, none, false⟩
    | none => some ⟨name, some .trace, none, false⟩
  | .level start =>
    let name := String.ofList (cs.drop start)
    if name.isEmpty then some (d.close (some .trace)) else (Limit.ofName? name).map d.close
  | .spanEnd => some (d.close (some .trace))
  | _ => none

end Directive

/-- Which records reach the log. -/
structure Filter where
  directives : List Directive
  deriving DecidableEq

namespace Filter

/-- The directives of a text, those that can be read and those that cannot. -/
def readAll (text : String) : List (Option Directive) :=
  ((text.splitOn ",").filter (!·.isEmpty)).map Directive.ofText?

/-- A filter of some directives; without any only errors pass. -/
def ofDirectives (directives : List Directive) : Filter :=
  if directives.isEmpty then ⟨[⟨"", some .error, none, false⟩]⟩ else ⟨directives⟩

/-- The filter of a text whose directives can all be read. -/
def ofText? (text : String) : Option Filter := ((readAll text).mapM id).map ofDirectives

/-- The filter of a text, of which only the directives that can be read count. -/
def ofText (text : String) : Filter := ofDirectives ((readAll text).filterMap id)

/-- The text of the filter that limits all parts of the program to a level. -/
def defaultText (level : String) : String := "modalbox=" ++ level ++ ",modalbox_core=" ++ level

/-- The directive that decides about a record. -/
def deciding? (f : Filter) (r : Record) : Option Directive :=
  (f.directives.filter (·.covers r)).foldl later none
where
  /-- The more specific of two directives, or the second if they are as specific. -/
  later (best : Option Directive) (d : Directive) : Option Directive :=
    match best with
    | some b => if b.le d then some d else some b
    | none => some d

/-- Whether a record reaches the log. -/
def passes (f : Filter) (r : Record) : Bool := (f.deciding? r).any fun d => d.limit.passes r.level

/-- The filter of a run: the one asked for if it can be read, else that of the level. -/
def choose (wanted : Option String) (level : String) : Filter :=
  (wanted.bind ofText?).getD (ofText (defaultText level))

end Filter

end MessageBox.Log

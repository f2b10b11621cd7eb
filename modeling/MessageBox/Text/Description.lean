import MessageBox.Text.Quoted

/-!
# Descriptions of values

A description can be set on one line or over several, indented lines. Both forms are built together,
so that they always describe the same value.
-/

namespace MessageBox

/-- A value described on one line and, with each part on a line of its own, over several. -/
structure Description where
  inline : String
  lines : List String

namespace Description

/-- The several-line form as one text. -/
def block (d : Description) : String := "\n".intercalate d.lines

/-- A part on lines of its own: one level deeper, with a comma after it. -/
def part (label : String) (d : Description) : List String :=
  let lines :=
    match d.lines with
    | [] => [label]
    | first :: rest => (label ++ first) :: rest
  (lines.dropLast ++ [lines.getLastD "" ++ ","]).map ("    " ++ ·)

/-- A single word. -/
def word (text : String) : Description := ⟨text, [text]⟩

/-- A quoted text. -/
def quoted (text : String) : Description := word (Text.quote text)

/-- A truth value. -/
def flag (b : Bool) : Description := word (if b then "true" else "false")

/-- A number. -/
def number (n : Nat) : Description := word (toString n)

/-- A list of values. -/
def list (items : List Description) : Description where
  inline := "[" ++ ", ".intercalate (items.map (·.inline)) ++ "]"
  lines := if items.isEmpty then ["[]"] else ["["] ++ items.flatMap (part "") ++ ["]"]

/-- An optional value. -/
def optional : Option Description → Description
  | none => word "None"
  | some d => ⟨"Some(" ++ d.inline ++ ")", ["Some("] ++ part "" d ++ [")"]⟩

/-- A named record; `more` says that it has parts the description leaves out. -/
def record (name : String) (fields : List (String × Description)) (more : Bool) : Description where
  inline :=
    let shown := fields.map fun (label, d) => label ++ ": " ++ d.inline
    name ++ " \x7b " ++ ", ".intercalate (if more then shown ++ [".."] else shown) ++ " \x7d"
  lines :=
    [name ++ " \x7b"] ++ (fields.flatMap fun (label, d) => part (label ++ ": ") d)
      ++ (if more then ["    .."] else []) ++ ["\x7d"]

end Description

end MessageBox

import MessageBox.Terminal.Key

/-!
# Reading keys

A terminal sends characters; keys without a character of their own are sent as an escape and what follows it.
-/

namespace MessageBox.Terminal

/-- The key that an escape, a bracket and this letter stand for. -/
def bracketKey? : Char → Option Input
  | 'A' => some (.key { code := .up })
  | 'B' => some (.key { code := .down })
  | 'C' => some (.key { code := .right })
  | 'D' => some (.key { code := .left })
  | 'H' => some (.key { code := .home })
  | 'F' => some (.key { code := .last })
  | 'Z' => some (.key { code := .backTab, shift := true })
  | 'I' => some .focus
  | _ => none

/-- The key of a single character. -/
def plainKey : Char → Key
  | '\n' => { code := .enter }
  | '\r' => { code := .enter }
  | '\t' => { code := .tab }
  | '\x1b' => { code := .escape }
  | '\x7f' => { code := .backspace }
  | c => { code := .char c }

/-- What a terminal has sent. -/
def decode : List Char → List Input
  | [] => []
  | '\x1b' :: '[' :: '3' :: '~' :: rest => .key { code := .delete } :: decode rest
  | '\x1b' :: '[' :: c :: rest =>
    match bracketKey? c with
    | some input => input :: decode rest
    | none => .key (plainKey '\x1b') :: decode ('[' :: c :: rest)
  | c :: rest => .key (plainKey c) :: decode rest

end MessageBox.Terminal

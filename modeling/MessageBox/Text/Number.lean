/-!
# Reading numbers

Digits of a base, and the words that numbers have to fit in.
-/

namespace MessageBox.Text

/-- The largest 64-bit word. -/
def maxWord64 : Nat := 0xFFFFFFFFFFFFFFFF

/-- The value of a digit in a base. -/
def digit? (base : Nat) (c : Char) : Option Nat :=
  let value :=
    if '0' ≤ c ∧ c ≤ '9' then some (c.toNat - '0'.toNat)
    else if 'a' ≤ c ∧ c ≤ 'z' then some (c.toNat - 'a'.toNat + 10)
    else if 'A' ≤ c ∧ c ≤ 'Z' then some (c.toNat - 'A'.toNat + 10)
    else none
  value.filter (· < base)

/-- The number some digits of a base stand for, after those before them. -/
def digitsFrom (base : Nat) (before : Nat) : List Char → Option Nat
  | [] => some before
  | c :: rest => (digit? base c).bind fun d => digitsFrom base (before * base + d) rest

/-- The number of one or more digits of a base. -/
def digits? (base : Nat) (cs : List Char) : Option Nat :=
  if cs.isEmpty then none else digitsFrom base 0 cs

/-- Drops a plus sign. -/
def dropPlus : List Char → List Char
  | '+' :: rest => rest
  | cs => cs

/-- A 64-bit number in decimal digits, perhaps with a plus sign. -/
def word64? (cs : List Char) : Option Nat := (digits? 10 (dropPlus cs)).filter (· ≤ maxWord64)

end MessageBox.Text

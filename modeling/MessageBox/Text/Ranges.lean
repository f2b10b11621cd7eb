/-!
# Sets of characters

A set of characters is an array of ranges in ascending order. A character is looked up by halving the part
of the array that may hold its range.
-/

namespace MessageBox.Text

/-- Ranges of code points, first and last included, in ascending order. -/
abbrev Ranges := Array (Nat × Nat)

namespace Ranges

/-- Whether one of the ranges from index `lo` up to, not including, `hi` holds a code point. -/
def searchFrom (rs : Ranges) (n : Nat) : (fuel lo hi : Nat) → Bool
  | 0, _, _ => false
  | fuel + 1, lo, hi =>
    if lo < hi then
      let middle := (lo + hi) / 2
      match rs[middle]? with
      | none => false
      | some (first, last) =>
        if n < first then searchFrom rs n fuel lo middle
        else if last < n then searchFrom rs n fuel (middle + 1) hi
        else true
    else false

/-- Whether a character is in the set; each step of the search halves what is left. -/
def has (rs : Ranges) (c : Char) : Bool := rs.searchFrom c.toNat rs.size 0 rs.size

end Ranges

end MessageBox.Text

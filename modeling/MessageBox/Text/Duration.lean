/-!
# Durations

How a span of milliseconds is written: in whole milliseconds below a second, otherwise in seconds with
the decimals it needs.
-/

namespace MessageBox.Text

/-- The decimals of a number of thousandths, without trailing zeros. -/
def thousandths (n : Nat) : String :=
  let digits := ((toString (1000 + n)).toList.drop 1).reverse.dropWhile (· == '0')
  if digits.isEmpty then "" else "." ++ String.ofList digits.reverse

/-- The text of a span of milliseconds. -/
def duration (ms : Nat) : String :=
  if ms = 0 then "0ns"
  else if ms < 1000 then s!"{ms}ms"
  else toString (ms / 1000) ++ thousandths (ms % 1000) ++ "s"

end MessageBox.Text

/-!
# Button slots

A dialog has at most one button in each of three positions, ordered positive, neutral, negative.
-/

namespace MessageBox

/-- Position of a button in a dialog. -/
inductive Slot where
  | positive
  | neutral
  | negative
  deriving DecidableEq, Inhabited

namespace Slot

/-- The name of a slot in descriptions. -/
def text : Slot → String
  | .positive => "Positive"
  | .neutral => "Neutral"
  | .negative => "Negative"

/-- The place of a slot in the button order. -/
def rank : Slot → Nat
  | .positive => 0
  | .neutral => 1
  | .negative => 2

/-- Slots are told apart by their ranks. -/
theorem rank_injective {s t : Slot} (h : s.rank = t.rank) : s = t := by
  cases s <;> cases t <;> simp_all [rank]

/-- The slot and the result code of each action of a dialog with `count` actions, in action order. -/
def layout : (count : Nat) → List (Slot × Nat)
  | 0 => []
  | 1 => [(.positive, 1)]
  | 2 => [(.positive, 1), (.negative, 2)]
  | _ => [(.positive, 1), (.neutral, 2), (.negative, 3)]

end Slot

end MessageBox

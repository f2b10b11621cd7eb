import Mathlib.Tactic.Lemma
import MessageBox.Terminal.Geometry

/-!
# Rectangles on the screen

The sums and differences of words that place a dialog are taken once more with a check of each (`Rect.centered?`,
`modalHeight?`): a result that is no word is refused. In an area of the screen nothing is refused, so the unchecked ones
are exact, and the dialog stands in the middle of the area (`centered_in_area`).
-/

namespace MessageBox.Terminal

variable {a b width height : UInt16} {area : Rect} {largest : Nat}

/-! ### Words as numbers -/

/-- The largest word is 65535. -/
lemma toNat_maxWord : maxWord.toNat = 65535 := rfl

/-- No word is larger than the largest one. -/
lemma toNat_le_maxWord (a : UInt16) : a.toNat ≤ maxWord.toNat := Nat.le_of_lt_succ a.toNat_lt

/-- A sum that is not too large for a word is exact. -/
lemma toNat_add (h : a.toNat + b.toNat ≤ maxWord.toNat) : (a + b).toNat = a.toNat + b.toNat := by
  rw [toNat_maxWord] at h
  rw [UInt16.toNat_add, Nat.mod_eq_of_lt (by omega)]

/-- The smaller of two words is the one with the smaller value. -/
lemma toNat_min (a b : UInt16) : (min a b).toNat = min a.toNat b.toNat := by
  show (if a ≤ b then a else b).toNat = _
  split
  case isTrue h => exact (Nat.min_eq_left (UInt16.le_iff_toNat_le.1 h)).symm
  case isFalse h =>
    rw [UInt16.le_iff_toNat_le] at h
    omega

/-- A difference of words is that of their values, and zero instead of a negative one. -/
lemma toNat_minus (a b : UInt16) : (minus a b).toNat = a.toNat - b.toNat := by
  unfold minus
  split
  case isTrue h => exact UInt16.toNat_sub_of_le a b h
  case isFalse h =>
    rw [UInt16.le_iff_toNat_le] at h
    show 0 = _
    omega

/-- What is left up to the largest word is exact. -/
lemma toNat_room (a : UInt16) : (maxWord - a).toNat = maxWord.toNat - a.toNat :=
  UInt16.toNat_sub_of_le _ _ (UInt16.le_iff_toNat_le.2 (toNat_le_maxWord a))

/-- A sum of words is that of their values, or the largest one instead of a larger one. -/
lemma toNat_plus (a b : UInt16) : (plus a b).toNat = min (a.toNat + b.toNat) maxWord.toNat := by
  have ha := toNat_le_maxWord a
  have hroom := toNat_room a
  unfold plus
  split
  case isTrue h =>
    rw [UInt16.le_iff_toNat_le] at h
    rw [toNat_add (by omega)]
    omega
  case isFalse h =>
    rw [UInt16.le_iff_toNat_le] at h
    omega

/-! ### Checked operations -/

/-- The sum of two words, unless it is larger than the largest one. -/
def add? (a b : UInt16) : Option UInt16 := if a.toNat + b.toNat ≤ maxWord.toNat then some (a + b) else none

/-- The sum of two counts, unless it is larger than the largest one. -/
def sum? (largest m n : Nat) : Option Nat := if m + n ≤ largest then some (m + n) else none

/-- The difference of two counts, unless it is negative. -/
def difference? (m n : Nat) : Option Nat := if n ≤ m then some (m - n) else none

/-- The quotient of two counts, unless the divisor is zero. -/
def quotient? (m n : Nat) : Option Nat := if n = 0 then none else some (m / n)

/-- The height of a dialog with every operation checked; `largest` is the largest count. -/
def modalHeight? (largest : Nat) (message : String) : Option UInt16 := do
  let columns ← difference? modalWidth.toNat 4
  let full ← quotient? message.length columns
  let rows ← sum? largest full 1
  return plus modalMinHeight (if rows ≤ maxWord.toNat then .ofNat rows else maxWord)

namespace Rect

/-- A rectangle in the middle of an area with every sum checked. -/
def centered? (width height : UInt16) (area : Rect) : Option Rect := do
  let x ← add? area.x (minus area.width width / 2)
  let y ← add? area.y (minus area.height height / 2)
  return make x y (min width area.width) (min height area.height)

/-- A rectangle that ends within the positions there are. -/
structure Fits (r : Rect) : Prop where
  right : r.x.toNat + r.width.toNat ≤ maxWord.toNat
  bottom : r.y.toNat + r.height.toNat ≤ maxWord.toNat

end Rect

/-- A rectangle is cut so that it fits. -/
lemma Rect.make_fits (x y width height : UInt16) : (make x y width height).Fits := by
  have hx := toNat_le_maxWord x
  have hy := toNat_le_maxWord y
  constructor
  · show x.toNat + (min width (maxWord - x)).toNat ≤ maxWord.toNat
    rw [toNat_min, toNat_room]
    omega
  · show y.toNat + (min height (maxWord - y)).toNat ≤ maxWord.toNat
    rw [toNat_min, toNat_room]
    omega

/-- Some cells in the middle of others: the margins before and after them differ by at most one cell. -/
def InMiddle (start total first length : Nat) : Prop :=
  ∃ before after, first = start + before ∧ start + total = first + length + after ∧
    before ≤ after + 1 ∧ after ≤ before + 1

/-! ### The height of a dialog -/

/-- The height of a dialog as a number. -/
lemma toNat_modalHeight (message : String) :
    (modalHeight message).toNat = min (message.length / 56 + 9) maxWord.toNat := by
  show (plus modalMinHeight (if message.length / 56 + 1 ≤ maxWord.toNat then .ofNat (message.length / 56 + 1)
    else maxWord)).toNat = _
  have hmin : modalMinHeight.toNat = 8 := rfl
  rw [toNat_plus, hmin]
  split
  case isTrue h =>
    rw [toNat_maxWord] at h
    rw [UInt16.toNat_ofNat', Nat.mod_eq_of_lt (by omega)]
    omega
  case isFalse h => omega

/-- No operation fails that computes the height of a dialog, if the length of the message is a count. -/
lemma modalHeight?_eq {message : String} (hlargest : 0 < largest) (hmessage : message.length ≤ largest) :
    modalHeight? largest message = some (modalHeight message) := by
  have hrows : sum? largest (message.length / 56) 1 = some (message.length / 56 + 1) := if_pos (by omega)
  show (sum? largest (message.length / 56) 1).bind _ = _
  rw [hrows]
  rfl

/-! ### A dialog in the middle of an area -/

/-- Half of what is left of a word is exact. -/
lemma toNat_half_minus (a b : UInt16) : (minus a b / 2).toNat = (a.toNat - b.toNat) / 2 := by
  rw [UInt16.toNat_div, toNat_minus]
  rfl

/-- Along a side of an area, the place of a dialog is a word, and the dialog is in the middle. -/
lemma inMiddle_centered {start total : UInt16} (h : start.toNat + total.toNat ≤ maxWord.toNat) (size : UInt16) :
    add? start (minus total size / 2) = some (start + minus total size / 2) ∧
    InMiddle start.toNat total.toNat (start + minus total size / 2).toNat (min size total).toNat := by
  have hhalf := toNat_half_minus total size
  have hsum : start.toNat + (minus total size / 2).toNat ≤ maxWord.toNat := by omega
  refine ⟨if_pos hsum, (total.toNat - size.toNat) / 2, total.toNat - size.toNat - (total.toNat - size.toNat) / 2, ?_⟩
  rw [toNat_add hsum, toNat_min, hhalf]
  omega

/-- A rectangle is not cut where it ends within an area that fits. -/
lemma min_room {start total first length : UInt16} (h : start.toNat + total.toNat ≤ maxWord.toNat)
    (hm : InMiddle start.toNat total.toNat first.toNat length.toNat) : min length (maxWord - first) = length := by
  obtain ⟨before, after, hfirst, hend, -⟩ := hm
  rw [← UInt16.toNat_inj, toNat_min, toNat_room]
  omega

/-- A dialog is as large as asked for, as far as its area is. -/
lemma centered_size (harea : area.Fits) (width height : UInt16) :
    (Rect.centered width height area).width = min width area.width ∧
    (Rect.centered width height area).height = min height area.height :=
  ⟨min_room harea.right (inMiddle_centered harea.right width).2,
    min_room harea.bottom (inMiddle_centered harea.bottom height).2⟩

/-- For counts of at least 16 bits: the height of a dialog is its estimate, cut at the largest word, and no operation of
it leaves its range, whatever the length of the message. In an area that ends within the positions there are, no
operation leaves its range either when a dialog is placed. Its rectangle is as large as asked for, as far as the
area is, and stands in the middle of it. -/
theorem centered_in_area {message : String} (hlargest : maxWord.toNat ≤ largest) (hmessage : message.length ≤ largest)
    (harea : area.Fits) (width height : UInt16) :
    modalHeight? largest message = some (modalHeight message) ∧
    (modalHeight message).toNat = min (message.length / 56 + 9) maxWord.toNat ∧
    Rect.centered? width height area = some (Rect.centered width height area) ∧
    (Rect.centered width height area).width = min width area.width ∧
    (Rect.centered width height area).height = min height area.height ∧
    InMiddle area.x.toNat area.width.toNat (Rect.centered width height area).x.toNat
      (Rect.centered width height area).width.toNat ∧
    InMiddle area.y.toNat area.height.toNat (Rect.centered width height area).y.toNat
      (Rect.centered width height area).height.toNat := by
  have hpos : 0 < largest := Nat.lt_of_lt_of_le (by decide) hlargest
  obtain ⟨hx, hmiddleX⟩ := inMiddle_centered harea.right width
  obtain ⟨hy, hmiddleY⟩ := inMiddle_centered harea.bottom height
  obtain ⟨hwidth, hheight⟩ := centered_size harea width height
  refine ⟨modalHeight?_eq hpos hmessage, toNat_modalHeight message, ?_, hwidth, hheight, ?_, ?_⟩
  · rw [Rect.centered?, hx, hy]
    rfl
  · rw [hwidth]
    exact hmiddleX
  · rw [hheight]
    exact hmiddleY

/-- An area in the last corner of all positions, where only 35 columns and five rows are left. -/
def farCorner : Rect := .make 65500 65530 41 30

/-- In the far corner, a dialog takes all there is, and two columns have 16 columns before them and 17 after them. -/
theorem centered_in_area_farCorner :
    modalHeight? 65535 "Proceed?" = some 9 ∧
    Rect.centered? modalWidth 9 farCorner = some farCorner ∧
    (Rect.centered 2 1 farCorner).x = 65516 ∧
    InMiddle 65500 35 65516 2 := by
  have hfits : farCorner.Fits := Rect.make_fits 65500 65530 41 30
  have hmessage : "Proceed?".length ≤ 65535 := by decide
  obtain ⟨hheight, -, hplace, -⟩ := centered_in_area (Nat.le_refl 65535) hmessage hfits modalWidth 9
  obtain ⟨-, -, -, -, -, hmiddle, -⟩ := centered_in_area (Nat.le_refl 65535) hmessage hfits 2 1
  exact ⟨hheight.trans (by decide), hplace.trans (by decide), by decide, hmiddle⟩

end MessageBox.Terminal

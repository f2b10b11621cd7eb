import Mathlib.Algebra.Order.BigOperators.Group.List
import Mathlib.Algebra.Order.Floor.Div
import MessageBox.Proofs.Geometry
import MessageBox.Terminal.Drawing

/-!
# Rows for a message

A message needs a row for each of its lines, and more for a line that is longer than the inside of a dialog is wide
(`neededRows`). The height of a dialog is estimated from the number of characters alone. With its slack of two rows the
estimate covers three lines, and each further line may be missing; a message with more lines than are estimated loses
rows on every screen (`height_covers_rows`). How a text is wrapped and how the inside of a dialog is divided matters
only as far as `Typesetting` says.
-/

namespace MessageBox

namespace Text

/-! ### Lines of a text -/

/-- Each character of a text is in one of its pieces, or is a line feed between two of them. -/
lemma length_pieces (cs : List Char) : ((pieces cs).map List.length).sum + (pieces cs).length = cs.length + 1 := by
  induction cs with
  | nil => rfl
  | cons c cs ih =>
    rw [pieces]
    split
    · next hnil =>
      rw [hnil] at ih
      simp at ih
    · next piece rest hcons =>
      rw [hcons] at ih
      split <;> simp only [List.map_cons, List.sum_cons, List.length_cons, List.length_nil] at ih ⊢ <;> omega

/-- Every text has a piece. -/
lemma length_pieces_pos (cs : List Char) : 0 < (pieces cs).length := by
  refine List.length_pos_iff.2 fun hnil => ?_
  have hlength := length_pieces cs
  rw [hnil] at hlength
  cases hlength

/-- Only an empty piece at the end of a text is not a line of it. -/
lemma length_pieces_le_lines (cs : List Char) : (pieces cs).length ≤ (lines cs).length + 1 := by
  rw [lines, List.length_append, List.length_map, List.length_dropLast]
  omega

/-- A wrapped line has a row. -/
lemma Wrapping.finish_ne_nil (w : Wrapping) : w.finish ≠ [] := by
  unfold finish
  extract_lets blankRow last rows
  split
  · exact List.cons_ne_nil _ _
  · next hrows => exact fun hnil => hrows (List.isEmpty_iff.2 hnil)

/-- A wrapped text has a row for each of its lines. -/
lemma length_lines_le_wrap {limit : Nat} (h : limit ≠ 0) (text : String) :
    (lines text.toList).length ≤ (wrap limit text).length := by
  rw [wrap, List.length_flatMap]
  refine Nat.le_trans (Nat.le_of_eq ?_) (List.length_le_sum_of_one_le _ ?_)
  · rw [List.length_map]
  · intro n hn
    obtain ⟨line, -, rfl⟩ := List.mem_map.1 hn
    rw [wrapLine, if_neg h]
    exact List.length_pos_iff.2 (Wrapping.finish_ne_nil _)

end Text

namespace Terminal

/-- The columns inside the border of a dialog. -/
def innerWidth : Nat := modalWidth.toNat - 2

/-- The rows that a line of so many characters needs, at least one. -/
def lineRows (characters : Nat) : Nat := max 1 (characters ⌈/⌉ innerWidth)

/-- The rows that a message needs, each of its lines for itself. -/
def neededRows (message : String) : Nat :=
  ((Text.pieces message.toList).map fun line => lineRows line.length).sum

/-! ### What a message needs -/

/-- A line needs one row more than its characters fill at most. -/
lemma mul_lineRows_le (n : Nat) : 58 * lineRows n ≤ 58 + n := by
  have hwidth : innerWidth = 58 := rfl
  rw [lineRows, hwidth, Nat.ceilDiv_eq_add_pred_div]
  omega

/-- A message needs a row for each of its lines. -/
lemma length_pieces_le_neededRows (message : String) :
    (Text.pieces message.toList).length ≤ neededRows message := by
  refine Nat.le_trans (Nat.le_of_eq ?_) (List.length_le_sum_of_one_le _ ?_)
  · rw [List.length_map]
  · intro n hn
    obtain ⟨line, -, rfl⟩ := List.mem_map.1 hn
    exact Nat.le_max_left ..

/-- Some lines need one row each more than their characters fill at most. -/
lemma mul_sum_lineRows_le (lines : List (List Char)) :
    58 * (lines.map fun line => lineRows line.length).sum ≤ 58 * lines.length + (lines.map List.length).sum := by
  induction lines with
  | nil => rfl
  | cons line lines ih =>
    have hline := mul_lineRows_le line.length
    simp only [List.map_cons, List.sum_cons, List.length_cons]
    omega

/-- A message needs a row for each of its lines, and no more beside these than its characters fill. -/
lemma neededRows_le (message : String) :
    neededRows message ≤ (Text.pieces message.toList).length + message.length / 58 := by
  have hsum := mul_sum_lineRows_le (Text.pieces message.toList)
  have hcharacters := Text.length_pieces message.toList
  have hpos := Text.length_pieces_pos message.toList
  have hlength : message.toList.length = message.length := String.length_toList
  rw [neededRows]
  omega

/-! ### What a dialog has -/

/-- The inside of the dialog of a message, in the middle of an area. -/
def inside (message : String) (area : Rect) : Rect := (Rect.centered modalWidth (modalHeight message) area).inner

/-- How texts are set in the inside of a dialog, as far as the rows of a message depend on it. -/
structure Typesetting where
  /-- The rows that are left for the message in an inside of so many rows. -/
  messageRows : Nat → Nat
  /-- The rows that a text is wrapped to within so many columns. -/
  wrappedRows : Nat → String → Nat
  /-- The buttons, the help and two rows of space have a row each. -/
  messageRows_add (height : Nat) : 5 ≤ height → messageRows height + 4 = height
  /-- Each line of a text begins a row, but for an empty one at its end. -/
  lines_le (limit : Nat) (text : String) :
    limit ≠ 0 → (Text.pieces text.toList).length ≤ wrappedRows limit text + 1

/-- The way dialogs are drawn. -/
def drawn : Typesetting where
  messageRows height := (Rows.ofHeight height).messageRows
  wrappedRows limit text := (Text.wrap limit text).length
  messageRows_add height h := by
    match height, h with
    | height + 5, _ => rfl
  lines_le _ text h :=
    (Text.length_pieces_le_lines text.toList).trans (Nat.succ_le_succ (Text.length_lines_le_wrap h text))

/-- The rows that the dialog of a message has for it. -/
def Typesetting.givenRows (ts : Typesetting) (message : String) (area : Rect) : Nat :=
  ts.messageRows (inside message area).height.toNat

/-- An area that is large enough for the dialog of a message. -/
structure Holds (area : Rect) (message : String) : Prop where
  fits : area.Fits
  width_le : modalWidth ≤ area.width
  height_le : modalHeight message ≤ area.height

variable {message : String} {area : Rect} (ts : Typesetting)

/-- The border takes two columns and two rows, if there are as many. -/
lemma toNat_inner (r : Rect) :
    r.inner.width.toNat = r.width.toNat - 2 ∧ r.inner.height.toNat = r.height.toNat - 2 :=
  ⟨toNat_minus r.width 2, toNat_minus r.height 2⟩

/-- An area that is large enough leaves the inside of a dialog as it is without its border. -/
lemma Holds.toNat_inside (h : Holds area message) :
    (inside message area).width.toNat = innerWidth ∧
    (inside message area).height.toNat = (modalHeight message).toNat - 2 := by
  obtain ⟨hwidth, hheight⟩ := centered_size h.fits modalWidth (modalHeight message)
  obtain ⟨hwide, hhigh⟩ := toNat_inner (Rect.centered modalWidth (modalHeight message) area)
  rw [hwidth, toNat_min, Nat.min_eq_left (UInt16.le_iff_toNat_le.1 h.width_le)] at hwide
  rw [hheight, toNat_min, Nat.min_eq_left (UInt16.le_iff_toNat_le.1 h.height_le)] at hhigh
  exact ⟨hwide, hhigh⟩

/-- The border takes two rows of a dialog, and its buttons, its help and the spaces take four. -/
lemma Holds.givenRows_add (h : Holds area message) :
    ts.givenRows message area + 6 = (modalHeight message).toNat := by
  have hinside := h.toNat_inside.2
  have hmodal := toNat_modalHeight message
  have hmax := toNat_maxWord
  have hrows := ts.messageRows_add (inside message area).height.toNat (by omega)
  rw [Typesetting.givenRows]
  omega

/-- Where a message needs no more rows than a word can count: the height of its dialog covers its rows, and six more,
just if it needs at most three rows beside those that are estimated for its characters. So it covers them if the
message has at most three lines, and else one may be missing for each line beyond the third. It does not cover them if
the lines alone are more than what is estimated. On a screen that is large enough, the message has all rows but
these six, however texts are set, and so the text as it is wrapped is cut off if there are still more lines. -/
theorem height_covers_rows (hwords : neededRows message + 6 ≤ maxWord.toNat) :
    let lines := (Text.pieces message.toList).length
    (neededRows message + 6 ≤ (modalHeight message).toNat ↔ neededRows message ≤ message.length / 56 + 3) ∧
    (lines ≤ 3 → neededRows message + 6 ≤ (modalHeight message).toNat) ∧
    neededRows message + 6 ≤ (modalHeight message).toNat + (lines - 3) ∧
    (message.length / 56 + 3 < lines → (modalHeight message).toNat < neededRows message + 6) ∧
    ∀ area : Rect, Holds area message →
      ts.givenRows message area + 6 = (modalHeight message).toNat ∧
      (message.length / 56 + 4 < lines →
        ts.givenRows message area < ts.wrappedRows (inside message area).width.toNat message) := by
  intro lines
  have hmodal := toNat_modalHeight message
  have hle := neededRows_le message
  have hge := length_pieces_le_neededRows message
  have hpos := Text.length_pieces_pos message.toList
  have hslack : message.length / 58 ≤ message.length / 56 := Nat.div_le_div_left (by decide) (by decide)
  refine ⟨by omega, by omega, by omega, by omega, fun area harea => ⟨harea.givenRows_add ts, fun hmany => ?_⟩⟩
  have hrows := harea.givenRows_add ts
  have hwrap := ts.lines_le innerWidth message (by decide)
  rw [harea.toNat_inside.1]
  omega

/-- A screen of the usual size. -/
def usualScreen : Rect := .make 0 0 80 24

/-- The usual screen is large enough for a dialog of at most 24 rows. -/
lemma holds_usualScreen (h : (modalHeight message).toNat ≤ 24) : Holds usualScreen message :=
  ⟨Rect.make_fits 0 0 80 24, by decide, UInt16.le_iff_toNat_le.2 h⟩

/-- A message of three lines. -/
def threeLineMessage : String := "one\ntwo\nthree"

/-- Three lines are covered exactly, and have their three rows on the usual screen. -/
theorem height_covers_rows_threeLines :
    neededRows threeLineMessage = 3 ∧ neededRows threeLineMessage + 6 ≤ (modalHeight threeLineMessage).toNat ∧
    drawn.givenRows threeLineMessage usualScreen + 6 = (modalHeight threeLineMessage).toNat := by
  have hneeded : neededRows threeLineMessage = 3 := by decide +kernel
  have hwords : neededRows threeLineMessage + 6 ≤ maxWord.toNat := by
    rw [hneeded]
    decide
  obtain ⟨-, hcovers, -, -, hscreen⟩ := height_covers_rows drawn hwords
  obtain ⟨hrows, -⟩ := hscreen usualScreen (holds_usualScreen (by decide +kernel))
  exact ⟨hneeded, hcovers (by decide +kernel), hrows⟩

/-- A message of five lines. -/
def fiveLineMessage : String := "one\ntwo\nthree\nfour\nfive"

/-- Five lines are not covered: however texts are set, the dialog has three rows for them on the usual screen, and they
are wrapped to more. -/
theorem fiveLines_cut_off :
    (modalHeight fiveLineMessage).toNat = 9 ∧ neededRows fiveLineMessage + 6 = 11 ∧
    ∀ ts : Typesetting, ts.givenRows fiveLineMessage usualScreen + 6 = 9 ∧
      ts.givenRows fiveLineMessage usualScreen < ts.wrappedRows innerWidth fiveLineMessage := by
  have hmodal : (modalHeight fiveLineMessage).toNat = 9 := by decide +kernel
  have hlines : (Text.pieces fiveLineMessage.toList).length = 5 := by decide +kernel
  refine ⟨hmodal, by decide +kernel, fun ts => ?_⟩
  have hrows := (holds_usualScreen (hmodal.trans_le (by decide))).givenRows_add ts
  have hwrap := ts.lines_le innerWidth fiveLineMessage (by decide)
  omega

end Terminal

end MessageBox

import Mathlib.Tactic.Lemma
import MessageBox.Log.Journal

/-!
# Rotated logs

A rotation drops a front part of a log that has grown too large and puts a header in its place. What is kept has at
most the size asked for and begins a line, unless the last bytes of the log, as many as may be kept, have no line
feed in them. So a rotated log is not rotated again before it has grown (`rotation_keeps_tail`).
-/

namespace MessageBox.Log

variable {max keep : Nat} {content : ByteArray}

/-- The last byte of a content is a line feed. -/
def EndsLine (content : ByteArray) : Prop := content.data.back? = some 10

/-- Some byte among the last `keep` of a content is a line feed. -/
def FeedsWithin (keep : Nat) (content : ByteArray) : Prop :=
  ∃ i, content.size ≤ i + keep ∧ content.data[i]? = some 10

/-- A content that ends with a line does so with anything in front of it. -/
lemma EndsLine.append {line : ByteArray} (h : EndsLine line) (front : ByteArray) : EndsLine (front ++ line) := by
  unfold EndsLine at h ⊢
  rw [ByteArray.data_append, Array.back?_append, h]
  rfl

/-! ### Cuts through a content -/

/-- A content is its two parts, one after the other. -/
lemma extract_append_rest {cut : Nat} (h : cut ≤ content.size) :
    content.extract 0 cut ++ content.extract cut content.size = content := by
  rw [← ByteArray.extract_eq_extract_append_extract cut (Nat.zero_le cut) h, ByteArray.extract_zero_size]

/-- A content ends with a line when it is cut off behind a line feed. -/
lemma endsLine_extract {i : Nat} (h : content.data[i]? = some 10) : EndsLine (content.extract 0 (i + 1)) := by
  have hlt : i < content.data.size := (Array.getElem?_eq_some_iff.1 h).1
  have hsize : (content.data.extract 0 (i + 1)).size - 1 = i := by
    rw [Array.size_extract]
    omega
  rw [EndsLine, ByteArray.data_extract, Array.back?_eq_getElem?, hsize, Array.getElem?_extract]
  rw [if_pos (by omega), Nat.zero_add, h]

/-- What follows the first line feed is the content without a front part that ends a line. -/
lemma exists_append_afterLineFeed (content : ByteArray) :
    ∃ front, front ++ afterLineFeed content = content ∧ (10 ∈ content.data → EndsLine front) := by
  unfold afterLineFeed
  split
  · next i hi =>
    obtain ⟨hlt, hfeed, -⟩ := Array.findIdx?_eq_some_iff_getElem.1 hi
    have hfeed : content.data[i]? = some 10 := by rw [Array.getElem?_eq_getElem hlt, beq_iff_eq.1 hfeed]
    exact ⟨content.extract 0 (i + 1), extract_append_rest hlt, fun _ => endsLine_extract hfeed⟩
  · next hnone =>
    refine ⟨ByteArray.empty, ByteArray.empty_append, fun hfeed => ?_⟩
    cases Array.findIdx?_eq_none_iff.1 hnone 10 hfeed

/-! ### The last bytes -/

/-- A content is what its tail leaves and the tail. -/
lemma append_tail (keep : Nat) (content : ByteArray) :
    content.extract 0 (content.size - keep) ++ tail keep content = content :=
  extract_append_rest (Nat.sub_le ..)

/-- The tail of a content has no more bytes than are kept. -/
lemma size_tail_le (keep : Nat) (content : ByteArray) : (tail keep content).size ≤ keep := by
  rw [tail, ByteArray.size_extract]
  omega

/-- A line feed among the last bytes is in the tail. -/
lemma FeedsWithin.mem_tail (h : FeedsWithin keep content) : 10 ∈ (tail keep content).data := by
  obtain ⟨i, hi, hfeed⟩ := h
  have hmem : content.data[i]? = (tail keep content).data[i - (content.size - keep)]? := by
    rw [tail, ByteArray.data_extract, Array.getElem?_extract]
    have hlt : i < content.data.size := (Array.getElem?_eq_some_iff.1 hfeed).1
    have hplace : content.size - keep + (i - (content.size - keep)) = i := by omega
    rw [hplace, if_pos]
    rw [← ByteArray.size_data] at *
    omega
  exact Array.mem_of_getElem? (hmem ▸ hfeed)

/-! ### Rotations -/

/-- A file that is not too large stays as it is. -/
lemma rotate_small (h : content.size ≤ max) : (Entry.file content).rotate max keep = (false, .file content) := by
  simp [Entry.rotate, rotate?, h]

/-- A file that is too large becomes the header and what follows the first line feed of its tail. -/
lemma rotate_large (h : max < content.size) :
    (Entry.file content).rotate max keep =
      (true, .file (rotationHeader ++ afterLineFeed (tail keep content))) := by
  simp [Entry.rotate, rotate?, Nat.not_le.2 h]

/-- A log that is not larger than allowed is left as it is. From a larger one a front part is dropped, and a header
takes its place. What is kept has at most the size asked for; and if there is a line feed among as many of the
last bytes, the dropped part ends with a line feed, so that what is kept begins a line. Where the header and
what may be kept are not larger than allowed, another rotation leaves the log as it is; the program's own limits are of
that kind. -/
theorem rotation_keeps_tail (max keep : Nat) (content : ByteArray) :
    (content.size ≤ max → (Entry.file content).rotate max keep = (false, .file content)) ∧
    (max < content.size → ∃ dropped kept,
      content = dropped ++ kept ∧
      (Entry.file content).rotate max keep = (true, .file (rotationHeader ++ kept)) ∧
      kept.size ≤ keep ∧
      (FeedsWithin keep content → EndsLine dropped) ∧
      (rotationHeader ++ kept).size ≤ rotationHeader.size + keep ∧
      (rotationHeader.size + keep ≤ max →
        (Entry.file (rotationHeader ++ kept)).rotate max keep = (false, .file (rotationHeader ++ kept)))) ∧
    rotationHeader.size + keepSize ≤ maxSize := by
  refine ⟨rotate_small, fun hlarge => ?_, by decide +kernel⟩
  obtain ⟨line, hline, hends⟩ := exists_append_afterLineFeed (tail keep content)
  have hcontent : content.extract 0 (content.size - keep) ++ line ++ afterLineFeed (tail keep content) = content := by
    rw [ByteArray.append_assoc, hline, append_tail]
  have hkept : (afterLineFeed (tail keep content)).size ≤ keep := by
    have hsize := congrArg ByteArray.size hline
    have htail := size_tail_le keep content
    rw [ByteArray.size_append] at hsize
    omega
  have hnew : (rotationHeader ++ afterLineFeed (tail keep content)).size ≤ rotationHeader.size + keep := by
    rw [ByteArray.size_append]
    omega
  exact ⟨_, _, hcontent.symm, rotate_large hlarge, hkept, fun h => (hends h.mem_tail).append _, hnew,
    fun hlimit => rotate_small (Nat.le_trans hnew hlimit)⟩

/-- The last line of five is kept whole, and the rotated log is small enough. -/
theorem rotation_keeps_tail_fiveLines :
    let content := "a line of a log\na line of a log\na line of a log\na line of a log\na line of a log\n".toUTF8
    ∃ dropped kept, content = dropped ++ kept ∧ EndsLine dropped ∧ kept.size ≤ 20 ∧
      (Entry.file content).rotate 64 20 = (true, .file (rotationHeader ++ kept)) ∧
      (Entry.file (rotationHeader ++ kept)).rotate 64 20 = (false, .file (rotationHeader ++ kept)) := by
  intro content
  have hfeeds : FeedsWithin 20 content := ⟨63, by decide +kernel, by decide +kernel⟩
  obtain ⟨dropped, kept, hcontent, hrotate, hsize, hends, -, hagain⟩ :=
    (rotation_keeps_tail 64 20 content).2.1 (by decide +kernel)
  exact ⟨dropped, kept, hcontent, hends hfeeds, hsize, hrotate, hagain (by decide +kernel)⟩

end MessageBox.Log

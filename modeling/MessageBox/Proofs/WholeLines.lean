import MessageBox.Proofs.Rotation

/-!
# Whole lines of a rotated log

The best that a rotation can leave of a log is the longest tail that consists of whole lines and is not larger than
asked for (`LongestTail`). A rotation cuts the log to its last bytes and drops them up to the first line feed. Where the
cut goes through a line, this leaves the longest tail. Where it goes between two lines, or in front of the whole log,
the last bytes are the longest tail already, and yet their first line is dropped (`rotation_keeps_whole_lines`).
-/

namespace MessageBox.Log

variable {max keep limit : Nat} {content kept other front line : ByteArray}

/-- A line: its last byte is a line feed, and no other one is. -/
structure IsLine (line : ByteArray) : Prop where
  endsLine : EndsLine line
  feed_last : ∀ i, line.data[i]? = some 10 → i + 1 = line.size

/-- What is left of a content when some of its lines are dropped from the front. -/
def WholeLines (content kept : ByteArray) : Prop :=
  ∃ dropped, dropped ++ kept = content ∧ (dropped = .empty ∨ EndsLine dropped)

/-- The longest tail of whole lines that has at most `limit` bytes. -/
structure LongestTail (limit : Nat) (content kept : ByteArray) : Prop where
  wholeLines : WholeLines content kept
  size_le : kept.size ≤ limit
  longest : ∀ other, WholeLines content other → other.size ≤ limit → other.size ≤ kept.size

instance (content : ByteArray) : Decidable (EndsLine content) :=
  inferInstanceAs (Decidable (content.data.back? = some 10))

/-! ### Line feeds -/

/-- A content that ends with a line is not empty. -/
lemma EndsLine.size_pos (h : EndsLine content) : 0 < content.size := by
  rw [EndsLine, Array.back?_eq_getElem?] at h
  have := (Array.getElem?_eq_some_iff.1 h).1
  rw [ByteArray.size_data] at this
  omega

/-- A content that ends with a line has a line feed in the last place. -/
lemma EndsLine.feed (h : EndsLine content) : content.data[content.size - 1]? = some 10 := by
  rwa [EndsLine, Array.back?_eq_getElem?, ByteArray.size_data] at h

/-- A content that ends with a line has a line feed in its tail. -/
lemma EndsLine.mem_tail (h : EndsLine content) (hkeep : 0 < keep) : 10 ∈ (tail keep content).data :=
  FeedsWithin.mem_tail ⟨content.size - 1, by omega, h.feed⟩

/-- A content with a line feed begins with a line, and the rest is what follows the first line feed. -/
lemma exists_line_append (h : 10 ∈ content.data) : ∃ line, IsLine line ∧ line ++ afterLineFeed content = content := by
  unfold afterLineFeed
  split
  · next i hi =>
    obtain ⟨hlt, hfeed, hbefore⟩ := Array.findIdx?_eq_some_iff_getElem.1 hi
    have hfeed : content.data[i]? = some 10 := by rw [Array.getElem?_eq_getElem hlt, beq_iff_eq.1 hfeed]
    refine ⟨content.extract 0 (i + 1), ⟨endsLine_extract hfeed, fun j hj => ?_⟩, extract_append_rest hlt⟩
    rw [ByteArray.data_extract, Array.getElem?_extract, Nat.zero_add] at hj
    obtain ⟨hj, hfeed⟩ := Option.ite_none_right_eq_some.1 hj
    obtain ⟨hlt', hfeed⟩ := Array.getElem?_eq_some_iff.1 hfeed
    -- the line feed at `j` is the first one, and no other is before `i`
    have hle : ¬ j < i := fun hji => hbefore j hji (beq_iff_eq.2 hfeed)
    rw [ByteArray.size_extract]
    rw [← ByteArray.size_data] at *
    omega
  · next hnone => cases Array.findIdx?_eq_none_iff.1 hnone 10 h

/-! ### Tails of whole lines -/

/-- The sizes of two parts add up to that of the content. -/
lemma size_append_eq {a b : ByteArray} (h : a ++ b = content) : a.size + b.size = content.size := by
  rw [← h, ByteArray.size_append]

/-- Of the tails of a content, only one has a given size. -/
lemma append_inj_of_size {a b : ByteArray} (h : front ++ a = line ++ b) (hsize : a.size = b.size) : a = b := by
  have hdata : front.data ++ a.data = line.data ++ b.data := by
    rw [← ByteArray.data_append, h, ByteArray.data_append]
  exact ByteArray.ext (Array.append_inj_right' hdata hsize)

/-- There is one longest tail of whole lines. -/
lemma LongestTail.unique {a b : ByteArray} (ha : LongestTail limit content a) (hb : LongestTail limit content b) :
    a = b := by
  obtain ⟨_, hfront, -⟩ := ha.wholeLines
  obtain ⟨_, hline, -⟩ := hb.wholeLines
  exact append_inj_of_size (hfront.trans hline.symm)
    (Nat.le_antisymm (hb.longest a ha.wholeLines ha.size_le) (ha.longest b hb.wholeLines hb.size_le))

/-- The bytes of the first part come first. -/
lemma getElem?_append_front {a b : ByteArray} {i : Nat} (h : i < a.size) : (a ++ b).data[i]? = a.data[i]? := by
  rw [ByteArray.data_append, Array.getElem?_append_left h]

/-- The bytes of the second part follow those of the first. -/
lemma getElem?_append_rest {a b : ByteArray} {i : Nat} (h : a.size ≤ i) :
    (a ++ b).data[i]? = b.data[i - a.size]? := by
  rw [ByteArray.data_append, Array.getElem?_append_right h, ByteArray.size_data]

/-- A tail of whole lines that is shorter than one that begins with a line does not begin within that line. -/
lemma WholeLines.size_le_rest (h : WholeLines content other) (hline : IsLine line)
    (hcontent : front ++ (line ++ kept) = content) (hlt : other.size < (line ++ kept).size) :
    other.size ≤ kept.size := by
  obtain ⟨dropped, hdropped, hends⟩ := h
  have hsize := size_append_eq hdropped
  have hsize' := size_append_eq hcontent
  rw [ByteArray.size_append] at hlt hsize'
  obtain rfl | hends := hends
  · rw [ByteArray.size_empty] at hsize
    omega
  · have hpos := hends.size_pos
    refine Nat.le_of_not_lt fun hwithin => ?_
    -- the line feed before such a tail would be one of the line, in front of its last byte
    have hfeed : line.data[dropped.size - 1 - front.size]? = some 10 := calc
      _ = (line ++ kept).data[dropped.size - 1 - front.size]? := (getElem?_append_front (by omega)).symm
      _ = content.data[dropped.size - 1]? := by
        rw [← hcontent, getElem?_append_rest (a := front) (by omega)]
      _ = dropped.data[dropped.size - 1]? := by rw [← hdropped, getElem?_append_front (by omega)]
      _ = some 10 := hends.feed
    have hlast := hline.feed_last _ hfeed
    omega

/-! ### Rotations -/

/-- The tail has as many bytes as are kept, or all of them if there are fewer. -/
lemma size_tail (keep : Nat) (content : ByteArray) : (tail keep content).size = min keep content.size := by
  rw [tail, ByteArray.size_extract]
  omega

/-- The last bytes are whole lines if the cut in front of them goes between two lines, or in front of them all. -/
lemma wholeLines_tail_iff :
    WholeLines content (tail keep content) ↔
      content.extract 0 (content.size - keep) = .empty ∨ EndsLine (content.extract 0 (content.size - keep)) := by
  refine ⟨fun ⟨dropped, hdropped, hends⟩ => ?_, fun h => ⟨_, append_tail keep content, h⟩⟩
  have hdata : dropped.data ++ (tail keep content).data =
      (content.extract 0 (content.size - keep)).data ++ (tail keep content).data := by
    rw [← ByteArray.data_append, ← ByteArray.data_append, hdropped, append_tail]
  rwa [← ByteArray.ext (Array.append_inj_left' hdata rfl)]

/-- The last bytes are the longest tail if they are whole lines. -/
lemma longestTail_tail (h : WholeLines content (tail keep content)) : LongestTail keep content (tail keep content) := by
  refine ⟨h, size_tail_le keep content, fun other hother hsize => ?_⟩
  obtain ⟨dropped, hdropped, -⟩ := hother
  have := size_append_eq hdropped
  rw [size_tail]
  omega

/-- If the last bytes are not whole lines, the longest tail is what follows the first line feed in them. -/
lemma longestTail_of_not_wholeLines (hkept : WholeLines content kept) (hline : IsLine line)
    (htail : line ++ kept = tail keep content) (h : ¬ WholeLines content (tail keep content)) :
    LongestTail keep content kept := by
  have hsize := size_tail keep content
  rw [← htail, ByteArray.size_append] at hsize
  refine ⟨hkept, by omega, fun other hother hle => ?_⟩
  have hcontent : content.extract 0 (content.size - keep) ++ (line ++ kept) = content := by
    rw [htail, append_tail]
  refine hother.size_le_rest hline hcontent (Nat.lt_of_le_of_ne ?_ fun heq => h ?_)
  · obtain ⟨dropped, hdropped, -⟩ := hother
    have := size_append_eq hdropped
    rw [ByteArray.size_append]
    omega
  · obtain ⟨dropped, hdropped, hends⟩ := hother
    rw [← htail, ← append_inj_of_size (hdropped.trans hcontent.symm) heq]
    exact ⟨dropped, hdropped, hends⟩

/-- A rotation of a log that consists of lines leaves whole lines, no more of them than may be kept. They are the
longest tail of that kind if nothing may be kept, or if the last bytes, as many as may be kept, do not begin with
a whole line. Otherwise these last bytes are the longest tail, and the rotation drops the first of their lines. -/
theorem rotation_keeps_whole_lines (hlines : EndsLine content) (hlarge : max < content.size) (keep : Nat) :
    ∃ kept,
      (Entry.file content).rotate max keep = (true, .file (rotationHeader ++ kept)) ∧
      WholeLines content kept ∧ kept.size ≤ keep ∧
      (LongestTail keep content kept ↔ keep = 0 ∨ ¬ WholeLines content (tail keep content)) ∧
      (0 < keep → WholeLines content (tail keep content) →
        ∃ line, IsLine line ∧ line ++ kept = tail keep content ∧ LongestTail keep content (line ++ kept)) := by
  refine ⟨afterLineFeed (tail keep content), rotate_large hlarge, ?_⟩
  obtain rfl | hkeep := Nat.eq_zero_or_pos keep
  · have hempty : afterLineFeed (tail 0 content) = .empty := by
      simp [tail, afterLineFeed]
    have hwhole : WholeLines content .empty := ⟨content, ByteArray.append_empty, .inr hlines⟩
    have hlongest : LongestTail 0 content .empty := ⟨hwhole, Nat.le_refl 0, fun _ _ hsize => hsize⟩
    rw [hempty]
    exact ⟨hwhole, Nat.le_refl 0, iff_of_true hlongest (.inl rfl), fun hpos => absurd hpos (Nat.lt_irrefl 0)⟩
  · obtain ⟨line, hline, htail⟩ := exists_line_append (hlines.mem_tail hkeep)
    have hcontent : content.extract 0 (content.size - keep) ++ line ++ afterLineFeed (tail keep content) = content := by
      rw [ByteArray.append_assoc, htail, append_tail]
    have hwhole : WholeLines content (afterLineFeed (tail keep content)) :=
      ⟨_, hcontent, .inr (hline.endsLine.append _)⟩
    have hsize := size_append_eq htail
    have hle := size_tail_le keep content
    have hpos := hline.endsLine.size_pos
    refine ⟨hwhole, by omega, ⟨fun hlongest => .inr fun htailWhole => ?_, fun h => ?_⟩, fun _ htailWhole => ?_⟩
    · have := hlongest.longest _ htailWhole hle
      omega
    · have hcut := h.resolve_left (Nat.ne_of_gt hkeep)
      exact longestTail_of_not_wholeLines hwhole hline htail hcut
    · exact ⟨line, hline, htail, by rw [htail]; exact longestTail_tail htailWhole⟩

/-- A log of three lines. -/
def threeLines : ByteArray := "one\ntwo\nthree\n".toUTF8

/-- With room for nine bytes the cut goes through a line, and the longest tail is left. With room for ten it goes
between two lines, and a line is missing from the longest tail. -/
theorem rotation_keeps_whole_lines_threeLines :
    (∃ kept, (Entry.file threeLines).rotate 10 9 = (true, .file (rotationHeader ++ kept)) ∧
      LongestTail 9 threeLines kept) ∧
    ∃ line kept, (Entry.file threeLines).rotate 10 10 = (true, .file (rotationHeader ++ kept)) ∧
      IsLine line ∧ LongestTail 10 threeLines (line ++ kept) := by
  have hlines : EndsLine threeLines := by decide +kernel
  have hlarge : 10 < threeLines.size := by decide +kernel
  have hthrough : ¬ WholeLines threeLines (tail 9 threeLines) := by
    rw [wholeLines_tail_iff]
    decide +kernel
  have hbetween : WholeLines threeLines (tail 10 threeLines) := by
    rw [wholeLines_tail_iff]
    decide +kernel
  obtain ⟨nine, hnine, -, -, hlongest, -⟩ := rotation_keeps_whole_lines hlines hlarge 9
  obtain ⟨ten, hten, -, -, -, hdropped⟩ := rotation_keeps_whole_lines hlines hlarge 10
  obtain ⟨line, hline, -, hlonger⟩ := hdropped (by decide) hbetween
  exact ⟨⟨nine, hnine, hlongest.2 (.inr hthrough)⟩, line, ten, hten, hline, hlonger⟩

/-- With room for exactly the last two lines, only the last one is left. -/
theorem whole_line_dropped :
    (Entry.file threeLines).rotate 10 10 = (true, .file (rotationHeader ++ "three\n".toUTF8)) ∧
    LongestTail 10 threeLines "two\nthree\n".toUTF8 ∧ ¬ LongestTail 10 threeLines "three\n".toUTF8 := by
  have hlongest : LongestTail 10 threeLines "two\nthree\n".toUTF8 :=
    ⟨⟨"one\n".toUTF8, by decide +kernel, .inr (by decide +kernel)⟩, by decide +kernel, fun _ _ hsize => hsize⟩
  have hkept : afterLineFeed (tail 10 threeLines) = "three\n".toUTF8 := by decide +kernel
  refine ⟨hkept ▸ rotate_large (by decide +kernel), hlongest, fun h => ?_⟩
  exact absurd (h.unique hlongest) (by decide +kernel)

end MessageBox.Log

/-!
# Log rotation

A log that has grown past a limit is cut to its end. The cut goes through the line it falls in, so what is
left of that line is dropped too, and a header takes the place of what is gone.
-/

namespace MessageBox.Log

/-- The first line of a log that was rotated. -/
def rotationHeader : ByteArray := "--- Log rotated (older entries removed) ---\n".toUTF8

/-- The last `keep` bytes of a content, or all of it. -/
def tail (keep : Nat) (content : ByteArray) : ByteArray := content.extract (content.size - keep) content.size

/-- What follows the first line feed of a content; all of it if there is none. -/
def afterLineFeed (content : ByteArray) : ByteArray :=
  match content.data.findIdx? (· == 10) with
  | some i => content.extract (i + 1) content.size
  | none => content

/-- A log of more than `max` bytes after its rotation, which keeps at most `keep` of them; none if the log
is small enough. -/
def rotate? (max keep : Nat) (content : ByteArray) : Option ByteArray :=
  if content.size ≤ max then none else some (rotationHeader ++ afterLineFeed (tail keep content))

/-- The size from which the program rotates its log. -/
def maxSize : Nat := 5 * 1024 * 1024

/-- What the program keeps of its log. -/
def keepSize : Nat := 1024 * 1024

end MessageBox.Log

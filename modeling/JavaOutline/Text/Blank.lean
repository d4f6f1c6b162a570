/-!
# Blank characters

The characters that count as white space around names, numbers and settings, as one table of
code point ranges, and the two questions asked of it: what is left of a text without the
blanks at its ends, and whether a text holds anything but blanks. Zero-width characters, such
as U+200B and U+FEFF, are not blank.
-/

namespace JavaOutline.Text

/-- The code point ranges of the blank characters, in increasing order, ends included. -/
def blankRanges : List (Nat × Nat) :=
  [(0x09, 0x0D), (0x1C, 0x20), (0x85, 0x85), (0xA0, 0xA0), (0x1680, 0x1680), (0x2000, 0x200A),
   (0x2028, 0x2029), (0x202F, 0x202F), (0x205F, 0x205F), (0x3000, 0x3000)]

/-- Whether a character is blank. -/
def isBlank (c : Char) : Bool :=
  blankRanges.any fun range => range.1 ≤ c.toNat && c.toNat ≤ range.2

/-- The characters between the first and the last that are not in the class `blank`. -/
def stripChars (blank : Char → Bool) (cs : List Char) : List Char :=
  ((cs.dropWhile blank).reverse.dropWhile blank).reverse

/-- A text without the blanks at its two ends. -/
def strip (s : String) : String :=
  String.ofList (stripChars isBlank s.toList)

/-- Whether a text is empty or holds nothing but blanks. -/
def isBlankText (s : String) : Bool :=
  s.toList.all isBlank

/-- A text without any of its blanks. -/
def deleteBlanks (s : String) : String :=
  String.ofList (s.toList.filter fun c => !isBlank c)

/-- Blanks are deleted from each of two texts in a row. -/
@[simp] theorem deleteBlanks_append (s t : String) :
    deleteBlanks (s ++ t) = deleteBlanks s ++ deleteBlanks t := by
  simp [deleteBlanks]

/-- Nothing is left of a text of blanks. -/
theorem deleteBlanks_of_isBlankText {s : String} (h : isBlankText s = true) :
    deleteBlanks s = "" := by
  have hnone : s.toList.filter (fun c => !isBlank c) = [] := by
    simpa [isBlankText] using h
  rw [deleteBlanks, hnone, String.ofList_nil]

end JavaOutline.Text

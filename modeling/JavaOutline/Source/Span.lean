/-!
# Points and spans

A syntax node covers a span of the source between two points. A point is a row and a column,
both counted from zero, and columns count bytes. The numbers come from outside and can be
anything, so they are integers, and a span that does not fit the source is a fault with a
message of its own.
-/

namespace JavaOutline

/-- A position in a source text. -/
structure Point where
  row : Int
  column : Int
deriving DecidableEq, Repr

/-- The stretch of a source text from one point up to another. -/
structure Span where
  start : Point
  stop : Point
deriving DecidableEq, Repr

/-- Why the span of a node of some kind does not fit a source text. -/
inductive SpanFault where
  /-- The rows are not in order, or not all in the text. -/
  | rowsOutside (kind : String) (first last : Int) (lineCount : Nat)
  /-- The first column is not in the first line. -/
  | startOutside (kind : String) (column row : Int)
  /-- The last column is not in the last line. -/
  | stopOutside (kind : String) (column row : Int)
  /-- The span lies in one line and its columns are in the wrong order. -/
  | reversed (kind : String) (row : Int)
deriving DecidableEq, Repr

/-- The text of a fault. -/
def SpanFault.message : SpanFault → String
  | rowsOutside kind first last lineCount =>
    s!"Span of '{kind}' covers rows {first}-{last} but the source has {lineCount} lines"
  | startOutside kind column row =>
    s!"Span of '{kind}' starts at column {column} outside line {row}"
  | stopOutside kind column row =>
    s!"Span of '{kind}' ends at column {column} outside line {row}"
  | reversed kind row =>
    s!"Span of '{kind}' ends before it starts on line {row}"

end JavaOutline

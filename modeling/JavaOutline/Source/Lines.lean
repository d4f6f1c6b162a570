import JavaOutline.Source.Span
import JavaOutline.Text.Encoding

/-!
# Source texts as lines of bytes

A source text is kept as the lines of its encoded form, split at the newline byte alone, so that
the byte columns of a span index it directly. The text of a span is read in two steps: `locate`
checks the four numbers against the lines, in a fixed order of complaints, and `slice` takes the
bytes between them, which are then decoded. A span that cuts a character in two fits the lines
and fails to decode.
-/

namespace JavaOutline

/-- The byte that ends a line. -/
def newline : UInt8 := 10

/-- One source text, as lines of bytes in an encoding. -/
structure SourceText where
  encoding : Text.Encoding
  lines : List (List UInt8)
deriving DecidableEq, Repr

/-- A region of a source text, all of its numbers known to be in range. -/
structure Region where
  startRow : Nat
  startColumn : Nat
  stopRow : Nat
  stopColumn : Nat
deriving DecidableEq, Repr

/-- Why the text of a span cannot be read. -/
inductive ReadError where
  | malformed (fault : SpanFault)
  | undecodable
deriving DecidableEq, Repr

/-- Why a line cannot be read. -/
inductive LineError where
  | noSuchRow
  | undecodable
deriving DecidableEq, Repr

namespace SourceText

/-- The lines of a text in an encoding, if the encoding holds the text. -/
def encoded? (encoding : Text.Encoding) (text : String) : Option SourceText :=
  (encoding.encode? text).map fun bytes => ⟨encoding, bytes.splitOn newline⟩

/-- The lines of a text in UTF-8, which holds every text. -/
def ofString (text : String) : SourceText :=
  ⟨.utf8, (text.toList.flatMap String.utf8EncodeChar).splitOn newline⟩

/-- The number of lines. -/
def lineCount (source : SourceText) : Nat :=
  source.lines.length

/-- The bytes of a row, none if there is no such row. -/
def bytesOf (source : SourceText) (row : Nat) : List UInt8 :=
  source.lines.getD row []

/-- The text of a row. A negative row counts from the end. -/
def line (source : SourceText) (row : Int) : Except LineError String :=
  let index := if row < 0 then row + source.lineCount else row
  if index < 0 then .error .noSuchRow
  else match source.lines[index.toNat]? with
    | none => .error .noSuchRow
    | some bytes =>
      match source.encoding.decode? bytes with
      | none => .error .undecodable
      | some text => .ok text

/-- The region that the span of a node of some kind covers, or the first of the complaints about
it: rows, first column, last column, order of the columns. -/
def locate (source : SourceText) (kind : String) (span : Span) : Except SpanFault Region :=
  let ⟨⟨startRow, startColumn⟩, ⟨stopRow, stopColumn⟩⟩ := span
  if ¬ (0 ≤ startRow ∧ startRow ≤ stopRow ∧ stopRow < source.lineCount) then
    .error (.rowsOutside kind startRow stopRow source.lineCount)
  else if startColumn < 0 ∨ (source.bytesOf startRow.toNat).length < startColumn then
    .error (.startOutside kind startColumn startRow)
  else if stopColumn < 0 ∨ (source.bytesOf stopRow.toNat).length < stopColumn then
    .error (.stopOutside kind stopColumn stopRow)
  else if startRow = stopRow ∧ stopColumn < startColumn then
    .error (.reversed kind startRow)
  else .ok ⟨startRow.toNat, startColumn.toNat, stopRow.toNat, stopColumn.toNat⟩

/-- The bytes of a region: the first line from its column on, the lines between, and the last
line up to its column. -/
def slice (source : SourceText) (region : Region) : List UInt8 :=
  if region.startRow = region.stopRow then
    ((source.bytesOf region.startRow).take region.stopColumn).drop region.startColumn
  else
    [newline].intercalate ((source.bytesOf region.startRow).drop region.startColumn ::
      (source.lines.take region.stopRow).drop (region.startRow + 1) ++
      [(source.bytesOf region.stopRow).take region.stopColumn])

/-- The text that the span of a node of some kind covers. -/
def extract (source : SourceText) (kind : String) (span : Span) : Except ReadError String :=
  match source.locate kind span with
  | .error fault => .error (.malformed fault)
  | .ok region =>
    match source.encoding.decode? (source.slice region) with
    | none => .error .undecodable
    | some text => .ok text

end SourceText

end JavaOutline

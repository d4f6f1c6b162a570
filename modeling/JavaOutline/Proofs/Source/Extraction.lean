import JavaOutline.Source.Lines
import JavaOutline.Proofs.Text.Encoding
import Mathlib

/-!
# The text of a span is a stretch of the bytes

A source text is split into lines, but its lines with a newline after each but the last are the
bytes that it was made of. A point therefore has an offset in these bytes, and the bytes of a region,
in one line or over several, are the stretch from the offset of its start up to that of its stop.
What a span reads is this stretch, decoded; that a span does not fit is found out before any byte is
taken, so a number that is negative or too large never reaches the lines.
-/

namespace JavaOutline

/-! ## Offsets in joined lines -/

/-- The offset of a row and column in lines that are joined by newlines. -/
def offsetIn (lines : List (List UInt8)) (row column : Nat) : Nat :=
  ((lines.take row).map List.length).sum + row + column

/-- The offset in a later line counts the first line and its newline. -/
theorem offsetIn_cons_succ (line : List UInt8) (lines : List (List UInt8)) (row column : Nat) :
    offsetIn (line :: lines) (row + 1) column = line.length + 1 + offsetIn lines row column := by
  simp only [offsetIn, List.take_succ_cons, List.map_cons, List.sum_cons]
  omega

/-- The offset in the first line is the column. -/
@[simp] theorem offsetIn_zero (lines : List (List UInt8)) (column : Nat) :
    offsetIn lines 0 column = column := by
  simp [offsetIn]

/-- A first line, its newline and the other lines. -/
theorem intercalate_newline_cons (line : List UInt8) {lines : List (List UInt8)}
    (hlines : lines ≠ []) :
    [newline].intercalate (line :: lines) = line ++ (newline :: [newline].intercalate lines) := by
  rw [List.intercalate_cons_of_ne_nil hlines, List.append_assoc, List.singleton_append]

section

variable {lines : List (List UInt8)} {row column : Nat}

/-- A point of the lines has an offset in the bytes. -/
theorem offsetIn_le_length (hrow : row < lines.length)
    (hcolumn : column ≤ (lines.getD row []).length) :
    offsetIn lines row column ≤ ([newline].intercalate lines).length := by
  induction lines generalizing row with
  | nil => exact absurd hrow (Nat.not_lt_zero row)
  | cons line lines ih =>
    cases row with
    | zero =>
      cases lines with
      | nil => simpa using hcolumn
      | cons next rest =>
        rw [intercalate_newline_cons line (List.cons_ne_nil next rest), List.length_append]
        exact Nat.le_trans (by simpa using hcolumn) (Nat.le_add_right ..)
    | succ row =>
      have hrest : row < lines.length := by simpa using hrow
      have hle := ih hrest (by simpa using hcolumn)
      rw [intercalate_newline_cons line (List.ne_nil_of_length_pos (by omega)), offsetIn_cons_succ,
        List.length_append, List.length_cons]
      omega

/-- What follows an offset is the rest of its line and the lines after it. -/
theorem drop_offsetIn (hrow : row < lines.length) (hcolumn : column ≤ (lines.getD row []).length) :
    ([newline].intercalate lines).drop (offsetIn lines row column) =
      [newline].intercalate ((lines.getD row []).drop column :: lines.drop (row + 1)) := by
  induction lines generalizing row with
  | nil => exact absurd hrow (Nat.not_lt_zero row)
  | cons line lines ih =>
    cases row with
    | zero =>
      have hline : column ≤ line.length := by simpa using hcolumn
      cases lines with
      | nil => simp
      | cons next rest =>
        rw [intercalate_newline_cons line (List.cons_ne_nil next rest), offsetIn_zero,
          List.drop_append_of_le_length hline,
          ← intercalate_newline_cons _ (List.cons_ne_nil next rest)]
        rfl
    | succ row =>
      have hrest : row < lines.length := by simpa using hrow
      rw [intercalate_newline_cons line (List.ne_nil_of_length_pos (by omega)), offsetIn_cons_succ,
        Nat.add_assoc, List.drop_append, List.drop_eq_nil_of_le (Nat.le_add_right ..),
        List.nil_append, Nat.add_sub_cancel_left, Nat.add_comm 1, List.drop_succ_cons]
      exact ih hrest (by simpa using hcolumn)

/-- What comes before an offset is the lines before its line and the start of its line. -/
theorem take_offsetIn (hrow : row < lines.length) (hcolumn : column ≤ (lines.getD row []).length) :
    ([newline].intercalate lines).take (offsetIn lines row column) =
      [newline].intercalate (lines.take row ++ [(lines.getD row []).take column]) := by
  induction lines generalizing row with
  | nil => exact absurd hrow (Nat.not_lt_zero row)
  | cons line lines ih =>
    cases row with
    | zero =>
      have hline : column ≤ line.length := by simpa using hcolumn
      cases lines with
      | nil => simp
      | cons next rest =>
        rw [intercalate_newline_cons line (List.cons_ne_nil next rest), offsetIn_zero,
          List.take_append_of_le_length hline]
        simp
    | succ row =>
      have hrest : row < lines.length := by simpa using hrow
      rw [intercalate_newline_cons line (List.ne_nil_of_length_pos (by omega)), offsetIn_cons_succ,
        Nat.add_assoc, List.take_append, List.take_of_length_le (Nat.le_add_right ..),
        Nat.add_sub_cancel_left, Nat.add_comm 1, List.take_succ_cons,
        ih hrest (by simpa using hcolumn), List.take_succ_cons, List.cons_append,
        intercalate_newline_cons line (by simp)]
      rfl

end

namespace SourceText

/-! ## Spans and regions -/

/-- The offset of a point in the bytes of a source text. -/
def offset (source : SourceText) (point : Point) : Nat :=
  offsetIn source.lines point.row.toNat point.column.toNat

/-- A span fits a source text: its rows are in order and there, its columns are in their lines, and
in one line they are in order. -/
def Fits (source : SourceText) (span : Span) : Prop :=
  0 ≤ span.start.row ∧ span.start.row ≤ span.stop.row ∧ span.stop.row < source.lineCount ∧
  0 ≤ span.start.column ∧
  span.start.column ≤ (source.bytesOf span.start.row.toNat).length ∧
  0 ≤ span.stop.column ∧ span.stop.column ≤ (source.bytesOf span.stop.row.toNat).length ∧
  (span.start.row = span.stop.row → span.start.column ≤ span.stop.column)

instance (source : SourceText) (span : Span) : Decidable (source.Fits span) :=
  inferInstanceAs (Decidable (_ ∧ _))

/-- The region of a span that fits. -/
def regionOf (span : Span) : Region :=
  ⟨span.start.row.toNat, span.start.column.toNat, span.stop.row.toNat, span.stop.column.toNat⟩

/-- Exactly the spans that fit are located, each at its region. -/
theorem locate_eq_ok_iff {source : SourceText} {kind : String} {span : Span} {region : Region} :
    source.locate kind span = .ok region ↔ source.Fits span ∧ region = regionOf span := by
  obtain ⟨⟨startRow, startColumn⟩, ⟨stopRow, stopColumn⟩⟩ := span
  simp only [locate, Fits, regionOf]
  split
  · rename_i hrows
    simp only [reduceCtorEq, false_iff]
    rintro ⟨hfits, _⟩
    exact hrows ⟨hfits.1, hfits.2.1, hfits.2.2.1⟩
  · rename_i hrows
    split
    · simp only [reduceCtorEq, false_iff]
      omega
    · split
      · simp only [reduceCtorEq, false_iff]
        omega
      · split
        · simp only [reduceCtorEq, false_iff]
          omega
        · rw [Except.ok.injEq, eq_comm]
          refine ⟨fun hregion => ⟨?_, hregion⟩, fun h => h.2⟩
          omega

/-- The lines up to a point, the last of them cut off at its column. -/
def linesUpTo (source : SourceText) (row column : Nat) : List (List UInt8) :=
  source.lines.take row ++ [(source.bytesOf row).take column]

section

variable {source : SourceText} {row : Nat}

/-- There are as many lines before a row as its number says. -/
theorem length_take_lines (hrow : row < source.lineCount) :
    (source.lines.take row).length = row := by
  rw [List.length_take]
  exact Nat.min_eq_left (Nat.le_of_lt hrow)

/-- The last of the lines up to a point is cut off. -/
theorem getD_linesUpTo_self (hrow : row < source.lineCount) (column : Nat) :
    (source.linesUpTo row column).getD row [] = (source.bytesOf row).take column := by
  have hlength := length_take_lines hrow
  rw [linesUpTo, List.getD_append_right _ _ _ _ (Nat.le_of_eq hlength), hlength, Nat.sub_self]
  rfl

/-- The lines before the row of a point are whole. -/
theorem getD_linesUpTo_of_lt (hrow : row < source.lineCount) (column : Nat) {earlier : Nat}
    (hearlier : earlier < row) :
    (source.linesUpTo row column).getD earlier [] = source.bytesOf earlier := by
  rw [linesUpTo, List.getD_append _ _ _ _ (by rwa [length_take_lines hrow])]
  simp [bytesOf, List.getD_eq_getElem?_getD, hearlier]

/-- The bytes of a region are what is left of the lines up to its stop behind its start. -/
theorem slice_eq_drop {region : Region} (hrows : region.startRow ≤ region.stopRow)
    (hstop : region.stopRow < source.lineCount) :
    source.slice region =
      [newline].intercalate
        (((source.linesUpTo region.stopRow region.stopColumn).getD region.startRow []).drop
            region.startColumn ::
          (source.linesUpTo region.stopRow region.stopColumn).drop (region.startRow + 1)) := by
  have hlength := length_take_lines hstop
  unfold slice
  split
  · rename_i hsame
    have hcount : (source.linesUpTo region.stopRow region.stopColumn).length =
        region.stopRow + 1 := by
      rw [linesUpTo, List.length_append, hlength, List.length_singleton]
    have hnone : (source.linesUpTo region.stopRow region.stopColumn).drop (region.startRow + 1) =
        [] := by
      apply List.drop_eq_nil_of_le
      omega
    rw [hnone, List.intercalate_singleton, hsame, getD_linesUpTo_self hstop]
  · rename_i hother
    have hbefore : region.startRow < region.stopRow := Nat.lt_of_le_of_ne hrows hother
    rw [getD_linesUpTo_of_lt hstop _ hbefore, linesUpTo, List.drop_append_of_le_length (by omega)]
    rfl

variable {span : Span}

/-- The start of a span that fits is a point of the lines up to its stop, with the same offset. -/
theorem Fits.start_in_linesUpTo (hfits : source.Fits span) :
    let upTo := source.linesUpTo span.stop.row.toNat span.stop.column.toNat
    span.start.row.toNat < upTo.length ∧
      span.start.column.toNat ≤ (upTo.getD span.start.row.toNat []).length ∧
      offsetIn upTo span.start.row.toNat span.start.column.toNat = source.offset span.start := by
  obtain ⟨hrow, hrows, hstop, hcolumn, hstart, hcolumn', hlast, hordered⟩ := hfits
  have hstopRow : span.stop.row.toNat < source.lineCount := by omega
  have hlength := length_take_lines hstopRow
  refine ⟨?_, ?_, ?_⟩
  · rw [linesUpTo, List.length_append, hlength, List.length_singleton]
    omega
  · by_cases hsame : span.start.row = span.stop.row
    · have hinOrder := hordered hsame
      rw [hsame, getD_linesUpTo_self hstopRow, List.length_take]
      omega
    · rw [getD_linesUpTo_of_lt hstopRow _ (by omega)]
      omega
  · rw [offset, offsetIn, offsetIn, linesUpTo, List.take_append_of_le_length (by omega),
      List.take_take, Nat.min_eq_left (by omega)]

/-- The stop of a span that fits is a point of the lines. -/
theorem Fits.stop_in_lines (hfits : source.Fits span) :
    span.stop.row.toNat < source.lines.length ∧
      span.stop.column.toNat ≤ (source.lines.getD span.stop.row.toNat []).length := by
  obtain ⟨_, _, hstop, _, _, _, hlast, _⟩ := hfits
  rw [lineCount] at hstop
  rw [bytesOf] at hlast
  omega

/-- The bytes up to the stop of a span that fits. -/
theorem Fits.take_offset_stop (hfits : source.Fits span) :
    ([newline].intercalate source.lines).take (source.offset span.stop) =
      [newline].intercalate (source.linesUpTo span.stop.row.toNat span.stop.column.toNat) :=
  take_offsetIn hfits.stop_in_lines.1 hfits.stop_in_lines.2

/-- The offsets of a span that fits are in order and in the bytes. -/
theorem Fits.offset_le (hfits : source.Fits span) :
    source.offset span.start ≤ source.offset span.stop ∧
      source.offset span.stop ≤ ([newline].intercalate source.lines).length := by
  obtain ⟨hrow, hcolumn, hoffset⟩ := hfits.start_in_linesUpTo
  have hstart := offsetIn_le_length hrow hcolumn
  rw [hoffset, ← hfits.take_offset_stop, List.length_take] at hstart
  exact ⟨Nat.le_trans hstart (Nat.min_le_left ..),
    offsetIn_le_length hfits.stop_in_lines.1 hfits.stop_in_lines.2⟩

/-- The bytes of a span that fits are the stretch between the offsets of its two ends. -/
theorem Fits.slice_eq_stretch (hfits : source.Fits span) :
    source.slice (regionOf span) =
      (([newline].intercalate source.lines).take (source.offset span.stop)).drop
        (source.offset span.start) := by
  obtain ⟨hrow, hcolumn, hoffset⟩ := hfits.start_in_linesUpTo
  rw [hfits.take_offset_stop, ← hoffset, drop_offsetIn hrow hcolumn]
  exact slice_eq_drop (Int.toNat_le_toNat hfits.2.1) hfits.stop_in_lines.1

/-! ## What a span reads -/

/-- What is read off bytes in an encoding. -/
def decoded (encoding : Text.Encoding) (bytes : List UInt8) : Except ReadError String :=
  match encoding.decode? bytes with
  | none => .error .undecodable
  | some text => .ok text

/-- Bytes that cannot be decoded are the only ones that nothing is read off. -/
theorem decoded_eq_error_iff {encoding : Text.Encoding} {bytes : List UInt8} :
    decoded encoding bytes = .error .undecodable ↔ encoding.decode? bytes = none := by
  unfold decoded
  cases encoding.decode? bytes <;> simp

/-- What is read off bytes is what they are decoded to. -/
theorem decoded_eq_ok_iff {encoding : Text.Encoding} {bytes : List UInt8} {text : String} :
    decoded encoding bytes = .ok text ↔ encoding.decode? bytes = some text := by
  unfold decoded
  cases encoding.decode? bytes <;> simp

/-- A span that fits reads its bytes. -/
theorem Fits.extract_eq (hfits : source.Fits span) (kind : String) :
    source.extract kind span = decoded source.encoding (source.slice (regionOf span)) := by
  rw [extract, locate_eq_ok_iff.mpr ⟨hfits, rfl⟩]
  rfl

/-- Exactly the spans that do not fit are malformed. -/
theorem extract_eq_malformed_iff (kind : String) :
    (∃ fault, source.extract kind span = .error (.malformed fault)) ↔ ¬ source.Fits span := by
  constructor
  · rintro ⟨fault, hfault⟩ hfits
    rw [hfits.extract_eq kind, decoded] at hfault
    split at hfault <;> cases hfault
  · intro hfits
    cases hlocate : source.locate kind span with
    | error fault => exact ⟨fault, by rw [extract, hlocate]⟩
    | ok region => exact absurd (locate_eq_ok_iff.mp hlocate).1 hfits

/-- A span that fits reads a stretch of the bytes that were split into the lines. -/
theorem Fits.extract_eq_decoded_stretch {bytes : List UInt8}
    (hlines : source.lines = bytes.splitOn newline) (hfits : source.Fits span) (kind : String) :
    source.extract kind span =
      decoded source.encoding
        ((bytes.take (source.offset span.stop)).drop (source.offset span.start)) := by
  rw [hfits.extract_eq kind, hfits.slice_eq_stretch, hlines, List.intercalate_splitOn]

/-- A span that fits cannot be decoded exactly if the encoding is UTF-8, the stretch is not empty and
one of its ends is inside a character. -/
theorem Fits.extract_eq_undecodable_iff {text : String}
    (hholds : ∀ c ∈ text.toList, source.encoding.Holds c)
    (hlines : source.lines = (source.encoding.layout text.toList).splitOn newline)
    (hfits : source.Fits span) (kind : String) :
    source.extract kind span = .error .undecodable ↔
      source.encoding = .utf8 ∧
      ((source.encoding.layout text.toList).take (source.offset span.stop)).drop
        (source.offset span.start) ≠ [] ∧
      (source.encoding.CutsCharacter text.toList (source.offset span.start) ∨
        source.encoding.CutsCharacter text.toList (source.offset span.stop)) := by
  obtain ⟨hle, hstop⟩ := hfits.offset_le
  rw [hlines, List.intercalate_splitOn] at hstop
  rw [hfits.extract_eq_decoded_stretch hlines kind, decoded_eq_error_iff]
  exact Text.Encoding.decode?_stretch_eq_none_iff hholds hle hstop

/-! ## Reading with every access guarded -/

/-- The bytes of a row, or nothing if there is no such row; a negative row is none. -/
def row? (source : SourceText) (row : Int) : Option (List UInt8) :=
  if row < 0 then none else source.lines[row.toNat]?

/-- The part of a list from one position up to another, or nothing if they are not in it and in
order; a negative position is not in it. -/
def part? {α : Type} (items : List α) (start stop : Int) : Option (List α) :=
  if 0 ≤ start ∧ start ≤ stop ∧ stop ≤ items.length then
    some ((items.take stop.toNat).drop start.toNat)
  else none

/-- The text of a span, read step by step: nothing as soon as a row or a part is asked for that is
not there. -/
def extractGuarded? (source : SourceText) (kind : String) (span : Span) :
    Option (Except ReadError String) :=
  let ⟨⟨startRow, startColumn⟩, ⟨stopRow, stopColumn⟩⟩ := span
  if ¬ (0 ≤ startRow ∧ startRow ≤ stopRow ∧ stopRow < source.lineCount) then
    some (.error (.malformed (.rowsOutside kind startRow stopRow source.lineCount)))
  else do
    let first ← source.row? startRow
    if startColumn < 0 ∨ first.length < startColumn then
      return .error (.malformed (.startOutside kind startColumn startRow))
    else
      let last ← source.row? stopRow
      if stopColumn < 0 ∨ last.length < stopColumn then
        return .error (.malformed (.stopOutside kind stopColumn stopRow))
      else if startRow = stopRow ∧ stopColumn < startColumn then
        return .error (.malformed (.reversed kind startRow))
      else if startRow = stopRow then
        let bytes ← part? first startColumn stopColumn
        return decoded source.encoding bytes
      else
        let head ← part? first startColumn first.length
        let between ← part? source.lines (startRow + 1) stopRow
        let tail ← part? last 0 stopColumn
        return decoded source.encoding ([newline].intercalate (head :: between ++ [tail]))

/-- A row that is there is found. -/
theorem row?_eq_some {row : Int} (hrow : 0 ≤ row) (hcount : row < source.lineCount) :
    source.row? row = some (source.bytesOf row.toNat) := by
  have hlength : row.toNat < source.lines.length := by
    rw [lineCount] at hcount
    omega
  rw [row?, if_neg (by omega), bytesOf, List.getElem?_eq_getElem hlength,
    List.getD_eq_getElem _ _ hlength]

/-- A part that is there is found. -/
theorem part?_eq_some {α : Type} {items : List α} {start stop : Int} (hstart : 0 ≤ start)
    (hle : start ≤ stop) (hstop : stop ≤ items.length) :
    part? items start stop = some ((items.take stop.toNat).drop start.toNat) :=
  if_pos ⟨hstart, hle, hstop⟩

/-- Reading never asks for a row or a part that is not there. -/
theorem extractGuarded?_eq (source : SourceText) (kind : String) (span : Span) :
    source.extractGuarded? kind span = some (source.extract kind span) := by
  obtain ⟨⟨startRow, startColumn⟩, ⟨stopRow, stopColumn⟩⟩ := span
  simp only [extractGuarded?, extract, locate]
  split
  · rfl
  · rename_i hrows
    have hfirst : source.row? startRow = some (source.bytesOf startRow.toNat) :=
      row?_eq_some (by omega) (by omega)
    have hlast : source.row? stopRow = some (source.bytesOf stopRow.toNat) :=
      row?_eq_some (by omega) (by omega)
    rw [hfirst, hlast]
    simp only [Option.bind_eq_bind, Option.bind_some]
    split
    · rfl
    · rename_i hstart
      split
      · rfl
      · rename_i hstop
        split
        · rfl
        · rename_i hordered
          split
          · rename_i hsame
            subst hsame
            rw [part?_eq_some (by omega) (by omega) (by omega)]
            change some (decoded source.encoding _) = some (decoded source.encoding (slice ..))
            rw [slice, if_pos rfl]
          · rename_i hother
            have hrow : startRow.toNat ≠ stopRow.toNat := by omega
            have hnext : (startRow + 1).toNat = startRow.toNat + 1 := by omega
            have hlines : stopRow ≤ source.lines.length := by
              rw [lineCount] at hrows
              omega
            rw [part?_eq_some (by omega) (by omega) (by omega),
              part?_eq_some (by omega) (by omega) hlines,
              part?_eq_some (by omega) (by omega) (by omega)]
            change some (decoded source.encoding _) = some (decoded source.encoding (slice ..))
            rw [slice, if_neg hrow, hnext, Int.toNat_natCast, List.take_length]
            rfl

end

end SourceText

/-- The text of a span is a stretch of the bytes. A source text made of a text in an encoding
complains about exactly the spans that do not fit it. A span that fits reads the bytes from the
offset of its start up to the offset of its stop, decoded. This fails exactly if the encoding is
UTF-8, the stretch is not empty and one of its ends is inside a character; otherwise the result is a
part of the text, with the stretch for its encoded form. Whatever the numbers of the span are, no row
and no part of a row is asked for that is not there. -/
theorem extract_eq_byte_range (encoding : Text.Encoding) (text : String) (bytes : List UInt8)
    (hbytes : encoding.encode? text = some bytes) (source : SourceText)
    (hsource : SourceText.encoded? encoding text = some source) (kind : String) (span : Span) :
    ((∃ fault, source.extract kind span = .error (.malformed fault)) ↔ ¬ source.Fits span) ∧
    (source.Fits span →
      ∃ stretch, stretch =
          (bytes.take (source.offset span.stop)).drop (source.offset span.start) ∧
        source.extract kind span = SourceText.decoded encoding stretch ∧
        (source.extract kind span = .error .undecodable ↔
          encoding = .utf8 ∧ stretch ≠ [] ∧
            (encoding.CutsCharacter text.toList (source.offset span.start) ∨
              encoding.CutsCharacter text.toList (source.offset span.stop))) ∧
        ∀ result, source.extract kind span = .ok result →
          encoding.encode? result = some stretch ∧
          ∃ before after, text = before ++ result ++ after ∧
            (result ≠ "" → ∃ bytesBefore, encoding.encode? before = some bytesBefore ∧
              bytesBefore.length = source.offset span.start)) ∧
    source.extractGuarded? kind span = some (source.extract kind span) := by
  obtain ⟨hholds, rfl⟩ := Text.Encoding.encode?_eq_some_iff.mp hbytes
  obtain rfl : ⟨encoding, (encoding.layout text.toList).splitOn newline⟩ = source := by
    rw [SourceText.encoded?, hbytes] at hsource
    exact Option.some.inj hsource
  refine ⟨SourceText.extract_eq_malformed_iff kind, ?_, SourceText.extractGuarded?_eq ..⟩
  intro hfits
  have hextract := hfits.extract_eq_decoded_stretch rfl kind
  refine ⟨_, rfl, hextract, hfits.extract_eq_undecodable_iff hholds rfl kind, ?_⟩
  intro result hresult
  obtain ⟨hle, hstop⟩ := hfits.offset_le
  rw [List.intercalate_splitOn] at hstop
  rw [hextract, SourceText.decoded_eq_ok_iff] at hresult
  obtain ⟨before, after, rfl, hbefore⟩ :=
    Text.Encoding.exists_of_decode?_stretch hholds hle hstop hresult
  refine ⟨Text.Encoding.decode?_eq_some_iff.mp hresult, before, after, rfl, ?_⟩
  intro hne
  refine ⟨_, Text.Encoding.encode?_eq_some_iff.mpr ⟨?_, rfl⟩, hbefore hne⟩
  intro c hmem
  exact hholds c (by simp [hmem])

/-- The lines of the text `é` between two lines with one letter each. -/
def accentedSource : SourceText :=
  ⟨.utf8, [[97], [195, 169], [98]]⟩

/-- A span from the first line into the middle of the accented letter fits and cannot be decoded. -/
theorem extract_into_accented_letter :
    Text.Encoding.utf8.encode? "a\né\nb" = some [97, 10, 195, 169, 10, 98] ∧
      SourceText.encoded? .utf8 "a\né\nb" = some accentedSource ∧
      accentedSource.Fits ⟨⟨0, 1⟩, ⟨1, 1⟩⟩ ∧
      accentedSource.extract "identifier" ⟨⟨0, 1⟩, ⟨1, 1⟩⟩ = .error .undecodable := by
  have hbytes : Text.Encoding.utf8.encode? "a\né\nb" = some [97, 10, 195, 169, 10, 98] := by
    decide
  have hsource : SourceText.encoded? .utf8 "a\né\nb" = some accentedSource := by decide
  have hfits : accentedSource.Fits ⟨⟨0, 1⟩, ⟨1, 1⟩⟩ := by decide
  obtain ⟨_, hread, _⟩ := extract_eq_byte_range .utf8 "a\né\nb" _ hbytes accentedSource hsource
    "identifier" ⟨⟨0, 1⟩, ⟨1, 1⟩⟩
  obtain ⟨stretch, rfl, _, hundecodable, _⟩ := hread hfits
  refine ⟨hbytes, hsource, hfits, hundecodable.mpr ⟨rfl, by decide, .inr ?_⟩⟩
  exact ⟨['a', '\n'], 'é', ['\n', 'b'], by decide, by decide, by decide⟩

end JavaOutline

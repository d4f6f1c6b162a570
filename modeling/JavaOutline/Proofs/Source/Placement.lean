import JavaOutline.Proofs.Source.Extraction

/-!
# A text inside a larger one

A text with other texts above and below it, each set off by a newline, keeps its lines; only their
numbers change, by the number of lines above. So a span that fits the text fits the larger one when it
is moved down by that many rows, and both cover the same bytes, in one line or over several. Of a span
that does not fit, nothing is said: it may well cover something of what is above or below.
-/

namespace JavaOutline

/-- A point that is so many rows further down. -/
def Point.moveDown (rows : Nat) (point : Point) : Point :=
  { point with row := point.row + rows }

/-- A span that is so many rows further down. -/
def Span.moveDown (rows : Nat) (span : Span) : Span :=
  ⟨span.start.moveDown rows, span.stop.moveDown rows⟩

/-- A region that is so many rows further down. -/
def Region.moveDown (rows : Nat) (region : Region) : Region :=
  { region with startRow := region.startRow + rows, stopRow := region.stopRow + rows }

namespace SourceText

/-- The lines of a source text stand in another one, with so many rows above them. -/
structure HoldsAt (whole : SourceText) (rows : Nat) (part : SourceText) : Prop where
  encoding_eq : whole.encoding = part.encoding
  exists_lines : ∃ above below, above.length = rows ∧ whole.lines = above ++ part.lines ++ below

/-- Texts that are joined by a newline have their lines one after the other. -/
theorem lines_ofString_append_newline (above below : String) :
    (ofString (above ++ "\n" ++ below)).lines = (ofString above).lines ++ (ofString below).lines := by
  have hnewline : String.utf8EncodeChar '\n' = [newline] := by decide
  simp only [ofString, String.toList_append, List.flatMap_append, List.append_assoc]
  rw [show "\n".toList = ['\n'] from rfl, List.flatMap_singleton, hnewline, List.singleton_append,
    List.splitOn_append_cons_self]

/-- A text stands in the text that has others above and below it. -/
theorem holdsAt_ofString (above text below : String) :
    (ofString (above ++ "\n" ++ text ++ "\n" ++ below)).HoldsAt (ofString above).lineCount
      (ofString text) where
  encoding_eq := rfl
  exists_lines := by
    refine ⟨(ofString above).lines, (ofString below).lines, rfl, ?_⟩
    rw [lines_ofString_append_newline, lines_ofString_append_newline]

namespace HoldsAt

variable {whole part : SourceText} {rows : Nat}

/-- A row of the part stands further down in the whole. -/
theorem bytesOf_add (hholds : whole.HoldsAt rows part) {row : Nat} (hrow : row < part.lineCount) :
    whole.bytesOf (row + rows) = part.bytesOf row := by
  obtain ⟨above, below, rfl, hlines⟩ := hholds.exists_lines
  rw [bytesOf, hlines, List.append_assoc, List.getD_append_right _ _ _ _ (Nat.le_add_left ..),
    Nat.add_sub_cancel, List.getD_append _ _ _ _ hrow]
  rfl

/-- The lines of the part and those above it are lines of the whole. -/
theorem lineCount_le (hholds : whole.HoldsAt rows part) :
    part.lineCount + rows ≤ whole.lineCount := by
  obtain ⟨above, below, rfl, hlines⟩ := hholds.exists_lines
  simp only [lineCount, hlines, List.length_append]
  omega

/-- The lines between two rows of the part stand further down in the whole. -/
theorem drop_take_lines (hholds : whole.HoldsAt rows part) (start : Nat) {stop : Nat}
    (hstop : stop < part.lineCount) :
    (whole.lines.take (stop + rows)).drop (start + rows) = (part.lines.take stop).drop start := by
  obtain ⟨above, below, rfl, hlines⟩ := hholds.exists_lines
  have hle : stop ≤ part.lines.length := Nat.le_of_lt hstop
  rw [hlines, List.append_assoc, Nat.add_comm stop, List.take_length_add_append,
    List.take_append_of_le_length hle, Nat.add_comm start, List.drop_length_add_append]

variable {span : Span}

/-- A span that fits the part fits the whole further down. -/
theorem fits_moveDown (hholds : whole.HoldsAt rows part) (hfits : part.Fits span) :
    whole.Fits (span.moveDown rows) := by
  obtain ⟨hrow, hrows, hstop, hcolumn, hstart, hcolumn', hlast, hordered⟩ := hfits
  have hcount := hholds.lineCount_le
  have hfirstRow : (span.start.row + rows).toNat = span.start.row.toNat + rows := by omega
  have hlastRow : (span.stop.row + rows).toNat = span.stop.row.toNat + rows := by omega
  have hfirstBytes := hholds.bytesOf_add (show span.start.row.toNat < part.lineCount by omega)
  have hlastBytes := hholds.bytesOf_add (show span.stop.row.toNat < part.lineCount by omega)
  simp only [Fits, Span.moveDown, Point.moveDown, hfirstRow, hlastRow, hfirstBytes, hlastBytes]
  omega

/-- A region of the part holds the same bytes in the whole further down. -/
theorem slice_moveDown (hholds : whole.HoldsAt rows part) {region : Region}
    (hrows : region.startRow ≤ region.stopRow) (hstop : region.stopRow < part.lineCount) :
    whole.slice (region.moveDown rows) = part.slice region := by
  have hfirst := hholds.bytesOf_add (Nat.lt_of_le_of_lt hrows hstop)
  have hlast := hholds.bytesOf_add hstop
  have hbetween := hholds.drop_take_lines (region.startRow + 1) hstop
  rw [Nat.add_right_comm] at hbetween
  by_cases hsame : region.startRow = region.stopRow
  · have hmoved : (region.moveDown rows).startRow = (region.moveDown rows).stopRow :=
      congrArg (· + rows) hsame
    rw [slice, slice, if_pos hmoved, if_pos hsame, Region.moveDown, hfirst]
  · have hmoved : ¬ (region.moveDown rows).startRow = (region.moveDown rows).stopRow :=
      fun heq => hsame (Nat.add_right_cancel heq)
    rw [slice, slice, if_neg hmoved, if_neg hsame, Region.moveDown, hfirst, hlast, hbetween]

/-- A span that fits the part reads the same in the whole further down. -/
theorem extract_moveDown (hholds : whole.HoldsAt rows part) (hfits : part.Fits span)
    (kind : String) :
    whole.extract kind (span.moveDown rows) = part.extract kind span := by
  have hregion : regionOf (span.moveDown rows) = (regionOf span).moveDown rows := by
    obtain ⟨hrow, hrows, _⟩ := hfits
    simp only [regionOf, Span.moveDown, Point.moveDown, Region.moveDown, Region.mk.injEq, true_and,
      and_true]
    omega
  have hslice : whole.slice ((regionOf span).moveDown rows) = part.slice (regionOf span) := by
    obtain ⟨hrow, hrows, hstop, _⟩ := hfits
    exact hholds.slice_moveDown (Int.toNat_le_toNat hrows) (by simp only [regionOf]; omega)
  rw [(hholds.fits_moveDown hfits).extract_eq, hfits.extract_eq, hregion, hslice,
    hholds.encoding_eq]

end HoldsAt

end SourceText

end JavaOutline

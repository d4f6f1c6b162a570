import JavaOutline.Source.Lines
import JavaOutline.Proofs.Text.Encoding
import JavaOutline.Proofs.Text.Lines

/-!
# Splitting into rows loses nothing

A source text is split at the byte of a line end, and not at the character. In each encoding that
byte stands for a line end and is no part of any other character, so the rows are the lines of the
text, each encoded for itself. Hence every row can be decoded, none of them holds a line end, and
joined by line ends they are the text again. A row can be asked for by its number from either end;
no other number leads to a row.
-/

namespace JavaOutline

/-! ## The byte of a line end -/

namespace Text.Encoding

variable {encoding : Encoding}

/-- A line end is one byte. -/
theorem bytesOfChar_newline : encoding.bytesOfChar '\n' = [newline] := by
  cases encoding <;> decide

/-- A character of UTF-8 with more than one byte is made of bytes that are no characters alone. -/
theorem le_of_mem_utf8EncodeChar {c : Char} (hc : ¬ c.toNat ≤ 0x7F) {byte : UInt8}
    (hbyte : byte ∈ String.utf8EncodeChar c) : 0x80 ≤ byte.toNat := by
  have hval : ¬ c.val.toNat ≤ 0x7F := hc
  simp only [String.utf8EncodeChar, hval, if_false] at hbyte
  split at hbyte
  · simp only [List.mem_cons, List.not_mem_nil, or_false] at hbyte
    rcases hbyte with rfl | rfl <;> simp only [UInt8.toNat_ofNat'] <;> omega
  · split at hbyte
    · simp only [List.mem_cons, List.not_mem_nil, or_false] at hbyte
      rcases hbyte with rfl | rfl | rfl <;> simp only [UInt8.toNat_ofNat'] <;> omega
    · simp only [List.mem_cons, List.not_mem_nil, or_false] at hbyte
      rcases hbyte with rfl | rfl | rfl | rfl <;> simp only [UInt8.toNat_ofNat'] <;> omega

/-- No other character than a line end has its byte. -/
theorem newline_not_mem_bytesOfChar {c : Char} (hholds : encoding.Holds c) (hc : c ≠ '\n') :
    newline ∉ encoding.bytesOfChar c := by
  have hcode : c.toNat ≠ 10 := fun heq => hc (Char.toNat_inj.mp heq)
  -- a character of one byte has its code point for the byte
  have hsingle (hlimit : c.toNat < 0x100) : newline ∉ [UInt8.ofNat c.toNat] := by
    intro hmem
    have hbyte := congrArg UInt8.toNat (List.mem_singleton.mp hmem)
    rw [UInt8.toNat_ofNat'] at hbyte
    change 10 = _ at hbyte
    omega
  cases encoding with
  | utf8 =>
    by_cases hascii : c.toNat ≤ 0x7F
    · have hbytes : String.utf8EncodeChar c = [UInt8.ofNat c.toNat] := if_pos hascii
      rw [bytesOfChar, hbytes]
      exact hsingle (by omega)
    · intro hmem
      have hle := le_of_mem_utf8EncodeChar hascii hmem
      exact absurd hle (by decide)
  | latin1 | ascii =>
    have hlimit := hholds.resolve_left (by decide)
    exact hsingle (Nat.lt_of_lt_of_le hlimit (by decide))

/-- The layout of a single line holds no byte of a line end. -/
theorem newline_not_mem_layout {cs : List Char} (hholds : ∀ c ∈ cs, encoding.Holds c)
    (hcs : '\n' ∉ cs) : newline ∉ encoding.layout cs := by
  intro hmem
  obtain ⟨c, hc, hbyte⟩ := List.mem_flatMap.mp hmem
  exact newline_not_mem_bytesOfChar (hholds c hc) (fun heq => hcs (heq ▸ hc)) hbyte

/-- Lines that are joined by line ends are laid out one by one. -/
theorem layout_intercalate (rows : List (List Char)) :
    encoding.layout (['\n'].intercalate rows) =
      [newline].intercalate (rows.map encoding.layout) := by
  induction rows with
  | nil => rfl
  | cons row rows ih =>
    by_cases hrows : rows = []
    · simp [hrows]
    · have hmap : rows.map encoding.layout ≠ [] := by simpa using hrows
      rw [List.map_cons, List.intercalate_cons_of_ne_nil hrows,
        List.intercalate_cons_of_ne_nil hmap, layout_append, layout_append, layout_singleton,
        bytesOfChar_newline, ih]

/-- Splitting the bytes of a text gives the layouts of its lines. -/
theorem splitOn_layout {cs : List Char} (hholds : ∀ c ∈ cs, encoding.Holds c) :
    (encoding.layout cs).splitOn newline = (lines cs).map encoding.layout := by
  have hrow : ∀ row ∈ (lines cs).map encoding.layout, newline ∉ row := by
    intro row hrow
    obtain ⟨line, hline, rfl⟩ := List.mem_map.mp hrow
    exact newline_not_mem_layout
      (fun c hc => hholds c (mem_and_ne_of_mem_splitOn hline hc).1)
      (fun hend => (mem_and_ne_of_mem_splitOn hline hend).2 rfl)
  have hne : (lines cs).map encoding.layout ≠ [] := by
    rw [lines, ne_eq, List.map_eq_nil_iff]
    exact List.splitOn_ne_nil '\n' cs
  have hjoined : ['\n'].intercalate (lines cs) = cs := List.intercalate_splitOn '\n'
  calc (encoding.layout cs).splitOn newline
      = (encoding.layout (['\n'].intercalate (lines cs))).splitOn newline := by rw [hjoined]
    _ = ([newline].intercalate ((lines cs).map encoding.layout)).splitOn newline := by
        rw [layout_intercalate]
    _ = (lines cs).map encoding.layout := List.splitOn_intercalate newline hrow hne

end Text.Encoding

namespace SourceText

variable {encoding : Text.Encoding} {text : String} {source : SourceText}

/-- The rows of a source text are the lines of the text, each encoded for itself. -/
theorem eq_of_encoded? (hsource : encoded? encoding text = some source) :
    (∀ c ∈ text.toList, encoding.Holds c) ∧
      source = ⟨encoding, (Text.lines text.toList).map encoding.layout⟩ := by
  rw [encoded?, Option.map_eq_some_iff] at hsource
  obtain ⟨bytes, hbytes, rfl⟩ := hsource
  obtain ⟨hholds, rfl⟩ := Text.Encoding.encode?_eq_some_iff.mp hbytes
  exact ⟨hholds, by rw [Text.Encoding.splitOn_layout hholds]⟩

/-- There is one row more than there are line ends. -/
theorem lineCount_eq (hsource : encoded? encoding text = some source) :
    source.lineCount = 1 + text.toList.count '\n' := by
  obtain ⟨_, rfl⟩ := eq_of_encoded? hsource
  rw [lineCount, List.length_map, Text.length_lines, Nat.add_comm]

/-- A row that is there reads the line of the text. -/
theorem line_eq_ok (hsource : encoded? encoding text = some source) {row : Nat} {cs : List Char}
    (hrow : (Text.lines text.toList)[row]? = some cs) :
    source.line row = .ok (String.ofList cs) := by
  obtain ⟨hholds, rfl⟩ := eq_of_encoded? hsource
  have hcs : ∀ c ∈ cs, encoding.Holds c := fun c hc =>
    hholds c (Text.mem_and_ne_of_mem_splitOn (List.mem_of_getElem? hrow) hc).1
  have hdecode : encoding.decode? (encoding.layout cs) = some (String.ofList cs) := by
    rw [Text.Encoding.decode?_eq_some_iff, Text.Encoding.encode?_eq_some_iff, String.toList_ofList]
    exact ⟨hcs, rfl⟩
  have hfront : ¬ (row : Int) < 0 := by omega
  simp only [line, if_neg hfront, Int.toNat_natCast, List.getElem?_map, hrow, Option.map_some,
    hdecode]

/-- A row that is counted from the end is the row that is as far from the start. -/
theorem line_sub_lineCount (source : SourceText) {row : Nat} (hrow : row < source.lineCount) :
    source.line (row - source.lineCount) = source.line row := by
  have hback : (row - source.lineCount : Int) < 0 := by omega
  have hfront : ¬ (row : Int) < 0 := by omega
  simp only [line, if_pos hback, if_neg hfront, Int.sub_add_cancel]

/-- Numbers beyond both ends lead to no row. -/
theorem line_eq_noSuchRow (source : SourceText) {row : Int}
    (hrow : row < -source.lineCount ∨ source.lineCount ≤ row) :
    source.line row = .error .noSuchRow := by
  rcases hrow with hlow | hhigh
  · have hback : row < 0 := by omega
    have houtside : row + source.lineCount < 0 := by omega
    simp only [line, if_pos hback, if_pos houtside]
  · have hfront : ¬ row < 0 := by omega
    have hnone : source.lines[row.toNat]? = none := by
      rw [List.getElem?_eq_none_iff, ← lineCount]
      omega
    simp only [line, if_neg hfront, hnone]

end SourceText

/-- Splitting into rows loses nothing. A source text made of a text in any encoding that holds it
has one row more than the text has line ends. Every row is read, has no line end, and is the same
counted from the end; no other number leads to a row. The rows joined by line ends are the text. -/
theorem rows_lose_nothing (encoding : Text.Encoding) (text : String) (source : SourceText)
    (hsource : SourceText.encoded? encoding text = some source) :
    source.lineCount = 1 + text.toList.count '\n' ∧
    (∀ row : Nat, row < source.lineCount → ∃ line, source.line row = .ok line ∧
      Text.IsOneLine line ∧ source.line (row - source.lineCount) = .ok line) ∧
    (∀ row : Int, row < -source.lineCount ∨ source.lineCount ≤ row →
      source.line row = .error .noSuchRow) ∧
    ∃ lines : List String,
      lines.map .ok = (List.range source.lineCount).map (fun row : Nat => source.line row) ∧
      "\n".intercalate lines = text := by
  have hcount : (Text.lines text.toList).length = source.lineCount := by
    rw [SourceText.lineCount_eq hsource, Text.length_lines, Nat.add_comm]
  refine ⟨SourceText.lineCount_eq hsource, ?_, fun _ => source.line_eq_noSuchRow, ?_⟩
  · intro row hrow
    rw [← hcount] at hrow
    have hget := List.getElem?_eq_getElem hrow
    have hline := SourceText.line_eq_ok hsource hget
    refine ⟨_, hline, ?_, ?_⟩
    · intro hend
      rw [String.toList_ofList] at hend
      exact (Text.mem_and_ne_of_mem_splitOn (List.mem_of_getElem? hget) hend).2 rfl
    · rw [source.line_sub_lineCount (hcount ▸ hrow), hline]
  · refine ⟨(Text.lines text.toList).map String.ofList, ?_, ?_⟩
    · apply List.ext_getElem (by simp [hcount])
      intro row hrow _
      rw [List.length_map, List.length_map] at hrow
      simp [SourceText.line_eq_ok hsource (List.getElem?_eq_getElem hrow)]
    · apply String.toList_injective
      have hjoined : ['\n'].intercalate (Text.lines text.toList) = text.toList :=
        List.intercalate_splitOn '\n'
      simp [hjoined]

/-- A text with an accented letter, a carriage return, an empty line and a line end at its end. -/
def unevenText : String := "é\r\n\nb\n"

/-- The rows of `unevenText` in Latin-1. -/
def unevenSource : SourceText :=
  ⟨.latin1, [[233, 13], [], [98], []]⟩

/-- `unevenText` has four rows, the last of them empty; the carriage return stays in its row, and
there is no fifth row from either end. -/
theorem rows_of_unevenText :
    SourceText.encoded? .latin1 unevenText = some unevenSource ∧
      unevenSource.lineCount = 1 + unevenText.toList.count '\n' ∧
      unevenSource.line (0 - 4) = .ok "é\r" ∧
      unevenSource.line 4 = .error .noSuchRow ∧
      unevenSource.line (-5) = .error .noSuchRow := by
  have hsource : SourceText.encoded? .latin1 unevenText = some unevenSource := by decide
  obtain ⟨hcount, hrows, hothers, _⟩ := rows_lose_nothing .latin1 unevenText unevenSource hsource
  obtain ⟨line, hfront, _, hback⟩ := hrows 0 (by decide)
  have hfirst : (Text.lines unevenText.toList)[0]? = some ['é', '\r'] := by decide
  have hline : unevenSource.line 0 = .ok "é\r" := SourceText.line_eq_ok hsource hfirst
  refine ⟨hsource, hcount, ?_, hothers 4 (by decide), hothers (-5) (by decide)⟩
  exact hback.trans (hfront.symm.trans hline)

end JavaOutline

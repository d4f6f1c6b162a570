import JavaOutline.Text.Encoding

/-!
# Stretches of an encoded text

In each encoding a text is laid out character by character, and decoding is the inverse of encoding:
bytes are decoded exactly if they are the layout of a text, and then to that text. A stretch of a
layout, from one offset up to another, is again the layout of a text if both offsets stand between
two characters; that text is then the part of the whole between them. If the stretch is not empty
there is no other way, because a UTF-8 character cannot start or end inside another. In the encodings
with one byte a character no offset stands inside a character at all.
-/

namespace JavaOutline.Text.Encoding

/-! ## Layouts -/

/-- The bytes of one character. -/
def bytesOfChar (encoding : Encoding) (c : Char) : List UInt8 :=
  match encoding with
  | utf8 => String.utf8EncodeChar c
  | _ => [UInt8.ofNat c.toNat]

/-- The bytes of several characters in a row. -/
def layout (encoding : Encoding) (cs : List Char) : List UInt8 :=
  cs.flatMap encoding.bytesOfChar

/-- Whether an encoding holds a character. -/
def Holds (encoding : Encoding) (c : Char) : Prop :=
  encoding = utf8 ∨ c.toNat < encoding.limit

variable {encoding : Encoding}

/-- The layout of a text in UTF-8. -/
theorem layout_utf8 (cs : List Char) : utf8.layout cs = cs.flatMap String.utf8EncodeChar := rfl

/-- The layout of a text in an encoding with one byte a character. -/
theorem layout_of_ne_utf8 (hencoding : encoding ≠ utf8) (cs : List Char) :
    encoding.layout cs = cs.map fun c => UInt8.ofNat c.toNat := by
  cases encoding with
  | utf8 => exact absurd rfl hencoding
  | latin1 | ascii => exact List.map_eq_flatMap.symm

@[simp] theorem layout_nil : encoding.layout [] = [] := rfl

@[simp] theorem layout_append (first second : List Char) :
    encoding.layout (first ++ second) = encoding.layout first ++ encoding.layout second :=
  List.flatMap_append

/-- The layout of a first character and of the others. -/
theorem layout_cons (c : Char) (cs : List Char) :
    encoding.layout (c :: cs) = encoding.bytesOfChar c ++ encoding.layout cs :=
  List.flatMap_cons ..

/-- The layout of one character. -/
theorem layout_singleton (c : Char) : encoding.layout [c] = encoding.bytesOfChar c :=
  List.flatMap_singleton ..

/-- Only the empty text takes no bytes. -/
theorem layout_eq_nil_iff {cs : List Char} : encoding.layout cs = [] ↔ cs = [] := by
  cases cs with
  | nil => simp
  | cons c cs =>
    rw [layout_cons]
    cases encoding <;> simp [bytesOfChar]

/-- A part of a text at its start takes no more bytes than the text. -/
theorem length_layout_mono (encoding : Encoding) {before cs : List Char} (h : before <+: cs) :
    (encoding.layout before).length ≤ (encoding.layout cs).length := by
  obtain ⟨after, rfl⟩ := h
  simp

/-- Outside UTF-8, a character takes one byte. -/
theorem length_layout_of_ne_utf8 (hencoding : encoding ≠ utf8) (cs : List Char) :
    (encoding.layout cs).length = cs.length := by
  rw [layout_of_ne_utf8 hencoding, List.length_map]

/-- The layout of characters that all have a byte of their own. -/
theorem mapM_byte?_eq_some_iff {cs : List Char} {bytes : List UInt8} :
    cs.mapM encoding.byte? = some bytes ↔
      (∀ c ∈ cs, c.toNat < encoding.limit) ∧ cs.map (fun c => UInt8.ofNat c.toNat) = bytes := by
  induction cs generalizing bytes with
  | nil => simp
  | cons c cs ih =>
    by_cases hlimit : c.toNat < encoding.limit
    · rw [List.mapM_cons, byte?, if_pos hlimit]
      simp [hlimit, Option.bind_eq_some_iff, ih, and_assoc]
    · rw [List.mapM_cons, byte?, if_neg hlimit]
      simp [hlimit]

/-- A text is encoded exactly if the encoding holds its characters, and then by its layout. -/
theorem encode?_eq_some_iff {text : String} {bytes : List UInt8} :
    encoding.encode? text = some bytes ↔
      (∀ c ∈ text.toList, encoding.Holds c) ∧ encoding.layout text.toList = bytes := by
  cases encoding with
  | utf8 => simp [encode?, layout_utf8, Holds]
  | latin1 | ascii =>
    rw [layout_of_ne_utf8 (by decide)]
    simp only [encode?, Holds, reduceCtorEq, false_or]
    exact mapM_byte?_eq_some_iff

/-! ## Decoding -/

/-- Going through a list one by one can be undone one by one. -/
theorem mapM_eq_some_iff_of_inverse {α β : Type} {there : α → Option β} {back : β → Option α}
    (hinverse : ∀ a b, there a = some b ↔ back b = some a) (as : List α) (bs : List β) :
    as.mapM there = some bs ↔ bs.mapM back = some as := by
  induction as generalizing bs with
  | nil => cases bs <;> simp [Option.bind_eq_some_iff]
  | cons a as ih =>
    cases bs with
    | nil => simp [Option.bind_eq_some_iff]
    | cons b bs => simp [Option.bind_eq_some_iff, hinverse, ih]

/-- A byte stands for a character exactly if it is the byte of that character. -/
theorem char?_eq_some_iff (b : UInt8) (c : Char) :
    encoding.char? b = some c ↔ encoding.byte? c = some b := by
  have hbyte : b.toNat < 256 := b.toNat_lt
  have hvalid : b.toNat.isValidChar := .inl (by omega)
  have hround : (Char.ofNat b.toNat).toNat = b.toNat := by
    rw [Char.ofNat, dif_pos hvalid]
    rfl
  have hlimit : encoding.limit ≤ 256 := by cases encoding <;> decide
  unfold char? byte?
  constructor
  · intro h
    split at h
    · cases h
      rw [hround, if_pos ‹_›, UInt8.ofNat_toNat]
    · cases h
  · intro h
    split at h
    · cases h
      have hsmall : (UInt8.ofNat c.toNat).toNat = c.toNat := by
        rw [UInt8.toNat_ofNat']
        omega
      rw [hsmall, if_pos ‹_›, Char.ofNat_toNat]
    · cases h

/-- Bytes are UTF-8 exactly if they are the layout of a text. -/
theorem fromUTF8?_eq_some_iff {bytes : List UInt8} {text : String} :
    String.fromUTF8? ⟨bytes.toArray⟩ = some text ↔ utf8.layout text.toList = bytes := by
  have harray : (⟨bytes.toArray⟩ : ByteArray) = bytes.toByteArray :=
    ByteArray.ext List.data_toByteArray.symm
  have hbytes : text.toByteArray = ⟨bytes.toArray⟩ ↔ utf8.layout text.toList = bytes := by
    rw [harray, ← String.utf8Encode_toList, List.utf8Encode, List.toByteArray_inj, layout_utf8]
  rw [← hbytes, String.fromUTF8?]
  split
  · rw [Option.some.injEq]
    constructor
    · rintro rfl
      rfl
    · intro heq
      exact (String.toByteArray_inj.mp heq).symm
  · rename_i hvalid
    simp only [reduceCtorEq, false_iff]
    intro heq
    exact hvalid (heq ▸ text.isValidUTF8)

/-- Decoding is the inverse of encoding. -/
theorem decode?_eq_some_iff {bytes : List UInt8} {text : String} :
    encoding.decode? bytes = some text ↔ encoding.encode? text = some bytes := by
  cases encoding with
  | utf8 => exact fromUTF8?_eq_some_iff.trans (by simp [encode?, layout_utf8])
  | latin1 | ascii =>
    simp only [decode?, encode?]
    rw [← mapM_eq_some_iff_of_inverse char?_eq_some_iff, Option.map_eq_some_iff]
    constructor
    · rintro ⟨cs, hcs, rfl⟩
      simpa using hcs
    · intro h
      exact ⟨text.toList, h, by simp⟩

/-! ## Offsets -/

/-- An offset stands between two characters or at an end of the text. -/
def IsBoundary (encoding : Encoding) (cs : List Char) (offset : Nat) : Prop :=
  ∃ before after, cs = before ++ after ∧ (encoding.layout before).length = offset

/-- An offset stands inside the bytes of a character. -/
def CutsCharacter (encoding : Encoding) (cs : List Char) (offset : Nat) : Prop :=
  ∃ before c after, cs = before ++ c :: after ∧ (encoding.layout before).length < offset ∧
    offset < (encoding.layout (before ++ [c])).length

section

variable {cs : List Char} {offset start stop : Nat} {text : String}

/-- An offset between two characters comes after some number of characters. -/
theorem isBoundary_iff_exists_take :
    encoding.IsBoundary cs offset ↔
      ∃ count ∈ List.range (cs.length + 1), (encoding.layout (cs.take count)).length = offset := by
  constructor
  · rintro ⟨before, after, rfl, hlength⟩
    refine ⟨before.length, ?_, ?_⟩
    · rw [List.mem_range, List.length_append]
      omega
    · rwa [List.take_left]
  · rintro ⟨count, _, hlength⟩
    exact ⟨cs.take count, cs.drop count, (List.take_append_drop count cs).symm, hlength⟩

instance : Decidable (encoding.IsBoundary cs offset) :=
  decidable_of_iff _ isBoundary_iff_exists_take.symm

/-- An offset in a text stands between characters or inside one. -/
theorem isBoundary_or_cutsCharacter (hoffset : offset ≤ (encoding.layout cs).length) :
    encoding.IsBoundary cs offset ∨ encoding.CutsCharacter cs offset := by
  induction cs generalizing offset with
  | nil => exact .inl ⟨[], [], rfl, (Nat.le_zero.mp hoffset).symm⟩
  | cons c cs ih =>
    rw [layout_cons, List.length_append] at hoffset
    by_cases hfirst : offset < (encoding.bytesOfChar c).length
    · rcases Nat.eq_zero_or_pos offset with rfl | hpos
      · exact .inl ⟨[], c :: cs, rfl, rfl⟩
      · exact .inr ⟨[], c, cs, rfl, hpos, by simpa [layout_singleton] using hfirst⟩
    · have hrest : offset - (encoding.bytesOfChar c).length ≤ (encoding.layout cs).length := by omega
      rcases ih hrest with ⟨before, after, rfl, hbefore⟩ | ⟨before, d, after, rfl, hlow, hhigh⟩
      · refine .inl ⟨c :: before, after, rfl, ?_⟩
        rw [layout_cons, List.length_append]
        omega
      · refine .inr ⟨c :: before, d, after, rfl, ?_, ?_⟩
        · rw [layout_cons, List.length_append]
          omega
        · rw [List.cons_append, layout_cons, List.length_append]
          omega

/-- No offset stands both between characters and inside one. -/
theorem IsBoundary.not_cutsCharacter (h : encoding.IsBoundary cs offset) :
    ¬ encoding.CutsCharacter cs offset := by
  rintro ⟨before, c, after, rfl, hlow, hhigh⟩
  obtain ⟨upTo, rest, hsplit, rfl⟩ := h
  have hupTo : upTo <+: before ++ c :: after := ⟨rest, hsplit.symm⟩
  have hshort : before <+: before ++ c :: after := List.prefix_append ..
  have hlong : before ++ [c] <+: before ++ c :: after := ⟨after, by simp⟩
  by_cases hlength : upTo.length ≤ before.length
  · have hle := length_layout_mono encoding
      (List.prefix_of_prefix_length_le hupTo hshort hlength)
    omega
  · have hle := length_layout_mono encoding
      (List.prefix_of_prefix_length_le hlong hupTo (by simp; omega))
    omega

/-- Only in UTF-8 an offset can stand inside a character. -/
theorem CutsCharacter.eq_utf8 (h : encoding.CutsCharacter cs offset) : encoding = utf8 := by
  obtain ⟨before, c, after, _, hlow, hhigh⟩ := h
  by_cases hencoding : encoding = utf8
  · exact hencoding
  · rw [length_layout_of_ne_utf8 hencoding] at hlow hhigh
    rw [List.length_append, List.length_singleton] at hhigh
    omega

/-! ## Stretches -/

/-- The stretch between two boundaries is the layout of the characters between them. -/
theorem IsBoundary.exists_between (hstart : encoding.IsBoundary cs start)
    (hstop : encoding.IsBoundary cs stop) (hle : start ≤ stop) :
    ∃ before middle after, cs = before ++ middle ++ after ∧
      (encoding.layout before).length = start ∧
      ((encoding.layout cs).take stop).drop start = encoding.layout middle := by
  obtain ⟨before, later, rfl, rfl⟩ := hstart
  obtain ⟨upTo, after, hsplit, rfl⟩ := hstop
  by_cases hlength : before.length ≤ upTo.length
  · have hprefix : before <+: upTo := List.prefix_of_prefix_length_le (List.prefix_append ..)
      ⟨after, hsplit.symm⟩ hlength
    obtain ⟨middle, rfl⟩ := hprefix
    refine ⟨before, middle, after, hsplit, rfl, ?_⟩
    rw [hsplit, layout_append _ after, List.take_left, layout_append, List.drop_left]
  · -- then `upTo` is the shorter part and takes as many bytes as `before`
    have hprefix : upTo <+: before := List.prefix_of_prefix_length_le ⟨after, hsplit.symm⟩
      (List.prefix_append ..) (by omega)
    have hsame := Nat.le_antisymm hle (length_layout_mono encoding hprefix)
    refine ⟨before, [], later, by simp, rfl, ?_⟩
    rw [← hsame, List.drop_take_self]
    rfl

/-- A valid position of a text stands between two characters. -/
theorem isBoundary_of_isValid {position : String.Pos.Raw} (h : position.IsValid text) :
    utf8.IsBoundary text.toList position.byteIdx := by
  obtain ⟨before, after, hbefore, rfl⟩ := h.exists
  refine ⟨before, after, by simp, ?_⟩
  have hsize := congrArg ByteArray.size hbefore
  have hend : position.byteIdx ≤ (String.ofList (before ++ after)).toByteArray.size := by
    rw [String.size_toByteArray]
    exact h.le_rawEndPos
  rw [List.utf8Encode, List.size_toByteArray, ByteArray.size_extract] at hsize
  rw [layout_utf8]
  omega

/-- If a stretch that is not empty is UTF-8, both its ends stand between characters. -/
theorem isBoundary_of_decode?_utf8 {result : String} (hlt : start < stop)
    (hstop : stop ≤ (utf8.layout text.toList).length)
    (hdecode : utf8.decode? (((utf8.layout text.toList).take stop).drop start) = some result) :
    utf8.IsBoundary text.toList start ∧ utf8.IsBoundary text.toList stop := by
  have hbytes : text.toByteArray = (utf8.layout text.toList).toByteArray := by
    rw [layout_utf8, ← List.utf8Encode, String.utf8Encode_toList]
  have hstretch : text.toByteArray.extract start stop =
      (((utf8.layout text.toList).take stop).drop start).toByteArray := by
    rw [hbytes]
    apply ByteArray.ext
    simp [List.extract_eq_take_drop, List.drop_take]
  have hvalid : (text.toByteArray.extract start stop).IsValidUTF8 := by
    have hresult := (encode?_eq_some_iff.mp (decode?_eq_some_iff.mp hdecode)).2
    exact .intro result.toList (by rw [hstretch, ← hresult, layout_utf8, List.utf8Encode])
  have hend : (⟨stop⟩ : String.Pos.Raw) ≤ text.rawEndPos := by
    rw [String.Pos.Raw.le_iff, String.byteIdx_rawEndPos, ← String.size_toByteArray, hbytes,
      List.size_toByteArray]
    exact hstop
  rcases (String.Pos.Raw.isValidUTF8_extract_iff ⟨start⟩ ⟨stop⟩ (Nat.le_of_lt hlt) hend).mp hvalid
    with hsame | ⟨hstart, hstop⟩
  · exact absurd (congrArg String.Pos.Raw.byteIdx hsame) (Nat.ne_of_lt hlt)
  · exact ⟨isBoundary_of_isValid hstart, isBoundary_of_isValid hstop⟩

/-- If a stretch that is not empty is decoded, both its ends stand between characters. -/
theorem isBoundary_of_decode? {result : String} (hlt : start < stop)
    (hstop : stop ≤ (encoding.layout text.toList).length)
    (hdecode : encoding.decode? (((encoding.layout text.toList).take stop).drop start) =
      some result) :
    encoding.IsBoundary text.toList start ∧ encoding.IsBoundary text.toList stop := by
  by_cases hutf8 : encoding = utf8
  · subst hutf8
    exact isBoundary_of_decode?_utf8 hlt hstop hdecode
  · have hnot (offset : Nat) : ¬ encoding.CutsCharacter text.toList offset :=
      fun hcut => hutf8 hcut.eq_utf8
    exact ⟨(isBoundary_or_cutsCharacter (by omega)).resolve_right (hnot start),
      (isBoundary_or_cutsCharacter hstop).resolve_right (hnot stop)⟩

/-- The stretch between two boundaries is decoded to the characters between them. -/
theorem IsBoundary.decode?_between (hholds : ∀ c ∈ cs, encoding.Holds c)
    (hstart : encoding.IsBoundary cs start) (hstop : encoding.IsBoundary cs stop)
    (hle : start ≤ stop) :
    ∃ before middle after, cs = before ++ middle ++ after ∧
      (encoding.layout before).length = start ∧
      encoding.decode? (((encoding.layout cs).take stop).drop start) =
        some (String.ofList middle) := by
  obtain ⟨before, middle, after, rfl, hbefore, hmiddle⟩ := hstart.exists_between hstop hle
  refine ⟨before, middle, after, rfl, hbefore, ?_⟩
  rw [hmiddle, decode?_eq_some_iff, encode?_eq_some_iff, String.toList_ofList]
  exact ⟨fun c hmem => hholds c (by simp [hmem]), rfl⟩

/-- A stretch fails to be decoded exactly if it is a part of a UTF-8 text that is not empty and
starts or stops inside a character. -/
theorem decode?_stretch_eq_none_iff (hholds : ∀ c ∈ text.toList, encoding.Holds c)
    (hle : start ≤ stop) (hstop : stop ≤ (encoding.layout text.toList).length) :
    encoding.decode? (((encoding.layout text.toList).take stop).drop start) = none ↔
      encoding = utf8 ∧ ((encoding.layout text.toList).take stop).drop start ≠ [] ∧
        (encoding.CutsCharacter text.toList start ∨ encoding.CutsCharacter text.toList stop) := by
  constructor
  · intro hnone
    by_cases hcut :
        encoding.CutsCharacter text.toList start ∨ encoding.CutsCharacter text.toList stop
    · refine ⟨hcut.elim CutsCharacter.eq_utf8 CutsCharacter.eq_utf8, ?_, hcut⟩
      · intro hempty
        have hsome : encoding.decode? [] = some "" :=
          decode?_eq_some_iff.mpr (encode?_eq_some_iff.mpr ⟨by simp, rfl⟩)
        rw [hempty, hsome] at hnone
        cases hnone
    · rw [not_or] at hcut
      obtain ⟨_, _, _, _, _, hsome⟩ :=
        IsBoundary.decode?_between hholds
          ((isBoundary_or_cutsCharacter (by omega)).resolve_right hcut.1)
          ((isBoundary_or_cutsCharacter hstop).resolve_right hcut.2) hle
      rw [hsome] at hnone
      cases hnone
  · rintro ⟨_, hnonempty, hcut⟩
    have hlt : start < stop := by
      rcases Nat.lt_or_eq_of_le hle with hlt | rfl
      · exact hlt
      · exact absurd (List.drop_take_self ..) hnonempty
    cases hdecode : encoding.decode? (((encoding.layout text.toList).take stop).drop start) with
    | none => rfl
    | some result =>
      obtain ⟨hfirst, hlast⟩ := isBoundary_of_decode? hlt hstop hdecode
      exact absurd hcut (not_or.mpr ⟨hfirst.not_cutsCharacter, hlast.not_cutsCharacter⟩)

/-- A stretch that is decoded is decoded to a part of the text, which starts where the stretch does
unless it is empty. -/
theorem exists_of_decode?_stretch {result : String}
    (hholds : ∀ c ∈ text.toList, encoding.Holds c)
    (hle : start ≤ stop) (hstop : stop ≤ (encoding.layout text.toList).length)
    (hdecode : encoding.decode? (((encoding.layout text.toList).take stop).drop start) =
      some result) :
    ∃ before after, text = before ++ result ++ after ∧
      (result ≠ "" → (encoding.layout before.toList).length = start) := by
  rcases Nat.lt_or_eq_of_le hle with hlt | rfl
  · obtain ⟨hfirst, hlast⟩ := isBoundary_of_decode? hlt hstop hdecode
    obtain ⟨before, middle, after, htext, hbefore, hmiddle⟩ :=
      IsBoundary.decode?_between hholds hfirst hlast hle
    rw [hdecode, Option.some.injEq] at hmiddle
    refine ⟨String.ofList before, String.ofList after, ?_, fun _ => by simpa using hbefore⟩
    apply String.toList_injective
    simp [htext, hmiddle]
  · rw [List.drop_take_self, decode?_eq_some_iff, encode?_eq_some_iff] at hdecode
    have hempty : result = "" := String.toList_eq_nil_iff.mp (layout_eq_nil_iff.mp hdecode.2)
    exact ⟨"", text, by simp [hempty], fun hne => absurd hempty hne⟩

end

end JavaOutline.Text.Encoding
